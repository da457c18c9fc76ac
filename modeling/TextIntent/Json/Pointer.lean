import TextIntent.Json.Value

/-! Changing a JSON value at a place named by a pointer: a path of keys and array positions, each
after a slash, with `~1` for a slash and `~0` for a tilde within a key. -/
namespace TextIntent.Json

/-- The steps of a pointer. -/
def pointer? (s : String) : Option (List String) :=
  match s.splitOn "/" with
  | "" :: steps => some (steps.map fun step => (step.replace "~1" "/").replace "~0" "~")
  | _ => none

/-- Applies a change to the items of an array from a position on. -/
def editItem (change : Json → Option Json) : List Json → Nat → Option (List Json)
  | [], _ => none
  | v :: vs, 0 => do return (← change v) :: vs
  | v :: vs, n + 1 => do return v :: (← editItem change vs n)

/-- Applies a change to the member of a key. -/
def editMember (change : Json → Option Json) (key : String) :
    List (Option String × Json) → Option (List (Option String × Json))
  | [] => none
  | (k, v) :: ms => do
    if k = some key then return (k, ← change v) :: ms
    else return (k, v) :: (← editMember change key ms)

/-- Applies a change to the value at the end of the path. -/
def edit (change : Json → Option Json) : List String → Json → Option Json
  | [], v => change v
  | step :: path, .object ms => do return .object (← editMember (edit change path) step ms)
  | step :: path, .array vs => do
    return .array (← editItem (edit change path) vs (← step.toNat?))
  | _, _ => none

/-- Puts a value in the place of the one at the end of the path. -/
def replaceAt (path : List String) (value : Json) (v : Json) : Option Json :=
  edit (fun _ => some value) path v

/-- Appends a value to the array at the end of the path. -/
def appendAt (path : List String) (value : Json) (v : Json) : Option Json :=
  edit (fun | .array vs => some (.array (vs ++ [value])) | _ => none) path v

/-- Drops the member or item that the last step names. -/
def removeAt (path : List String) (v : Json) : Option Json :=
  match path.getLast? with
  | none => none
  | some step =>
    edit (fun
      | .object ms => some (.object (ms.filter (·.1 != some step)))
      | .array vs => step.toNat?.map fun n => .array (vs.eraseIdx n)
      | _ => none) path.dropLast v

end TextIntent.Json

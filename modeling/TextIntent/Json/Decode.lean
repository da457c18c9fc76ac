import TextIntent.Json.Value

/-! Taking JSON values apart. A record may be an object with named members or an array of its fields
in order, and a choice is a name, alone or as the only key of an object. -/
namespace TextIntent.Json

def string? : Json → Option String
  | .string s => s
  | _ => none

def items? : Json → Option (List Json)
  | .array items => some items
  | _ => none

/-- An array whose items all have the given form. -/
def list? {β : Type} (item? : Json → Option β) (v : Json) : Option (List β) := do
  (← v.items?).mapM item?

def texts? : Json → Option (List String) := list? string?

/-- A natural number below the limit, written as an integer. -/
def natBelow? (limit : Nat) : Json → Option Nat
  | .number n => n.toNat?.filter (· < limit)
  | _ => none

/-- Any number that is not too large for a double. -/
def double? : Json → Option Float
  | .number n => n.toDouble?
  | _ => none

/-- The fields of these names, each with its value if it is there. Members of other names are passed
over; a key that is no text and a field given twice are faults. An array has to hold every
field. -/
def fields? (names : List String) : Json → Option (List (Option Json))
  | .array items => if items.length = names.length then some (items.map some) else none
  | .object members => do
    let members ← members.mapM fun (key, value) => key.map (·, value)
    guard (names.all fun name => (members.countP (·.1 == name)) ≤ 1)
    return names.map fun name => members.lookup name
  | _ => none

/-- The values of the fields of these names, all of which have to be there. -/
def record? (names : List String) (v : Json) : Option (List Json) := do
  (← v.fields? names).mapM id

/-- One of the named alternatives. -/
def choice? {β : Type} (named : List (String × β)) : Json → Option β
  | .string (some name) => named.lookup name
  | .object [(some name, .null)] => named.lookup name
  | _ => none

end TextIntent.Json

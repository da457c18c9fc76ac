import TextIntent.Event
import TextIntent.Numeric.Scalar
import TextIntent.Traced

/-! Values given once per category, and scores among them: totals, the leading category, confinement
to a range and scaling to a distribution. -/
namespace TextIntent

open Scalar

section Confine

variable {α : Type} [Scalar α]

/-- The nearest value between the bounds. An undefined value becomes the lower bound and an infinite
one the bound on its side, and both are reported. -/
def confine (lo hi x : α) : Traced (Event α) α :=
  if isNaN x then do
    Traced.report (.undefinedConfined lo)
    return lo
  else if !isFinite x then do
    let bound := if 0 < x then hi else lo
    Traced.report (.infiniteConfined bound)
    return bound
  else return clamp lo hi x

/-- Confinement between bounds that may be out of order; a finite value then has no place to go. -/
def confine? (lo hi x : α) : Traced (Event α) (Option α) :=
  if isFinite x ∧ ¬lo ≤ hi then return none
  else some <$> confine lo hi x

end Confine

/-- One value for each category. -/
@[ext] structure PerCategory (α : Type) where
  greeting : α
  help : α
  status : α
  navigation : α
  physics : α
  operator : α
  structural : α
  unknown : α
  deriving DecidableEq, Repr

/-- A score for each category. -/
abbrev Scores (α : Type) := PerCategory α

namespace PerCategory

variable {α β : Type}

def get (s : PerCategory α) : Category → α
  | .greeting => s.greeting
  | .help => s.help
  | .status => s.status
  | .navigation => s.navigation
  | .physics => s.physics
  | .operator => s.operator
  | .structural => s.structural
  | .unknown => s.unknown

def ofFn (f : Category → α) : PerCategory α :=
  ⟨f .greeting, f .help, f .status, f .navigation, f .physics, f .operator, f .structural,
    f .unknown⟩

@[simp] theorem get_ofFn (f : Category → α) (c : Category) : (ofFn f).get c = f c := by
  cases c <;> rfl

theorem ext_get {s t : PerCategory α} (h : ∀ c, s.get c = t.get c) : s = t :=
  PerCategory.ext (h .greeting) (h .help) (h .status) (h .navigation) (h .physics) (h .operator)
    (h .structural) (h .unknown)

/-- The same value for every category. -/
def const (x : α) : PerCategory α := ofFn fun _ => x

@[simp] theorem get_const (x : α) (c : Category) : (const x).get c = x := by simp [const]

def map (f : α → β) (s : PerCategory α) : PerCategory β := ofFn fun c => f (s.get c)

@[simp] theorem get_map (f : α → β) (s : PerCategory α) (c : Category) :
    (s.map f).get c = f (s.get c) := by simp [map]

/-- Changes the value of one category. -/
def modify (s : PerCategory α) (c : Category) (f : α → α) : PerCategory α :=
  ofFn fun d => if d = c then f (s.get d) else s.get d

@[simp] theorem get_modify (s : PerCategory α) (c d : Category) (f : α → α) :
    (s.modify c f).get d = if d = c then f (s.get d) else s.get d := by simp [modify]

/-- Two changes may change places if they may do so where they change the same value. -/
theorem modify_comm (s : PerCategory α) {c d : Category} {f g : α → α}
    (h : c = d → ∀ x, g (f x) = f (g x)) : (s.modify c f).modify d g = (s.modify d g).modify c f := by
  refine ext_get fun e => ?_
  simp only [get_modify]
  by_cases hc : e = c
  · by_cases hd : e = d
    · simp only [if_pos hc, if_pos hd]
      exact h (hc.symm.trans hd) _
    · simp only [if_pos hc, if_neg hd]
  · simp only [if_neg hc]

def set (s : PerCategory α) (c : Category) (x : α) : PerCategory α := s.modify c fun _ => x

/-- The values in category order. -/
def toList (s : PerCategory α) : List α := Category.all.map s.get

def ofList? : List α → Option (PerCategory α)
  | [a, b, c, d, e, f, g, h] => some ⟨a, b, c, d, e, f, g, h⟩
  | _ => none

@[simp] theorem ofList?_toList (s : PerCategory α) : ofList? s.toList = some s := rfl

variable [Scalar α]

def zero : Scores α := const 0

/-- Sum in category order. -/
def total (s : Scores α) : α := sum s.toList

/-- The category of the highest score, the first one of equals. -/
def leader (s : Scores α) : Category :=
  Category.all.foldl (fun best c => if s.get best < s.get c then c else best) .greeting

/-- Replaces negative and undefined scores by zero and infinite ones by the largest number. -/
def nonnegative (s : Scores α) : Traced (Event α) (Scores α) := do
  let confined (c : Category) := confine 0 maxFinite (s.get c)
  return ⟨← confined .greeting, ← confined .help, ← confined .status, ← confined .navigation,
    ← confined .physics, ← confined .operator, ← confined .structural, ← confined .unknown⟩

@[simp] theorem get_value_nonnegative (s : Scores α) (c : Category) :
    s.nonnegative.value.get c = (confine 0 maxFinite (s.get c)).value := by
  cases c <;> rfl

/-- Scores divided by their total, or everything on `unknown` if there is next to nothing to
divide. -/
def normalized (s : Scores α) : Scores α :=
  let total := s.total
  if !isFinite total ∨ total ≤ epsilon then zero.set .unknown 1
  else s.map (· / (total + epsilon))

end PerCategory
end TextIntent

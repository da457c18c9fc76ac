/-! The three channels that read a heated signature, and values given once per channel. -/
namespace TextIntent

/-- A style of reading: `conservative` needs a strong signal, `liberal` only a weak one. -/
inductive Channel where
  | conservative
  | balanced
  | liberal
  deriving DecidableEq, Repr, Inhabited

namespace Channel

def all : List Channel := [conservative, balanced, liberal]

theorem mem_all (c : Channel) : c ∈ all := by cases c <;> decide

def name : Channel → String
  | conservative => "conservative"
  | balanced => "balanced"
  | liberal => "liberal"

def named : List (String × Channel) := all.map fun c => (c.name, c)

end Channel

/-- One value for each channel. -/
@[ext] structure PerChannel (β : Type) where
  conservative : β
  balanced : β
  liberal : β
  deriving DecidableEq, Repr

namespace PerChannel

variable {β γ : Type}

def get (p : PerChannel β) : Channel → β
  | .conservative => p.conservative
  | .balanced => p.balanced
  | .liberal => p.liberal

def ofFn (f : Channel → β) : PerChannel β := ⟨f .conservative, f .balanced, f .liberal⟩

def map (f : β → γ) (p : PerChannel β) : PerChannel γ := ofFn fun c => f (p.get c)

def set (p : PerChannel β) (c : Channel) (x : β) : PerChannel β :=
  ofFn fun d => if d = c then x else p.get d

/-- The values in channel order. -/
def toList (p : PerChannel β) : List β := [p.conservative, p.balanced, p.liberal]

def ofList? : List β → Option (PerChannel β)
  | [a, b, c] => some ⟨a, b, c⟩
  | _ => none

@[simp] theorem get_ofFn (f : Channel → β) (c : Channel) : (ofFn f).get c = f c := by
  cases c <;> rfl

@[simp] theorem get_map (f : β → γ) (p : PerChannel β) (c : Channel) :
    (p.map f).get c = f (p.get c) := by simp [map]

@[simp] theorem get_set (p : PerChannel β) (c d : Channel) (x : β) :
    (p.set c x).get d = if d = c then x else p.get d := by simp [set]

theorem ext_get {p q : PerChannel β} (h : ∀ c, p.get c = q.get c) : p = q :=
  PerChannel.ext (h .conservative) (h .balanced) (h .liberal)

@[simp] theorem ofList?_toList (p : PerChannel β) : ofList? p.toList = some p := rfl

end PerChannel
end TextIntent

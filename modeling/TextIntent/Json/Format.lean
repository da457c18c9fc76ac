import TextIntent.Decimal.Style
import TextIntent.Json.Decode
import TextIntent.Scores
import TextIntent.SlotVector

/-! How values are written as JSON and read back. A `Format` holds both directions, and the formats
of larger values are put together from those of their parts. -/
namespace TextIntent

structure Format (β : Type) where
  encode : β → Json
  decode : Json → Option β

namespace Format

variable {β : Type}

/-- Reading what was written gives the value back. -/
def Restores (f : Format β) (x : β) : Prop := f.decode (f.encode x) = some x

def text : Format String := ⟨Json.text, Json.string?⟩

theorem restores_text (s : String) : text.Restores s := rfl

/-- Finite doubles, by their shortest digits; the others are written as `null`, which is not read
back. -/
def double : Format Float where
  encode x := ((Decimal.pointed.numeral? x).map Json.number).getD .null
  decode := Json.double?

/-- Natural numbers of 64 bits. -/
def nat64 : Format Nat := ⟨Json.nat, Json.natBelow? UInt64.size⟩

theorem restores_nat64 {n : Nat} (h : n < UInt64.size) : nat64.Restores n := by
  simpa [Restores, nat64, Json.nat, Json.natBelow?, Option.filter] using h

def word64 : Format UInt64 where
  encode n := nat64.encode n.toNat
  decode v := (nat64.decode v).map UInt64.ofNat

theorem restores_word64 (n : UInt64) : word64.Restores n := by
  have h : nat64.decode (nat64.encode n.toNat) = some n.toNat := restores_nat64 n.toNat_lt
  simp [Restores, word64, h]

/-- One of some named values. -/
def choice (name : β → String) (named : List (String × β)) : Format β :=
  ⟨fun x => Json.text (name x), Json.choice? named⟩

def list (item : Format β) : Format (List β) :=
  ⟨fun xs => .array (xs.map item.encode), Json.list? item.decode⟩

/-- Arrays of just as many items as the container has places. -/
def places {γ : Type} (item : Format β) (toList : γ → List β) (ofList? : List β → Option γ) :
    Format γ where
  encode x := item.list.encode (toList x)
  decode v := do ofList? (← item.list.decode v)

def slotVector (item : Format β) : Format (SlotVector β) :=
  item.places Vector.toList SlotVector.ofList?

def perChannel (item : Format β) : Format (PerChannel β) :=
  item.places PerChannel.toList PerChannel.ofList?

def perCategory (item : Format β) : Format (PerCategory β) :=
  item.places PerCategory.toList PerCategory.ofList?

def category : Format Category := choice Category.name Category.named

def channel : Format Channel := choice Channel.name Channel.named

def rule : Format Rule := choice Rule.name Rule.named

end Format
end TextIntent

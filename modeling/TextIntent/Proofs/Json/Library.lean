import TextIntent.Json.Library
import TextIntent.Proofs.Json.Format
import TextIntent.Proofs.Json.RoundTrip

/-! What is expected of a JSON library, about the documents that a serializer hands to it: `Faithful`
holds of the standard library, and a format all of whose documents are `Written` is read back from
text as it is from documents. -/
namespace TextIntent

namespace Json.Library

/-- The documents that a serializer of texts, integers, doubles, lists and records produces, nested at
most so deep. -/
inductive Written (lib : Library) : Nat → Json → Prop
  | text {n : Nat} (s : String) : Written lib n (.text s)
  | nat {n k : Nat} (h : k < UInt64.size) : Written lib n (.nat k)
  | double {n : Nat} (x : Float) : Written lib n (lib.double.encode x)
  | array {n : Nat} {items : List Json} (h : ∀ v ∈ items, Written lib n v) :
    Written lib (n + 1) (.array items)
  | record {n : Nat} {fields : List (String × Json)} (h : ∀ p ∈ fields, Written lib n p.2) :
    Written lib (n + 1) (.record fields)

/-- What is expected of a library. Finite doubles come out of a document as they went in, the others are
written as `null`, and `null` is no double. Documents come back from their text, unless they are
nested more than 127 deep. -/
structure Faithful (lib : Library) : Prop where
  double_restored : ∀ x : Float, x.isFinite = true → lib.double.Restores x
  double_of_not_isFinite : ∀ x : Float, ¬x.isFinite = true → lib.double.encode x = .null
  double_null : lib.double.decode .null = none
  parse?_write : ∀ v, lib.Written 127 v → lib.parse? (lib.write v) = some v

theorem faithful_standard : standard.Faithful where
  double_restored x hx := Format.exact_double.restores hx
  double_of_not_isFinite x hx := by
    change ((Decimal.pointed.numeral? x).map Json.number).getD .null = .null
    rw [Decimal.pointed.numeral?_of_not_isFinite hx]
    rfl
  double_null := rfl
  parse?_write v _ := Json.parse?_write v

variable {lib : Library}

/-- Just the finite doubles are taken out of a document as they were put into it. -/
theorem Faithful.exact_double (h : lib.Faithful) :
    lib.double.Exact fun x => x.isFinite = true := by
  intro x y
  by_cases hx : x.isFinite = true
  · rw [show lib.double.decode (lib.double.encode x) = some x from h.double_restored x hx]
    simp [hx]
  · rw [h.double_of_not_isFinite x hx, h.double_null]
    simp [hx]

end Json.Library

namespace Format

variable {β γ : Type} {f : Format β} {lib : Json.Library} {n : Nat}

/-- All values are written as documents of the library, nested at most so deep. -/
def WrittenBy (f : Format β) (lib : Json.Library) (n : Nat) : Prop :=
  ∀ x, lib.Written n (f.encode x)

theorem writtenBy_text : text.WrittenBy lib n := fun s => .text s

theorem writtenBy_word64 : word64.WrittenBy lib n := fun x => .nat x.toNat_lt

theorem writtenBy_double : lib.double.WrittenBy lib n := fun x => .double x

theorem writtenBy_choice (name : β → String) (named : List (String × β)) :
    (choice name named).WrittenBy lib n := fun x => .text (name x)

theorem WrittenBy.list (h : f.WrittenBy lib n) : f.list.WrittenBy lib (n + 1) := by
  refine fun xs => .array fun v hv => ?_
  obtain ⟨x, -, rfl⟩ := List.mem_map.mp hv
  exact h x

theorem WrittenBy.places (h : f.WrittenBy lib n) {toList : γ → List β}
    {ofList? : List β → Option γ} : (f.places toList ofList?).WrittenBy lib (n + 1) :=
  fun c => h.list (toList c)

/-- A format that writes a record writes all its fields. -/
theorem writtenBy_record {fields : β → List (String × Json)} (he : ∀ x, f.encode x = .record (fields x))
    (h : ∀ x, ∀ p ∈ fields x, lib.Written n p.2) : f.WrittenBy lib (n + 1) := by
  intro x
  rw [he]
  exact .record (h x)

/-- From text a value is read as from the document that was written. -/
theorem WrittenBy.read?_print (hf : f.WrittenBy lib 127) (h : lib.Faithful) (x : β) :
    lib.read? f (lib.print f x) = f.decode (f.encode x) := by
  unfold Json.Library.read? Json.Library.print
  rw [h.parse?_write _ (hf x)]
  rfl

end Format
end TextIntent

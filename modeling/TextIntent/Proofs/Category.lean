import TextIntent.Fault
import TextIntent.Proofs.Text.Spelling

/-! The texts that name a category. Whatever else Unicode has of letters, marks and spaces, a text is read as a
category only if it spells the name in letters of either case, with blanks around it or none. -/
namespace TextIntent.Category

open Text

theorem isLower_name (c : Category) : ∀ l ∈ c.name.toList, l.isLower = true := by
  cases c <;> simp [name]

theorem find?_name (c : Category) : all.find? (·.name == c.name) = some c := by
  cases c <;> rfl

/-- The text is the name of the category, each letter in one of its forms, with any blanks around it. -/
def NamedBy (c : Category) (s : String) : Prop :=
  ∃ front core back, s.toList = front ++ core ++ back ∧ (∀ x ∈ front, isBlank x = true) ∧
    (∀ x ∈ back, isBlank x = true) ∧ Spells core c.name.toList

theorem namedBy_iff {c : Category} {s : String} :
    c.NamedBy s ↔ Spells (trim s).toList c.name.toList := by
  constructor
  · rintro ⟨front, core, back, hs, hfront, hback, hspells⟩
    rwa [toList_trim_eq hs hfront hback (isBlank_of_spells c.isLower_name hspells)]
  · intro h
    obtain ⟨front, back, hs, hfront, hback⟩ := exists_trim s
    exact ⟨front, _, back, hs, hfront, hback, h⟩

theorem parse?_eq_some_iff {s : String} {c : Category} : parse? s = some c ↔ c.NamedBy s := by
  have hfind : parse? s = some c ↔ lower (trim s) = c.name := by
    unfold parse?
    constructor
    · intro h
      have hname := List.find?_some h
      exact (eq_of_beq hname).symm
    · intro h
      rw [h]
      exact c.find?_name
  rw [hfind, namedBy_iff, ← lowerFrom_eq_iff c.isLower_name [], ← String.toList_inj, toList_lower]
  rfl

/-- A text is read as a category exactly if it is named by it. Every other text is turned down, and the fault holds
the text as it was given. -/
theorem parse_cases {α : Type} (s : String) :
    (∀ c, (parse s : Except (Fault α) Category) = .ok c ↔ c.NamedBy s) ∧
      ∀ fault : Fault α, parse s = .error fault ↔
        (∀ c : Category, ¬c.NamedBy s) ∧ fault = .unknownCategory s := by
  simp only [← parse?_eq_some_iff]
  unfold parse
  cases h : parse? s with
  | none => simp [eq_comm]
  | some c => simp

example : parse? "\u3000un\u212aNOWN\n" = some .unknown := by decide

end TextIntent.Category

import TextIntent.Proofs.Text.Visible

/-! Words that a text spells in letters of either case. Lower-casing a text gives a word of the letters from `a` to
`z` exactly if the text spells the word, letter by letter. A single character from outside the basic alphabet can
take part, the Kelvin sign, which is lower-cased to the letter k. Blanks take no part, so a word that stands
between blanks is what trimming leaves. -/
namespace TextIntent.Text

/-- The small letter itself, its capital, or the Kelvin sign in place of a k. -/
def IsFormOf (c letter : Char) : Prop :=
  c = letter ∨ c = letter.toUpper ∨ (c = '\u212a' ∧ letter = 'k')
  deriving Decidable

/-- The text is the word with each letter in one of its forms. -/
def Spells (text word : List Char) : Prop := List.Forall₂ IsFormOf text word

section Letters

variable {c letter : Char}

/-- Among the basic characters a small letter comes from itself and its capital. -/
theorem toLower_eq_iff (h : letter.isLower = true) :
    c.toLower = letter ↔ c = letter ∨ c = letter.toUpper := by
  have hletter : letter.toLower = letter :=
    Char.toLower_eq_of_not_isUpper (Char.not_isUpper_of_isLower h)
  constructor
  · rintro rfl
    by_cases hc : c.isUpper = true
    · right
      rw [Char.toUpper_toLower_eq_toUpper,
        Char.toUpper_eq_of_not_isLower (Char.not_isLower_of_isUpper hc)]
    · left
      exact (Char.toLower_eq_of_not_isUpper hc).symm
  · rintro (rfl | rfl)
    · exact hletter
    · rw [Char.toLower_toUpper_eq_toLower, hletter]

/-- From outside the basic characters no run leads to one of them, but for the Kelvin sign. -/
theorem lowerRuns_basic : (lowerRuns.all fun r => Nat.blt r.last 0x80 ||
    r == ⟨0x212a, 0x212a, 1, -8383⟩ || Nat.ble 0x80 (r.image r.first)) = true := by
  decide +kernel

theorem eq_kelvin_of_lowerCodePoint (hc : ¬c.toNat < 0x80) (h : lowerCodePoint c.toNat < 0x80) :
    c = '\u212a' := by
  rcases lowerCodePoint_cases c.toNat with ⟨hkept, -⟩ | ⟨r, hr, hn, hled⟩
  · rw [hkept] at h
    exact absurd h hc
  · obtain ⟨⟨hfirst, hlast⟩, -⟩ := LowerRun.mem_iff.mp hn
    rw [hled] at h
    have hbasic := List.all_eq_true.mp lowerRuns_basic r hr
    simp only [Bool.or_eq_true, Nat.blt_eq, Nat.ble_eq, beq_iff_eq] at hbasic
    rcases hbasic with (hlow | rfl) | hhigh
    · omega
    · rw [← Char.ofNat_toNat c, Nat.le_antisymm hlast hfirst]
    · unfold LowerRun.image at h hhigh
      omega

/-- Only the forms of a letter are lower-cased to it. -/
theorem lowerChar_eq_iff (h : letter.isLower = true) : lowerChar c = [letter] ↔ IsFormOf c letter := by
  have hletter := toNat_of_isLower h
  by_cases hc : c.toNat < 0x80
  · have hkelvin : c ≠ '\u212a' := by
      rintro rfl
      exact absurd hc (by decide)
    rw [lowerChar, if_pos hc, List.cons.injEq, and_iff_left rfl, toLower_eq_iff h, IsFormOf]
    simp [hkelvin]
  · have hplain : ¬(c = letter ∨ c = letter.toUpper) := by
      have hupper : ¬c.isUpper = true := fun hu => by
        have hbounds := toNat_of_isUpper hu
        omega
      rw [← toLower_eq_iff h, Char.toLower_eq_of_not_isUpper hupper]
      rintro rfl
      omega
    rw [IsFormOf, ← or_assoc, or_iff_right hplain]
    constructor
    · intro hlower
      rw [lowerChar, if_neg hc] at hlower
      by_cases hdotted : c = 'İ'
      · rw [if_pos hdotted] at hlower
        cases hlower
      · rw [if_neg hdotted, List.cons.injEq, and_iff_left rfl] at hlower
        -- a code point that is not valid would give the null character, which is no letter
        rw [← hlower, Char.toNat_ofNat] at hletter
        have hbasic : lowerCodePoint c.toNat < 0x80 := by
          split at hletter <;> omega
        obtain rfl := eq_kelvin_of_lowerCodePoint hc hbasic
        exact ⟨rfl, hlower ▸ by decide⟩
    · rintro ⟨rfl, rfl⟩
      decide

end Letters

section Words

variable {c letter : Char} {cs word : List Char}

/-- One character becomes one, or two if it is the dotted capital. -/
theorem lowerChar_cases (c : Char) : lowerChar c = ['i', '\u0307'] ∨ ∃ d, lowerChar c = [d] := by
  unfold lowerChar
  split
  · exact .inr ⟨_, rfl⟩
  · split
    · exact .inl rfl
    · exact .inr ⟨_, rfl⟩

/-- The next letter of a word comes from one of its forms. -/
theorem lowerFrom_cons_eq_iff (hl : letter.isLower = true) (hw : ∀ l ∈ word, l.isLower = true)
    (before : List Char) : lowerFrom before (c :: cs) = letter :: word ↔
      IsFormOf c letter ∧ lowerFrom (c :: before) cs = word := by
  rw [← lowerChar_eq_iff hl]
  by_cases hsigma : c = 'Σ'
  · -- no small sigma is a letter of a word
    have hnot (sigma : Char) (hs : sigma = 'ς' ∨ sigma = 'σ') : sigma ≠ letter := by
      rintro rfl
      rcases hs with rfl | rfl <;> exact absurd hl (by decide)
    subst hsigma
    refine iff_of_false (fun h => ?_) (fun h => ?_)
    · have hhead : (if isFinal before cs then 'ς' else 'σ') = letter := (List.cons.inj h).1
      exact hnot _ (by split <;> simp) hhead
    · have hsmall : lowerChar 'Σ' = ['σ'] := by decide
      exact hnot 'σ' (.inr rfl) (List.cons.inj (hsmall.symm.trans h.1)).1
  · have hcons : lowerFrom before (c :: cs) = lowerChar c ++ lowerFrom (c :: before) cs := by
      simp [lowerFrom, hsigma]
    rw [hcons]
    rcases lowerChar_cases c with hdotted | ⟨d, hd⟩
    · -- nor is the dot that a dotted capital leaves behind
      rw [hdotted]
      refine iff_of_false (fun h => ?_) (fun h => ?_)
      · obtain ⟨-, hdot⟩ := List.cons.inj h
        exact absurd (hw '\u0307' (hdot ▸ List.mem_cons_self)) (by decide)
      · cases h.1
    · rw [hd, List.singleton_append, List.cons.injEq, List.cons.injEq, and_iff_left rfl]

/-- A word of small letters is what a text is lower-cased to if the text spells it, and only then. -/
theorem lowerFrom_eq_iff (h : ∀ l ∈ word, l.isLower = true) (before : List Char) :
    lowerFrom before cs = word ↔ Spells cs word := by
  induction cs generalizing before word with
  | nil =>
    rw [Spells, List.forall₂_nil_left_iff]
    exact eq_comm
  | cons c cs ih =>
    cases word with
    | nil =>
      refine iff_of_false (fun hnil => ?_) (fun hspells => by cases hspells)
      rcases lowerFrom_cons_cases before c cs with ⟨-, hcons⟩ | ⟨-, d, -, hcons⟩ <;>
        exact List.cons_ne_nil _ _ (hcons.symm.trans hnil)
    | cons letter word =>
      rw [List.forall_mem_cons] at h
      rw [lowerFrom_cons_eq_iff h.1 h.2, ih h.2]
      exact List.forall₂_cons.symm

end Words

section Trimmed

theorem toList_trim (s : String) :
    (trim s).toList = (s.toList.dropWhile isBlank).rdropWhile isBlank := by
  rw [trim, String.toList_ofList]
  rfl

/-- Nothing but blanks is taken away at either end. -/
theorem exists_trim (s : String) : ∃ front back, s.toList = front ++ (trim s).toList ++ back ∧
    (∀ c ∈ front, isBlank c = true) ∧ ∀ c ∈ back, isBlank c = true := by
  refine ⟨s.toList.takeWhile isBlank, (s.toList.dropWhile isBlank).rtakeWhile isBlank, ?_,
    fun c hc => List.mem_takeWhile_imp hc, fun c hc => List.mem_rtakeWhile_imp hc⟩
  rw [toList_trim, List.append_assoc, List.rdropWhile_append_rtakeWhile,
    List.takeWhile_append_dropWhile]

/-- Text that holds no blank is what is left when it stands between blanks. -/
theorem toList_trim_eq {s : String} {front core back : List Char}
    (hs : s.toList = front ++ core ++ back) (hfront : ∀ c ∈ front, isBlank c = true)
    (hback : ∀ c ∈ back, isBlank c = true) (hcore : ∀ c ∈ core, isBlank c = false) :
    (trim s).toList = core := by
  have hright : (core ++ back).rdropWhile isBlank = core := by
    rw [List.rdropWhile, List.reverse_append,
      List.dropWhile_append_of_pos fun c hc => hback c (List.mem_reverse.mp hc)]
    change core.rdropWhile isBlank = core
    rw [List.rdropWhile_eq_self_iff]
    intro hne
    simp [hcore _ (List.getLast_mem hne)]
  rw [toList_trim, hs, List.append_assoc, List.dropWhile_append_of_pos hfront]
  cases core with
  | nil =>
    rw [List.nil_append] at hright ⊢
    rw [List.dropWhile_eq_nil_iff.mpr hback]
    rfl
  | cons c core =>
    rw [List.cons_append, List.dropWhile_cons_of_neg (by simp [hcore c]), ← List.cons_append]
    exact hright

/-- No form of a letter is blank. -/
theorem isBlank_of_isFormOf {c letter : Char} (hl : letter.isLower = true) (h : IsFormOf c letter) :
    isBlank c = false := by
  have halpha : letter.isAlpha = true := by rw [Char.isAlpha, hl, Bool.or_true]
  rcases h with rfl | rfl | ⟨rfl, -⟩
  · exact isBlank_of_isAlpha halpha
  · exact isBlank_of_isAlpha ((Char.isAlpha_toUpper_eq_isAlpha letter).trans halpha)
  · decide

theorem isBlank_of_spells {text word : List Char} (h : ∀ l ∈ word, l.isLower = true)
    (hs : Spells text word) : ∀ c ∈ text, isBlank c = false := by
  induction hs with
  | nil => simp
  | cons hform _ ih =>
    rw [List.forall_mem_cons] at h ⊢
    exact ⟨isBlank_of_isFormOf h.1 hform, ih h.2⟩

end Trimmed

end TextIntent.Text

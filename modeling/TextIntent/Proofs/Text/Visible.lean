import TextIntent.Proofs.Text.Lower

/-! Lower-casing and the characters of a text that are not blank. Every character becomes one that is blank
exactly if it was, except for the dotted capital, which becomes two. So a text in small letters has as many
visible characters as the text it comes from, and one more for every dotted capital. -/
namespace TextIntent.Text

/-- The stretches of code points between the blanks that hold letters. -/
def visibleStretches : List (Nat × Nat) :=
  [(0x21, 0x84), (0xa1, 0x167f), (0x1681, 0x1fff), (0x2060, 0x2fff), (0x3001, 0x10ffff)]

theorem isBlank_of_mem_stretch {c : Char} {s : Nat × Nat} (hs : s ∈ visibleStretches)
    (hfirst : s.1 ≤ c.toNat) (hlast : c.toNat ≤ s.2) : isBlank c = false := by
  rw [Bool.eq_false_iff]
  intro hblank
  obtain ⟨r, hr, hn⟩ := exists_of_inRanges hblank
  have hapart : r.2 < s.1 ∨ s.2 < r.1 := by
    clear hfirst hlast hn
    revert r
    revert s
    decide
  omega

/-- No run leads from a blank or to one. -/
theorem lowerRuns_visible : (lowerRuns.all fun r => r.leadsToChars &&
    (visibleStretches.any fun s => Nat.ble s.1 r.first && Nat.ble r.last s.2) &&
    visibleStretches.any fun s => Nat.ble s.1 (r.image r.first) && Nat.ble (r.image r.last) s.2) =
      true := by
  decide +kernel

theorem isBlank_lowerCodePoint (c : Char) :
    isBlank (Char.ofNat (lowerCodePoint c.toNat)) = isBlank c := by
  rcases lowerCodePoint_cases c.toNat with ⟨hkept, -⟩ | ⟨r, hr, hn, hled⟩
  · rw [hkept, Char.ofNat_toNat]
  · obtain ⟨⟨hfirst, hlast⟩, -⟩ := LowerRun.mem_iff.mp hn
    have hvisible := List.all_eq_true.mp lowerRuns_visible r hr
    simp only [Bool.and_eq_true, List.any_eq_true, Nat.ble_eq] at hvisible
    obtain ⟨⟨hchars, s, hs, hfrom, hto⟩, t, ht, hfrom', hto'⟩ := hvisible
    have hpos := (LowerRun.leadsToChars_iff.mp hchars).1
    have hc : isBlank c = false := isBlank_of_mem_stretch hs (by omega) (by omega)
    rw [hled, hc]
    refine isBlank_of_mem_stretch ht ?_ ?_ <;>
      rw [r.toNat_image hchars hn] <;> unfold LowerRun.image at * <;> omega

theorem isBlank_of_isAlpha {c : Char} (h : c.isAlpha = true) : isBlank c = false := by
  have hcode : (0x41 ≤ c.toNat ∧ c.toNat ≤ 0x5a) ∨ (0x61 ≤ c.toNat ∧ c.toNat ≤ 0x7a) := by
    rw [Char.isAlpha, Bool.or_eq_true] at h
    exact h.imp toNat_of_isUpper toNat_of_isLower
  exact isBlank_of_mem_stretch (s := (0x21, 0x84)) (by decide) (by omega) (by omega)

theorem isBlank_toLower (c : Char) : isBlank c.toLower = isBlank c := by
  by_cases h : c.isAlpha = true
  · rw [isBlank_of_isAlpha h, isBlank_of_isAlpha ((Char.isAlpha_toLower_eq_isAlpha c).trans h)]
  · have hu : ¬c.isUpper = true := fun hu => h (by rw [Char.isAlpha, hu, Bool.true_or])
    rw [Char.toLower_eq_of_not_isUpper hu]

/-- What lower-casing makes of the next character. -/
theorem lowerFrom_cons_cases (before : List Char) (c : Char) (cs : List Char) :
    (c = 'İ' ∧ lowerFrom before (c :: cs) = 'i' :: '\u0307' :: lowerFrom (c :: before) cs) ∨
      (c ≠ 'İ' ∧ ∃ d, isBlank d = isBlank c ∧
        lowerFrom before (c :: cs) = d :: lowerFrom (c :: before) cs) := by
  by_cases hdotted : c = 'İ'
  · subst hdotted
    exact Or.inl ⟨rfl, rfl⟩
  right
  refine ⟨hdotted, ?_⟩
  by_cases hsigma : c = 'Σ'
  · subst hsigma
    -- both small sigmas are visible, as the capital is
    refine ⟨if isFinal before cs then 'ς' else 'σ', ?_, rfl⟩
    split <;> decide
  by_cases hascii : c.toNat < 0x80
  · refine ⟨c.toLower, isBlank_toLower c, ?_⟩
    simp [lowerFrom, lowerChar, hsigma, hascii]
  · refine ⟨Char.ofNat (lowerCodePoint c.toNat), isBlank_lowerCodePoint c, ?_⟩
    simp [lowerFrom, lowerChar, hsigma, hascii, hdotted]

/-- Dotted capitals count twice. -/
theorem countP_visible_lowerFrom (before cs : List Char) :
    (lowerFrom before cs).countP (fun c => !isBlank c) =
      cs.countP (fun c => !isBlank c) + cs.count 'İ' := by
  induction cs generalizing before with
  | nil => rfl
  | cons c cs ih =>
    rcases lowerFrom_cons_cases before c cs with ⟨rfl, hcons⟩ | ⟨hdotted, d, hblank, hcons⟩
    · have hi : isBlank 'i' = false := by decide
      have hdot : isBlank '\u0307' = false := by decide
      have hcapital : isBlank 'İ' = false := by decide
      rw [hcons]
      simp only [List.countP_cons, List.count_cons_self, ih, hi, hdot, hcapital, Bool.not_false,
        if_true]
      omega
    · rw [hcons]
      simp only [List.countP_cons, List.count_cons_of_ne hdotted, ih, hblank]
      omega

/-- Copies of a visible character come from as many visible characters. -/
theorem count_lowerFrom_le {d : Char} (hd : isBlank d = false) (before cs : List Char) :
    (lowerFrom before cs).count d ≤ cs.countP (fun c => !isBlank c) := by
  induction cs generalizing before with
  | nil => simp [lowerFrom]
  | cons c cs ih =>
    have hrest := ih (c :: before)
    rcases lowerFrom_cons_cases before c cs with ⟨rfl, hcons⟩ | ⟨-, e, hblank, hcons⟩
    · have hcapital : isBlank 'İ' = false := by decide
      have hpair : ['i', '\u0307'].count d ≤ 1 := by
        by_cases hi : d = 'i'
        · subst hi
          decide
        · rw [List.count_cons_of_ne (Ne.symm hi)]
          exact List.count_le_length
      have happend : lowerFrom before ('İ' :: cs) =
          ['i', '\u0307'] ++ lowerFrom ('İ' :: before) cs := hcons
      rw [happend, List.count_append, List.countP_cons, hcapital]
      simp only [Bool.not_false, if_true]
      omega
    · rw [hcons, List.count_cons, List.countP_cons, ← hblank]
      by_cases he : e = d
      · subst he
        simp only [hd, beq_self_eq_true, Bool.not_false, if_true]
        omega
      · simp only [beq_eq_false_iff_ne.mpr he, Bool.false_eq_true, if_false]
        omega

theorem countP_visible_lower (s : String) : (lower s).toList.countP (fun c => !isBlank c) =
    s.toList.countP (fun c => !isBlank c) + s.toList.count 'İ' := by
  rw [toList_lower]
  exact countP_visible_lowerFrom [] s.toList

theorem count_lower_le {d : Char} (hd : isBlank d = false) (s : String) :
    (lower s).toList.count d ≤ s.toList.countP (fun c => !isBlank c) := by
  rw [toList_lower]
  exact count_lowerFrom_le hd [] s.toList

end TextIntent.Text

import Mathlib
import TextIntent.Text.Lower
import TextIntent.Text.Search

/-! What lower-casing leaves alone. A character that is small already is kept wherever it stands, and
lower-casing gives nothing but small characters. So the phrases that can be found in a text in small letters
are those that lower-casing does not change, and they are found there wherever the text itself has them. -/
namespace TextIntent.Text

/-- A character that lower-casing keeps in every context. -/
def IsSmall (c : Char) : Prop := c ≠ 'Σ' ∧ lowerChar c = [c]
  deriving Decidable

theorem lowerFrom_cons_of_isSmall {c : Char} (h : IsSmall c) (before cs : List Char) :
    lowerFrom before (c :: cs) = c :: lowerFrom (c :: before) cs := by
  simp [lowerFrom, h.1, h.2]

/-- Small text is kept, whatever stands on either side of it. -/
theorem lowerFrom_append_of_isSmall {word : List Char} (h : ∀ c ∈ word, IsSmall c)
    (before after : List Char) :
    lowerFrom before (word ++ after) = word ++ lowerFrom (word.reverse ++ before) after := by
  induction word generalizing before with
  | nil => rfl
  | cons c word ih =>
    rw [List.cons_append, lowerFrom_cons_of_isSmall (h c (by simp)),
      ih fun d hd => h d (by simp [hd])]
    simp

theorem lowerFrom_eq_self {cs : List Char} (h : ∀ c ∈ cs, IsSmall c) (before : List Char) :
    lowerFrom before cs = cs := by
  have happend := lowerFrom_append_of_isSmall h before []
  simpa [lowerFrom] using happend

/-- The end of a text is lower-cased as it is after the text in front of it. The front part is affected
by what follows, since a sigma looks ahead. -/
theorem exists_lowerFrom_append (before front rest : List Char) :
    ∃ front', lowerFrom before (front ++ rest) =
      front' ++ lowerFrom (front.reverse ++ before) rest := by
  induction front generalizing before with
  | nil => exact ⟨[], rfl⟩
  | cons c front ih =>
    obtain ⟨front', h⟩ := ih (c :: before)
    obtain ⟨mapped, hc⟩ : ∃ mapped, lowerFrom before (c :: (front ++ rest)) =
        mapped ++ lowerFrom (c :: before) (front ++ rest) := ⟨_, rfl⟩
    exact ⟨mapped ++ front', by rw [List.cons_append, hc, h]; simp⟩

/-- A small phrase of a text is a phrase of the text in small letters. -/
theorem infix_lowerFrom {word text : List Char} (h : ∀ c ∈ word, IsSmall c) (ht : word <:+: text)
    (before : List Char) : word <:+: lowerFrom before text := by
  obtain ⟨front, rest, rfl⟩ := ht
  rw [List.append_assoc]
  obtain ⟨front', hfront⟩ := exists_lowerFrom_append before front (word ++ rest)
  rw [hfront, lowerFrom_append_of_isSmall h]
  exact ⟨front', _, List.append_assoc _ _ _⟩

section Basic

variable {c : Char}

theorem toNat_of_isLower (h : c.isLower = true) : 0x61 ≤ c.toNat ∧ c.toNat ≤ 0x7a := by
  simpa [Char.isLower, UInt32.le_iff_toNat_le] using h

theorem toNat_of_isUpper (h : c.isUpper = true) : 0x41 ≤ c.toNat ∧ c.toNat ≤ 0x5a := by
  simpa [Char.isUpper, UInt32.le_iff_toNat_le] using h

theorem toNat_toLower_lt (hc : c.toNat < 0x80) : c.toLower.toNat < 0x80 := by
  by_cases hu : c.isUpper = true
  · have hcode := toNat_of_isUpper hu
    rw [Char.toLower_eq_of_isUpper hu, Char.toNat_ofNat]
    split <;> omega
  · rwa [Char.toLower_eq_of_not_isUpper hu]

theorem isSmall_toLower (hc : c.toNat < 0x80) : IsSmall c.toLower := by
  have hbasic := toNat_toLower_lt hc
  refine ⟨fun hsigma => ?_, ?_⟩
  · rw [hsigma] at hbasic
    exact absurd hbasic (by decide)
  · rw [lowerChar, if_pos hbasic, Char.toLower_toLower_eq_toLower]

end Basic

section Runs

namespace LowerRun

variable {r s : LowerRun} {n : Nat}

/-- Where a run leads to from a code point. -/
def image (r : LowerRun) (n : Nat) : Nat := (n + r.shift).toNat

/-- `r` leads to nothing that `s` leads on from: what it leads to is below or above the code points of `s`,
or between them, as with capital and small letters that take turns. -/
def misses (r s : LowerRun) : Bool :=
  Nat.blt (r.image r.last) s.first || Nat.blt s.last (r.image r.first) ||
    s.stride == 2 && (r.stride == 2 || r.first == r.last) && (r.image r.first + s.first) % 2 == 1

/-- A run leads to valid code points. -/
def leadsToChars (r : LowerRun) : Bool :=
  decide (0 ≤ r.first + r.shift) &&
    (Nat.blt (r.image r.last) 0xd800 ||
      Nat.blt 0xdfff (r.image r.first) && Nat.blt (r.image r.last) 0x110000)

theorem mem_iff : r.mem n = true ↔
    (r.first ≤ n ∧ n ≤ r.last) ∧ (n - r.first) % r.stride = 0 := by
  simp [mem]

theorem misses_iff : r.misses s = true ↔ r.image r.last < s.first ∨ s.last < r.image r.first ∨
    (s.stride = 2 ∧ (r.stride = 2 ∨ r.first = r.last)) ∧ (r.image r.first + s.first) % 2 = 1 := by
  simp [misses, or_assoc]

theorem leadsToChars_iff : r.leadsToChars = true ↔ 0 ≤ r.first + r.shift ∧
    (r.image r.last < 0xd800 ∨ 0xdfff < r.image r.first ∧ r.image r.last < 0x110000) := by
  simp [leadsToChars]

/-- What a run leads to is not led on by a run that it misses. -/
theorem mem_image_eq_false (hc : r.leadsToChars = true) (h : r.misses s = true)
    (hn : r.mem n = true) : s.mem (r.image n) = false := by
  obtain ⟨⟨hfirst, hlast⟩, hstride⟩ := mem_iff.mp hn
  rw [Bool.eq_false_iff]
  intro hs
  obtain ⟨⟨hfirst', hlast'⟩, hstride'⟩ := mem_iff.mp hs
  have hpos := (leadsToChars_iff.mp hc).1
  unfold image at hfirst' hlast' hstride'
  rcases misses_iff.mp h with h | h | ⟨⟨hs, hr⟩, hodd⟩
  · unfold image at h
    omega
  · unfold image at h
    omega
  · unfold image at hodd
    rw [hs] at hstride'
    rcases hr with hr | hr
    · rw [hr] at hstride
      omega
    · omega

theorem isValidChar_image (hc : r.leadsToChars = true) (hn : r.mem n = true) :
    (r.image n).isValidChar := by
  obtain ⟨⟨hfirst, hlast⟩, -⟩ := mem_iff.mp hn
  have hbounds := (leadsToChars_iff.mp hc).2
  unfold image at hbounds
  unfold Nat.isValidChar image
  omega

theorem toNat_image (hc : r.leadsToChars = true) (hn : r.mem n = true) :
    (Char.ofNat (r.image n)).toNat = r.image n := by
  rw [Char.ofNat, dif_pos (isValidChar_image hc hn)]
  rfl

end LowerRun

/-- The dotted capital, which is not mapped to one character, as a run. -/
def dottedRun : LowerRun := ⟨0x130, 0x130, 1, 0⟩

/-- No run leads into a run. -/
theorem lowerRuns_settled : (lowerRuns.all fun r => r.leadsToChars && r.misses dottedRun &&
    lowerRuns.all r.misses) = true := by
  decide +kernel

/-- A code point that no run holds is kept, and every other one is led on by a run that holds it. -/
theorem lowerCodePoint_cases (n : Nat) :
    (lowerCodePoint n = n ∧ ∀ r ∈ lowerRuns, r.mem n = false) ∨
      ∃ r ∈ lowerRuns, r.mem n = true ∧ lowerCodePoint n = r.image n := by
  unfold lowerCodePoint
  cases h : lowerRuns.find? (·.mem n) with
  | none => exact .inl ⟨rfl, by simpa using h⟩
  | some r => exact .inr ⟨r, List.mem_of_find?_eq_some h, by simpa using List.find?_some h, rfl⟩

/-- A character that no run leads on from is small. -/
theorem isSmall_of_not_mem {c : Char} (hd : c ≠ 'İ')
    (h : ∀ r ∈ lowerRuns, r.mem c.toNat = false) : IsSmall c := by
  have hkept : lowerCodePoint c.toNat = c.toNat := by
    rcases lowerCodePoint_cases c.toNat with ⟨hkept, -⟩ | ⟨r, hr, hn, -⟩
    · exact hkept
    · rw [h r hr] at hn
      exact Bool.noConfusion hn
  refine ⟨?_, ?_⟩
  · rintro rfl
    exact absurd (h ⟨0x3a3, 0x3ab, 1, 32⟩ (by decide)) (by decide)
  · rw [lowerChar]
    split
    · have hcapital : ¬c.isUpper = true := fun hu => by
        have hmem : LowerRun.mem ⟨0x41, 0x5a, 1, 32⟩ c.toNat = true :=
          LowerRun.mem_iff.mpr ⟨toNat_of_isUpper hu, Nat.mod_one _⟩
        rw [h ⟨0x41, 0x5a, 1, 32⟩ (by decide)] at hmem
        exact Bool.noConfusion hmem
      rw [Char.toLower_eq_of_not_isUpper hcapital]
    · rw [hkept, Char.ofNat_toNat]

theorem isSmall_lowerCodePoint {c : Char} (hd : c ≠ 'İ') :
    IsSmall (Char.ofNat (lowerCodePoint c.toNat)) := by
  rcases lowerCodePoint_cases c.toNat with ⟨hkept, hnone⟩ | ⟨r, hr, hn, hled⟩
  · rw [hkept, Char.ofNat_toNat]
    exact isSmall_of_not_mem hd hnone
  · have hsettled := List.all_eq_true.mp lowerRuns_settled r hr
    simp only [Bool.and_eq_true, List.all_eq_true] at hsettled
    obtain ⟨⟨hchars, hdotted⟩, hruns⟩ := hsettled
    have hchar := r.toNat_image hchars hn
    rw [hled]
    refine isSmall_of_not_mem ?_ fun s hs => ?_
    · intro hi
      have himage := r.mem_image_eq_false hchars hdotted hn
      rw [← hchar, hi] at himage
      exact absurd himage (by decide)
    · rw [hchar]
      exact r.mem_image_eq_false hchars (hruns s hs) hn

end Runs

theorem isSmall_of_mem_lowerChar {c d : Char} (hd : d ∈ lowerChar c) : IsSmall d := by
  unfold lowerChar at hd
  by_cases hascii : c.toNat < 0x80
  · obtain rfl : d = c.toLower := by simpa [hascii] using hd
    exact isSmall_toLower hascii
  · rw [if_neg hascii] at hd
    by_cases hdotted : c = 'İ'
    · have hcases : d = 'i' ∨ d = '\u0307' := by simpa [hdotted] using hd
      rcases hcases with rfl | rfl <;> decide
    · obtain rfl : d = Char.ofNat (lowerCodePoint c.toNat) := by simpa [hdotted] using hd
      exact isSmall_lowerCodePoint hdotted

/-- Every character of a text in small letters is small. -/
theorem isSmall_of_mem_lowerFrom {c : Char} {before cs : List Char} (h : c ∈ lowerFrom before cs) :
    IsSmall c := by
  induction cs generalizing before with
  | nil => simp [lowerFrom] at h
  | cons d cs ih =>
    rw [lowerFrom, List.mem_append] at h
    rcases h with h | h
    · split at h
      · have hsigma : c = 'ς' ∨ c = 'σ' := by
          split at h
          · exact .inl (by simpa using h)
          · exact .inr (by simpa using h)
        rcases hsigma with rfl | rfl <;> decide
      · exact isSmall_of_mem_lowerChar h
    · exact ih h

theorem lower_eq_self_iff {s : String} : lower s = s ↔ ∀ c ∈ s.toList, IsSmall c := by
  rw [← String.toList_inj, toList_lower]
  constructor
  · intro h c hc
    rw [← h] at hc
    exact isSmall_of_mem_lowerFrom hc
  · intro h
    exact lowerFrom_eq_self h []

/-- Lower-casing a second time changes nothing. -/
theorem lower_lower (s : String) : lower (lower s) = lower s := by
  rw [lower_eq_self_iff, toList_lower]
  exact fun c hc => isSmall_of_mem_lowerFrom hc

/-- A phrase in small letters is not lost when the text is lower-cased. -/
theorem occurs_lower {phrase text : String} (h : lower phrase = phrase)
    (ht : occurs phrase text = true) : occurs phrase (lower text) = true := by
  rw [occurs_iff] at ht ⊢
  rw [toList_lower]
  exact infix_lowerFrom (lower_eq_self_iff.mp h) ht []

/-- A phrase that is not in small letters is in no lower-cased text. -/
theorem occurs_lower_eq_false {phrase : String} (h : lower phrase ≠ phrase) (text : String) :
    occurs phrase (lower text) = false := by
  rw [Bool.eq_false_iff]
  intro ho
  rw [occurs_iff, toList_lower] at ho
  refine h (lower_eq_self_iff.mpr fun c hc => ?_)
  exact isSmall_of_mem_lowerFrom (ho.subset hc)

end TextIntent.Text

/-! Sets of characters as lists of code point ranges in increasing order. -/
namespace TextIntent.Text

/-- The code point lies in one of the ranges, both ends included. The search stops at the first
range past it. -/
def inRanges : List (Nat × Nat) → Nat → Bool
  | [], _ => false
  | (first, last) :: rest, n =>
    if n < first then false else if n ≤ last then true else inRanges rest n

/-- A code point that is found lies in a range of the list. -/
theorem exists_of_inRanges {rs : List (Nat × Nat)} {n : Nat} (h : inRanges rs n = true) :
    ∃ r ∈ rs, r.1 ≤ n ∧ n ≤ r.2 := by
  induction rs with
  | nil => simp [inRanges] at h
  | cons r rest ih =>
    obtain ⟨first, last⟩ := r
    by_cases h₁ : n < first
    · simp [inRanges, h₁] at h
    · by_cases h₂ : n ≤ last
      · exact ⟨(first, last), by simp, by simpa using h₁, h₂⟩
      · obtain ⟨r, hr, hn⟩ := ih (by simpa [inRanges, h₁, h₂] using h)
        exact ⟨r, List.mem_cons_of_mem _ hr, hn⟩

end TextIntent.Text

import TextIntent.Text.Search

/-! Words on their own. A text is cut at every character that is neither a letter nor a number, and a word is looked
for among the pieces. It is found exactly where it stands at the front of the text or after such a character and
runs up to the next one, or to the end. -/
namespace TextIntent.Text

variable {word text : List Char}

/-- The word follows a separator and runs up to the next one, or to the end. -/
def FollowsSeparator (word text : List Char) : Prop :=
  ∃ before separator after, text = before ++ separator :: after ∧ isAlphanumeric separator = false ∧
    word = after.takeWhile isAlphanumeric

/-- The word stands in the text as a word of its own. -/
def StandsIn (word text : List Char) : Prop :=
  word = text.takeWhile isAlphanumeric ∨ FollowsSeparator word text

theorem not_followsSeparator_nil : ¬FollowsSeparator word [] := by
  rintro ⟨before, separator, after, h, -⟩
  exact absurd h.symm (List.append_ne_nil_of_right_ne_nil before (List.cons_ne_nil separator after))

/-- The first character is the separator, or it stands before it. -/
theorem followsSeparator_cons {c : Char} {cs : List Char} : FollowsSeparator word (c :: cs) ↔
    (isAlphanumeric c = false ∧ word = cs.takeWhile isAlphanumeric) ∨ FollowsSeparator word cs := by
  constructor
  · rintro ⟨before, separator, after, h, hs, hw⟩
    rcases List.cons_eq_append_iff.mp h with ⟨-, h⟩ | ⟨rest, -, h⟩
    · obtain ⟨rfl, rfl⟩ := List.cons.inj h
      exact Or.inl ⟨hs, hw⟩
    · exact Or.inr ⟨rest, separator, after, h, hs, hw⟩
  · rintro (⟨hs, hw⟩ | ⟨before, separator, after, rfl, hs, hw⟩)
    · exact ⟨[], c, cs, rfl, hs, hw⟩
    · exact ⟨c :: before, separator, after, rfl, hs, hw⟩

theorem fst_runs (text : List Char) : (runs text).1 = text.takeWhile isAlphanumeric := by
  induction text with
  | nil => rfl
  | cons c cs ih => cases hc : isAlphanumeric c <;> simp [runs, hc, ih]

/-- Every run but the first follows a separator. -/
theorem mem_snd_runs : word ∈ (runs text).2 ↔ FollowsSeparator word text := by
  induction text with
  | nil => simp [runs, not_followsSeparator_nil]
  | cons c cs ih =>
    rw [followsSeparator_cons]
    cases hc : isAlphanumeric c with
    | true => simp [runs, hc, ih]
    | false => simp [runs, hc, ih, fst_runs]

/-- The search among the runs finds the words that stand in the text as words of their own. -/
theorem containsWord_iff {text word : String} :
    containsWord text word = true ↔ StandsIn word.toList text.toList := by
  simp only [containsWord, List.any_eq_true, List.mem_cons, beq_iff_eq, exists_eq_right, fst_runs,
    mem_snd_runs, StandsIn]

/-- The text is empty or ends with a separator. -/
def EndsApart (text : List Char) : Prop :=
  text = [] ∨ ∃ rest separator, text = rest ++ [separator] ∧ isAlphanumeric separator = false

/-- The text is empty or begins with a separator. -/
def BeginsApart (text : List Char) : Prop :=
  text = [] ∨ ∃ separator rest, text = separator :: rest ∧ isAlphanumeric separator = false

theorem takeWhile_of_beginsApart {after : List Char} (h : BeginsApart after) :
    after.takeWhile isAlphanumeric = [] := by
  obtain rfl | ⟨separator, rest, rfl, hs⟩ := h
  · rfl
  · simp [hs]

theorem beginsApart_dropWhile (text : List Char) : BeginsApart (text.dropWhile isAlphanumeric) := by
  induction text with
  | nil => exact Or.inl rfl
  | cons c cs ih =>
    cases hc : isAlphanumeric c with
    | true => simpa [hc] using ih
    | false => exact Or.inr ⟨c, cs, by simp [hc], hc⟩

/-- The run at the front of a text is made of letters and numbers, and what comes after it is kept apart. -/
theorem eq_takeWhile_iff : word = text.takeWhile isAlphanumeric ↔
    (∀ c ∈ word, isAlphanumeric c = true) ∧ ∃ after, text = word ++ after ∧ BeginsApart after := by
  constructor
  · rintro rfl
    exact ⟨List.all_eq_true.mp List.all_takeWhile, text.dropWhile isAlphanumeric,
      List.takeWhile_append_dropWhile.symm, beginsApart_dropWhile text⟩
  · rintro ⟨hw, after, rfl, hafter⟩
    rw [List.takeWhile_append_of_pos hw, takeWhile_of_beginsApart hafter, List.append_nil]

theorem followsSeparator_iff : FollowsSeparator word text ↔
    (∀ c ∈ word, isAlphanumeric c = true) ∧ ∃ before separator after,
      text = before ++ [separator] ++ word ++ after ∧ isAlphanumeric separator = false ∧
        BeginsApart after := by
  simp only [FollowsSeparator, eq_takeWhile_iff]
  constructor
  · rintro ⟨before, separator, _, rfl, hs, hw, after, rfl, hafter⟩
    exact ⟨hw, before, separator, after, by simp, hs, hafter⟩
  · rintro ⟨hw, before, separator, after, rfl, hs, hafter⟩
    exact ⟨before, separator, word ++ after, by simp, hs, hw, after, rfl, hafter⟩

/-- A word of its own is one that nothing joins on either side. -/
theorem standsIn_iff : StandsIn word text ↔
    (∀ c ∈ word, isAlphanumeric c = true) ∧ ∃ before after,
      text = before ++ word ++ after ∧ EndsApart before ∧ BeginsApart after := by
  rw [StandsIn, eq_takeWhile_iff, followsSeparator_iff, ← and_or_left]
  refine and_congr_right fun _ => ?_
  constructor
  · rintro (⟨after, rfl, hafter⟩ | ⟨rest, separator, after, rfl, hs, hafter⟩)
    · exact ⟨[], after, rfl, Or.inl rfl, hafter⟩
    · exact ⟨rest ++ [separator], after, rfl, Or.inr ⟨rest, separator, rfl, hs⟩, hafter⟩
  · rintro ⟨before, after, rfl, rfl | ⟨rest, separator, rfl, hs⟩, hafter⟩
    · exact Or.inl ⟨after, rfl, hafter⟩
    · exact Or.inr ⟨rest, separator, after, rfl, hs, hafter⟩

/-- A word is found in a text exactly if it has no separator in it and stands in the text with a separator, or
the end of the text, on either side. The empty word is no exception: it stands between two separators. -/
theorem containsWord_iff_apart (text word : String) : containsWord text word = true ↔
    (∀ c ∈ word.toList, isAlphanumeric c = true) ∧ ∃ before after : String,
      text = before ++ word ++ after ∧ EndsApart before.toList ∧ BeginsApart after.toList := by
  rw [containsWord_iff, standsIn_iff]
  refine and_congr_right fun _ => ?_
  constructor
  · rintro ⟨before, after, htext, hbefore, hafter⟩
    refine ⟨String.ofList before, String.ofList after, ?_, by simpa using hbefore, by simpa using hafter⟩
    apply String.toList_injective
    simpa using htext
  · rintro ⟨before, after, rfl, hbefore, hafter⟩
    exact ⟨before.toList, after.toList, by simp, hbefore, hafter⟩

end TextIntent.Text

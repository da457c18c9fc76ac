import TextIntent.Bridging
import TextIntent.Proofs.Config.Keywords
import TextIntent.Proofs.Evidence

/-! Which categories the words of a text speak for. A category scores as soon as one of its keywords
occurs and not without one. The other tables of an accepted configuration repeat keywords, so what is
found with them is found among the scores as well. -/
namespace TextIntent

open Scalar

namespace Evidence

section Counting

variable {α : Type} [Scalar α] {e : EvidenceSettings α} {lower : String}

/-- Counts the words of one list for a category. -/
def countWords (e : EvidenceSettings α) (lower : String) (c : Category) (words : List String)
    (scores : Scores α) : Scores α :=
  words.foldl (fun scores word =>
    if Text.occurs word lower then scores.modify c (countWord e word) else scores) scores

theorem countWords_cons (c : Category) (word : String) (words : List String)
    (scores : Scores α) : countWords e lower c (word :: words) scores = countWords e lower c words
      (if Text.occurs word lower then scores.modify c (countWord e word) else scores) := rfl

theorem wordHits_eq (e : EvidenceSettings α) (lower : String) :
    wordHits e lower = e.lexical.foldl
      (fun scores table => countWords e lower table.category table.words scores)
      PerCategory.zero := rfl

variable (valid positive : α → Prop)

/-- Where counting makes a valid score positive, and only counting does, the category scores for the
words that occur. -/
theorem countWords_spec (lower : String)
    (hcount : ∀ word x, valid x → valid (countWord e word x) ∧ positive (countWord e word x))
    (c : Category) (words : List String) {scores : Scores α} (hs : ∀ d, valid (scores.get d))
    (d : Category) :
    valid ((countWords e lower c words scores).get d) ∧
      (positive ((countWords e lower c words scores).get d) ↔
        positive (scores.get d) ∨ c = d ∧ Text.occursAny words lower = true) := by
  induction words generalizing scores with
  | nil => exact ⟨hs d, by simp [countWords, Text.occursAny]⟩
  | cons word words ih =>
    rw [countWords_cons]
    by_cases ho : Text.occurs word lower = true
    · -- the word is counted, for its own category alone
      rw [if_pos ho]
      have hs' (b : Category) : valid ((scores.modify c (countWord e word)).get b) := by
        rw [PerCategory.get_modify]
        split
        · exact (hcount word _ (hs b)).1
        · exact hs b
      obtain ⟨hv, hp⟩ := ih hs'
      refine ⟨hv, hp.trans ?_⟩
      rw [PerCategory.get_modify]
      by_cases hd : d = c
      · simp [hd, (hcount word _ (hs c)).2, Text.occursAny, ho]
      · simp [hd, Ne.symm hd]
    · rw [if_neg ho]
      obtain ⟨hv, hp⟩ := ih hs
      exact ⟨hv, hp.trans (by simp [Text.occursAny, ho])⟩

/-- A category has a positive score if one of its keywords occurs, and only then. -/
theorem positive_wordHits_iff (hzero : valid 0 ∧ ¬positive 0)
    (hcount : ∀ word x, valid x → valid (countWord e word x) ∧ positive (countWord e word x))
    (c : Category) : positive ((wordHits e lower).get c) ↔
      Text.occursAny (keywords e c) lower = true := by
  -- over the tables, from any scores with which the count may begin
  have hfold (tables : List CategoryWords) (scores : Scores α) (hs : ∀ d, valid (scores.get d)) :
      positive ((tables.foldl (fun scores table =>
          countWords e lower table.category table.words scores) scores).get c) ↔
        positive (scores.get c) ∨
          ∃ table ∈ tables, table.category = c ∧ Text.occursAny table.words lower = true := by
    induction tables generalizing scores with
    | nil => simp
    | cons table tables ih =>
      have hspec := countWords_spec valid positive lower hcount table.category table.words hs
      rw [List.foldl_cons, ih _ fun d => (hspec d).1, (hspec c).2]
      simp [or_assoc]
  rw [wordHits_eq, hfold _ _ fun d => by simpa [PerCategory.zero] using hzero.1]
  have hnone : ¬positive ((PerCategory.zero : Scores α).get c) := by
    simpa [PerCategory.zero] using hzero.2
  simp only [hnone, false_or, Text.occursAny_iff, mem_keywords]
  constructor
  · rintro ⟨table, ht, hc, w, hw, ho⟩
    exact ⟨w, ⟨table, ht, hc, hw⟩, ho⟩
  · rintro ⟨w, ⟨table, ht, hc, hw⟩, ho⟩
    exact ⟨table, ht, hc, w, hw, ho⟩

end Counting

open Binary64

variable {config : Config Float}

/-- Each keyword that occurs counts one at least. -/
theorem one_le_countWord (h : config.Accepted) (word : String) {score : Float} (hs : 0 ≤ score) :
    1 ≤ countWord config.evidence word score := by
  have hone := Binary64.zero_le_one
  have hle : 1 ≤ score + 1 := le_add_left hs hone
  unfold countWord
  split
  · exact Binary64.le_trans hle (le_add_right (zero_le_add hs hone) h.phraseBonus.2)
  · exact hle

theorem zero_lt_wordHits_iff (h : config.Accepted) (lower : String) (c : Category) :
    0 < (wordHits config.evidence lower).get c ↔
      Text.occursAny (keywords config.evidence c) lower = true := by
  refine positive_wordHits_iff (0 ≤ ·) (0 < ·) ?_ (fun word x hx => ?_) c
  · exact ⟨zero_le_zero, by simp [lt_iff]⟩
  · obtain ⟨hd, hd', hle⟩ := (le_iff _ _).mp (one_le_countWord h word hx)
    rw [value_one] at hle
    refine ⟨zero_le_countWord h word hx, (lt_iff _ _).mpr ⟨isNearest_zero.1, hd', ?_⟩⟩
    rw [value_zero]
    exact zero_lt_one.trans_le hle

end Evidence

namespace Config

open Evidence

variable {config : Config Float}

/-- The words of a slot are found where its category scores. -/
theorem occursAny_slotWords_iff (h : config.Accepted) (lower : String) {i : ℕ} {slot : Slot Float}
    {c : Category} (hs : config.features.slots[i]? = some slot)
    (hc : categoriesBySlot[i]? = some (some c)) :
    Text.occursAny slot.words lower = true ↔ 0 < (wordHits config.evidence lower).get c := by
  rw [zero_lt_wordHits_iff h, Text.occursAny_congr (h.mem_slotWords hs hc)]

/-- A telltale word lets its category score. -/
theorem zero_lt_wordHits_of_discriminative (h : config.Accepted) {lower : String}
    {table : CategoryWords} (ht : table ∈ config.suppression.discriminative) {word : String}
    (hw : word ∈ table.words) (ho : Text.occurs word lower = true) :
    0 < (wordHits config.evidence lower).get table.category := by
  rw [zero_lt_wordHits_iff h]
  exact Text.occursAny_iff.mpr ⟨word, h.mem_keywords_of_discriminative ht word hw, ho⟩

/-- The structural rule holds where its category scores, `physics` does not, and no operator symbol
occurs. -/
theorem holds_structuralVocabulary_iff (h : config.Accepted) (lower : String)
    (reference signature : SlotVector Float) (scores : Scores Float) :
    config.bridge.holds reference lower signature scores .structuralVocabulary = true ↔
      0 < (wordHits config.evidence lower).get .structural ∧
        ¬0 < (wordHits config.evidence lower).get .physics ∧
          Text.occursAny config.bridge.operatorSymbols lower = false := by
  rw [zero_lt_wordHits_iff h, zero_lt_wordHits_iff h,
    ← Text.occursAny_congr h.mem_structuralWords, ← Text.occursAny_congr h.mem_physicsCues]
  simp [BridgeSettings.holds, and_assoc]

theorem zero_lt_wordHits_of_operatorKeyword (h : config.Accepted) {lower : String}
    {reference signature : SlotVector Float} {scores : Scores Float}
    (ho : config.bridge.holds reference lower signature scores .operatorKeyword = true) :
    0 < (wordHits config.evidence lower).get .operator := by
  rw [zero_lt_wordHits_iff h]
  exact Text.occursAny_mono h.mem_keywords_of_operatorWords ho

/-- The word tables of an accepted configuration act as one on every text. -/
theorem wordTables_agree (h : config.Accepted) (lower : String) :
    let hits := wordHits config.evidence lower
    (∀ (i : ℕ) c, categoriesBySlot[i]? = some (some c) →
      ∃ slot, config.features.slots[i]? = some slot ∧
        (Text.occursAny slot.words lower = true ↔ 0 < hits.get c)) ∧
    (∀ table ∈ config.suppression.discriminative, ∀ word ∈ table.words,
      Text.occurs word lower = true →
        0 < table.words.countP (Text.occurs · lower) ∧ 0 < hits.get table.category) ∧
    ∀ reference signature scores,
      (config.bridge.holds reference lower signature scores .structuralVocabulary = true ↔
        0 < hits.get .structural ∧ ¬0 < hits.get .physics ∧
          Text.occursAny config.bridge.operatorSymbols lower = false) ∧
      (config.bridge.holds reference lower signature scores .operatorKeyword = true →
        0 < hits.get .operator) := by
  refine ⟨fun i c hc => ?_, fun table ht word hw ho => ?_, fun reference signature scores => ?_⟩
  · have hi : i < config.features.slots.length := by
      rw [h.length_slots]
      exact (List.getElem?_eq_some_iff.mp hc).1
    have hs := List.getElem?_eq_getElem hi
    exact ⟨_, hs, occursAny_slotWords_iff h lower hs hc⟩
  · exact ⟨List.countP_pos_iff.mpr ⟨word, hw, ho⟩, zero_lt_wordHits_of_discriminative h ht hw ho⟩
  · exact ⟨holds_structuralVocabulary_iff h lower reference signature scores,
      zero_lt_wordHits_of_operatorKeyword h⟩

/-- Two categories at once: a structural word and an operator word, which is a telltale word too. -/
theorem wordTables_agree_in_compose :
    let config : Config Float := Config.default
    let hits := wordHits config.evidence "compose a layer"
    config.Accepted ∧ 0 < hits.get .structural ∧ ¬0 < hits.get .physics ∧
      0 < hits.get .operator ∧
        ∃ slot, config.features.slots[6]? = some slot ∧
          Text.occursAny slot.words "compose a layer" = true := by
  obtain ⟨hslot, htelltale, hrules⟩ := wordTables_agree default_accepted "compose a layer"
  obtain ⟨hstructural, -⟩ := hrules SlotVector.zero SlotVector.zero PerCategory.zero
  obtain ⟨hs, hp, -⟩ := hstructural.mp (by decide +kernel)
  have ho := (htelltale ⟨.operator, ["eigen", "compose"]⟩ (by decide) "compose" (by decide)
    (by decide +kernel)).2
  obtain ⟨slot, hi, hiff⟩ := hslot 6 .operator rfl
  exact ⟨default_accepted, hs, hp, ho, slot, hi, hiff.mpr ho⟩

end Config
end TextIntent

import TextIntent.Config.Validation
import TextIntent.Evidence.Lexical

/-! The word tables of an accepted configuration. The lexical tables list the keywords of a category, and
every other table repeats all of them or some. So a search of a text for the words of one table says
something about a search for those of another, whatever the text is. -/
namespace TextIntent

namespace Text

theorem occursAny_iff {phrases : List String} {text : String} :
    occursAny phrases text = true ↔ ∃ w ∈ phrases, occurs w text = true := by
  simp [occursAny]

/-- More phrases are found more easily. -/
theorem occursAny_mono {xs ys : List String} (h : ∀ w ∈ xs, w ∈ ys) {text : String}
    (ho : occursAny xs text = true) : occursAny ys text = true := by
  obtain ⟨w, hw, ht⟩ := occursAny_iff.mp ho
  exact occursAny_iff.mpr ⟨w, h w hw, ht⟩

/-- Order and repetition of phrases do not count. -/
theorem occursAny_congr {xs ys : List String} (h : ∀ w, w ∈ xs ↔ w ∈ ys) (text : String) :
    occursAny xs text = occursAny ys text := by
  rw [Bool.eq_iff_iff]
  constructor
  · exact occursAny_mono fun w => (h w).mp
  · exact occursAny_mono fun w => (h w).mpr

end Text

variable {α : Type}

namespace Evidence

/-- The keywords of a category, from all of its lexical tables. -/
def keywords (e : EvidenceSettings α) (c : Category) : List String :=
  (e.lexical.filter (·.category == c)).flatMap (·.words)

theorem mem_keywords {e : EvidenceSettings α} {c : Category} {w : String} :
    w ∈ keywords e c ↔ ∃ table ∈ e.lexical, table.category = c ∧ w ∈ table.words := by
  simp [keywords, and_assoc]

/-- A keyword of any category is a word to decide by. -/
theorem hasWords_of_occursAny {e : EvidenceSettings α} {c : Category} {lower : String}
    (h : Text.occursAny (keywords e c) lower = true) : hasWords e lower = true := by
  obtain ⟨w, hw, ho⟩ := Text.occursAny_iff.mp h
  obtain ⟨table, ht, -, hwt⟩ := mem_keywords.mp hw
  exact List.any_eq_true.mpr ⟨table, ht, Text.occursAny_iff.mpr ⟨w, hwt, ho⟩⟩

/-- A search of all tables is one for the keywords of each category. -/
theorem hasWords_iff {e : EvidenceSettings α} {lower : String} :
    hasWords e lower = true ↔ ∃ c, Text.occursAny (keywords e c) lower = true := by
  refine ⟨fun h => ?_, fun ⟨c, hc⟩ => hasWords_of_occursAny hc⟩
  obtain ⟨table, ht, ho⟩ := List.any_eq_true.mp h
  obtain ⟨w, hw, ho⟩ := Text.occursAny_iff.mp ho
  exact ⟨table.category, Text.occursAny_iff.mpr ⟨w, mem_keywords.mpr ⟨table, ht, rfl, hw⟩, ho⟩⟩

end Evidence

namespace Config

open Evidence

variable {config : Config α} {words : List String} {c : Category}

theorem vocabularyOf_eq (config : Config α) (c : Category) :
    config.vocabularyOf c = vocabulary (keywords config.evidence c) := rfl

/-- Tables with the same vocabulary have the same words. -/
theorem mem_iff_of_sameWords (table : WordTable) (h : config.sameWords table words c = none)
    (w : String) :
    w ∈ words ↔ w ∈ keywords config.evidence c := by
  have he : vocabulary words = config.vocabularyOf c := by simpa [sameWords] using h
  rw [← mem_vocabulary, he, vocabularyOf_eq, mem_vocabulary]

theorem knownWords_eq_none_iff (table : WordTable) :
    config.knownWords table words c = none ↔ ∀ w ∈ words, w ∈ keywords config.evidence c := by
  simp [knownWords, vocabularyOf_eq, mem_vocabulary]

namespace Accepted

variable [Scalar α]

theorem vocabularyCheck (h : config.Accepted) {check : Option (ConfigFault α)}
    (hm : check ∈ config.vocabularyChecks) : check = none :=
  accepted_iff.mp h check (List.mem_append_right _ hm)

/-- There is a slot for each component of a signature. -/
theorem length_slots (h : config.Accepted) : config.features.slots.length = 10 := by
  have hc := accepted_iff.mp h
    (if config.features.slots.length = 10 then none
      else some (.slotCount 10 config.features.slots.length))
    (by simp [checks, featureChecks])
  simpa using hc

/-- The words of a slot are the keywords of its category. -/
theorem mem_slotWords (h : config.Accepted) {i : Nat} {slot : Slot α}
    (hs : config.features.slots[i]? = some slot) (hc : categoriesBySlot[i]? = some (some c))
    (w : String) : w ∈ slot.words ↔ w ∈ keywords config.evidence c := by
  have hm : (slot, some c) ∈ config.features.slots.zip categoriesBySlot := by
    refine List.mem_iff_getElem?.mpr ⟨i, ?_⟩
    simp [List.getElem?_zip_eq_some, hs, hc]
  refine mem_iff_of_sameWords (.slot c) (h.vocabularyCheck ?_) w
  refine List.mem_append_left _ (List.mem_append_left _ (List.mem_filterMap.mpr ?_))
  exact ⟨(slot, some c), hm, rfl⟩

theorem mem_structuralWords (h : config.Accepted) (w : String) :
    w ∈ config.bridge.structuralWords ↔ w ∈ keywords config.evidence .structural :=
  mem_iff_of_sameWords .structuralKeywords (h.vocabularyCheck (by simp [vocabularyChecks])) w

theorem mem_physicsCues (h : config.Accepted) (w : String) :
    w ∈ config.bridge.physicsCues ↔ w ∈ keywords config.evidence .physics :=
  mem_iff_of_sameWords .physicsCues (h.vocabularyCheck (by simp [vocabularyChecks])) w

theorem mem_keywords_of_operatorWords (h : config.Accepted) :
    ∀ w ∈ config.bridge.operatorWords, w ∈ keywords config.evidence .operator :=
  (knownWords_eq_none_iff .operatorKeywords).mp
    (h.vocabularyCheck (by simp [vocabularyChecks]))

/-- Telltale words are keywords of their category. -/
theorem mem_keywords_of_discriminative (h : config.Accepted) {t : CategoryWords}
    (ht : t ∈ config.suppression.discriminative) :
    ∀ w ∈ t.words, w ∈ keywords config.evidence t.category :=
  (knownWords_eq_none_iff (.discriminative t.category)).mp
    (h.vocabularyCheck (List.mem_append_right _ (List.mem_map_of_mem ht)))

end Accepted
end Config
end TextIntent

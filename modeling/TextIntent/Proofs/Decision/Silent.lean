import TextIntent.Proofs.Binary64.Spacing
import TextIntent.Proofs.Decision.Finite

/-! Texts that hold nothing to decide on: no word that is looked for, and too few visible characters.
They are all answered as the empty text is, and what has been learnt makes no difference to the
answer. -/
namespace TextIntent

open Scalar

namespace Config

/-- No word of a slot and no keyword occurs in the text, and it has fewer visible characters than a
signal without words needs. -/
structure Silent {α : Type} (config : Config α) (lower : String) : Prop where
  slots : ∀ slot ∈ config.features.slots, ∀ word ∈ slot.words, Text.occurs word lower = false
  keywords : ∀ table ∈ config.evidence.lexical, ∀ word ∈ table.words,
    Text.occurs word lower = false
  visible : lower.toList.countP (fun c => !Text.isBlank c) < config.features.minSignalChars.toNat

instance {α : Type} (config : Config α) (lower : String) : Decidable (config.Silent lower) :=
  decidable_of_iff
    ((∀ slot ∈ config.features.slots, ∀ word ∈ slot.words, Text.occurs word lower = false) ∧
      (∀ table ∈ config.evidence.lexical, ∀ word ∈ table.words,
        Text.occurs word lower = false) ∧
      lower.toList.countP (fun c => !Text.isBlank c) < config.features.minSignalChars.toNat)
    ⟨fun ⟨hs, hk, hv⟩ => ⟨hs, hk, hv⟩, fun h => ⟨h.slots, h.keywords, h.visible⟩⟩

/-- The confidence in `unknown` where there is no signal. -/
def noSignalConfidence {α : Type} [Scalar α] (config : Config α) : α :=
  (confine 0 1
    (config.noSignalScores.get .unknown / (config.noSignalScores.total + epsilon))).value

end Config

/-- What occurs in the empty text occurs in every text. -/
theorem Text.occurs_of_occurs_empty {word : String} (h : Text.occurs word "" = true)
    (text : String) : Text.occurs word text = true := by
  have hw : word.toList = [] := List.infix_nil.mp (Text.occurs_iff.mp h)
  rw [Text.occurs_iff, hw]
  exact List.nil_infix

theorem SlotVector.isZero_zero {α : Type} [Scalar α] (hzero : Scalar.isZero (0 : α) = true) :
    (SlotVector.zero : SlotVector α).isZero = true := by
  refine Vector.all_eq_true'.mpr fun x hx => ?_
  rw [(Vector.mem_replicate.mp hx).2, hzero]

namespace Config.Silent

variable {α : Type} {config : Config α} {lower other : String}

/-- A silent text shows that the empty text is silent. -/
theorem empty (h : config.Silent lower) : config.Silent "" := by
  have hmute (word : String) (ho : Text.occurs word lower = false) :
      Text.occurs word "" = false := by
    by_contra hn
    have := Text.occurs_of_occurs_empty (Bool.eq_true_of_not_eq_false hn) lower
    simp [ho] at this
  exact ⟨fun slot hs word hw => hmute word (h.slots slot hs word hw),
    fun table ht word hw => hmute word (h.keywords table ht word hw),
    (Nat.zero_le _).trans_lt h.visible⟩

theorem isVisible_eq_false (h : config.Silent lower) :
    Signature.isVisible config.features lower = false := by
  have hv := h.visible
  simp only [Signature.isVisible, decide_eq_false_iff_not, not_le]
  omega

theorem hasWords_eq_false (h : config.Silent lower) :
    Evidence.hasWords config.evidence lower = false := by
  simp only [Evidence.hasWords, Text.occursAny, List.any_eq_false, Bool.not_eq_true]
  exact h.keywords

variable [Scalar α]

theorem slotWeights_eq (h : config.Silent lower) :
    Signature.slotWeights config.features lower = SlotVector.zero := by
  refine Vector.ext fun i hi => ?_
  simp only [Signature.slotWeights, SlotVector.zero, Vector.getElem_ofFn, Vector.getElem_replicate]
  split
  · next slot hs =>
    rw [if_neg]
    simpa [Text.occursAny] using h.slots slot (List.mem_of_getElem? hs)
  · rfl

/-- No keyword is counted. -/
theorem wordHits_eq (h : config.Silent lower) :
    Evidence.wordHits config.evidence lower = PerCategory.zero := by
  refine List.foldlRecOn (motive := (· = PerCategory.zero)) _ _ rfl fun scores hs table ht => ?_
  refine List.foldlRecOn (motive := (· = PerCategory.zero)) _ _ hs fun scores hs word hw => ?_
  simp [h.keywords table ht word hw, hs]

/-- The lexical evidence of a silent text is that of all silent texts. -/
theorem lexical_eq (h : config.Silent lower) (h' : config.Silent other) :
    Evidence.lexical config.evidence lower = Evidence.lexical config.evidence other := by
  rw [Evidence.lexical, Evidence.lexical, h.wordHits_eq, h'.wordHits_eq]

section Zero

variable (hzero : Scalar.isZero (0 : α) = true)

include hzero

theorem ofLower_eq (h : config.Silent lower) :
    Signature.ofLower config.features lower = SlotVector.zero := by
  simp only [Signature.ofLower, h.slotWeights_eq, SlotVector.isZero_zero hzero,
    h.isVisible_eq_false, Bool.not_false, Bool.and_true, if_true]

theorem lacksSignal (h : config.Silent lower) :
    config.lacksSignal lower SlotVector.zero = true := by
  simp only [Config.lacksSignal, SlotVector.isZero_zero hzero, h.hasWords_eq_false,
    Bool.not_false, Bool.and_true]

/-- Neither masses nor fused scores are looked at. -/
theorem finalScores_eq (h : config.Silent lower) (mass fused : Scores α) :
    config.finalScores mass lower SlotVector.zero fused = pure (config.noSignalScores, none) := by
  rw [Config.finalScores, if_pos (h.lacksSignal hzero)]

/-- Silent texts are decided alike, in every state and with the same reports. -/
theorem decision_eq (h : config.Silent lower) (h' : config.Silent other) (matrix : SlotMatrix α)
    (gates : Gates α) (mass : Scores α) :
    config.decision matrix gates mass lower SlotVector.zero =
      config.decision matrix gates mass other SlotVector.zero := by
  simp only [Config.decision, Evidence.gather, h.lexical_eq h', h.finalScores_eq hzero,
    h'.finalScores_eq hzero]

theorem run_eq (h : config.Silent lower) (h' : config.Silent other) {cls : Classifier α}
    (hc : cls.config = config) :
    cls.run lower SlotVector.zero = cls.run other SlotVector.zero := by
  subst hc
  simp only [Classifier.run, h.decision_eq hzero h']

/-- The final scores of silent texts. -/
theorem decision_finalScores (h : config.Silent lower) (matrix : SlotMatrix α) (gates : Gates α)
    (mass : Scores α) :
    let d := (config.decision matrix gates mass lower SlotVector.zero).value
    d.finalScores = config.noSignalScores ∧ d.rule = none ∧
      d.category = config.noSignalScores.leader ∧
      d.confidence = (confine 0 1 (config.noSignalScores.get config.noSignalScores.leader /
        (config.noSignalScores.total + epsilon))).value := by
  simp only [Config.decision, h.finalScores_eq hzero, Traced.value_bind, Traced.value_pure,
    and_self]

end Zero

end Config.Silent
end TextIntent

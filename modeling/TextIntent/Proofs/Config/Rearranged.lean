import Mathlib
import TextIntent.Decision
import TextIntent.Proofs.Config.Keywords

/-! Configurations that differ in the order of their tables alone. Of most words it is only asked whether they
occur, so signatures, the conditions of the bridging rules and the lack of a signal do not see the order,
whatever numbers are computed with. -/
namespace TextIntent

variable {α : Type}

/-- The same slot with its words in another order. -/
structure Slot.Rearranged (s t : Slot α) : Prop where
  weight : s.weight = t.weight
  words : s.words.Perm t.words

/-- The same table with its words in another order. -/
structure CategoryWords.Rearranged (t u : CategoryWords) : Prop where
  category : t.category = u.category
  words : t.words.Perm u.words

/-- The same tables in another order, each with its words in another order. -/
def CategoryWords.AllRearranged (ts us : List CategoryWords) : Prop :=
  ∃ vs, ts.Perm vs ∧ List.Forall₂ CategoryWords.Rearranged vs us

structure FeatureSettings.Rearranged (f g : FeatureSettings α) : Prop where
  slots : List.Forall₂ Slot.Rearranged f.slots g.slots
  rest : { f with slots := g.slots } = g

structure EvidenceSettings.Rearranged (e f : EvidenceSettings α) : Prop where
  lexical : CategoryWords.AllRearranged e.lexical f.lexical
  symmetryRoutes : e.symmetryRoutes.Perm f.symmetryRoutes
  concentrationRoutes : e.concentrationRoutes.Perm f.concentrationRoutes
  uniformityRoutes : e.uniformityRoutes.Perm f.uniformityRoutes
  rest :
    { e with
      lexical := f.lexical
      symmetryRoutes := f.symmetryRoutes
      concentrationRoutes := f.concentrationRoutes
      uniformityRoutes := f.uniformityRoutes } = f

structure SuppressionSettings.Rearranged (s t : SuppressionSettings α) : Prop where
  discriminative : CategoryWords.AllRearranged s.discriminative t.discriminative
  rest : { s with discriminative := t.discriminative } = t

structure BridgeSettings.Rearranged (a b : BridgeSettings α) : Prop where
  structuralWords : a.structuralWords.Perm b.structuralWords
  physicsCues : a.physicsCues.Perm b.physicsCues
  operatorSymbols : a.operatorSymbols.Perm b.operatorSymbols
  operatorWords : a.operatorWords.Perm b.operatorWords
  structuralEffect : a.structuralEffect.Perm b.structuralEffect
  operatorEffect : a.operatorEffect.Perm b.operatorEffect
  domainEffect : a.domainEffect.Perm b.domainEffect
  rest :
    { a with
      structuralWords := b.structuralWords
      physicsCues := b.physicsCues
      operatorSymbols := b.operatorSymbols
      operatorWords := b.operatorWords
      structuralEffect := b.structuralEffect
      operatorEffect := b.operatorEffect
      domainEffect := b.domainEffect } = b

/-- The same settings but for the order of word lists, of the tables of words, of the routes of a shape feature
and of the adjustments of a bridging rule. -/
structure Config.Rearranged (c d : Config α) : Prop where
  features : c.features.Rearranged d.features
  channels : c.channels = d.channels
  evidence : c.evidence.Rearranged d.evidence
  suppression : c.suppression.Rearranged d.suppression
  bridge : c.bridge.Rearranged d.bridge
  noSignalWeight : c.noSignalWeight = d.noSignalWeight

section Reversed

/-- The tables in reverse order, and the words of each in reverse order. -/
def CategoryWords.reverseAll (ts : List CategoryWords) : List CategoryWords :=
  (ts.map fun t => { t with words := t.words.reverse }).reverse

theorem CategoryWords.allRearranged_reverseAll (ts : List CategoryWords) :
    AllRearranged ts (reverseAll ts) := by
  refine ⟨ts.reverse, (List.reverse_perm ts).symm, ?_⟩
  rw [reverseAll, ← List.map_reverse, List.forall₂_map_right_iff, List.forall₂_same]
  exact fun t _ => ⟨rfl, (List.reverse_perm t.words).symm⟩

/-- Every table and every list of words in reverse order. -/
def Config.reversed (c : Config α) : Config α where
  features :=
    { c.features with
      slots := c.features.slots.map fun slot => { slot with words := slot.words.reverse } }
  channels := c.channels
  evidence :=
    { c.evidence with
      lexical := CategoryWords.reverseAll c.evidence.lexical
      symmetryRoutes := c.evidence.symmetryRoutes.reverse
      concentrationRoutes := c.evidence.concentrationRoutes.reverse
      uniformityRoutes := c.evidence.uniformityRoutes.reverse }
  suppression :=
    { c.suppression with
      discriminative := CategoryWords.reverseAll c.suppression.discriminative }
  bridge :=
    { c.bridge with
      structuralWords := c.bridge.structuralWords.reverse
      physicsCues := c.bridge.physicsCues.reverse
      operatorSymbols := c.bridge.operatorSymbols.reverse
      operatorWords := c.bridge.operatorWords.reverse
      structuralEffect := c.bridge.structuralEffect.reverse
      operatorEffect := c.bridge.operatorEffect.reverse
      domainEffect := c.bridge.domainEffect.reverse }
  noSignalWeight := c.noSignalWeight

theorem Config.rearranged_reversed (c : Config α) : c.Rearranged c.reversed where
  features :=
    { slots := by
        change List.Forall₂ _ c.features.slots (c.features.slots.map _)
        rw [List.forall₂_map_right_iff, List.forall₂_same]
        exact fun slot _ => ⟨rfl, (List.reverse_perm slot.words).symm⟩
      rest := rfl }
  channels := rfl
  evidence :=
    { lexical := CategoryWords.allRearranged_reverseAll c.evidence.lexical
      symmetryRoutes := (List.reverse_perm _).symm
      concentrationRoutes := (List.reverse_perm _).symm
      uniformityRoutes := (List.reverse_perm _).symm
      rest := rfl }
  suppression :=
    { discriminative := CategoryWords.allRearranged_reverseAll c.suppression.discriminative
      rest := rfl }
  bridge :=
    { structuralWords := (List.reverse_perm _).symm
      physicsCues := (List.reverse_perm _).symm
      operatorSymbols := (List.reverse_perm _).symm
      operatorWords := (List.reverse_perm _).symm
      structuralEffect := (List.reverse_perm _).symm
      operatorEffect := (List.reverse_perm _).symm
      domainEffect := (List.reverse_perm _).symm
      rest := rfl }
  noSignalWeight := rfl

end Reversed

theorem Text.occursAny_perm {xs ys : List String} (h : xs.Perm ys) (text : String) :
    occursAny xs text = occursAny ys text :=
  occursAny_congr (fun _ => h.mem_iff) text

namespace CategoryWords.AllRearranged

variable {ts us : List CategoryWords}

/-- A loop over tables ends the same, if the order of words in a table and the order of two tables make no
difference to it. -/
theorem foldl_eq {β : Type} {f : β → CategoryWords → β} (h : AllRearranged ts us)
    (hwords : ∀ b t u, t.Rearranged u → f b t = f b u)
    (hcomm : ∀ b t u, f (f b t) u = f (f b u) t) (b : β) : ts.foldl f b = us.foldl f b := by
  obtain ⟨vs, hperm, hrel⟩ := h
  rw [hperm.foldl_eq' (fun t _ u _ b => hcomm b t u) b]
  clear hperm
  induction hrel generalizing b with
  | nil => rfl
  | cons ht _ ih => rw [List.foldl_cons, List.foldl_cons, hwords b _ _ ht, ih]

/-- A category has the same keywords. -/
theorem flatMap_perm (h : AllRearranged ts us) (c : Category) :
    ((ts.filter (·.category == c)).flatMap (·.words)).Perm
      ((us.filter (·.category == c)).flatMap (·.words)) := by
  obtain ⟨vs, hperm, hrel⟩ := h
  refine ((hperm.filter _).flatMap_right _).trans ?_
  clear hperm
  induction hrel with
  | nil => exact .refl _
  | cons ht _ ih =>
    rw [List.filter_cons, List.filter_cons, ht.category]
    split
    · exact ht.words.append ih
    · exact ih

end CategoryWords.AllRearranged

section Stages

variable [Scalar α]

namespace FeatureSettings.Rearranged

variable {f g : FeatureSettings α}

theorem slotWeights_eq (h : f.Rearranged g) (lower : String) :
    Signature.slotWeights f lower = Signature.slotWeights g lower := by
  obtain ⟨hlength, hslots⟩ := List.forall₂_iff_get.mp h.slots
  refine congrArg Vector.ofFn (funext fun i => ?_)
  by_cases hi : i.val < f.slots.length
  · have hslot : (f.slots[i.val]).Rearranged (g.slots[i.val]) := hslots i hi (hlength ▸ hi)
    rw [List.getElem?_eq_getElem hi, List.getElem?_eq_getElem (hlength ▸ hi)]
    simp only [hslot.weight, Text.occursAny_perm hslot.words]
  · rw [List.getElem?_eq_none (not_lt.mp hi), List.getElem?_eq_none (hlength ▸ not_lt.mp hi)]

theorem ofLower_eq (h : f.Rearranged g) (lower : String) :
    Signature.ofLower f lower = Signature.ofLower g lower := by
  have hvisible : Signature.isVisible f lower = Signature.isVisible g lower := by
    rw [← h.rest]
    rfl
  have hcodes (v : SlotVector α) :
      Signature.addCodes f lower v = Signature.addCodes g lower v := by
    rw [← h.rest]
    rfl
  simp only [Signature.ofLower, h.slotWeights_eq, hvisible, hcodes]

theorem matrix_eq (h : f.Rearranged g) : SlotMatrix.ofFeatures f = SlotMatrix.ofFeatures g := by
  rw [← h.rest]
  rfl

end FeatureSettings.Rearranged

namespace EvidenceSettings.Rearranged

variable {e f : EvidenceSettings α}

omit [Scalar α] in
theorem keywords_perm (h : e.Rearranged f) (c : Category) :
    (Evidence.keywords e c).Perm (Evidence.keywords f c) :=
  h.lexical.flatMap_perm c

omit [Scalar α] in
theorem hasWords_eq (h : e.Rearranged f) (lower : String) :
    Evidence.hasWords e lower = Evidence.hasWords f lower := by
  rw [Bool.eq_iff_iff, Evidence.hasWords_iff, Evidence.hasWords_iff]
  simp only [Text.occursAny_perm (h.keywords_perm _)]

end EvidenceSettings.Rearranged

namespace BridgeSettings.Rearranged

variable {a b : BridgeSettings α}

/-- The same rules hold. -/
theorem holds_eq (h : a.Rearranged b) (reference : SlotVector α) (lower : String)
    (signature : SlotVector α) (scores : Scores α) :
    a.holds reference lower signature scores = b.holds reference lower signature scores := by
  funext rule
  have hrest (r : Rule) := congrArg (fun b => b.holds reference lower signature scores r) h.rest
  cases rule with
  | structuralVocabulary =>
    simp only [holds, Text.occursAny_perm h.structuralWords, Text.occursAny_perm h.physicsCues,
      Text.occursAny_perm h.operatorSymbols]
  | operatorKeyword => exact Text.occursAny_perm h.operatorWords lower
  | domainTrigger => exact hrest .domainTrigger
  | positionBand => exact hrest .positionBand
  | lowSignal => exact hrest .lowSignal

theorem rule?_eq (h : a.Rearranged b) (reference : SlotVector α) (lower : String)
    (signature : SlotVector α) (scores : Scores α) :
    a.rule? reference lower signature scores = b.rule? reference lower signature scores :=
  congrArg (Rule.all.find? ·) (h.holds_eq reference lower signature scores)

end BridgeSettings.Rearranged

theorem Config.Rearranged.lacksSignal_eq {c d : Config α} (h : c.Rearranged d) (lower : String)
    (signature : SlotVector α) : c.lacksSignal lower signature = d.lacksSignal lower signature := by
  unfold lacksSignal
  rw [h.evidence.hasWords_eq]

end Stages

end TextIntent

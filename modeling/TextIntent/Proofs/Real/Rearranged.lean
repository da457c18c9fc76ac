import TextIntent.Proofs.Real.Evidence
import TextIntent.Proofs.Config.Rearranged
import TextIntent.Proofs.Classifier.Run
import TextIntent.Config.Default

/-! Classifiers whose settings differ in the order of their tables, over the reals. Scores are added to and
multiplied entry by entry, and without rounding it does not matter in which order. So each stage of a decision
comes to the same, and a run of the one classifier cannot be told from a run of the other. -/
namespace TextIntent.Exact

open Scalar

section Loops

theorem route_perm {routes routes' : List (Route ℝ)} (h : routes.Perm routes') (feature : ℝ)
    (scores : Scores ℝ) :
    Evidence.route routes feature scores = Evidence.route routes' feature scores :=
  h.foldl_eq' (fun _ _ _ _ s => s.modify_comm fun _ _ => add_right_comm _ _ _) scores

theorem applyAll_perm {adjustments adjustments' : List (Adjustment ℝ)}
    (h : adjustments.Perm adjustments') (scores : Scores ℝ) :
    Adjustment.applyAll adjustments scores = Adjustment.applyAll adjustments' scores :=
  h.foldl_eq' (fun _ _ _ _ s => s.modify_comm fun _ _ => mul_right_comm _ _ _) scores

end Loops

section Stages

variable {e f : EvidenceSettings ℝ} {s t : SuppressionSettings ℝ} {a b : BridgeSettings ℝ}
  {c d : Config ℝ}

theorem weigh_perm (h : e.Rearranged f) {xs ys : List String} (hp : xs.Perm ys) :
    weigh e xs = weigh f ys := by
  have hbonus : e.phraseBonus = f.phraseBonus := by rw [← h.rest]
  rw [weigh, weigh, hp.length_eq, hp.countP_eq, hbonus]

theorem wordHits_eq_of_rearranged (h : e.Rearranged f) (lower : String) :
    Evidence.wordHits e lower = Evidence.wordHits f lower := by
  refine PerCategory.ext_get fun c => ?_
  rw [get_wordHits, get_wordHits]
  exact weigh_perm h ((h.keywords_perm c).filter _)

theorem gather_eq_of_rearranged (h : e.Rearranged f) (lower : String) (signature heated : SlotVector ℝ) :
    Evidence.gather e lower signature heated = Evidence.gather f lower signature heated := by
  have hprior : Evidence.prior e = Evidence.prior f := by
    rw [← h.rest]
    rfl
  have hlexical : Evidence.lexical e lower = Evidence.lexical f lower := by
    simp only [Evidence.lexical, wordHits_eq_of_rearranged h, hprior]
  have hsubspace : Evidence.subspace e signature = Evidence.subspace f signature := by
    rw [← h.rest]
    rfl
  have hfeatures : Evidence.Shape.of e signature heated = Evidence.Shape.of f signature heated := by
    rw [← h.rest]
    rfl
  have hshape : Evidence.shape e signature heated = Evidence.shape f signature heated := by
    simp only [Evidence.shape, hfeatures, route_perm h.symmetryRoutes,
      route_perm h.concentrationRoutes, route_perm h.uniformityRoutes]
  rw [Evidence.gather, Evidence.gather, hlexical, hsubspace, hshape]

theorem boost_eq_of_rearranged (h : s.Rearranged t) (lower : String) (scores : Scores ℝ) :
    s.boost lower scores = t.boost lower scores := by
  have hincrement : s.boostIncrement = t.boostIncrement := by rw [← h.rest]
  unfold SuppressionSettings.boost
  rw [hincrement]
  refine h.discriminative.foldl_eq (fun scores x y hxy => ?_) (fun scores x y => ?_) scores
  · simp only [hxy.category, hxy.words.countP_eq]
  · exact scores.modify_comm fun _ _ => add_right_comm _ _ _

theorem suppress_eq_of_rearranged (h : s.Rearranged t) (mass scores : Scores ℝ) :
    s.suppress mass scores = t.suppress mass scores := by
  rw [← h.rest]
  rfl

theorem learn_eq_of_rearranged (h : s.Rearranged t) (mass : Scores ℝ) (predicted actual : Category) :
    s.learn mass predicted actual = t.learn mass predicted actual := by
  rw [← h.rest]
  rfl

theorem effect_eq_of_rearranged (h : a.Rearranged b) (scores : Scores ℝ) (rule : Rule) :
    a.effect scores rule = b.effect scores rule := by
  have hrest (r : Rule) := congrArg (fun b => b.effect scores r) h.rest
  cases rule with
  | structuralVocabulary => exact applyAll_perm h.structuralEffect scores
  | operatorKeyword => exact applyAll_perm h.operatorEffect scores
  | domainTrigger => exact applyAll_perm h.domainEffect scores
  | positionBand => exact hrest .positionBand
  | lowSignal => exact hrest .lowSignal

theorem bridge_eq_of_rearranged (h : a.Rearranged b) (reference : SlotVector ℝ) (lower : String)
    (signature : SlotVector ℝ) (scores : Scores ℝ) :
    a.bridge reference lower signature scores = b.bridge reference lower signature scores := by
  simp only [BridgeSettings.bridge, h.rule?_eq, effect_eq_of_rearranged h]

theorem position_eq_of_rearranged (h : a.Rearranged b) (reference signature : SlotVector ℝ) :
    a.position reference signature = b.position reference signature := by
  rw [← h.rest]
  rfl

theorem finalScores_eq_of_rearranged (h : c.Rearranged d) (mass : Scores ℝ) (lower : String)
    (signature : SlotVector ℝ) (fused : Scores ℝ) :
    c.finalScores mass lower signature fused = d.finalScores mass lower signature fused := by
  have hreference : c.features.reference = d.features.reference := by rw [← h.features.rest]
  have hnone : c.noSignalScores = d.noSignalScores := by
    rw [Config.noSignalScores, Config.noSignalScores, h.noSignalWeight]
  simp only [Config.finalScores, h.lacksSignal_eq, hnone, hreference,
    boost_eq_of_rearranged h.suppression, suppress_eq_of_rearranged h.suppression,
    bridge_eq_of_rearranged h.bridge]

/-- The same decision with the same events on the way to it. -/
theorem decision_eq_of_rearranged (h : c.Rearranged d) (matrix : SlotMatrix ℝ) (gates : Gates ℝ)
    (mass : Scores ℝ) (lower : String) (signature : SlotVector ℝ) :
    c.decision matrix gates mass lower signature = d.decision matrix gates mass lower signature := by
  have htrust : c.trust = d.trust := by rw [Config.trust, Config.trust, h.channels]
  have hreference : c.features.reference = d.features.reference := by rw [← h.features.rest]
  have htemperature : c.features.temperature = d.features.temperature := by rw [← h.features.rest]
  simp only [Config.decision, h.channels, htrust, hreference, htemperature,
    gather_eq_of_rearranged h.evidence, finalScores_eq_of_rearranged h,
    position_eq_of_rearranged h.bridge]

end Stages

section Runs

open Classifier

/-- Classifiers in the same state, with settings that differ in the order of their tables. -/
structure AlikeStates (e f : Classifier ℝ) : Prop where
  config : e.config.Rearranged f.config
  gates : e.gates = f.gates
  mass : e.mass = f.mass

namespace AlikeStates

variable {e f : Classifier ℝ}

theorem initial {c d : Config ℝ} (h : c.Rearranged d) : AlikeStates (ofConfig c) (ofConfig d) :=
  ⟨h, congrArg Gates.initial h.channels, rfl⟩

theorem decision (h : AlikeStates e f) (lower : String) (signature : SlotVector ℝ) :
    e.config.decision e.matrix e.gates e.mass lower signature =
      f.config.decision f.matrix f.gates f.mass lower signature := by
  rw [e.matrix_eq, f.matrix_eq, h.config.features.matrix_eq, h.gates, h.mass]
  exact decision_eq_of_rearranged h.config _ _ _ lower signature

/-- Both classifiers decide alike and count the same activations. -/
theorem run (h : AlikeStates e f) (lower : String) (signature : SlotVector ℝ) :
    (e.run lower signature).value.1 = (f.run lower signature).value.1 ∧
      AlikeStates (e.run lower signature).value.2 (f.run lower signature).value.2 := by
  have hd := congrArg Traced.value (h.decision lower signature)
  refine ⟨hd, h.config, ?_, h.mass⟩
  exact congrArg₂ (fun gates (d : Decision ℝ) => gates.count d.activations) h.gates hd

/-- One operation: the replies are the same, and so are the states after it. -/
theorem perform (h : AlikeStates e f) (op : Operation ℝ) :
    (e.perform op).value.1 = (f.perform op).value.1 ∧
      AlikeStates (e.perform op).value.2 (f.perform op).value.2 := by
  cases op with
  | classify text =>
    have hrun := h.run (Text.lower text) (Signature.ofLower f.config.features (Text.lower text))
    simp only [Classifier.perform, classify, Traced.value_bind, Traced.value_pure,
      h.config.features.ofLower_eq]
    exact ⟨congrArg Reply.decided hrun.1, hrun.2⟩
  | classifyWith text signature =>
    simp only [value_perform_classifyWith]
    cases (Signature.ofList signature).run.value with
    | ok v =>
      have hrun := h.run (Text.lower text) v
      exact ⟨congrArg Reply.decided hrun.1, hrun.2⟩
    | error fault => exact ⟨rfl, h⟩
  | adjustFilter c gradient rate =>
    simp only [value_perform_adjustFilter, h.config.channels, h.gates]
    cases ((f.config.channels.get c).adjusted (f.gates.get c).filter gradient rate).run.value with
    | ok filter => exact ⟨rfl, h.config, rfl, h.mass⟩
    | error fault => exact ⟨rfl, h⟩
  | feedback predicted actual =>
    refine ⟨rfl, h.config, h.gates, ?_⟩
    change (e.config.suppression.feedback e.mass predicted actual).value =
      (f.config.suppression.feedback f.mass predicted actual).value
    rw [value_feedback, value_feedback, h.mass, learn_eq_of_rearranged h.config.suppression]
  | mass => exact ⟨congrArg Reply.mass h.mass, h⟩
  | counters => exact ⟨congrArg (fun g : Gates ℝ => Reply.counters g.counters) h.gates, h⟩
  | snapshot =>
    exact ⟨congrArg₂ (fun m (g : Gates ℝ) => Reply.snapshot ⟨m, g.filters⟩) h.mass h.gates, h⟩
  | restore s =>
    simp only [value_perform_restore, h.gates]
    cases s.fault? with
    | none => exact ⟨rfl, h.config, rfl, rfl⟩
    | some fault => exact ⟨rfl, h⟩

theorem replies (h : AlikeStates e f) (ops : List (Operation ℝ)) :
    (e.performAll ops).value.1 = (f.performAll ops).value.1 := by
  induction ops generalizing e f with
  | nil => rfl
  | cons op ops ih =>
    obtain ⟨hreply, hnext⟩ := h.perform op
    exact congrArg₂ List.cons hreply (ih hnext)

end AlikeStates

/-- Classifiers made from settings that differ in the order of their tables answer every run of operations
alike, with the same decisions among the answers. -/
theorem replies_of_rearranged {c d : Config ℝ} (h : c.Rearranged d) (ops : List (Operation ℝ)) :
    ((ofConfig c).performAll ops).value.1 = ((ofConfig d).performAll ops).value.1 :=
  (AlikeStates.initial h).replies ops

/-- The default configuration and its reverse, before and after feedback. -/
theorem replies_of_default_reversed :
    let config : Config ℝ := Config.default
    let ops : List (Operation ℝ) := [.classify "compose a layer", .feedback .operator .structural,
      .classifyWith "compose a layer" (List.replicate 10 1), .counters]
    config.Rearranged config.reversed ∧
      ((ofConfig config).performAll ops).value.1 =
        ((ofConfig config.reversed).performAll ops).value.1 := by
  intro config ops
  exact ⟨config.rearranged_reversed, replies_of_rearranged config.rearranged_reversed ops⟩

end Runs

end TextIntent.Exact

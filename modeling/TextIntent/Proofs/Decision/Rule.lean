import TextIntent.Proofs.Classifier.Run
import TextIntent.Proofs.Config.Accepted
import TextIntent.Proofs.Config.Keywords

/-! Which bridging rule a decision reports. The first two rules ask for nothing but words, and the words
they ask for are keywords. So a text that meets them is never taken for one without a signal, and the rule
it gets does not depend on its signature or on anything that has been learnt. -/
namespace TextIntent

open Scalar

variable {α : Type}

namespace BridgeSettings

/-- A structural word occurs, and nothing that rules it out. -/
def StructuralText (b : BridgeSettings α) (lower : String) : Prop :=
  Text.occursAny b.structuralWords lower = true ∧ Text.occursAny b.physicsCues lower = false ∧
    Text.occursAny b.operatorSymbols lower = false

/-- An operator word occurs. -/
def OperatorText (b : BridgeSettings α) (lower : String) : Prop :=
  Text.occursAny b.operatorWords lower = true

variable [Scalar α] (b : BridgeSettings α) (reference : SlotVector α) (lower : String)
  (signature : SlotVector α) (scores : Scores α)

/-- The rule that is reported is the first one that holds. -/
theorem value_bridge_rule :
    (b.bridge reference lower signature scores).value.2 =
      b.rule? reference lower signature scores := by
  unfold bridge
  cases b.rule? reference lower signature scores with
  | none => rfl
  | some rule => rfl

theorem holds_structuralVocabulary :
    b.holds reference lower signature scores .structuralVocabulary = true ↔
      b.StructuralText lower := by
  simp [holds, StructuralText, and_assoc]

theorem holds_operatorKeyword :
    b.holds reference lower signature scores .operatorKeyword = true ↔ b.OperatorText lower :=
  Iff.rfl

variable {b lower}

theorem rule?_of_structuralText (h : b.StructuralText lower) :
    b.rule? reference lower signature scores = some .structuralVocabulary :=
  List.find?_cons_of_pos ((b.holds_structuralVocabulary reference lower signature scores).mpr h)

theorem rule?_of_operatorText (hn : ¬b.StructuralText lower) (h : b.OperatorText lower) :
    b.rule? reference lower signature scores = some .operatorKeyword := by
  have hs := (b.holds_structuralVocabulary reference lower signature scores).not.mpr hn
  have ho := (b.holds_operatorKeyword reference lower signature scores).mpr h
  exact (List.find?_cons_of_neg hs).trans (List.find?_cons_of_pos ho)

end BridgeSettings

namespace Config

variable [Scalar α] {config : Config α}

/-- Texts without a signal are not bridged. -/
theorem finalScores_rule (config : Config α) (mass : Scores α) (lower : String)
    (signature : SlotVector α) (fused : Scores α) :
    (config.finalScores mass lower signature fused).value.2 =
      if config.lacksSignal lower signature then none
      else config.bridge.rule? config.features.reference lower signature
        (config.suppression.suppress mass (config.suppression.boost lower fused)).value := by
  unfold finalScores
  split
  · rfl
  · exact config.bridge.value_bridge_rule _ lower signature _

theorem decision_rule (config : Config α) (matrix : SlotMatrix α) (gates : Gates α)
    (mass : Scores α) (lower : String) (signature : SlotVector α) :
    (config.decision matrix gates mass lower signature).value.rule =
      (config.finalScores mass lower signature
        (config.decision matrix gates mass lower signature).value.fused).value.2 := rfl

/-- Words that a rule asks for are a signal, whatever the signature. -/
theorem lacksSignal_of_words (h : config.Accepted) {lower : String}
    (hw : config.bridge.StructuralText lower ∨ config.bridge.OperatorText lower)
    (signature : SlotVector α) : config.lacksSignal lower signature = false := by
  have hwords : Evidence.hasWords config.evidence lower = true := by
    cases hw with
    | inl hs =>
      refine Evidence.hasWords_of_occursAny (c := .structural) ?_
      exact Text.occursAny_mono (fun w => (h.mem_structuralWords w).mp) hs.1
    | inr ho =>
      refine Evidence.hasWords_of_occursAny (c := .operator) ?_
      exact Text.occursAny_mono h.mem_keywords_of_operatorWords ho
  simp [lacksSignal, hwords]

/-- With a signal the rule is the first one that holds after the scores have been told apart. -/
theorem exists_decision_rule (matrix : SlotMatrix α) (gates : Gates α) (mass : Scores α)
    {lower : String} {signature : SlotVector α} (hl : config.lacksSignal lower signature = false) :
    ∃ scores, (config.decision matrix gates mass lower signature).value.rule =
      config.bridge.rule? config.features.reference lower signature scores := by
  rw [decision_rule, finalScores_rule, hl]
  exact ⟨_, if_neg Bool.false_ne_true⟩

end Config

/-- The operation asks for a decision on a text, with the signature of the text or with a given one that
is taken. -/
inductive Operation.Asks [Scalar α] (text : String) : Operation α → Prop
  | classify : Asks text (.classify text)
  | classifyWith {xs : List α} {v : SlotVector α} (h : (Signature.ofList xs).run.value = .ok v) :
    Asks text (.classifyWith text xs)

namespace Classifier

variable [Scalar α] {config : Config α} {e f : Classifier α} {text : String} {p q : Operation α}

theorem exists_question (config : Config α) (h : p.Asks text) :
    ∃ signature, p.question? config = some (Text.lower text, signature) := by
  cases h with
  | classify => exact ⟨_, rfl⟩
  | classifyWith h => exact ⟨_, by simp only [Operation.question?, h]; rfl⟩

/-- The operation is answered by a decision that reports this rule. -/
def Reports (cls : Classifier α) (op : Operation α) (rule : Rule) : Prop :=
  ∃ d, (cls.perform op).value.1 = .decided d ∧ d.rule = some rule

/-- What is asked about a text is answered by the rule that its words call for, whatever the scores
are. -/
theorem Reachable.reports (hr : Reachable config e) (hp : p.Asks text) {rule : Rule}
    (hl : ∀ signature, config.lacksSignal (Text.lower text) signature = false)
    (hrule : ∀ signature scores, config.bridge.rule? config.features.reference (Text.lower text)
      signature scores = some rule) : e.Reports p rule := by
  obtain ⟨signature, hq⟩ := exists_question config hp
  refine ⟨_, (hr.decided_iff p _).mpr ⟨_, signature, hq, rfl⟩, ?_⟩
  obtain ⟨scores, hs⟩ := Config.exists_decision_rule e.matrix e.gates e.mass (hl signature)
  rw [hs, hrule]

/-- Two classifiers with the same settings, whatever each has learnt and whichever signature each goes by,
report the same rule on a text whose words meet one of the first two rules; and such a text is always taken
for a signal. -/
theorem reports_of_words (h : config.Accepted) (he : Reachable config e) (hf : Reachable config f)
    (hp : p.Asks text) (hq : q.Asks text) :
    let lower := Text.lower text
    (config.bridge.StructuralText lower →
      e.Reports p .structuralVocabulary ∧ f.Reports q .structuralVocabulary) ∧
    (¬config.bridge.StructuralText lower → config.bridge.OperatorText lower →
      e.Reports p .operatorKeyword ∧ f.Reports q .operatorKeyword) ∧
    (config.bridge.StructuralText lower ∨ config.bridge.OperatorText lower →
      ∀ signature, config.lacksSignal lower signature = false) := by
  refine ⟨fun hs => ?_, fun hn ho => ?_, fun hw => Config.lacksSignal_of_words h hw⟩
  · have hl := Config.lacksSignal_of_words h (Or.inl hs)
    have hrule := fun signature scores =>
      BridgeSettings.rule?_of_structuralText config.features.reference signature scores hs
    exact ⟨he.reports hp hl hrule, hf.reports hq hl hrule⟩
  · have hl := Config.lacksSignal_of_words h (Or.inr ho)
    have hrule := fun signature scores =>
      BridgeSettings.rule?_of_operatorText config.features.reference signature scores hn ho
    exact ⟨he.reports hp hl hrule, hf.reports hq hl hrule⟩

/-- One classifier has had feedback and goes by a signature of zeros, the other is fresh and goes by that
of the text. -/
theorem reports_of_words_in_question :
    let fresh := ofConfig (Config.default : Config Float)
    let taught := fresh.after [.feedback .structural .physics]
    let text := "Which LAYER?"
    fresh.Reports (.classify text) .structuralVocabulary ∧
      taught.Reports (.classifyWith text (List.replicate 10 0)) .structuralVocabulary := by
  have hs : (Config.default : Config Float).bridge.StructuralText (Text.lower "Which LAYER?") := by
    unfold BridgeSettings.StructuralText
    decide +kernel
  have hv : (Signature.ofList (List.replicate 10 (0 : Float))).run.value = .ok SlotVector.zero := by
    decide +kernel
  exact (reports_of_words Config.default_accepted ⟨[], rfl⟩ ⟨_, rfl⟩ .classify
    (.classifyWith hv)).1 hs

end Classifier
end TextIntent

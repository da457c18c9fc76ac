import TextIntent.Proofs.Decision.FinalScores
import TextIntent.Proofs.Evidence
import TextIntent.Proofs.Signature

/-! Which numbers of a decision are finite. All are but the position and the fused scores, which are
not confined: a position can overflow when the distance from the center is divided by a small warp, and
fused scores when the trusts of the channels add up to more than the largest double. -/
namespace TextIntent

open Scalar Binary64

/-- All numbers of the decision are finite. -/
structure Decision.Finite (d : Decision Float) : Prop where
  confidence : d.confidence.isFinite = true
  activations : ∀ c, (d.activations.get c).isFinite = true
  energy : d.energy.isFinite = true
  position : d.position.isFinite = true
  evidence : ∀ channel c, ((d.evidence.get channel).get c).isFinite = true
  fused : ∀ c, (d.fused.get c).isFinite = true
  finalScores : ∀ c, (d.finalScores.get c).isFinite = true

/-- The position of a signature with this dominant slot. -/
def BridgeSettings.slotPosition (b : BridgeSettings Float) (reference : SlotVector Float)
    (slot : Fin 10) : Float :=
  b.center + (reference.get slot - b.center) / b.warp

theorem BridgeSettings.position_eq (b : BridgeSettings Float)
    (reference signature : SlotVector Float) :
    b.position reference signature = b.slotPosition reference (SlotVector.dominant signature) := rfl

theorem confine_unit (x : Float) : InUnit (confine 0 1 x).value :=
  le_confine Binary64.zero_le_one x

theorem Gates.respond_mem_unit (settings : PerChannel (ChannelSettings Float))
    (gates : Gates Float) (heated : SlotVector Float) (c : Channel) :
    InUnit ((gates.respond settings heated).value.get c) := by
  cases c
  · exact confine_unit _
  · exact confine_unit _
  · exact confine_unit _

namespace Config

variable {config : Config Float}

theorem gather_mem_unit (h : config.Accepted) (lower : String) {signature : SlotVector Float}
    (hv : ∀ x ∈ signature.toList, Defined x → InUnit x) (heated : SlotVector Float)
    (channel : Channel) (c : Category) :
    InUnit (((Evidence.gather config.evidence lower signature heated).get channel).get c) := by
  cases channel
  · exact Evidence.lexical_mem_unit h lower c
  · exact Evidence.subspace_mem_unit config.evidence signature c
  · exact Evidence.shape_mem_unit h hv heated c

/-- Fused scores are at most the sum of the trusts. -/
theorem isFinite_fuse (h : config.Accepted)
    (ht : (sum (Channel.all.map config.trust.get)).isFinite = true)
    {evidence : PerChannel (Scores Float)} {activations : PerChannel Float}
    (he : ∀ channel c, InUnit ((evidence.get channel).get c))
    (ha : ∀ channel, InUnit (activations.get channel)) (c : Category) :
    ((fuse evidence activations config.trust).get c).isFinite = true := by
  have hterm (channel : Channel) :
      0 ≤ config.trust.get channel * activations.get channel * (evidence.get channel).get c ∧
        config.trust.get channel * activations.get channel * (evidence.get channel).get c ≤
          config.trust.get channel := by
    obtain ⟨hf, h₀⟩ := h.trust channel
    obtain ⟨h₁, h₂⟩ := mul_le_of_inUnit h₀ hf (ha channel)
    obtain ⟨h₃, h₄⟩ := mul_le_of_inUnit h₁ (isFinite_of_le h₁ h₂ hf) (he channel c)
    exact ⟨h₃, Binary64.le_trans h₄ h₂⟩
  rw [fuse, PerCategory.get_ofFn]
  refine isFinite_of_le (zero_le_sum ?_) (sum_map_le_sum_map _ fun channel _ => hterm channel) ht
  simpa using fun channel _ => (hterm channel).1

theorem zero_le_evenScores (h : config.Accepted) (c : Category) : 0 ≤ config.evenScores.get c := by
  rw [get_evenScores]
  split_ifs
  · exact Binary64.le_trans Binary64.zero_le_one (Binary64.le_of_lt h.noSignalWeight.2)
  · exact Binary64.zero_le_one

theorem zero_le_unscaledScores (h : config.Accepted) (mass : Scores Float) (lower : String)
    (signature : SlotVector Float) (fused : Scores Float) (c : Category) :
    0 ≤ (config.unscaledScores mass lower signature fused).get c := by
  unfold unscaledScores
  split_ifs
  · exact zero_le_evenScores h c
  · exact config.zero_le_bridgedScores mass lower signature fused c

theorem decision_position (config : Config Float) (matrix : SlotMatrix Float) (gates : Gates Float)
    (mass : Scores Float) (lower : String) (signature : SlotVector Float) :
    (config.decision matrix gates mass lower signature).value.position =
      config.bridge.slotPosition config.features.reference (SlotVector.dominant signature) := rfl

/-- Everything that is confined or scaled is finite. -/
theorem decision_finite_iff (h : config.Accepted) (matrix : SlotMatrix Float) (gates : Gates Float)
    (mass : Scores Float) (lower : String) {signature : SlotVector Float}
    (hv : ∀ x ∈ signature.toList, Defined x → InUnit x) :
    let d := (config.decision matrix gates mass lower signature).value
    d.Finite ↔ d.position.isFinite = true ∧ ∀ c, (d.fused.get c).isFinite = true := by
  intro d
  refine ⟨fun hf => ⟨hf.position, hf.fused⟩, fun ⟨hp, hfused⟩ => ?_⟩
  constructor
  case confidence =>
    rw [decision_confidence]
    exact (confine_unit _).isFinite
  case activations =>
    intro c
    rw [decision_activations]
    exact (Gates.respond_mem_unit config.channels gates _ c).isFinite
  case energy =>
    rw [decision_energy]
    obtain ⟨h₀, h₁⟩ := le_confine zero_le_maxFinite
      (heat matrix config.features.temperature signature).energy
    exact isFinite_of_le h₀ h₁ rfl
  case position => exact hp
  case evidence =>
    intro channel c
    rw [decision_evidence]
    exact (gather_mem_unit h lower hv _ channel c).isFinite
  case fused => exact hfused
  case finalScores =>
    intro c
    rw [decision_finalScores]
    exact InUnit.isFinite (PerCategory.normalized_mem_unit
      (fun e _ => zero_le_unscaledScores h mass lower signature _ e) c)

/-- Questions come with signatures whose components lie in the unit interval or are undefined. -/
theorem question_mem_unit (h : config.Accepted) {op : Operation Float} {lower : String}
    {signature : SlotVector Float} (hq : op.question? config = some (lower, signature)) :
    ∀ x ∈ signature.toList, Defined x → InUnit x := by
  intro x hx hd
  cases op with
  | classify text =>
    cases hq
    exact Signature.inUnit_ofLower h (Text.lower text) hx hd
  | classifyWith text xs =>
    simp only [Operation.question?] at hq
    cases hs : (Signature.ofList xs).run.value with
    | ok v =>
      rw [hs] at hq
      cases hq
      exact Signature.inUnit_ofList hs hx hd
    | error fault =>
      rw [hs] at hq
      cases hq
  | _ => cases hq

/-- A signature with nothing but one slot. -/
def unitSignature (slot : Fin 10) : List Float :=
  (List.finRange 10).map fun i => if i = slot then 1 else 0

/-- Every slot dominates some signature. -/
theorem exists_dominant (slot : Fin 10) :
    ∃ v, (Signature.ofList (unitSignature slot)).run.value = .ok v ∧
      SlotVector.dominant v = slot := by
  have h : (List.finRange 10).all (fun slot =>
      match (Signature.ofList (unitSignature slot)).run.value with
      | .ok v => SlotVector.dominant v = slot
      | .error _ => false) = true := by decide +kernel
  have hs := List.all_eq_true.mp h slot (List.mem_finRange slot)
  cases hv : (Signature.ofList (unitSignature slot)).run.value with
  | ok v =>
    rw [hv] at hs
    exact ⟨v, rfl, by simpa using hs⟩
  | error fault => simp [hv] at hs

/-- When decisions are finite: a decision is, if its position and its fused scores are. If the sum of the
trusts is finite, this is so for all decisions exactly if no reference value has an infinite
position. -/
theorem decided_finite_iff (h : config.Accepted) :
    (∀ cls, Classifier.Reachable config cls → ∀ op d, (cls.perform op).value.1 = .decided d →
      (d.Finite ↔ d.position.isFinite = true ∧ ∀ c, (d.fused.get c).isFinite = true)) ∧
    ((sum (Channel.all.map config.trust.get)).isFinite = true →
      ((∀ cls, Classifier.Reachable config cls → ∀ op d,
        (cls.perform op).value.1 = .decided d → d.Finite) ↔
      ∀ slot, (config.bridge.slotPosition config.features.reference slot).isFinite = true)) := by
  have hfirst (cls : Classifier Float) (hr : Classifier.Reachable config cls)
      (op : Operation Float) (d : Decision Float) (hd : (cls.perform op).value.1 = .decided d) :
      d.Finite ↔ d.position.isFinite = true ∧ ∀ c, (d.fused.get c).isFinite = true := by
    obtain ⟨lower, signature, hq, rfl⟩ := (hr.decided_iff op d).mp hd
    exact decision_finite_iff h _ _ _ lower (question_mem_unit h hq)
  refine ⟨hfirst, fun ht => ⟨fun hall slot => ?_, fun hslot cls hr op d hd => ?_⟩⟩
  · obtain ⟨v, hv, rfl⟩ := exists_dominant slot
    have hr : Classifier.Reachable config (Classifier.ofConfig config) := ⟨[], rfl⟩
    have hq : (Operation.classifyWith "" (unitSignature (SlotVector.dominant v))).question? config =
        some (Text.lower "", v) := by
      simp only [Operation.question?, hv]
    have hd := (hr.decided_iff (.classifyWith "" (unitSignature (SlotVector.dominant v))) _).mpr
      ⟨_, _, hq, rfl⟩
    have hp := (hall _ hr _ _ hd).position
    rwa [decision_position] at hp
  · refine (hfirst cls hr op d hd).mpr ?_
    obtain ⟨lower, signature, hq, rfl⟩ := (hr.decided_iff op d).mp hd
    rw [decision_position, decision_fused]
    refine ⟨hslot _, fun c => isFinite_fuse h ht (fun channel e => ?_) (fun channel => ?_) c⟩
    · rw [decision_evidence]
      exact gather_mem_unit h lower (question_mem_unit h hq) _ channel e
    · rw [decision_activations]
      exact Gates.respond_mem_unit config.channels _ _ channel

/-- A greeting under the default settings, after feedback. -/
theorem default_decided_finite :
    let config : Config Float := Config.default
    let cls := (Classifier.ofConfig config).after [.feedback .help .greeting]
    config.lacksSignal (Text.lower "Good morning")
        (Signature.ofLower config.features (Text.lower "Good morning")) = false ∧
      ∃ d, (cls.perform (.classify "Good morning")).value.1 = .decided d ∧ d.Finite := by
  intro config cls
  have ht : (sum (Channel.all.map config.trust.get)).isFinite = true := by decide +kernel
  have hs : (List.finRange 10).all (fun slot =>
      (config.bridge.slotPosition config.features.reference slot).isFinite) = true := by decide +kernel
  have hwords : Evidence.hasWords config.evidence (Text.lower "Good morning") = true := by
    decide +kernel
  have hr : Classifier.Reachable config cls := ⟨_, rfl⟩
  exact ⟨by simp [lacksSignal, hwords], _, rfl, ((decided_finite_iff default_accepted).2 ht).mpr
    (fun slot => List.all_eq_true.mp hs slot (List.mem_finRange slot)) _ hr
    (.classify "Good morning") _ rfl⟩

/-- The default settings with the smallest positive warp. -/
def steepWarp : Config Float :=
  { Config.default with bridge := { Config.default.bridge with warp := 5e-324 } }

/-- Settings that are accepted, and a decision with an infinite position. -/
theorem steepWarp_position_infinite :
    steepWarp.Accepted ∧ ∃ d, ((Classifier.ofConfig steepWarp).perform (.classify "")).value.1 =
      .decided d ∧ d.position.isFinite = false ∧ ¬d.Finite := by
  have ha : steepWarp.Accepted := by
    unfold Accepted
    decide +kernel
  have hp : (steepWarp.bridge.position steepWarp.features.reference
      (Signature.ofLower steepWarp.features (Text.lower ""))).isFinite = false := by decide +kernel
  refine ⟨ha, _, rfl, hp, fun hf => ?_⟩
  have := hf.position
  rw [decision_position, ← BridgeSettings.position_eq] at this
  exact absurd (this.symm.trans hp) (by simp)

end Config
end TextIntent

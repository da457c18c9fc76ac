import TextIntent.Proofs.Decision.Finite
import TextIntent.Proofs.Decision.Rule

/-! When the low-signal rule can fire. It asks for a signature whose components all stay small. The
signature of a text is either zero, and then nothing is bridged unless a keyword occurs, or it has been
scaled to unit length, and then its largest component is not small. So under settings like the default
ones the rule is left to signatures that a caller gives. -/
namespace TextIntent

open Scalar Binary64

/-- Weights and codes are not lost when a signature is scaled, and not infinite. -/
structure FeatureSettings.Moderate (f : FeatureSettings Float) : Prop where
  weight : ∀ slot ∈ f.slots, epsilon ≤ slot.weight ∧ slot.weight ≤ 1e6
  charScale : 1 ≤ f.charScale ∧ f.charScale ≤ 1e6

namespace Signature

variable {config : Config Float}

/-- Zero, or not below `epsilon`. -/
def Audible (x : Float) : Prop := value x = 0 ∨ value epsilon ≤ value x

theorem Audible.add {x y : Float} (hx₀ : 0 ≤ x) (hy₀ : 0 ≤ y) (hx : Audible x) (hy : Audible y) :
    Audible (x + y) := by
  cases hx with
  | inr hx => exact Or.inr (hx.trans ((le_iff _ _).mp (le_add_right hx₀ hy₀)).2.2)
  | inl hx =>
    cases hy with
    | inr hy => exact Or.inr (hy.trans ((le_iff _ _).mp (le_add_left hx₀ hy₀)).2.2)
    | inl hy =>
      left
      rw [(isNearest_add_of_zero_le hx₀ hy₀).2, hx, hy, add_zero, rounded_zero]

theorem value_zero_add {x : Float} (h : 0 ≤ x) : value (0 + x) = value x := by
  rw [(isNearest_add_of_zero_le zero_le_zero h).2, value_zero, zero_add, rounded_value]

theorem slotWeights_moderate (h : config.Accepted) (hm : config.features.Moderate) (lower : String)
    {x : Float} (hx : x ∈ (slotWeights config.features lower).toList) : Audible x ∧ x ≤ 1e6 := by
  refine forall_slotWeights (p := fun x => Audible x ∧ x ≤ 1e6) ⟨Or.inl value_zero, by decide +kernel⟩
    (fun slot hs => ?_) lower x hx
  have hw := (h.slotWeight hs).2
  obtain ⟨hlo, hhi⟩ := hm.weight slot hs
  have hv := value_zero_add hw
  rw [le_iff] at hlo hhi ⊢
  rw [Audible, hv]
  exact ⟨Or.inr hlo.2.2, defined_of_zero_le (zero_le_add zero_le_zero hw), hhi.2⟩

theorem value_million : value 1e6 = 1000000 := by
  have hu : (1e6 : Float).toModel.unpack =
      .finite .positive (1000000 * 2 ^ 33) (-33) (by norm_num) := by rfl
  rw [value_of_unpack_positive hu]
  norm_num

theorem value_two_million : value 2e6 = 2000000 := by
  have hu : (2e6 : Float).toModel.unpack =
      .finite .positive (1000000 * 2 ^ 33) (-32) (by norm_num) := by rfl
  rw [value_of_unpack_positive hu]
  norm_num

theorem charScale_bounds (hm : config.features.Moderate) :
    config.features.charScale.isFinite = true ∧ 1 ≤ value config.features.charScale ∧
      value config.features.charScale ≤ 1000000 := by
  obtain ⟨hlo, hhi⟩ := hm.charScale
  refine ⟨isFinite_of_le (Binary64.le_trans Binary64.zero_le_one hlo) hhi rfl, ?_, ?_⟩
  · exact value_one ▸ ((le_iff _ _).mp hlo).2.2
  · exact value_million ▸ ((le_iff _ _).mp hhi).2.2

/-- The code of a character is zero, or not below one before it is divided. -/
theorem audible_code_div (hm : config.features.Moderate) (c : Char) :
    Audible ((c.toNat : Float) / config.features.charScale) := by
  obtain ⟨hf, hlo, hhi⟩ := charScale_bounds hm
  have hq := isNearest_code_div hf (by linarith) c
  rcases Nat.eq_zero_or_pos c.toNat with hz | hpos
  · left
    refine hq.2.trans ?_
    rw [hz, Nat.cast_zero, zero_div, rounded_zero]
  · right
    refine hq.le_value ?_
    have hone : (1 : ℝ) ≤ c.toNat := by exact_mod_cast hpos
    have hε : value epsilon < 2 ^ (-29 : ℤ) := epsilon_lt
    rw [zpow_neg] at hε
    rw [le_div_iff₀ (by linarith)]
    calc value epsilon * value config.features.charScale
        ≤ value epsilon * 1000000 := mul_le_mul_of_nonneg_left hhi epsilon_pos.le
      _ ≤ 1 := by
        norm_num at hε
        linarith
      _ ≤ c.toNat := hone

theorem code_div_le (hm : config.features.Moderate) (c : Char) :
    (c.toNat : Float) / config.features.charScale ≤ 2e6 := by
  obtain ⟨hf, hlo, -⟩ := charScale_bounds hm
  have hq := isNearest_code_div hf (by linarith) c
  have hlt : c.toNat < 2000000 := by
    have : c.toNat < 0xd800 ∨ 0xdfff < c.toNat ∧ c.toNat < 0x110000 := c.valid
    omega
  have hcode : (c.toNat : ℝ) ≤ 2000000 := by exact_mod_cast hlt.le
  refine (le_iff _ _).mpr ⟨hq.1, Defined.of_isFinite rfl, hq.value_le ?_⟩
  rw [value_two_million, div_le_iff₀ (by linarith)]
  linarith

/-- What is scaled has no component between zero and `epsilon`, and none is infinite. -/
theorem addCodes_moderate (h : config.Accepted) (hm : config.features.Moderate) (lower : String)
    {x : Float}
    (hx : x ∈ (addCodes config.features lower (slotWeights config.features lower)).toList) :
    Audible x ∧ x.isFinite = true := by
  refine forall_addCodes (p := fun x => 0 ≤ x ∧ Audible x ∧ x ≤ 1e6)
    (q := fun x => Audible x ∧ x.isFinite = true)
    (fun y hy => ⟨zero_le_slotWeights h lower hy, slotWeights_moderate h hm lower hy⟩)
    (fun y hy => ⟨hy.2.1, isFinite_of_le hy.1 hy.2.2 rfl⟩) (fun y c hy => ?_) lower x hx
  obtain ⟨hy₀, hya, hyle⟩ := hy
  have hq₀ := zero_le_code_div h c
  exact ⟨hya.add hy₀ hq₀ (audible_code_div hm c), isFinite_of_le (zero_le_add hy₀ hq₀)
    (Binary64.add_le_add hy₀ hq₀ hyle (code_div_le hm c)) rfl⟩

end Signature

/-- If no component lies between zero and `epsilon`, a vector that is not zero is scaled, and its largest
component is not small then. -/
theorem SlotVector.le_peak_normalize_of_audible {v : SlotVector Float} (h : ∀ x ∈ v.toList, 0 ≤ x)
    (ha : ∀ x ∈ v.toList, Signature.Audible x ∧ x.isFinite = true) (hpos : 0 < value v.scale) :
    0.3 ≤ peak v.normalize.toList := by
  obtain ⟨x, hx, he⟩ := exists_eq_scale h hpos
  have hxa := (ha x hx).1
  have hf := isFinite_scale_of_isFinite h (fun y hy => (ha y hy).2) hpos
  refine le_peak_normalize h hpos hf fun hlt => ?_
  -- the length is not below the largest component, and that is not below `epsilon`
  obtain ⟨hnf, hn⟩ := one_le_scaledNorm h hpos hf
  have hge := (isNearest_mul hf hnf).le_value (le_mul_of_one_le_right hpos.le hn)
  have hε : value epsilon ≤ value v.scale := he ▸ hxa.resolve_left (he ▸ hpos.ne')
  exact not_lt.mpr (hε.trans hge) ((lt_iff _ _).mp hlt).2.2

theorem SlotVector.isZero_or_le_peak_normalize {v : SlotVector Float} (h : ∀ x ∈ v.toList, 0 ≤ x)
    (ha : ∀ x ∈ v.toList, Signature.Audible x ∧ x.isFinite = true) :
    v.normalize.isZero = true ∨ 0.3 ≤ peak v.normalize.toList := by
  by_cases hs : Scalar.isZero v.scale = true
  · left
    rw [normalize_eq, if_pos hs]
    exact isZero_of_isZero_scale h hs
  · exact Or.inr (le_peak_normalize_of_audible h ha ((value_scale_pos_iff v).mpr hs))

namespace Signature

variable {config : Config Float}

/-- Slots whose words occur are heard in the signature. -/
theorem le_peak_ofLower_of_occursAny (h : config.Accepted) (hm : config.features.Moderate)
    (lower : String) {i : ℕ} (hi : i < 10) {slot : Slot Float}
    (hs : config.features.slots[i]? = some slot) (ho : Text.occursAny slot.words lower = true) :
    0.3 ≤ peak (ofLower config.features lower).toList := by
  have hmem := List.mem_of_getElem? hs
  have hw₀ := (h.slotWeight hmem).2
  have hwi := slotWeights_of_occursAny config.features lower hi hs ho
  have hpos : 0 < value (slotWeights config.features lower)[i] := by
    rw [hwi, value_zero_add hw₀]
    exact epsilon_pos.trans_le ((le_iff _ _).mp (hm.weight slot hmem).1).2.2
  have hnonneg : ∀ x ∈ (slotWeights config.features lower).toList, 0 ≤ x :=
    fun x hx => zero_le_slotWeights h lower hx
  have hall : ∀ x ∈ (addCodes config.features lower (slotWeights config.features lower)).toList,
      0 ≤ x := fun x hx => zero_le_addCodes h lower hnonneg hx
  have hzero : (slotWeights config.features lower).isZero = false := by
    rw [← Bool.not_eq_true]
    intro hz
    have hzi := Vector.all_eq_true'.mp hz _ (Vector.getElem_mem hi)
    exact hpos.ne' ((isZero_iff _).mp hzi).2
  have hle : (slotWeights config.features lower)[i] ≤
      (addCodes config.features lower (slotWeights config.features lower))[i] := by
    have hwi₀ := hnonneg (slotWeights config.features lower)[i] (by simp)
    rw [addCodes, Vector.getElem_mapFinIdx]
    split
    · exact le_add_right hwi₀ (zero_le_code_div h _)
    · exact Binary64.le_refl (defined_of_zero_le hwi₀)
  have hscale := Binary64.le_trans hle (SlotVector.le_scale hall (by simp))
  unfold ofLower
  simp only [hzero, Bool.false_and, Bool.false_eq_true, if_false]
  exact SlotVector.le_peak_normalize_of_audible hall (fun x hx => addCodes_moderate h hm lower hx)
    (hpos.trans_le ((le_iff _ _).mp hscale).2.2)

/-- The signature of a text is zero, or large somewhere. -/
theorem isZero_or_le_peak_ofLower (h : config.Accepted) (hm : config.features.Moderate)
    (lower : String) :
    (ofLower config.features lower).isZero = true ∨
      0.3 ≤ peak (ofLower config.features lower).toList := by
  unfold ofLower
  dsimp only
  split_ifs with hz
  · exact Or.inl (Bool.and_eq_true_iff.mp hz).1
  · exact SlotVector.isZero_or_le_peak_normalize
      (fun x hx => zero_le_addCodes h lower (fun y hy => zero_le_slotWeights h lower hy) hx)
      (fun x hx => addCodes_moderate h hm lower hx)

end Signature

namespace BridgeSettings

/-- A large component keeps the low-signal rule from firing. -/
theorem rule?_ne_lowSignal (b : BridgeSettings Float) (reference : SlotVector Float)
    (lower : String) {signature : SlotVector Float} (scores : Scores Float)
    (h : b.lowSignalMax ≤ peak signature.toList) :
    b.rule? reference lower signature scores ≠ some .lowSignal := by
  intro hr
  have hholds := List.find?_some hr
  have hlt : ¬peak signature.toList < b.lowSignalMax := fun hlt =>
    not_lt.mpr ((le_iff _ _).mp h).2.2 ((lt_iff _ _).mp hlt).2.2
  simp [holds, hlt] at hholds

end BridgeSettings

namespace Config

variable {config : Config Float}

/-- Keywords are heard in the signature: every table of keywords is that of a slot. -/
def KeywordsInSlots (config : Config Float) : Prop :=
  ∀ table ∈ config.evidence.lexical, ∃ i < 10, ∃ slot,
    config.features.slots[i]? = some slot ∧ slot.words = table.words

/-- A text that does not lack a signal has a large component in its signature. -/
theorem le_peak_ofLower_of_signal (h : config.Accepted) (hm : config.features.Moderate)
    (hk : config.KeywordsInSlots) {lower : String}
    (hl : ¬config.lacksSignal lower (Signature.ofLower config.features lower) = true) :
    0.3 ≤ peak (Signature.ofLower config.features lower).toList := by
  refine (Signature.isZero_or_le_peak_ofLower h hm lower).resolve_left fun hz => ?_
  -- the signature is zero, so a keyword occurs, and its slot is heard
  have hw : Evidence.hasWords config.evidence lower = true := by
    simpa [lacksSignal, hz] using hl
  obtain ⟨table, ht, ho⟩ := List.any_eq_true.mp hw
  obtain ⟨i, hi, slot, hs, hwords⟩ := hk table ht
  have hle := Signature.le_peak_ofLower_of_occursAny h hm lower hi hs (hwords ▸ ho)
  have hpeak := SlotVector.value_peak_of_isZero hz
  have hpos := ((le_iff _ _).mp hle).2.2
  have hbound : 0 < value 0.3 := value_pos (by decide +kernel)
  linarith

/-- Under such settings the signature of a text does not let the low-signal rule fire, whatever has been
learnt. -/
theorem decision_rule_ne_lowSignal (h : config.Accepted) (hm : config.features.Moderate)
    (hk : config.KeywordsInSlots) (hb : config.bridge.lowSignalMax ≤ 0.3)
    (matrix : SlotMatrix Float) (gates : Gates Float) (mass : Scores Float) (lower : String) :
    (config.decision matrix gates mass lower (Signature.ofLower config.features lower)).value.rule ≠
      some .lowSignal := by
  rw [decision_rule, finalScores_rule]
  split_ifs with hl
  · simp
  · exact config.bridge.rule?_ne_lowSignal _ lower _
      (Binary64.le_trans hb (le_peak_ofLower_of_signal h hm hk hl))

theorem default_moderate : (Config.default : Config Float).features.Moderate := by
  constructor
  · have hw : (Config.default : Config Float).features.slots.all (fun slot =>
        decide (epsilon ≤ slot.weight) && decide (slot.weight ≤ 1e6)) = true := by decide +kernel
    intro slot hs
    simpa using List.all_eq_true.mp hw slot hs
  · decide +kernel

theorem default_keywordsInSlots : (Config.default : Config Float).KeywordsInSlots := by
  intro table ht
  simp only [Config.default, Default.evidence, List.mem_cons, List.not_mem_nil, or_false] at ht
  rcases ht with rfl | rfl | rfl | rfl | rfl | rfl | rfl
  · exact ⟨0, by decide, _, rfl, rfl⟩
  · exact ⟨1, by decide, _, rfl, rfl⟩
  · exact ⟨2, by decide, _, rfl, rfl⟩
  · exact ⟨3, by decide, _, rfl, rfl⟩
  · exact ⟨5, by decide, _, rfl, rfl⟩
  · exact ⟨6, by decide, _, rfl, rfl⟩
  · exact ⟨7, by decide, _, rfl, rfl⟩

/-- Under the default settings the low-signal rule is left to signatures that a caller gives: no text
fires it by its own signature, whatever has been learnt, and some text does with no signature at all. -/
theorem lowSignal_by_given_signature_only :
    (∀ cls, Classifier.Reachable (Config.default : Config Float) cls → ∀ text, ∃ d,
      (cls.perform (.classify text)).value.1 = .decided d ∧ d.rule ≠ some .lowSignal) ∧
    ∃ text signature d,
      ((Classifier.ofConfig (Config.default : Config Float)).perform
        (.classifyWith text signature)).value.1 = .decided d ∧ d.rule = some .lowSignal := by
  constructor
  · intro cls hr text
    refine ⟨_, (hr.decided_iff (.classify text) _).mpr ⟨_, _, rfl, rfl⟩, ?_⟩
    exact decision_rule_ne_lowSignal default_accepted default_moderate default_keywordsInSlots
      (by decide +kernel) cls.matrix cls.gates cls.mass (Text.lower text)
  · have hq : (Operation.classifyWith "good morning greetings" (List.replicate 10 0)).question?
        (Config.default : Config Float) =
          some (Text.lower "good morning greetings", SlotVector.zero) := by
      decide +kernel
    refine ⟨_, _, _, (Classifier.perform_eq_decided_iff _ _ _).mpr ⟨_, _, hq, rfl⟩, ?_⟩
    decide +kernel

/-- A fresh classifier answers a greeting, and not by the low-signal rule. -/
theorem hello_rule_ne_lowSignal :
    Classifier.Reachable (Config.default : Config Float) (.ofConfig Config.default) ∧
      ∃ d, ((Classifier.ofConfig (Config.default : Config Float)).perform
        (.classify "hello")).value.1 = .decided d ∧ d.rule ≠ some .lowSignal :=
  ⟨⟨[], rfl⟩, lowSignal_by_given_signature_only.1 _ ⟨[], rfl⟩ "hello"⟩

end Config
end TextIntent

import TextIntent.Proofs.Binary64.UnitInterval
import TextIntent.Proofs.Classifier.Run
import TextIntent.Proofs.Config.Accepted
import TextIntent.Proofs.Signature.Components

/-! Signatures in doubles. A component is a number from zero to one or, when a scale so small that codes
become infinite has spoilt the whole signature, undefined. -/
namespace TextIntent

open Scalar Binary64

theorem isZero_iff (x : Float) : Scalar.isZero x = true ↔ Defined x ∧ value x = 0 := by
  simp only [Scalar.isZero, Bool.and_eq_true, decide_eq_true_eq, le_iff, isNearest_zero.1,
    value_zero, true_and]
  constructor
  · rintro ⟨⟨hd, hle⟩, -, hge⟩
    exact ⟨hd, le_antisymm hle hge⟩
  · rintro ⟨hd, hv⟩
    exact ⟨⟨hd, hv.le⟩, hd, hv.ge⟩

theorem value_scalarAbs (x : Float) : value (Scalar.abs x) = |value x| := value_abs x

section Peak

theorem le_larger {x y : Float} (hx : Defined x) :
    Defined (larger x y) ∧ value x ≤ value (larger x y) ∧
      (Defined y → value y ≤ value (larger x y)) := by
  have hn : Scalar.isNaN x = false := (isNaN_eq_false_iff x).mpr hx
  unfold larger
  rw [hn, if_neg (by simp)]
  split_ifs with h
  · obtain ⟨-, hy, hlt⟩ := (lt_iff x y).mp h
    exact ⟨hy, hlt.le, fun _ => le_rfl⟩
  · exact ⟨hx, le_rfl, fun hy => ((le_iff _ _).mp (Binary64.le_of_not_lt hx hy h)).2.2⟩

/-- The peak is defined and not below zero or a defined value. -/
theorem le_peak (xs : List Float) :
    0 ≤ peak xs ∧ ∀ x ∈ xs, Defined x → value x ≤ value (peak xs) := by
  induction xs using List.reverseRecOn with
  | nil => exact ⟨zero_le_zero, by simp⟩
  | append_singleton xs x ih =>
    obtain ⟨h₀, hle⟩ := ih
    rw [peak_concat]
    obtain ⟨hd, hp, hx⟩ := le_larger (y := x) (defined_of_zero_le h₀)
    refine ⟨(zero_le_iff _).mpr ⟨hd, (value_nonneg h₀).trans hp⟩, fun y hy hyd => ?_⟩
    rcases List.mem_append.mp hy with hy | hy
    · exact (hle y hy hyd).trans hp
    · rw [List.mem_singleton.mp hy] at hyd ⊢
      exact hx hyd

/-- The peak is zero or one of the values. -/
theorem peak_mem (xs : List Float) : peak xs = 0 ∨ peak xs ∈ xs := by
  induction xs using List.reverseRecOn with
  | nil => exact Or.inl rfl
  | append_singleton xs x ih =>
    rw [peak_concat]
    unfold larger
    split_ifs
    · simp
    · simp
    · rcases ih with h | h
      · exact Or.inl h
      · exact Or.inr (List.mem_append_left _ h)

end Peak

namespace SlotVector

/-- The largest absolute value of a component. -/
def scale (v : SlotVector Float) : Float := peak (v.toList.map Scalar.abs)

/-- The squares of the components after a division by the scale. -/
def squares (v : SlotVector Float) : List Float :=
  v.toList.map fun x => x / v.scale * (x / v.scale)

/-- The length after a division by the scale. -/
def scaledNorm (v : SlotVector Float) : Float := Scalar.sqrt (sum v.squares)

theorem normalize_eq (v : SlotVector Float) :
    v.normalize = if Scalar.isZero v.scale then v
      else if v.scale * v.scaledNorm < epsilon then v
      else v.map fun x => x / v.scale / v.scaledNorm := rfl

variable {v : SlotVector Float}

theorem le_scale (h : ∀ x ∈ v.toList, 0 ≤ x) {x : Float} (hx : x ∈ v.toList) : x ≤ v.scale := by
  obtain ⟨hp₀, hle⟩ := le_peak (v.toList.map Scalar.abs)
  have hd := defined_of_zero_le (h x hx)
  have hx' := hle (Scalar.abs x) (List.mem_map_of_mem hx) ((defined_abs_iff x).mpr hd)
  refine (le_iff _ _).mpr ⟨hd, defined_of_zero_le hp₀, ?_⟩
  rw [value_scalarAbs, abs_of_nonneg (value_nonneg (h x hx))] at hx'
  exact hx'

/-- The largest component, if it is not zero. -/
theorem exists_eq_scale (h : ∀ x ∈ v.toList, 0 ≤ x) (hpos : 0 < value v.scale) :
    ∃ x ∈ v.toList, value x = value v.scale := by
  have hmem := (peak_mem (v.toList.map Scalar.abs)).resolve_left fun hz => by
    change 0 < value (peak (v.toList.map Scalar.abs)) at hpos
    rw [hz] at hpos
    exact lt_irrefl _ (value_zero ▸ hpos)
  obtain ⟨x, hx, he⟩ := List.mem_map.mp hmem
  have habs := value_scalarAbs x
  rw [he, abs_of_nonneg (value_nonneg (h x hx))] at habs
  exact ⟨x, hx, habs.symm⟩

theorem zero_le_scale (v : SlotVector Float) : 0 ≤ v.scale := (le_peak _).1

theorem value_scale_pos_iff (v : SlotVector Float) :
    0 < value v.scale ↔ ¬Scalar.isZero v.scale = true := by
  have h₀ := zero_le_scale v
  rw [isZero_iff, (value_nonneg h₀).lt_iff_ne', ne_eq]
  simp [defined_of_zero_le h₀]

theorem isFinite_scale_of_isFinite (h : ∀ x ∈ v.toList, 0 ≤ x)
    (hf : ∀ x ∈ v.toList, x.isFinite = true) (hpos : 0 < value v.scale) :
    v.scale.isFinite = true := by
  obtain ⟨x, hx, he⟩ := exists_eq_scale h hpos
  have hs₀ := zero_le_scale v
  exact isFinite_of_le hs₀ ((le_iff _ _).mpr ⟨defined_of_zero_le hs₀, defined_of_zero_le (h x hx),
    he.ge⟩) (hf x hx)

theorem isZero_of_isZero_scale (h : ∀ x ∈ v.toList, 0 ≤ x) (hz : Scalar.isZero v.scale = true) :
    v.isZero = true := by
  refine Vector.all_eq_true'.mpr fun x hx => ?_
  have hx' := Vector.mem_toList_iff.mpr hx
  have hle := ((le_iff _ _).mp (le_scale h hx')).2.2
  rw [((isZero_iff _).mp hz).2] at hle
  exact (isZero_iff x).mpr ⟨defined_of_zero_le (h x hx'), le_antisymm hle (value_nonneg (h x hx'))⟩

theorem value_peak_of_isZero (h : v.isZero = true) : value (peak v.toList) = 0 := by
  rcases peak_mem v.toList with hp | hp
  · rw [hp, value_zero]
  · have hz := Vector.all_eq_true'.mp h _ (Vector.mem_toList_iff.mp hp)
    exact ((isZero_iff _).mp hz).2

/-- There is nothing to scale in a vector of zeros. -/
theorem normalize_of_isZero (h : v.isZero = true) : v.normalize = v := by
  have hs : value v.scale = 0 := by
    rcases peak_mem (v.toList.map Scalar.abs) with hp | hp
    · exact (congrArg value hp).trans value_zero
    · obtain ⟨x, hx, he⟩ := List.mem_map.mp hp
      have hx0 := ((isZero_iff x).mp (Vector.all_eq_true'.mp h x (Vector.mem_toList_iff.mp hx))).2
      have habs := value_scalarAbs x
      rw [he, hx0, abs_zero] at habs
      exact habs
  rw [normalize_eq, if_pos ((isZero_iff _).mpr ⟨defined_of_zero_le (zero_le_scale v), hs⟩)]

/-- If the length after division is defined, then nothing was infinite. -/
theorem isFinite_scale (h : ∀ x ∈ v.toList, 0 ≤ x) (hpos : 0 < value v.scale)
    (hd : Defined v.scaledNorm) : v.scale.isFinite = true := by
  have h₀ := zero_le_scale v
  refine (isFinite_or_infinity (defined_of_zero_le h₀) (value_nonneg h₀)).resolve_right fun hi => ?_
  obtain ⟨x, hx, he⟩ := exists_eq_scale h hpos
  have hxi : x.toModel.unpack = .infinity .positive := by
    refine (isFinite_or_infinity (defined_of_zero_le (h x hx))
      (value_nonneg (h x hx))).resolve_left fun hf => ?_
    have hl := ((isFinite_iff x).mp hf).2
    rw [he, value, hi, unpackedValue_infinity, signed_positive, abs_of_pos limit_pos] at hl
    exact lt_irrefl _ hl
  have hterm := defined_of_sum (defined_of_sqrt hd) (List.mem_map_of_mem hx)
  exact not_defined_div_of_infinity hxi hi (defined_of_mul hterm).1

theorem inUnit_div_scale (h : ∀ x ∈ v.toList, 0 ≤ x) (hpos : 0 < value v.scale)
    (hf : v.scale.isFinite = true) {x : Float} (hx : x ∈ v.toList) : InUnit (x / v.scale) :=
  InUnit.div (h x hx) (le_scale h hx) hf hpos

theorem inUnit_squares (h : ∀ x ∈ v.toList, 0 ≤ x) (hpos : 0 < value v.scale)
    (hf : v.scale.isFinite = true) : ∀ y ∈ v.squares, InUnit y := by
  intro y hy
  obtain ⟨x, hx, rfl⟩ := List.mem_map.mp hy
  exact (inUnit_div_scale h hpos hf hx).mul (inUnit_div_scale h hpos hf hx)

/-- Ten squares of at most one each. -/
theorem sum_squares_le (h : ∀ x ∈ v.toList, 0 ≤ x) (hpos : 0 < value v.scale)
    (hf : v.scale.isFinite = true) : sum v.squares ≤ 10.0 := by
  have hle := sum_map_le_sum_map v.squares (f := id) (g := fun _ => 1) (inUnit_squares h hpos hf)
  have hten : sum (List.replicate 10 (1 : Float)) = 10.0 := by decide +kernel
  rwa [List.map_id, List.map_const', squares, List.length_map, Vector.length_toList, hten] at hle

theorem isFinite_sum_squares (h : ∀ x ∈ v.toList, 0 ≤ x) (hpos : 0 < value v.scale)
    (hf : v.scale.isFinite = true) : (sum v.squares).isFinite = true :=
  isFinite_of_le (zero_le_sum fun y hy => (inUnit_squares h hpos hf y hy).1)
    (sum_squares_le h hpos hf) rfl

/-- The largest component is divided by itself, without rounding. -/
theorem exists_div_scale_eq_one (h : ∀ x ∈ v.toList, 0 ≤ x) (hpos : 0 < value v.scale)
    (hf : v.scale.isFinite = true) : ∃ x ∈ v.toList, value (x / v.scale) = 1 := by
  obtain ⟨x, hx, he⟩ := exists_eq_scale h hpos
  have hq := isNearest_div (isFinite_of_le (h x hx) (le_scale h hx) hf) hf hpos.ne'
  rw [he, div_self hpos.ne'] at hq
  refine ⟨x, hx, ?_⟩
  rw [hq.2, ← value_one, rounded_value]

theorem one_le_sum_squares (h : ∀ x ∈ v.toList, 0 ≤ x) (hpos : 0 < value v.scale)
    (hf : v.scale.isFinite = true) : 1 ≤ value (sum v.squares) := by
  obtain ⟨x, hx, hq⟩ := exists_div_scale_eq_one h hpos hf
  have hfin := (inUnit_div_scale h hpos hf hx).isFinite
  have hsq := isNearest_mul hfin hfin
  rw [hq, mul_one] at hsq
  have hsq1 : value (x / v.scale * (x / v.scale)) = 1 := by
    rw [hsq.2, ← value_one, rounded_value]
  have hmem : x / v.scale * (x / v.scale) ∈ v.squares := List.mem_map_of_mem hx
  have hle := le_sum (fun y hy => (inUnit_squares h hpos hf y hy).1) hmem
  rw [← hsq1]
  exact ((le_iff _ _).mp hle).2.2

/-- The length after division is at least that of the largest component. -/
theorem one_le_scaledNorm (h : ∀ x ∈ v.toList, 0 ≤ x) (hpos : 0 < value v.scale)
    (hf : v.scale.isFinite = true) :
    v.scaledNorm.isFinite = true ∧ 1 ≤ value v.scaledNorm := by
  have hsumf := isFinite_sum_squares h hpos hf
  have hone := one_le_sum_squares h hpos hf
  have hsum₀ : 0 ≤ value (sum v.squares) := by linarith
  have hs := isNearest_sqrt hsumf hsum₀
  refine ⟨hs.isFinite hsumf ?_, ?_⟩
  · rw [abs_of_nonneg (Real.sqrt_nonneg _), abs_of_nonneg hsum₀,
      Real.sqrt_le_left hsum₀]
    nlinarith
  · rw [← value_one]
    exact hs.le_value (by rw [value_one]; exact Real.one_le_sqrt.mpr hone)

/-- What a component is scaled to. -/
theorem inUnit_div_scaledNorm (h : ∀ x ∈ v.toList, 0 ≤ x) (hpos : 0 < value v.scale)
    (hf : v.scale.isFinite = true) {x : Float} (hx : x ∈ v.toList) :
    InUnit (x / v.scale / v.scaledNorm) := by
  obtain ⟨hnf, hn⟩ := one_le_scaledNorm h hpos hf
  have hq := inUnit_div_scale h hpos hf hx
  obtain ⟨hqd, -, hq1⟩ := (inUnit_iff _).mp hq
  exact InUnit.div hq.1 ((le_iff _ _).mpr ⟨hqd, Defined.of_isFinite hnf, hq1.trans hn⟩) hnf
    (by linarith)

/-- The length after division is at most that of ten ones. -/
theorem scaledNorm_le (h : ∀ x ∈ v.toList, 0 ≤ x) (hpos : 0 < value v.scale)
    (hf : v.scale.isFinite = true) : value v.scaledNorm ≤ 13 / 4 := by
  have hsum := ((le_iff _ _).mp (sum_squares_le h hpos hf)).2.2
  rw [value_ten] at hsum
  have hbound : value 3.25 = 13 / 4 := by
    have hu : (3.25 : Float).toModel.unpack =
        .finite .positive (13 * 2 ^ 49) (-51) (by norm_num) := by rfl
    rw [value_of_unpack_positive hu]
    norm_num
  have hs := isNearest_sqrt (isFinite_sum_squares h hpos hf)
    (zero_le_one.trans (one_le_sum_squares h hpos hf))
  rw [← hbound]
  refine hs.value_le ?_
  rw [hbound, Real.sqrt_le_left (by norm_num)]
  exact hsum.trans (by norm_num)

/-- The largest component of a vector that has been scaled to unit length. -/
theorem le_peak_normalize (h : ∀ x ∈ v.toList, 0 ≤ x) (hpos : 0 < value v.scale)
    (hf : v.scale.isFinite = true) (hlt : ¬v.scale * v.scaledNorm < Scalar.epsilon) :
    0.3 ≤ peak v.normalize.toList := by
  obtain ⟨x, hx, hq⟩ := exists_div_scale_eq_one h hpos hf
  obtain ⟨hnf, hn⟩ := one_le_scaledNorm h hpos hf
  have hr := isNearest_div (inUnit_div_scale h hpos hf hx).isFinite hnf (by linarith)
  rw [hq] at hr
  have hbound : value 0.3 = 5404319552844595 / 2 ^ 54 := by
    have hu : (0.3 : Float).toModel.unpack =
        .finite .positive 5404319552844595 (-54) (by norm_num) := by rfl
    rw [value_of_unpack_positive hu, zpow_neg]
    norm_cast
  -- one, divided by a length of at most 13 / 4
  have hle : value 0.3 ≤ value (x / v.scale / v.scaledNorm) := by
    refine hr.le_value ?_
    rw [hbound, le_div_iff₀ (by linarith)]
    have := scaledNorm_le h hpos hf
    linarith
  have hmem : x / v.scale / v.scaledNorm ∈ v.normalize.toList := by
    rw [normalize_eq, if_neg ((value_scale_pos_iff v).mp hpos), if_neg hlt, Vector.toList_map]
    exact List.mem_map_of_mem hx
  obtain ⟨hp₀, hp⟩ := le_peak v.normalize.toList
  exact (le_iff _ _).mpr ⟨Defined.of_isFinite rfl, defined_of_zero_le hp₀,
    hle.trans (hp _ hmem hr.1)⟩

/-- Scaled vectors stay in the unit interval, or become undefined. -/
theorem inUnit_normalize (h : ∀ x ∈ v.toList, 0 ≤ x) {x : Float} (hx : x ∈ v.normalize.toList)
    (hd : Defined x) : InUnit x := by
  rw [normalize_eq] at hx
  by_cases hz : Scalar.isZero v.scale = true
  · -- all components are zero
    rw [if_pos hz] at hx
    simp only [Scalar.isZero, Bool.and_eq_true, decide_eq_true_eq] at hz
    exact ⟨h x hx, Binary64.le_trans (le_scale h hx)
      (Binary64.le_trans hz.1 Binary64.zero_le_one)⟩
  have hpos := (value_scale_pos_iff v).mpr hz
  rw [if_neg hz] at hx
  by_cases hlt : v.scale * v.scaledNorm < Scalar.epsilon
  · rw [if_pos hlt] at hx
    obtain ⟨hdm, -, hv⟩ := (lt_iff _ _).mp hlt
    have hf := isFinite_scale h hpos (defined_of_mul hdm).2
    obtain ⟨hnf, hn⟩ := one_le_scaledNorm h hpos hf
    have hge := (isNearest_mul hf hnf).le_value (le_mul_of_one_le_right hpos.le hn)
    have hsmall := epsilon_lt_one
    have hxs := ((le_iff _ _).mp (le_scale h hx)).2.2
    exact (inUnit_iff x).mpr ⟨defined_of_zero_le (h x hx), value_nonneg (h x hx), by linarith⟩
  · rw [if_neg hlt, Vector.toList_map] at hx
    obtain ⟨y, hy, rfl⟩ := List.mem_map.mp hx
    have hf := isFinite_scale h hpos (defined_of_div hd).2
    exact inUnit_div_scaledNorm h hpos hf hy

end SlotVector

namespace Signature

theorem toList_of_ofList? {xs : List Float} {v : SlotVector Float}
    (h : SlotVector.ofList? xs = some v) : v.toList = xs := by
  unfold SlotVector.ofList? at h
  split_ifs at h
  cases h
  rfl

/-- Signatures of a caller. -/
theorem inUnit_ofList {xs : List Float} {v : SlotVector Float}
    (h : (ofList xs).run.value = .ok v) {x : Float} (hx : x ∈ v.toList) (hd : Defined x) :
    InUnit x := by
  obtain ⟨w, hw, hall, rfl⟩ := (ofList_eq_ok_iff xs v).mp h
  refine SlotVector.inUnit_normalize (fun y hy => ?_) hx hd
  rw [toList_of_ofList? hw] at hy
  obtain ⟨hf, hn⟩ := hall y hy
  exact Binary64.le_of_not_lt (Defined.of_isFinite hf) isNearest_zero.1 hn

theorem zero_le_slotWeights {config : Config Float} (h : config.Accepted) (lower : String)
    {x : Float} (hx : x ∈ (slotWeights config.features lower).toList) : 0 ≤ x :=
  forall_slotWeights zero_le_zero
    (fun _ hs => zero_le_add zero_le_zero (h.slotWeight hs).2) lower x hx

/-- The share of a character is rounded once. It is infinite if the scale is too small. -/
theorem isNearest_code_div {f : FeatureSettings Float} (hf : f.charScale.isFinite = true)
    (hpos : 0 < value f.charScale) (c : Char) :
    IsNearest ((c.toNat : Float) / f.charScale) (c.toNat / value f.charScale) := by
  have hlt : c.toNat < 2 ^ 53 := by
    have := c.val.toNat_lt
    change c.val.toNat < _
    omega
  have hq := isNearest_div (isFinite_natCast hlt) hf hpos.ne'
  rwa [value_natCast hlt] at hq

theorem zero_le_code_div {config : Config Float} (h : config.Accepted) (c : Char) :
    0 ≤ (c.toNat : Float) / config.features.charScale := by
  obtain ⟨hf, hpos⟩ := h.charScale
  have hp := value_pos hpos
  have hq := isNearest_code_div hf hp c
  exact (zero_le_iff _).mpr ⟨hq.1, hq.nonneg (div_nonneg (Nat.cast_nonneg _) hp.le)⟩

theorem zero_le_addCodes {config : Config Float} (h : config.Accepted) (lower : String)
    {v : SlotVector Float} (hv : ∀ x ∈ v.toList, 0 ≤ x) {x : Float}
    (hx : x ∈ (addCodes config.features lower v).toList) : 0 ≤ x :=
  forall_addCodes hv (fun _ hx => hx)
    (fun _ c hx => zero_le_add hx (zero_le_code_div h c)) lower x hx

theorem zero_le_unscaled {config : Config Float} (h : config.Accepted) (lower : String) :
    ∀ x ∈ (unscaled config.features lower).toList, 0 ≤ x :=
  forall_unscaled zero_le_zero (fun _ hs => zero_le_add zero_le_zero (h.slotWeight hs).2)
    (fun _ c hx => zero_le_add hx (zero_le_code_div h c)) lower

theorem ofLower_eq_normalize (f : FeatureSettings Float) (lower : String) :
    ofLower f lower = (unscaled f lower).normalize :=
  ofLower_eq (fun _ => SlotVector.normalize_of_isZero) f lower

/-- Signatures of a text. -/
theorem inUnit_ofLower {config : Config Float} (h : config.Accepted) (lower : String) {x : Float}
    (hx : x ∈ (ofLower config.features lower).toList) (hd : Defined x) : InUnit x := by
  rw [ofLower_eq_normalize] at hx
  exact SlotVector.inUnit_normalize (zero_le_unscaled h lower) hx hd

end Signature
end TextIntent

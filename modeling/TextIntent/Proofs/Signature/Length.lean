import TextIntent.Proofs.Real.Norm
import TextIntent.Proofs.Scores.Distribution
import TextIntent.Proofs.Signature

/-! The length of a scaled vector. Scaling divides by a largest component, squares, sums, takes a root and
divides by that; between these steps all numbers lie from zero to ten, so each rounding is off by next to
nothing, and so is the length of the outcome. -/
namespace TextIntent

open Scalar Binary64

namespace Binary64

/-- The error of a rounded result that is not large. -/
theorem IsNearest.abs_sub_le_of_le_ten {x : Float} {r : ℝ} (h : IsNearest x r)
    (hx : x.isFinite = true) (hr : |r| ≤ 10) : |value x - r| ≤ 1 / 2 ^ 48 := by
  have he := h.abs_sub_le hx
  have ht := PerCategory.tiny_le
  have hε := epsilon_lt_one
  generalize (2 : ℝ) ^ leastExponent = d at *
  linarith

theorem InUnit.abs_sub_le {x : Float} {r : ℝ} (h : InUnit x) (hn : IsNearest x r) (h₀ : 0 ≤ r)
    (h₁ : r ≤ 1) : |value x - r| ≤ 1 / 2 ^ 48 :=
  hn.abs_sub_le_of_le_ten h.isFinite (by rw [abs_of_nonneg h₀]; linarith)

end Binary64

/-- Squares of close numbers between zero and one. -/
theorem abs_sq_sub_sq_le {x y u : ℝ} (hx₀ : 0 ≤ x) (hx : x ≤ 1) (hy₀ : 0 ≤ y) (hy : y ≤ 1)
    (h : |x - y| ≤ u) : |x ^ 2 - y ^ 2| ≤ 2 * u := by
  rw [sq_sub_sq, abs_mul, abs_of_nonneg (add_nonneg hx₀ hy₀)]
  calc (x + y) * |x - y| ≤ 2 * |x - y| :=
        mul_le_mul_of_nonneg_right (by linarith) (abs_nonneg _)
    _ ≤ 2 * u := by linarith

/-- A root near one. -/
theorem abs_sqrt_sub_one_le {t : ℝ} (ht : 0 ≤ t) : |√t - 1| ≤ |t - 1| := by
  have h₀ := Real.sqrt_nonneg t
  have he : t - 1 = (√t - 1) * (√t + 1) := by
    nlinarith [Real.mul_self_sqrt ht]
  rw [he, abs_mul, abs_of_pos (by linarith : 0 < √t + 1)]
  exact le_mul_of_one_le_right (abs_nonneg _) (by linarith)

namespace SlotVector

/-- The sum of the squares of what the components stand for. -/
noncomputable def sumSq (v : SlotVector Float) : ℝ := (v.toList.map fun x => value x ^ 2).sum

/-- The length of a vector, without rounding. -/
noncomputable def exactNorm (v : SlotVector Float) : ℝ := norm (v.map value)

theorem exactNorm_eq (v : SlotVector Float) : v.exactNorm = √v.sumSq := by
  rw [exactNorm, norm, Vector.toList_map, List.map_map]
  rfl

theorem sumSq_nonneg (v : SlotVector Float) : 0 ≤ v.sumSq := by
  refine List.sum_nonneg fun y hy => ?_
  obtain ⟨x, -, rfl⟩ := List.mem_map.mp hy
  exact sq_nonneg _

/-- Sums over the components, term by term with the same error. -/
theorem abs_sum_sub_sum_le (v : SlotVector Float) {f g : Float → ℝ} {u : ℝ}
    (h : ∀ x ∈ v.toList, |f x - g x| ≤ u) :
    |(v.toList.map f).sum - (v.toList.map g).sum| ≤ 10 * u := by
  have hsum := abs_sum_map_sub_le v.toList h
  rwa [List.map_const', List.sum_replicate, Vector.length_toList, nsmul_eq_mul] at hsum

/-- The sum of the squares of the rounded quotients by the scale. -/
noncomputable def quotientSum (v : SlotVector Float) : ℝ :=
  (v.toList.map fun x => value (x / v.scale) ^ 2).sum

/-- The outcome of scaling, for a vector that is not too short. -/
def rescaled (v : SlotVector Float) : SlotVector Float :=
  v.map fun x => x / v.scale / v.scaledNorm

section Rounding

/-! Vectors with something to scale. -/

variable {v : SlotVector Float} (h : ∀ x ∈ v.toList, 0 ≤ x) (hpos : 0 < value v.scale)
  (hf : v.scale.isFinite = true)

include h hpos hf

theorem abs_sum_squares_sub_le : |value (sum v.squares) - v.quotientSum| ≤ 18 / 2 ^ 48 := by
  have hunit := inUnit_squares h hpos hf
  have hterm := v.abs_sum_sub_sum_le (f := fun x => value (x / v.scale * (x / v.scale)))
    (g := fun x => value (x / v.scale) ^ 2) (u := 1 / 2 ^ 48) fun x hx => by
      have hq := inUnit_div_scale h hpos hf hx
      obtain ⟨-, h₀, h₁⟩ := (inUnit_iff _).mp hq
      rw [pow_two]
      exact (hq.mul hq).abs_sub_le (isNearest_mul hq.isFinite hq.isFinite) (mul_nonneg h₀ h₀)
        (mul_le_one₀ h₁ h₀ h₁)
  have hsum := abs_value_sum_sub_le (fun y hy => (hunit y hy).1) (isFinite_sum_squares h hpos hf)
  have hle := ((le_iff _ _).mp (sum_squares_le h hpos hf)).2.2
  have hlen : (v.squares.length : ℝ) = 10 := by simp [squares]
  have hmap : (v.squares.map value).sum =
      (v.toList.map fun x => value (x / v.scale * (x / v.scale))).sum := by
    rw [squares, List.map_map]
    rfl
  have ht := PerCategory.tiny_le
  have hε := epsilon_lt_one
  rw [value_ten] at hle
  rw [hlen, hmap] at hsum
  -- only the bound on the least exponent counts from here on
  generalize (2 : ℝ) ^ leastExponent = d at *
  calc |value (sum v.squares) - v.quotientSum|
      ≤ 10 * (value (sum v.squares) / 2 ^ 52 + d) + 10 * (1 / 2 ^ 48) :=
        (abs_sub_le _ _ _).trans (add_le_add hsum hterm)
    _ ≤ 18 / 2 ^ 48 := by linarith

/-- The square of the length after division. -/
theorem abs_scaledNorm_sq_sub_le : |value v.scaledNorm ^ 2 - v.quotientSum| ≤ 26 / 2 ^ 48 := by
  have hS₁ := one_le_sum_squares h hpos hf
  have hS₀ : 0 ≤ value (sum v.squares) := by linarith
  have hS := ((le_iff _ _).mp (sum_squares_le h hpos hf)).2.2
  rw [value_ten] at hS
  obtain ⟨hnf, hn⟩ := one_le_scaledNorm h hpos hf
  have hn' := scaledNorm_le h hpos hf
  have hroot₀ := Real.sqrt_nonneg (value (sum v.squares))
  have hroot : √(value (sum v.squares)) ≤ 4 := by
    rw [Real.sqrt_le_left (by norm_num)]
    linarith
  have hround := (isNearest_sqrt (isFinite_sum_squares h hpos hf) hS₀).abs_sub_le_of_le_ten hnf
    (by rw [abs_of_nonneg hroot₀]; linarith)
  have hsq : |value v.scaledNorm ^ 2 - value (sum v.squares)| ≤ 8 / 2 ^ 48 := by
    have he : value v.scaledNorm ^ 2 - value (sum v.squares) =
        (value v.scaledNorm + √(value (sum v.squares))) *
          (value v.scaledNorm - √(value (sum v.squares))) := by
      rw [← sq_sub_sq, Real.sq_sqrt hS₀]
    rw [he, abs_mul, abs_of_nonneg (by linarith)]
    calc (value v.scaledNorm + √(value (sum v.squares))) *
          |value v.scaledNorm - √(value (sum v.squares))|
        ≤ 8 * (1 / 2 ^ 48) := mul_le_mul (by linarith) hround (abs_nonneg _) (by norm_num)
      _ = 8 / 2 ^ 48 := by norm_num
  have hsum := abs_sum_squares_sub_le h hpos hf
  calc |value v.scaledNorm ^ 2 - v.quotientSum|
      ≤ |value v.scaledNorm ^ 2 - value (sum v.squares)| +
          |value (sum v.squares) - v.quotientSum| := abs_sub_le _ _ _
    _ ≤ 26 / 2 ^ 48 := by linarith

theorem abs_rescaled_sq_sub_le {x : Float} (hx : x ∈ v.toList) :
    |value (x / v.scale / v.scaledNorm) ^ 2 - (value (x / v.scale) / value v.scaledNorm) ^ 2| ≤
      2 * (1 / 2 ^ 48) := by
  have hq := inUnit_div_scale h hpos hf hx
  obtain ⟨-, hq₀, hq₁⟩ := (inUnit_iff _).mp hq
  obtain ⟨hnf, hn⟩ := one_le_scaledNorm h hpos hf
  have hw := inUnit_div_scaledNorm h hpos hf hx
  obtain ⟨-, hw₀, hw₁⟩ := (inUnit_iff _).mp hw
  have hr₀ : 0 ≤ value (x / v.scale) / value v.scaledNorm := div_nonneg hq₀ (by linarith)
  have hr₁ : value (x / v.scale) / value v.scaledNorm ≤ 1 :=
    (div_le_one (by linarith)).mpr (hq₁.trans hn)
  exact abs_sq_sub_sq_le hw₀ hw₁ hr₀ hr₁
    (hw.abs_sub_le (isNearest_div hq.isFinite hnf (by linarith)) hr₀ hr₁)

theorem abs_exactNorm_rescaled_sub_one_le : |v.rescaled.exactNorm - 1| ≤ 1e-9 := by
  have hn := (one_le_scaledNorm h hpos hf).2
  have hN : 1 ≤ value v.scaledNorm ^ 2 := one_le_pow₀ hn
  have hsum : v.rescaled.sumSq =
      (v.toList.map fun x => value (x / v.scale / v.scaledNorm) ^ 2).sum := by
    rw [sumSq, rescaled, Vector.toList_map, List.map_map]
    rfl
  have hround := v.abs_sum_sub_sum_le fun x hx => abs_rescaled_sq_sub_le h hpos hf hx
  rw [sum_map_div_sq, ← hsum, ← quotientSum] at hround
  have hone : |v.quotientSum / value v.scaledNorm ^ 2 - 1| ≤ 26 / 2 ^ 48 := by
    have he : v.quotientSum / value v.scaledNorm ^ 2 - 1 =
        (v.quotientSum - value v.scaledNorm ^ 2) / value v.scaledNorm ^ 2 := by
      field_simp
    rw [he, abs_div, abs_of_pos (by linarith : 0 < value v.scaledNorm ^ 2), abs_sub_comm]
    exact (div_le_self (abs_nonneg _) hN).trans (abs_scaledNorm_sq_sub_le h hpos hf)
  rw [exactNorm_eq]
  calc |√v.rescaled.sumSq - 1| ≤ |v.rescaled.sumSq - 1| := abs_sqrt_sub_one_le (sumSq_nonneg _)
    _ ≤ 10 * (2 * (1 / 2 ^ 48)) + 26 / 2 ^ 48 :=
        (abs_sub_le _ _ _).trans (add_le_add hround hone)
    _ ≤ 1e-9 := by norm_num

/-- The length of a vector in terms of the scale and the length after division. -/
theorem exactNorm_le : v.exactNorm ≤ value v.scale * value v.scaledNorm * (1 + 46 / 2 ^ 48) := by
  have hn := (one_le_scaledNorm h hpos hf).2
  have hN : 1 ≤ value v.scaledNorm ^ 2 := one_le_pow₀ hn
  have hround : |(v.toList.map fun x => (value x / value v.scale) ^ 2).sum - v.quotientSum| ≤
      10 * (2 * (1 / 2 ^ 48)) := v.abs_sum_sub_sum_le fun x hx => by
    have hxf := isFinite_of_le (h x hx) (le_scale h hx) hf
    have hq := inUnit_div_scale h hpos hf hx
    obtain ⟨-, hq₀, hq₁⟩ := (inUnit_iff _).mp hq
    have hr₀ : 0 ≤ value x / value v.scale := div_nonneg (value_nonneg (h x hx)) hpos.le
    have hr₁ : value x / value v.scale ≤ 1 :=
      (div_le_one hpos).mpr ((le_iff _ _).mp (le_scale h hx)).2.2
    rw [abs_sub_comm]
    exact abs_sq_sub_sq_le hq₀ hq₁ hr₀ hr₁
      (hq.abs_sub_le (isNearest_div hxf hf hpos.ne') hr₀ hr₁)
  rw [sum_map_div_sq, ← sumSq] at hround
  have hnorm := abs_scaledNorm_sq_sub_le h hpos hf
  have hsq : v.sumSq / value v.scale ^ 2 ≤ value v.scaledNorm ^ 2 * (1 + 46 / 2 ^ 48) ^ 2 := by
    have h₁ := (abs_le.mp hround).2
    have h₂ := (abs_le.mp hnorm).1
    -- the length after division is not below one, so an absolute error is a relative one
    nlinarith
  rw [exactNorm_eq, Real.sqrt_le_left (by positivity), mul_pow, mul_pow, mul_assoc,
    ← div_le_iff₀' (by positivity)]
  exact hsq

/-- A vector that is too short to be scaled. -/
theorem exactNorm_lt_of_lt (hlt : v.scale * v.scaledNorm < epsilon) :
    v.exactNorm < 1e-9 * (1 + 1e-9) := by
  have hnf := (one_le_scaledNorm h hpos hf).1
  have hprod : value v.scale * value v.scaledNorm < value epsilon := by
    by_contra hge
    have hv := (isNearest_mul hf hnf).le_value (not_lt.mp hge)
    exact not_lt.mpr hv ((lt_iff _ _).mp hlt).2.2
  calc v.exactNorm ≤ value v.scale * value v.scaledNorm * (1 + 46 / 2 ^ 48) :=
        exactNorm_le h hpos hf
    _ < value epsilon * (1 + 46 / 2 ^ 48) := mul_lt_mul_of_pos_right hprod (by norm_num)
    _ ≤ 1e-9 * (1 + 1e-9) := by
      rw [value_epsilon]
      norm_num

/-- Such a vector is kept, and its length is far from one. -/
theorem kept_of_lt (hlt : v.scale * v.scaledNorm < epsilon) :
    v.normalize = v ∧ ¬|v.exactNorm - 1| ≤ 1e-9 := by
  constructor
  · rw [normalize_eq, if_neg ((value_scale_pos_iff v).mp hpos), if_pos hlt]
  · intro hle
    have hlow := (abs_le.mp hle).1
    have hshort := exactNorm_lt_of_lt h hpos hf hlt
    norm_num at hlow hshort
    linarith

end Rounding

/-- What scaling may make of a vector: numbers from zero to one, of length one up to rounding. A vector of
zeros, and one that is shorter than `epsilon`, is left as it is. -/
structure ScaledFrom (raw v : SlotVector Float) : Prop where
  component : ∀ x ∈ v.toList, x.isFinite = true ∧ 0 ≤ x ∧ x ≤ 1
  length : |v.exactNorm - 1| ≤ 1e-9 ∨
    v = raw ∧ (v.isZero = true ∨ v.exactNorm < 1e-9 * (1 + 1e-9))

variable {v : SlotVector Float}

theorem defined_normalize (h : ∀ x ∈ v.toList, 0 ≤ x) (hfin : ∀ x ∈ v.toList, x.isFinite = true)
    {x : Float} (hx : x ∈ v.normalize.toList) : Defined x := by
  rw [normalize_eq] at hx
  split_ifs at hx with hz
  · exact Defined.of_isFinite (hfin x hx)
  · exact Defined.of_isFinite (hfin x hx)
  · have hpos := (value_scale_pos_iff v).mpr hz
    rw [Vector.toList_map] at hx
    obtain ⟨y, hy, rfl⟩ := List.mem_map.mp hx
    exact (inUnit_div_scaledNorm h hpos (isFinite_scale_of_isFinite h hfin hpos) hy).defined

theorem scaledFrom_normalize (h : ∀ x ∈ v.toList, 0 ≤ x)
    (hfin : ∀ x ∈ v.toList, x.isFinite = true) : ScaledFrom v v.normalize := by
  constructor
  · intro x hx
    have hu := inUnit_normalize h hx (defined_normalize h hfin hx)
    exact ⟨hu.isFinite, hu⟩
  · rw [normalize_eq]
    split_ifs with hz hlt
    · exact Or.inr ⟨rfl, Or.inl (isZero_of_isZero_scale h hz)⟩
    · have hpos := (value_scale_pos_iff v).mpr hz
      have hf := isFinite_scale_of_isFinite h hfin hpos
      exact Or.inr ⟨rfl, Or.inr (exactNorm_lt_of_lt h hpos hf hlt)⟩
    · have hpos := (value_scale_pos_iff v).mpr hz
      have hf := isFinite_scale_of_isFinite h hfin hpos
      exact Or.inl (abs_exactNorm_rescaled_sub_one_le h hpos hf)

end SlotVector

namespace Signature

/-- Signatures come from scaling: that of a text, as long as its weights and codes do not add up to
infinity, and every signature that a caller may give. -/
theorem ofText_and_ofList_scaled :
    (∀ config : Config Float, config.Accepted → ∀ text,
      (∀ x ∈ (unscaled config.features (Text.lower text)).toList, x.isFinite = true) →
        SlotVector.ScaledFrom (unscaled config.features (Text.lower text))
          (ofText config.features text)) ∧
    ∀ xs v, (ofList xs).run.value = .ok v →
      ∃ raw, SlotVector.ofList? xs = some raw ∧ SlotVector.ScaledFrom raw v := by
  constructor
  · intro config h text hfin
    rw [ofText, ofLower_eq_normalize]
    exact SlotVector.scaledFrom_normalize (zero_le_unscaled h _) hfin
  · intro xs v hv
    obtain ⟨raw, hraw, hall, rfl⟩ := (ofList_eq_ok_iff xs v).mp hv
    have hraw' := toList_of_ofList? hraw
    refine ⟨raw, hraw, SlotVector.scaledFrom_normalize (fun x hx => ?_) fun x hx => ?_⟩
    · obtain ⟨hf, hn⟩ := hall x (hraw' ▸ hx)
      exact Binary64.le_of_not_lt (Defined.of_isFinite hf) isNearest_zero.1 hn
    · exact (hall x (hraw' ▸ hx)).1

/-- The signature of a greeting, and one that a caller gives in other units. -/
theorem hello_and_three_four_scaled :
    (Config.default : Config Float).Accepted ∧
      (∀ x ∈ (unscaled (Config.default : Config Float).features (Text.lower "hello")).toList,
        x.isFinite = true) ∧
      SlotVector.ScaledFrom (unscaled Config.default.features (Text.lower "hello"))
        (ofText Config.default.features "hello") ∧
      ∃ v, (ofList (3 :: 4 :: List.replicate 8 (0 : Float))).run.value = .ok v ∧
        ∃ raw, SlotVector.ofList? (3 :: 4 :: List.replicate 8 (0 : Float)) = some raw ∧
          SlotVector.ScaledFrom raw v := by
  have hfin : ∀ x ∈ (unscaled (Config.default : Config Float).features
      (Text.lower "hello")).toList, x.isFinite = true := by decide +kernel
  have hok := (ofList_eq_ok_iff (3 :: 4 :: List.replicate 8 (0 : Float)) _).mpr
    ⟨_, rfl, by decide +kernel, rfl⟩
  exact ⟨Config.default_accepted, hfin,
    ofText_and_ofList_scaled.1 _ Config.default_accepted "hello" hfin,
    _, hok, ofText_and_ofList_scaled.2 _ _ hok⟩

/-- Characters count next to nothing. -/
def faintCodes : Config Float :=
  { Config.default with features := { Config.Default.features with charScale := 1e12 } }

/-- Signatures that are neither zero nor of length one: what they are made from is too small to be scaled,
in a text or in the numbers of a caller. -/
theorem faint_signature_kept :
    (faintCodes.Accepted ∧ ¬(ofText faintCodes.features "abc").isZero = true ∧
      ¬|(ofText faintCodes.features "abc").exactNorm - 1| ≤ 1e-9) ∧
    ∃ v, (ofList (1e-12 :: List.replicate 9 (0 : Float))).run.value = .ok v ∧
      ¬v.isZero = true ∧ ¬|v.exactNorm - 1| ≤ 1e-9 := by
  constructor
  · have haccepted : faintCodes.Accepted := by
      unfold Config.Accepted
      decide +kernel
    obtain ⟨hkept, hlength⟩ := SlotVector.kept_of_lt (zero_le_unscaled haccepted "abc")
      ((SlotVector.value_scale_pos_iff _).mpr (by decide +kernel)) (by decide +kernel)
      (by decide +kernel)
    have heq : ofText faintCodes.features "abc" = unscaled faintCodes.features "abc" :=
      (ofLower_eq_normalize _ _).trans hkept
    rw [heq]
    exact ⟨haccepted, by decide +kernel, hlength⟩
  · let w : SlotVector Float := ⟨(1e-12 :: List.replicate 9 (0 : Float)).toArray, rfl⟩
    obtain ⟨hkept, hlength⟩ := SlotVector.kept_of_lt (v := w) (by decide +kernel)
      ((SlotVector.value_scale_pos_iff w).mpr (by decide +kernel)) (by decide +kernel)
      (by decide +kernel)
    exact ⟨w, (ofList_eq_ok_iff _ w).mpr ⟨w, rfl, by decide +kernel, hkept.symm⟩,
      by decide +kernel, hlength⟩

end Signature
end TextIntent

import TextIntent.Proofs.Signature.Length

/-! Scaling of components of either sign. The length of a vector is that of its absolute values, so what is
known of vectors without negative components carries over. A vector of finite doubles is scaled to one with
components from minus one to one, none of which has changed its sign; and if a vector is rescaled, its largest
component stands out. -/
namespace TextIntent

open Scalar Binary64

namespace Binary64

variable {x y z : Float} {r : ℝ}

/-- A number from minus one to one. -/
def WithinOne (x : Float) : Prop := x.isFinite = true ∧ |value x| ≤ 1

/-- Rounding does not lead out of the interval, because both ends are doubles. -/
theorem IsNearest.withinOne (h : IsNearest x r) (hr : |r| ≤ 1) : WithinOne x := by
  rw [← abs_one, ← value_one] at hr
  have hle := h.abs_value_le hr
  rw [value_one, abs_one] at hle
  exact ⟨h.isFinite rfl hr, hle⟩

theorem WithinOne.bounds (h : WithinOne x) : -1 ≤ x ∧ x ≤ 1 := by
  have hminus : (-1 : Float).toModel.unpack = .finite .negative (2 ^ 52) (-52) (by norm_num) := by
    rfl
  have hvalue : value (-1) = -1 := by
    rw [value_of_unpack_finite hminus, signed]
    norm_num
  have hd := Defined.of_isFinite h.1
  obtain ⟨hlo, hhi⟩ := abs_le.mp h.2
  rw [le_iff, le_iff, hvalue, value_one]
  exact ⟨⟨by simp [Defined, hminus], hd, hlo⟩, hd, isNearest_one.1, hhi⟩

/-- The second double is zero or has the sign of the first. -/
def KeepsSign (x y : Float) : Prop := (0 < value y → 0 < value x) ∧ (value y < 0 → value x < 0)

theorem KeepsSign.refl (x : Float) : KeepsSign x x := ⟨id, id⟩

theorem KeepsSign.trans (h : KeepsSign x y) (h' : KeepsSign y z) : KeepsSign x z :=
  ⟨fun hz => h.1 (h'.1 hz), fun hz => h.2 (h'.2 hz)⟩

/-- Division by a positive double. A quotient that is too small becomes zero. -/
theorem keepsSign_div (hx : x.isFinite = true) (hy : y.isFinite = true) (hpos : 0 < value y) :
    KeepsSign x (x / y) := by
  rw [KeepsSign, (isNearest_div hx hy hpos.ne').2]
  constructor
  · intro h
    by_contra hn
    have hq : value x / value y ≤ 0 := div_nonpos_of_nonpos_of_nonneg (not_lt.mp hn) hpos.le
    exact not_lt.mpr (rounded_nonpos hq) h
  · intro h
    by_contra hn
    have hq : 0 ≤ value x / value y := div_nonneg (not_lt.mp hn) hpos.le
    exact not_lt.mpr (rounded_nonneg hq) h

theorem KeepsSign.cases (h : KeepsSign x y) (hx : Defined x) (hy : Defined y) :
    Scalar.isZero y = true ∨ (0 < x ∧ 0 < y) ∨ (x < 0 ∧ y < 0) := by
  have hzero := isNearest_zero.1
  simp only [isZero_iff, lt_iff, value_zero, hx, hy, hzero, true_and]
  obtain hlt | he | hgt := lt_trichotomy (value y) 0
  · exact Or.inr (Or.inr ⟨h.2 hlt, hlt⟩)
  · exact Or.inl he
  · exact Or.inr (Or.inl ⟨h.1 hgt, hgt⟩)

end Binary64

namespace SlotVector

/-- The absolute values of the components. -/
def magnitudes (v : SlotVector Float) : SlotVector Float := v.map Scalar.abs

theorem toList_magnitudes (v : SlotVector Float) :
    v.magnitudes.toList = v.toList.map Scalar.abs := Vector.toList_map

theorem scale_magnitudes (v : SlotVector Float) : v.magnitudes.scale = v.scale := by
  have habs (x : Float) : Scalar.abs (Scalar.abs x) = Scalar.abs x := abs_idem x
  rw [scale, toList_magnitudes, List.map_map, scale]
  simp only [Function.comp_def, habs]

theorem squares_magnitudes (v : SlotVector Float) : v.magnitudes.squares =
    v.toList.map fun x => Scalar.abs x / v.scale * (Scalar.abs x / v.scale) := by
  rw [squares, toList_magnitudes, List.map_map, scale_magnitudes]
  rfl

variable {v : SlotVector Float}

section Finite

/-! Vectors of finite doubles with something to scale. -/

variable (h : ∀ x ∈ v.toList, x.isFinite = true)

include h

theorem isFinite_magnitudes : ∀ x ∈ v.magnitudes.toList, x.isFinite = true := by
  rw [toList_magnitudes, List.forall_mem_map]
  exact fun x hx => isFinite_abs (h x hx)

theorem zero_le_magnitudes : ∀ x ∈ v.magnitudes.toList, 0 ≤ x := by
  rw [toList_magnitudes, List.forall_mem_map]
  intro x hx
  rw [zero_le_iff, value_scalarAbs]
  exact ⟨(defined_abs_iff x).mpr (Defined.of_isFinite (h x hx)), abs_nonneg _⟩

theorem abs_value_le_scale {x : Float} (hx : x ∈ v.toList) : |value x| ≤ value v.scale := by
  have hmem : Scalar.abs x ∈ v.magnitudes.toList := by
    rw [toList_magnitudes]
    exact List.mem_map_of_mem hx
  have hle := ((le_iff _ _).mp (le_scale (zero_le_magnitudes h) hmem)).2.2
  rwa [scale_magnitudes, value_scalarAbs] at hle

variable (hpos : 0 < value v.scale)

include hpos

theorem exists_abs_eq_scale : ∃ x ∈ v.toList, |value x| = value v.scale := by
  rw [← scale_magnitudes] at hpos
  obtain ⟨y, hy, he⟩ := exists_eq_scale (zero_le_magnitudes h) hpos
  rw [toList_magnitudes, List.mem_map] at hy
  obtain ⟨x, hx, rfl⟩ := hy
  rw [scale_magnitudes] at he
  exact ⟨x, hx, (value_abs x).symm.trans he⟩

theorem isFinite_scale_of_finite : v.scale.isFinite = true := by
  rw [← scale_magnitudes] at hpos ⊢
  exact isFinite_scale_of_isFinite (zero_le_magnitudes h) (isFinite_magnitudes h) hpos

theorem isNearest_div_scale {x : Float} (hx : x ∈ v.toList) :
    IsNearest (x / v.scale) (value x / value v.scale) :=
  isNearest_div (h x hx) (isFinite_scale_of_finite h hpos) hpos.ne'

theorem withinOne_div_scale {x : Float} (hx : x ∈ v.toList) : WithinOne (x / v.scale) := by
  apply (isNearest_div_scale h hpos hx).withinOne
  rw [abs_div, abs_of_pos hpos]
  exact (div_le_one hpos).mpr (abs_value_le_scale h hx)

/-- The absolute value of a component has the same quotient but for the sign. -/
theorem value_abs_div_scale {x : Float} (hx : x ∈ v.toList) :
    (Scalar.abs x / v.scale).isFinite = true ∧
      value (Scalar.abs x / v.scale) = |value (x / v.scale)| := by
  have hq := isNearest_div (isFinite_abs (h x hx)) (isFinite_scale_of_finite h hpos) hpos.ne'
  have he : value (x.abs / v.scale) = |value (x / v.scale)| := by
    rw [hq.2, (isNearest_div_scale h hpos hx).2, value_abs, ← rounded_abs, abs_div, abs_of_pos hpos]
  have hf := ((isFinite_iff _).mp (withinOne_div_scale h hpos hx).1).2
  refine ⟨(isFinite_iff _).mpr ⟨hq.1, ?_⟩, he⟩
  change |value (x.abs / v.scale)| < limit
  rwa [he, abs_abs]

theorem zero_le_squares : ∀ x ∈ v.toList, 0 ≤ x / v.scale * (x / v.scale) := by
  intro x hx
  have hf := (withinOne_div_scale h hpos hx).1
  have hm := isNearest_mul hf hf
  exact (zero_le_iff _).mpr ⟨hm.1, hm.nonneg (mul_self_nonneg _)⟩

/-- The sum of the squares does not see the signs. -/
theorem value_sum_squares_magnitudes :
    value (sum v.magnitudes.squares) = value (sum v.squares) := by
  rw [squares_magnitudes, squares]
  refine value_sum_map_congr _ (fun x hx => ?_) (zero_le_squares h hpos) fun x hx => ?_
  · obtain ⟨hf, -⟩ := value_abs_div_scale h hpos hx
    have hm := isNearest_mul hf hf
    exact (zero_le_iff _).mpr ⟨hm.1, hm.nonneg (mul_self_nonneg _)⟩
  · obtain ⟨hf, he⟩ := value_abs_div_scale h hpos hx
    have hq := (withinOne_div_scale h hpos hx).1
    rw [(isNearest_mul hf hf).2, (isNearest_mul hq hq).2, he, abs_mul_abs_self]

/-- The length after division is that of the absolute values. -/
theorem scaledNorm_bounds :
    v.scaledNorm.isFinite = true ∧ 1 ≤ value v.scaledNorm ∧ value v.scaledNorm ≤ 13 / 4 := by
  have h₀ := zero_le_magnitudes h
  have hposm : 0 < value v.magnitudes.scale := by rwa [scale_magnitudes]
  have hf := isFinite_scale_of_isFinite h₀ (isFinite_magnitudes h) hposm
  have hsumf := isFinite_sum_squares h₀ hposm hf
  have hsum := value_sum_squares_magnitudes h hpos
  have hsum₀ : 0 ≤ sum v.squares := zero_le_sum (List.forall_mem_map.mpr (zero_le_squares h hpos))
  have hsumf' : (sum v.squares).isFinite = true := by
    rw [isFinite_iff, ← hsum]
    exact ⟨defined_of_zero_le hsum₀, ((isFinite_iff _).mp hsumf).2⟩
  have hroot := isNearest_sqrt hsumf' (value_nonneg hsum₀)
  have he : value v.magnitudes.scaledNorm = value v.scaledNorm := by
    change value (sum v.magnitudes.squares).sqrt = value (sum v.squares).sqrt
    rw [(isNearest_sqrt hsumf (hsum ▸ value_nonneg hsum₀)).2, hroot.2, hsum]
  obtain ⟨hnf, hn⟩ := one_le_scaledNorm h₀ hposm hf
  have hn' := scaledNorm_le h₀ hposm hf
  rw [isFinite_iff, ← he]
  exact ⟨⟨hroot.1, ((isFinite_iff _).mp hnf).2⟩, hn, hn'⟩

theorem scaledNorm_pos : 0 < value v.scaledNorm := by
  have hn := (scaledNorm_bounds h hpos).2.1
  linarith

theorem isNearest_rescaled {x : Float} (hx : x ∈ v.toList) :
    IsNearest (x / v.scale / v.scaledNorm) (value (x / v.scale) / value v.scaledNorm) :=
  isNearest_div (withinOne_div_scale h hpos hx).1 (scaledNorm_bounds h hpos).1
    (scaledNorm_pos h hpos).ne'

theorem withinOne_rescaled {x : Float} (hx : x ∈ v.toList) :
    WithinOne (x / v.scale / v.scaledNorm) := by
  obtain ⟨-, hq⟩ := withinOne_div_scale h hpos hx
  obtain ⟨-, hn, -⟩ := scaledNorm_bounds h hpos
  have hn₀ := scaledNorm_pos h hpos
  apply (isNearest_rescaled h hpos hx).withinOne
  rw [abs_div, abs_of_pos hn₀, div_le_one hn₀]
  exact hq.trans hn

theorem keepsSign_rescaled {x : Float} (hx : x ∈ v.toList) :
    KeepsSign x (x / v.scale / v.scaledNorm) := by
  have hscale := keepsSign_div (h x hx) (isFinite_scale_of_finite h hpos) hpos
  have hnorm := keepsSign_div (withinOne_div_scale h hpos hx).1 (scaledNorm_bounds h hpos).1
    (scaledNorm_pos h hpos)
  exact hscale.trans hnorm

/-- A component with the largest absolute value is divided by this value, and then by a length of at most
`13 / 4`. -/
theorem exists_large_rescaled : ∃ x ∈ v.toList, |value x| = value v.scale ∧
    3 / 10 ≤ |value (x / v.scale / v.scaledNorm)| := by
  obtain ⟨x, hx, he⟩ := exists_abs_eq_scale h hpos
  obtain ⟨-, -, hn⟩ := scaledNorm_bounds h hpos
  have hn₀ := scaledNorm_pos h hpos
  have hone : |value (x / v.scale)| = 1 := by
    rw [(isNearest_div_scale h hpos hx).2, ← rounded_abs, abs_div, he, abs_of_pos hpos,
      div_self hpos.ne', ← value_one, rounded_value]
  have hbound : value 0.3046875 = 39 / 128 := by
    have hu : (0.3046875 : Float).toModel.unpack =
        .finite .positive (39 * 2 ^ 47) (-54) (by norm_num) := by rfl
    rw [value_of_unpack_positive hu, zpow_neg]
    norm_num
  have hle : value 0.3046875 ≤ 1 / value v.scaledNorm := by
    rw [hbound, le_div_iff₀ hn₀]
    linarith
  refine ⟨x, hx, he, ?_⟩
  calc (3 / 10 : ℝ) ≤ value 0.3046875 := by
        rw [hbound]
        norm_num
    _ = rounded (value 0.3046875) := (rounded_value _).symm
    _ ≤ rounded (1 / value v.scaledNorm) := rounded_mono hle
    _ = |value (x / v.scale / v.scaledNorm)| := by
        rw [(isNearest_rescaled h hpos hx).2, ← rounded_abs, abs_div, hone, abs_of_pos hn₀]

end Finite

/-- The vector is divided by its length, and not returned as it is. -/
def IsRescaled (v : SlotVector Float) : Prop :=
  ¬Scalar.isZero v.scale = true ∧ ¬v.scale * v.scaledNorm < epsilon

theorem IsRescaled.pos (hr : v.IsRescaled) : 0 < value v.scale := (value_scale_pos_iff v).mpr hr.1

theorem normalize_of_isRescaled (hr : v.IsRescaled) : v.normalize = v.rescaled := by
  rw [normalize_eq, if_neg hr.1, if_neg hr.2, rescaled]

theorem normalize_of_not_isRescaled (hr : ¬v.IsRescaled) : v.normalize = v := by
  rw [normalize_eq]
  split_ifs with hz hlt
  · rfl
  · rfl
  · exact absurd ⟨hz, hlt⟩ hr

/-- The length is not below the scale, so a vector that is kept has small components only. -/
theorem scale_lt_one_of_not_isRescaled (h : ∀ x ∈ v.toList, x.isFinite = true)
    (hr : ¬v.IsRescaled) : value v.scale < 1 := by
  by_cases hz : Scalar.isZero v.scale = true
  · rw [((isZero_iff _).mp hz).2]
    exact one_pos
  · have hpos := (value_scale_pos_iff v).mpr hz
    have hlt : v.scale * v.scaledNorm < epsilon := by
      by_contra hge
      exact hr ⟨hz, hge⟩
    obtain ⟨hnf, hn, -⟩ := scaledNorm_bounds h hpos
    have hproduct := isNearest_mul (isFinite_scale_of_finite h hpos) hnf
    calc value v.scale ≤ value (v.scale * v.scaledNorm) :=
          hproduct.le_value (le_mul_of_one_le_right hpos.le hn)
      _ < value epsilon := ((lt_iff _ _).mp hlt).2.2
      _ < 1 := epsilon_lt_one

theorem normalize_component (h : ∀ x ∈ v.toList, x.isFinite = true) (i : Fin 10) :
    WithinOne (v.normalize.get i) ∧ KeepsSign (v.get i) (v.normalize.get i) := by
  have hi : v.get i ∈ v.toList := Vector.mem_toList_iff.mpr (Vector.getElem_mem i.isLt)
  by_cases hr : v.IsRescaled
  · have hget : v.normalize.get i = v.get i / v.scale / v.scaledNorm := by
      simp [normalize_of_isRescaled hr, rescaled, Vector.get_eq_getElem]
    rw [hget]
    exact ⟨withinOne_rescaled h hr.pos hi, keepsSign_rescaled h hr.pos hi⟩
  · have hsmall := scale_lt_one_of_not_isRescaled h hr
    rw [normalize_of_not_isRescaled hr]
    exact ⟨⟨h _ hi, (abs_value_le_scale h hi).trans hsmall.le⟩, KeepsSign.refl _⟩

theorem not_isZero_rescaled (h : ∀ x ∈ v.toList, x.isFinite = true) (hr : v.IsRescaled) :
    ¬v.rescaled.isZero = true := by
  obtain ⟨x, hx, -, hlarge⟩ := exists_large_rescaled h hr.pos
  have hmem : x / v.scale / v.scaledNorm ∈ v.rescaled :=
    Vector.mem_map_of_mem (Vector.mem_toList_iff.mp hx)
  intro hz
  rw [((isZero_iff _).mp (Vector.all_eq_true'.mp hz _ hmem)).2, abs_zero] at hlarge
  norm_num at hlarge

/-- Without negative components the largest one stays the largest. -/
theorem exists_largest_rescaled (h : ∀ x ∈ v.toList, x.isFinite = true)
    (h₀ : ∀ x ∈ v.toList, 0 ≤ x) (hr : v.IsRescaled) :
    ∃ x ∈ v.rescaled.toList, (∀ y ∈ v.rescaled.toList, y ≤ x) ∧ 3 / 10 ≤ value x := by
  obtain ⟨x, hx, he, hlarge⟩ := exists_large_rescaled h hr.pos
  have hn₀ := scaledNorm_pos h hr.pos
  have hle : ∀ y ∈ v.toList, y / v.scale / v.scaledNorm ≤ x / v.scale / v.scaledNorm := by
    intro y hy
    have hyx : value y ≤ value x := by
      rw [abs_of_nonneg (value_nonneg (h₀ x hx))] at he
      exact he ▸ (le_abs_self _).trans (abs_value_le_scale h hy)
    have hquot : value (y / v.scale) ≤ value (x / v.scale) := by
      rw [(isNearest_div_scale h hr.pos hy).2, (isNearest_div_scale h hr.pos hx).2]
      exact rounded_mono (div_le_div_of_nonneg_right hyx hr.pos.le)
    have hy' := isNearest_rescaled h hr.pos hy
    have hx' := isNearest_rescaled h hr.pos hx
    rw [le_iff, hy'.2, hx'.2]
    exact ⟨hy'.1, hx'.1, rounded_mono (div_le_div_of_nonneg_right hquot hn₀.le)⟩
  have hx₀ : 0 ≤ value (x / v.scale / v.scaledNorm) := by
    by_contra hn
    exact not_lt.mpr (value_nonneg (h₀ x hx)) ((keepsSign_rescaled h hr.pos hx).2 (not_le.mp hn))
  rw [abs_of_nonneg hx₀] at hlarge
  rw [rescaled, Vector.toList_map]
  exact ⟨_, List.mem_map_of_mem hx, List.forall_mem_map.mpr hle, hlarge⟩

/-- Scaling a vector of finite doubles. Its components end up from minus one to one, each of them zero or with the
sign it had, and all of them are zero only if they have been so before. If a vector without negative components
is rescaled, the largest component is not below three tenths. -/
theorem normalize_of_isFinite (h : ∀ x ∈ v.toList, x.isFinite = true) :
    (∀ i : Fin 10, (v.normalize.get i).isFinite = true ∧
      (-1 ≤ v.normalize.get i ∧ v.normalize.get i ≤ 1) ∧
      (Scalar.isZero (v.normalize.get i) = true ∨ (0 < v.get i ∧ 0 < v.normalize.get i) ∨
        (v.get i < 0 ∧ v.normalize.get i < 0))) ∧
    (v.normalize.isZero = true → v.isZero = true) ∧
    (¬v.IsRescaled → v.normalize = v) ∧
    ((∀ x ∈ v.toList, 0 ≤ x) → v.IsRescaled → ∃ x ∈ v.normalize.toList,
      (∀ y ∈ v.normalize.toList, y ≤ x) ∧ 3 / 10 ≤ value x) := by
  refine ⟨fun i => ?_, fun hz => ?_, normalize_of_not_isRescaled, fun h₀ hr => ?_⟩
  · obtain ⟨hone, hsign⟩ := normalize_component h i
    have hi : v.get i ∈ v.toList := Vector.mem_toList_iff.mpr (Vector.getElem_mem i.isLt)
    exact ⟨hone.1, hone.bounds,
      hsign.cases (Defined.of_isFinite (h _ hi)) (Defined.of_isFinite hone.1)⟩
  · by_cases hr : v.IsRescaled
    · rw [normalize_of_isRescaled hr] at hz
      exact absurd hz (not_isZero_rescaled h hr)
    · rwa [normalize_of_not_isRescaled hr] at hz
  · rw [normalize_of_isRescaled hr]
    exact exists_largest_rescaled h h₀ hr

/-- The largest finite double and the smallest positive one in one vector, with signs and without. -/
theorem normalize_of_largest_and_least :
    let mixed : SlotVector Float := #v[largest, -largest, 5e-324, -5e-324, 1, -1, 0, -0.5, 3, 0]
    let plain := mixed.magnitudes
    ((∀ x ∈ mixed.toList, x.isFinite = true) ∧ ¬mixed.normalize.isZero = true ∧
      -1 ≤ mixed.normalize.get 1 ∧ mixed.normalize.get 1 < 0) ∧
    ((∀ x ∈ plain.toList, x.isFinite = true) ∧ (∀ x ∈ plain.toList, 0 ≤ x) ∧ plain.IsRescaled ∧
      ∃ x ∈ plain.normalize.toList, (∀ y ∈ plain.normalize.toList, y ≤ x) ∧ 3 / 10 ≤ value x) := by
  intro mixed plain
  have hmixed : ∀ x ∈ mixed.toList, x.isFinite = true := by decide +kernel
  have hplain : ∀ x ∈ plain.toList, x.isFinite = true := isFinite_magnitudes hmixed
  have hplain₀ : ∀ x ∈ plain.toList, 0 ≤ x := zero_le_magnitudes hmixed
  have hrescaled : plain.IsRescaled := by
    unfold IsRescaled
    decide +kernel
  obtain ⟨hcomponent, hzero, -⟩ := normalize_of_isFinite hmixed
  obtain ⟨-, ⟨hlo, -⟩, hsign⟩ := hcomponent 1
  have hnonzero : ¬mixed.isZero = true := by decide +kernel
  have hsecond : ¬Scalar.isZero (mixed.normalize.get 1) = true := by decide +kernel
  have hnegative : ¬0 < mixed.get 1 := by decide +kernel
  refine ⟨⟨hmixed, mt hzero hnonzero, hlo, ?_⟩, hplain, hplain₀, hrescaled,
    (normalize_of_isFinite hplain).2.2.2 hplain₀ hrescaled⟩
  exact ((hsign.resolve_left hsecond).resolve_left fun h => hnegative h.1).2

end SlotVector
end TextIntent

import TextIntent.Proofs.Scores.Bounds

/-! How far scores that have been divided by their total are from a distribution. The denominator is the
total plus `epsilon`, so the scores fall short of one by the share of `epsilon` in it; rounding adds
almost nothing to that. -/
namespace TextIntent

open Scalar Binary64

namespace Binary64

/-- The error of a rounded result. -/
theorem IsNearest.abs_sub_le {x : Float} {r : ℝ} (h : IsNearest x r) (hx : x.isFinite = true) :
    |value x - r| ≤ |r| / 2 ^ 53 + 2 ^ leastExponent / 2 := by
  have hl := ((isFinite_iff x).mp hx).2
  rw [h.2] at hl ⊢
  exact abs_rounded_sub_le hl

/-- The error of a rounded result against the result itself. -/
theorem IsNearest.abs_sub_le_value {x : Float} {r : ℝ} (h : IsNearest x r)
    (hx : x.isFinite = true) : |value x - r| ≤ |value x| / 2 ^ 52 + 2 ^ leastExponent := by
  have he := h.abs_sub_le hx
  have ht : |r| ≤ |value x| + |value x - r| := by
    have := abs_sub_abs_le_abs_sub r (value x)
    rw [abs_sub_comm] at this
    linarith
  have hp : (0 : ℝ) < 2 ^ leastExponent := by positivity
  have hv := abs_nonneg (value x)
  linarith

/-- The rounding error of a sum of nonnegative doubles. -/
theorem abs_value_sum_sub_le {xs : List Float} (h : ∀ x ∈ xs, 0 ≤ x)
    (hf : (sum xs).isFinite = true) :
    |value (sum xs) - (xs.map value).sum| ≤
      xs.length * (value (sum xs) / 2 ^ 52 + 2 ^ leastExponent) := by
  induction xs using List.reverseRecOn with
  | nil => simp
  | append_singleton xs x ih =>
    have hs : ∀ x ∈ xs, 0 ≤ x := fun z hz => h z (by simp [hz])
    have hx : 0 ≤ x := h x (by simp)
    have hs₀ := zero_le_sum hs
    rw [sum_concat] at hf ⊢
    have ih := ih hs (isFinite_of_add hf).1
    have hn := isNearest_add_of_zero_le hs₀ hx
    have hstep := hn.abs_sub_le_value hf
    have hmono := ((le_iff _ _).mp (le_add_right hs₀ hx)).2.2
    rw [abs_of_nonneg (value_nonneg (zero_le_add hs₀ hx))] at hstep
    simp only [List.map_append, List.map_cons, List.map_nil, List.sum_append, List.sum_cons,
      List.sum_nil, add_zero, List.length_append, List.length_cons, List.length_nil, zero_add]
    push_cast
    set S := value (sum xs + x)
    have hgrow : (xs.length : ℝ) * (value (sum xs) / 2 ^ 52 + 2 ^ leastExponent) ≤
        xs.length * (S / 2 ^ 52 + 2 ^ leastExponent) := by gcongr
    calc |S - ((xs.map value).sum + value x)|
        = |(S - (value (sum xs) + value x)) + (value (sum xs) - (xs.map value).sum)| := by
          congr 1
          ring
      _ ≤ |S - (value (sum xs) + value x)| + |value (sum xs) - (xs.map value).sum| :=
          abs_add_le _ _
      _ ≤ (xs.length + 1) * (S / 2 ^ 52 + 2 ^ leastExponent) := by linarith

end Binary64

theorem abs_sum_map_sub_le {β : Type} (l : List β) {f g h : β → ℝ}
    (hb : ∀ b ∈ l, |f b - g b| ≤ h b) : |(l.map f).sum - (l.map g).sum| ≤ (l.map h).sum := by
  induction l with
  | nil => simp
  | cons b l ih =>
    have h₁ := hb b (by simp)
    have h₂ := ih fun c hc => hb c (by simp [hc])
    simp only [List.map_cons, List.sum_cons]
    calc |f b + (l.map f).sum - (g b + (l.map g).sum)|
        = |(f b - g b) + ((l.map f).sum - (l.map g).sum)| := by
          congr 1
          ring
      _ ≤ |f b - g b| + |(l.map f).sum - (l.map g).sum| := abs_add_le _ _
      _ ≤ h b + (l.map h).sum := add_le_add h₁ h₂

/-- Quotients of numbers with a small relative error. -/
theorem abs_div_sub_div_le {S T D E u : ℝ} (hT : 0 ≤ T) (hTE : T ≤ E) (hE : 0 < E) (hu : u ≤ 1 / 2)
    (hS : |S - T| ≤ u * T) (hD : |D - E| ≤ u * E) : |S / D - T / E| ≤ 4 * u := by
  have hDl : E / 2 ≤ D := by
    have := (abs_le.mp hD).1
    nlinarith
  have hDpos : 0 < D := by linarith
  have hu₀ : 0 ≤ u := by
    by_contra hn
    have := abs_nonneg (D - E)
    nlinarith
  have he : S / D - T / E = ((S - T) * E - T * (D - E)) / (D * E) := by
    field_simp
    ring
  rw [he, abs_div, abs_of_pos (mul_pos hDpos hE), div_le_iff₀ (mul_pos hDpos hE)]
  calc |(S - T) * E - T * (D - E)| ≤ |(S - T) * E| + |T * (D - E)| := abs_sub _ _
    _ = |S - T| * E + T * |D - E| := by
      rw [abs_mul, abs_mul, abs_of_pos hE, abs_of_nonneg hT]
    _ ≤ u * T * E + T * (u * E) := by gcongr
    _ ≤ 4 * u * (D * E) := by nlinarith [mul_nonneg hu₀ hE.le, mul_le_mul_of_nonneg_left hTE hu₀]

/-- The error of a sum of quotients `Q`, when total `T`, exact total `S` and denominator `D` are known up
to rounding. -/
theorem abs_sub_one_sub_div_le {T S D Q ε d : ℝ} (hε : 0 < ε) (hε₁ : ε ≤ 1) (hT : ε < T)
    (hd : d ≤ ε / 2 ^ 60) (hS : |T - S| ≤ 8 * (T / 2 ^ 52 + d))
    (hD : |D - (T + ε)| ≤ (T + ε) / 2 ^ 53 + d / 2)
    (hQ : |Q - S / D| ≤ S / D / 2 ^ 53 + 8 * (d / 2)) :
    |Q - (1 - ε / (T + ε))| ≤ 2 ^ (-45 : ℤ) := by
  have hE : 0 < T + ε := by linarith
  rw [abs_sub_comm] at hS
  have hR := abs_div_sub_div_le (u := 1 / 2 ^ 48) (by linarith) (by linarith : T ≤ T + ε) hE
    (by norm_num) (hS.trans (by linarith)) (hD.trans (by linarith))
  have hone : 1 - ε / (T + ε) = T / (T + ε) := by
    field_simp
    ring
  have hle : T / (T + ε) ≤ 1 := (div_le_one hE).mpr (by linarith)
  rw [hone]
  have hP : S / D ≤ 2 := by linarith [(abs_le.mp hR).2]
  calc |Q - T / (T + ε)| ≤ |Q - S / D| + |S / D - T / (T + ε)| := abs_sub_le _ _ _
    _ ≤ (2 / 2 ^ 53 + 8 * (1 / 2 ^ 60 / 2)) + 4 * (1 / 2 ^ 48) := by linarith
    _ ≤ 2 ^ (-45 : ℤ) := by
      rw [zpow_neg]
      norm_num

namespace PerCategory

variable {s : Scores Float}

/-- The sum of the scores, without rounding. -/
noncomputable def exactTotal (s : Scores Float) : ℝ := (s.toList.map value).sum

theorem exactTotal_eq (s : Scores Float) :
    s.exactTotal = (Category.all.map fun c => value (s.get c)).sum := by
  rw [exactTotal, toList, List.map_map]
  rfl

theorem abs_total_sub_le (h : ∀ c, 0 ≤ s.get c) (hf : s.total.isFinite = true) :
    |value s.total - s.exactTotal| ≤ 8 * (value s.total / 2 ^ 52 + 2 ^ leastExponent) := by
  exact_mod_cast abs_value_sum_sub_le (forall_mem_toList.mpr h) hf

/-- What is missing to one when scores with this total have been divided by it. -/
noncomputable def shortfall (t : ℝ) : ℝ := value epsilon / (t + value epsilon)

theorem tiny_le : (2 : ℝ) ^ leastExponent ≤ value epsilon / 2 ^ 60 := by
  have h : (2 : ℝ) ^ leastExponent ≤ 2 ^ (-90 : ℤ) :=
    zpow_le_zpow_right₀ (by norm_num) (by unfold leastExponent; omega)
  refine h.trans ?_
  rw [value_epsilon, zpow_neg]
  norm_num

/-- Division of the scores by the denominator, with the rounding of every quotient. -/
theorem abs_exactTotal_normalized_sub_div_le (h : ∀ c, 0 ≤ s.get c) (ht : s.HasTotal) :
    |s.normalized.exactTotal - s.exactTotal / value (s.total + epsilon)| ≤
      s.exactTotal / value (s.total + epsilon) / 2 ^ 53 + 8 * (2 ^ leastExponent / 2) := by
  have hDf := isFinite_add_epsilon (zero_le_total h) ht.1
  have hpos : 0 < value (s.total + epsilon) :=
    (epsilon_pos.trans ht.2).trans_le
      ((isNearest_add_epsilon ht.1).le_value (le_add_of_nonneg_right epsilon_pos.le))
  have hc (c : Category) : |value (s.normalized.get c) -
      value (s.get c) * (value (s.total + epsilon))⁻¹| ≤
      value (s.get c) * (value (s.total + epsilon))⁻¹ * (2 ^ 53)⁻¹ + 2 ^ leastExponent / 2 := by
    obtain ⟨h₀, h₁⟩ := normalized_mem_unit (fun d _ => h d) c
    have hq := isNearest_div (isFinite_of_total ht.1 c) hDf hpos.ne'
    have hf : (s.normalized.get c).isFinite = true := isFinite_of_le h₀ h₁ rfl
    rw [normalized_of_hasTotal ht, get_map] at hf ⊢
    have he := hq.abs_sub_le hf
    rw [abs_of_nonneg (div_nonneg (value_nonneg (h c)) hpos.le)] at he
    simpa only [div_eq_mul_inv] using he
  have hlen : (Category.all.length : ℝ) = 8 := by norm_num [Category.all]
  have hsum := abs_sum_map_sub_le Category.all fun c _ => hc c
  rw [← exactTotal_eq, List.sum_map_mul_right, ← exactTotal_eq, List.sum_map_add,
    List.sum_map_mul_right, List.sum_map_mul_right, ← exactTotal_eq, List.map_const',
    List.sum_replicate, nsmul_eq_mul, hlen] at hsum
  simpa only [div_eq_mul_inv] using hsum

/-- Normalized scores sum to one but for the shortfall and the rounding. -/
theorem abs_exactTotal_normalized_sub_le (h : ∀ c, 0 ≤ s.get c) (ht : s.HasTotal) :
    |s.normalized.exactTotal - (1 - shortfall (value s.total))| ≤ 2 ^ (-45 : ℤ) := by
  have hε := epsilon_pos
  have hD := (isNearest_add_epsilon ht.1).abs_sub_le (isFinite_add_epsilon (zero_le_total h) ht.1)
  rw [abs_of_pos (add_pos (hε.trans ht.2) hε)] at hD
  exact abs_sub_one_sub_div_le hε epsilon_lt_one.le ht.2 tiny_le (abs_total_sub_le h ht.1) hD
    (abs_exactTotal_normalized_sub_div_le h ht)

end PerCategory
end TextIntent

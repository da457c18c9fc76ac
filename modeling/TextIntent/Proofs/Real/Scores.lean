import TextIntent.Proofs.FirstGreatest
import TextIntent.Proofs.Real.Scalar
import TextIntent.Decision

/-! Scores over the reals: which category leads, and what the division by the total does to the leader and
to its share. -/
namespace TextIntent.Exact

open Scalar

section Confine

variable {lo hi x : ℝ}

theorem value_confine (lo hi x : ℝ) : (confine lo hi x).value = clamp lo hi x := by
  unfold confine
  simp only [isNaN_eq, Bool.false_eq_true, if_false, isFinite_eq, Bool.not_true, Traced.value_pure]

theorem le_clamp (h : lo ≤ hi) (x : ℝ) : lo ≤ clamp lo hi x := by
  unfold clamp
  split_ifs with h₁ h₂
  · exact le_rfl
  · exact h
  · exact not_lt.mp h₁

theorem clamp_le (h : lo ≤ hi) (x : ℝ) : clamp lo hi x ≤ hi := by
  unfold clamp
  split_ifs with h₁ h₂
  · exact h
  · exact le_rfl
  · exact not_lt.mp h₂

theorem clamp_mono {y : ℝ} (h : lo ≤ hi) (hxy : x ≤ y) : clamp lo hi x ≤ clamp lo hi y := by
  unfold clamp
  split_ifs <;> linarith

theorem clamp_of_mem (h₁ : lo ≤ x) (h₂ : x ≤ hi) : clamp lo hi x = x := by
  rw [clamp, if_neg (not_lt.mpr h₁), if_neg (not_lt.mpr h₂)]

theorem maxFinite_nonneg : (0 : ℝ) ≤ maxFinite :=
  Nat.cast_nonneg ((2 ^ 53 - 1) * 2 ^ 971)

theorem thousand_le_maxFinite : (1000 : ℝ) ≤ maxFinite := by
  have h : ((1000 : ℕ) : ℝ) ≤ ((2 ^ 53 - 1) * 2 ^ 971 : ℕ) :=
    Nat.cast_le.mpr (Nat.le_mul_of_pos_right _ (by positivity) |>.trans' (by norm_num))
  exact le_trans (by norm_num) h

end Confine

section Leader

variable {s : Scores ℝ}

theorem nonnegative_nonneg (s : Scores ℝ) (c : Category) : 0 ≤ s.nonnegative.value.get c := by
  rw [PerCategory.get_value_nonnegative, value_confine]
  exact le_clamp maxFinite_nonneg _

/-- Scores of a usual size are left as they are. -/
theorem nonnegative_eq_self (h₀ : ∀ c, 0 ≤ s.get c) (h₁ : ∀ c, s.get c ≤ 1000) :
    s.nonnegative.value = s := by
  refine PerCategory.ext_get fun c => ?_
  rw [PerCategory.get_value_nonnegative, value_confine]
  exact clamp_of_mem (h₀ c) ((h₁ c).trans thousand_le_maxFinite)

/-- No score is greater than that of this category, and none in front of it is as great. -/
def FirstMax (s : Scores ℝ) (c : Category) : Prop :=
  ∀ d, s.get d ≤ s.get c ∧ (d.index < c.index → s.get d < s.get c)

/-- The candidate after one more category. -/
noncomputable def ahead (s : Scores ℝ) (best c : Category) : Category :=
  if s.get best < s.get c then c else best

theorem firstMax_leader (s : Scores ℝ) : FirstMax s s.leader := by
  have hleader : s.leader = Category.all.tail.foldl (ahead s) .greeting := by
    change Category.all.tail.foldl (ahead s) (ahead s .greeting .greeting) = _
    rw [ahead, if_neg (lt_irrefl _)]
  have h : FirstGreatest Category.all s.get (Category.all.tail.foldl (ahead s) .greeting) :=
    FirstGreatest.foldl_ahead s.get .greeting Category.all.tail
  rw [hleader]
  exact fun d => ⟨h.greatest d (Category.mem_all d), h.first d (Category.mem_all d)⟩

/-- A category ahead of all others leads. -/
theorem leader_eq_of_lt {c : Category} (h : ∀ d, d ≠ c → s.get d < s.get c) : s.leader = c := by
  by_contra hn
  exact absurd (firstMax_leader s c).1 (not_le.mpr (h _ hn))

/-- The order of the scores decides alone. -/
theorem leader_map {f : ℝ → ℝ} (hf : StrictMono f) (s : Scores ℝ) : (s.map f).leader = s.leader := by
  unfold PerCategory.leader
  simp only [PerCategory.get_map, hf.lt_iff_lt]

end Leader

section Total

variable {s : Scores ℝ}

theorem total_eq (s : Scores ℝ) : s.total = (Category.all.map s.get).sum := by
  rw [PerCategory.total, sum_eq]
  rfl

theorem get_le_total (h : ∀ c, 0 ≤ s.get c) (c : Category) : s.get c ≤ s.total := by
  rw [total_eq]
  refine List.single_le_sum (fun x hx => ?_) _ (List.mem_map_of_mem (Category.mem_all c))
  obtain ⟨d, -, rfl⟩ := List.mem_map.mp hx
  exact h d

theorem total_nonneg (h : ∀ c, 0 ≤ s.get c) : 0 ≤ s.total :=
  (h .greeting).trans (get_le_total h .greeting)

theorem total_le (s : Scores ℝ) : s.total ≤ 8 * s.get s.leader := by
  rw [total_eq]
  have h := List.sum_le_card_nsmul (Category.all.map s.get) (s.get s.leader) (by
    rintro x hx
    obtain ⟨d, -, rfl⟩ := List.mem_map.mp hx
    exact (firstMax_leader s d).1)
  rw [List.length_map, nsmul_eq_mul] at h
  exact_mod_cast h

theorem total_map_div (s : Scores ℝ) (c : ℝ) : (s.map (· / c)).total = s.total / c := by
  have hget : (s.map (· / c)).get = fun d => s.get d * c⁻¹ := by
    funext d
    rw [PerCategory.get_map, div_eq_mul_inv]
  rw [total_eq, total_eq, hget, List.sum_map_mul_right, div_eq_mul_inv]

end Total

section Normalized

variable {s : Scores ℝ}

/-- Everything on `unknown`. -/
noncomputable def allUnknown : Scores ℝ := PerCategory.zero.set .unknown 1

theorem get_allUnknown (c : Category) : allUnknown.get c = if c = .unknown then 1 else 0 := by
  rw [allUnknown, PerCategory.set, PerCategory.get_modify, PerCategory.zero, PerCategory.get_const]

theorem normalized_of_lt (h : epsilon < s.total) :
    s.normalized = s.map (· / (s.total + epsilon)) := by
  unfold PerCategory.normalized
  rw [if_neg (by simp [h])]

theorem normalized_of_le (h : s.total ≤ epsilon) : s.normalized = allUnknown := by
  unfold PerCategory.normalized
  rw [if_pos (Or.inr h)]
  rfl

theorem leader_allUnknown : allUnknown.leader = .unknown :=
  leader_eq_of_lt fun d hd => by
    rw [get_allUnknown, get_allUnknown, if_neg hd, if_pos rfl]
    exact one_pos

theorem total_allUnknown : allUnknown.total = 1 := by
  rw [total_eq]
  simp [Category.all, get_allUnknown]

/-- The division by the total keeps the leader; with next to nothing to divide, `unknown` leads. -/
theorem leader_normalized (s : Scores ℝ) :
    s.normalized.leader = if epsilon < s.total then s.leader else .unknown := by
  split_ifs with h
  · rw [normalized_of_lt h]
    have := epsilon_pos
    exact leader_map (fun x y hxy => div_lt_div_of_pos_right hxy (by linarith)) s
  · rw [normalized_of_le (not_lt.mp h), leader_allUnknown]

/-- The share of the leader in the divided scores. -/
noncomputable def leadingShare (s : Scores ℝ) : ℝ :=
  s.normalized.get s.normalized.leader / (s.normalized.total + epsilon)

theorem leadingShare_of_le (h : s.total ≤ epsilon) : leadingShare s = 1 / (1 + epsilon) := by
  rw [leadingShare, normalized_of_le h, leader_allUnknown, total_allUnknown, get_allUnknown,
    if_pos rfl]

/-- The two divisions with their guards. -/
theorem leadingShare_of_lt (h : epsilon < s.total) :
    leadingShare s = s.get s.leader / (s.total + epsilon * (s.total + epsilon)) := by
  have hε := epsilon_pos
  have hE : 0 < s.total + epsilon := by linarith
  rw [leadingShare, leader_normalized, if_pos h, normalized_of_lt h, total_map_div,
    PerCategory.get_map, div_div]
  congr 1
  field_simp

end Normalized

/-- When the share of the leader is above a bound. -/
theorem lt_leadingShare_iff {s : Scores ℝ} {x : ℝ} (hx : x < 1 / (1 + Scalar.epsilon)) :
    x < leadingShare s ↔ s.total ≤ Scalar.epsilon ∨
      x * (s.total + Scalar.epsilon * (s.total + Scalar.epsilon)) < s.get s.leader := by
  have hε := epsilon_pos
  by_cases ht : Scalar.epsilon < s.total
  · have hprod : 0 < Scalar.epsilon * (s.total + Scalar.epsilon) := mul_pos hε (by linarith)
    rw [leadingShare_of_lt ht, lt_div_iff₀ (by linarith), or_iff_right (not_le.mpr ht)]
  · rw [leadingShare_of_le (not_lt.mp ht)]
    exact iff_of_true hx (Or.inl (not_lt.mp ht))

/-- No share of a category above a bound. -/
theorem leadingShare_le {s : Scores ℝ} {x : ℝ} (hx : 0 ≤ x) (ht : Scalar.epsilon < s.total)
    (h : ∀ c, s.get c ≤ x * s.total) : leadingShare s ≤ x := by
  have hε := epsilon_pos
  have hguard : 0 < Scalar.epsilon * (s.total + Scalar.epsilon) := mul_pos hε (by linarith)
  rw [leadingShare_of_lt ht, div_le_iff₀ (by linarith)]
  linarith [h s.leader, mul_nonneg hx hguard.le]

/-- The leader has an eighth of the total at least but for the guards, and not all of it. -/
theorem leadingShare_bounds {s : Scores ℝ} (h : ∀ c, 0 ≤ s.get c) :
    1 / 8 - 1e-9 ≤ leadingShare s ∧ leadingShare s < 1 := by
  have hε := epsilon_pos
  have hε₁ := epsilon_eq
  by_cases ht : Scalar.epsilon < s.total
  · rw [leadingShare_of_lt ht]
    have hm := total_le s
    have hM := get_le_total h s.leader
    have hsmall := mul_le_mul_of_nonneg_left ht.le hε.le
    generalize (Scalar.epsilon : ℝ) = ε at *
    have hprod : 0 < ε * (s.total + ε) := mul_pos hε (by linarith)
    rw [div_lt_one (by linarith), le_div_iff₀ (by linarith)]
    constructor
    · -- the guards add at most `2 * ε` times the total to the denominator
      have hguard : ε * (s.total + ε) ≤ 2 * ε * s.total := by linarith
      calc (1 / 8 - 1e-9) * (s.total + ε * (s.total + ε))
          ≤ (1 / 8 - 1e-9) * (s.total + 2 * ε * s.total) := by
            refine mul_le_mul_of_nonneg_left ?_ (by norm_num)
            linarith
        _ ≤ s.total / 8 := by
            rw [hε₁]
            linarith
        _ ≤ s.get s.leader := by linarith
    · linarith
  · rw [leadingShare_of_le (not_lt.mp ht), div_lt_one (by linarith), le_div_iff₀ (by linarith), hε₁]
    norm_num

end TextIntent.Exact

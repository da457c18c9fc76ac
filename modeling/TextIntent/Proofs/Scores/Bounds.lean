import TextIntent.Proofs.Binary64.UnitInterval
import TextIntent.Proofs.FirstGreatest
import TextIntent.Scores

/-! Scores in doubles: what confinement leaves, where the leader stands, and the range of scores that
have been divided by their total. -/
namespace TextIntent

open Scalar Binary64

/-- Every value, even an undefined one, is moved between the bounds. -/
theorem le_confine {lo hi : Float} (h : lo ≤ hi) (x : Float) :
    lo ≤ (confine lo hi x).value ∧ (confine lo hi x).value ≤ hi := by
  obtain ⟨hlo, hhi, -⟩ := (le_iff lo hi).mp h
  have hl := Binary64.le_refl hlo
  have hh := Binary64.le_refl hhi
  unfold confine
  split_ifs with h₁ h₂ h₃
  · exact ⟨hl, h⟩
  · exact ⟨h, hh⟩
  · exact ⟨hl, h⟩
  · have hx : Defined x := by
      rw [isNaN_iff, not_not] at h₁
      exact h₁
    refine le_clamp h ?_
    unfold clamp
    split_ifs
    · exact hlo
    · exact hhi
    · exact hx

namespace FirstGreatest

variable {ι : Type} [DecidableEq ι] {v : ι → Float}

/-- Defined doubles are ordered as their values are. -/
theorem of_value (h : ∀ i, Defined (v i)) {places : List ι} {i : ι}
    (hv : FirstGreatest places (fun j => value (v j)) i) : FirstGreatest places v i :=
  hv.of_le_iff (fun j k => by rw [le_iff, and_iff_right (h j), and_iff_right (h k)])
    (fun j k => by rw [lt_iff, and_iff_right (h j), and_iff_right (h k)])

/-- A scan of defined doubles. -/
theorem foldl_ahead_of_defined (h : ∀ i, Defined (v i)) (a : ι) (l : List ι) :
    FirstGreatest (a :: l) v ((a :: l).foldl (ahead v) a) :=
  of_value h (foldl_ahead_of_lt_iff
    (fun i j => by rw [lt_iff, and_iff_right (h i), and_iff_right (h j)]) a l)

end FirstGreatest

theorem zero_le_maxFinite : (0 : Float) ≤ maxFinite := by
  rw [zero_le_iff]
  change Defined largest ∧ 0 ≤ value largest
  refine ⟨Defined.of_isFinite rfl, ?_⟩
  rw [value_largest, sub_nonneg, limit_eq]
  exact le_mul_of_one_le_left (by positivity) (by norm_num)

namespace PerCategory

variable {s : Scores Float}

@[simp] theorem get_zero (c : Category) : (zero : Scores Float).get c = 0 := get_const 0 c

theorem zero_le_get_zero (c : Category) : (0 : Float) ≤ (zero : Scores Float).get c := by
  rw [get_zero]
  exact zero_le_zero

theorem zero_le_nonnegative (s : Scores Float) (c : Category) : 0 ≤ s.nonnegative.value.get c := by
  rw [get_value_nonnegative]
  exact (le_confine zero_le_maxFinite _).1

/-- The category with the greater score, the first one of equals. -/
def better (s : Scores Float) (best c : Category) : Category :=
  if s.get best < s.get c then c else best

/-- The search for the leader, from one category on. -/
theorem firstGreatest_foldl_better (h : ∀ c, Defined (s.get c)) (best : Category)
    (l : List Category) : FirstGreatest (best :: l) s.get ((best :: l).foldl s.better best) :=
  FirstGreatest.foldl_ahead_of_defined h best l

/-- The leader is the first category with the greatest score. -/
theorem firstGreatest_leader (h : ∀ c, Defined (s.get c)) :
    FirstGreatest Category.all s.get s.leader :=
  firstGreatest_foldl_better h .greeting Category.all.tail

/-- No score is above that of the leader. -/
theorem get_le_leader (h : ∀ c, Defined (s.get c)) (c : Category) : s.get c ≤ s.get s.leader :=
  (firstGreatest_leader h).greatest c (Category.mem_all c)

theorem mem_toList (s : Scores Float) (c : Category) : s.get c ∈ s.toList :=
  List.mem_map_of_mem (Category.mem_all c)

theorem forall_mem_toList {p : Float → Prop} : (∀ x ∈ s.toList, p x) ↔ ∀ c, p (s.get c) := by
  simp [toList, Category.mem_all]

theorem zero_le_total (h : ∀ c, 0 ≤ s.get c) : 0 ≤ s.total :=
  zero_le_sum (forall_mem_toList.mpr h)

theorem get_le_total (h : ∀ c, 0 ≤ s.get c) (c : Category) : s.get c ≤ s.total :=
  le_sum (forall_mem_toList.mpr h) (mem_toList s c)

theorem isFinite_of_total (h : s.total.isFinite = true) (c : Category) :
    (s.get c).isFinite = true :=
  isFinite_of_sum h (mem_toList s c)

end PerCategory

/-- The denominator of a division by a total. -/
theorem isNearest_add_epsilon {t : Float} (h : t.isFinite = true) :
    IsNearest (t + epsilon) (value t + value epsilon) :=
  isNearest_add h rfl

theorem isFinite_add_epsilon {t : Float} (h₀ : 0 ≤ t) (h : t.isFinite = true) :
    (t + epsilon).isFinite = true := by
  have hn := isNearest_add_epsilon h
  have hv := value_nonneg h₀
  have he := epsilon_pos
  refine (isFinite_iff _).mpr ⟨hn.1, ?_⟩
  rw [hn.2, abs_of_nonneg (rounded_nonneg (by linarith))]
  refine rounded_lt_limit (by linarith) ?_
  have hle := (le_abs_self _).trans (abs_value_le_of_isFinite h)
  have hlt : value epsilon < 2 ^ (970 : ℤ) :=
    epsilon_lt.trans (zpow_lt_zpow_right₀ (by norm_num) (by norm_num))
  have htwo : (2 : ℝ) ^ (971 : ℤ) = 2 ^ (970 : ℤ) + 2 ^ (970 : ℤ) := by
    rw [show (971 : ℤ) = 970 + 1 by norm_num, zpow_add₀ (by norm_num)]
    ring
  rw [htwo] at hle
  generalize (2 : ℝ) ^ (970 : ℤ) = d at *
  linarith

namespace PerCategory

variable {s : Scores Float}

/-- The scores have a total to divide by. -/
def HasTotal (s : Scores Float) : Prop := s.total.isFinite = true ∧ value epsilon < value s.total

theorem normalized_of_hasTotal (h : s.HasTotal) :
    s.normalized = s.map (· / (s.total + epsilon)) := by
  obtain ⟨hf, he⟩ := h
  unfold normalized
  have : ¬(s.total ≤ epsilon) := fun hn => not_lt.mpr ((le_iff _ _).mp hn).2.2 he
  have hf' : isFinite s.total = true := hf
  simp [hf', this]

theorem normalized_of_not_hasTotal (h : ¬s.HasTotal) :
    s.normalized = zero.set .unknown 1 := by
  unfold normalized
  rw [if_pos]
  by_cases hf : s.total.isFinite = true
  · right
    have hle : ¬value epsilon < value s.total := fun hn => h ⟨hf, hn⟩
    exact (le_iff _ _).mpr ⟨Defined.of_isFinite hf, Defined.of_isFinite rfl, not_lt.mp hle⟩
  · left
    have hf' : ¬isFinite s.total = true := hf
    simpa using hf'

/-- Division by the total leads into the unit interval. Undefined scores do no harm, since they leave
no total to divide by. -/
theorem normalized_mem_unit (h : ∀ c, Defined (s.get c) → 0 ≤ s.get c) (c : Category) :
    0 ≤ s.normalized.get c ∧ s.normalized.get c ≤ 1 := by
  by_cases ht : s.HasTotal
  · have hs (d : Category) : 0 ≤ s.get d :=
      h d (Defined.of_isFinite (isFinite_of_total ht.1 d))
    have hD := isNearest_add_epsilon ht.1
    have hDf := isFinite_add_epsilon (zero_le_total hs) ht.1
    have hlD : value s.total ≤ value (s.total + epsilon) :=
      hD.le_value (le_add_of_nonneg_right epsilon_pos.le)
    have hle : s.get c ≤ s.total + epsilon :=
      Binary64.le_trans (get_le_total hs c)
        ((le_iff _ _).mpr ⟨Defined.of_isFinite ht.1, hD.1, hlD⟩)
    rw [normalized_of_hasTotal ht, get_map]
    exact InUnit.div (hs c) hle hDf (epsilon_pos.trans (ht.2.trans_le hlD))
  · rw [normalized_of_not_hasTotal ht, set, get_modify]
    split_ifs
    · exact InUnit.one
    · rw [get_zero]
      exact InUnit.zero

end PerCategory
end TextIntent

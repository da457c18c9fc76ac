import TextIntent.Config.Validation
import TextIntent.Proofs.Binary64.Nonnegative
import TextIntent.Proofs.Real.Scores
import TextIntent.Proofs.Scores.Bounds

/-! Scalars that stand for real numbers, rounded or not. What doubles and the reals have in common is enough to
follow scores that are only lowered: the order is that of the values, a product of nonnegative numbers is not
negative, and nothing grows when something is taken away. Different results may be rounded to one double, so no
operation has a law with a strict inequality. -/
namespace TextIntent

open Scalar

/-- Scalars with real values that give them their order. -/
class RealValued (α : Type) [Scalar α] where
  /-- The scalar answers comparisons. -/
  Defined : α → Prop
  value : α → ℝ
  le_iff (x y : α) : x ≤ y ↔ Defined x ∧ Defined y ∧ value x ≤ value y
  lt_iff (x y : α) : x < y ↔ Defined x ∧ Defined y ∧ value x < value y
  defined_of_isFinite {x : α} : isFinite x = true → Defined x
  isFinite_of_le {x y : α} : 0 ≤ x → x ≤ y → isFinite y = true → isFinite x = true
  isFinite_maxFinite : isFinite (maxFinite : α) = true
  zero_le_maxFinite : (0 : α) ≤ maxFinite
  isFinite_half : isFinite (0.5 : α) = true
  half_pos : (0 : α) < 0.5
  /-- Infinity may be multiplied by anything but zero. -/
  mul_nonneg {x y : α} : 0 ≤ x → 0 ≤ y → isFinite x = true ∨ 0 < y → isFinite y = true ∨ 0 < x →
    0 ≤ x * y
  /-- What is taken away may be infinite. -/
  sub_le {x y : α} : isFinite x = true → 0 ≤ y → x - y ≤ x

noncomputable instance : RealValued Float where
  Defined := Binary64.Defined
  value := Binary64.value
  le_iff := Binary64.le_iff
  lt_iff := Binary64.lt_iff
  defined_of_isFinite := Binary64.Defined.of_isFinite
  isFinite_of_le := Binary64.isFinite_of_le
  isFinite_maxFinite := rfl
  zero_le_maxFinite := zero_le_maxFinite
  isFinite_half := rfl
  half_pos := by decide +kernel
  mul_nonneg := Binary64.zero_le_mul
  sub_le := Binary64.sub_le

namespace Exact

noncomputable scoped instance realValued : RealValued ℝ where
  Defined _ := True
  value x := x
  le_iff x y := by simp
  lt_iff x y := by simp
  defined_of_isFinite _ := trivial
  isFinite_of_le _ _ _ := rfl
  isFinite_maxFinite := rfl
  zero_le_maxFinite := maxFinite_nonneg
  isFinite_half := rfl
  half_pos := by norm_num
  mul_nonneg hx hy _ _ := mul_nonneg hx hy
  sub_le _ hy := sub_le_self _ hy

end Exact

namespace RealValued

variable {α : Type} [Scalar α] [RealValued α] {x y z : α}

protected theorem le_refl (h : Defined x) : x ≤ x := (le_iff x x).mpr ⟨h, h, le_rfl⟩

protected theorem le_trans (h₁ : x ≤ y) (h₂ : y ≤ z) : x ≤ z := by
  rw [le_iff] at *
  exact ⟨h₁.1, h₂.2.1, h₁.2.2.trans h₂.2.2⟩

protected theorem lt_of_lt_of_le (h₁ : x < y) (h₂ : y ≤ z) : x < z := by
  rw [lt_iff] at *
  rw [le_iff] at h₂
  exact ⟨h₁.1, h₂.2.1, h₁.2.2.trans_le h₂.2.2⟩

protected theorem lt_of_le_of_lt (h₁ : x ≤ y) (h₂ : y < z) : x < z := by
  rw [lt_iff] at *
  rw [le_iff] at h₁
  exact ⟨h₁.1, h₂.2.1, h₁.2.2.trans_lt h₂.2.2⟩

protected theorem le_of_lt (h : x < y) : x ≤ y := by
  rw [lt_iff] at h
  exact (le_iff x y).mpr ⟨h.1, h.2.1, h.2.2.le⟩

protected theorem lt_asymm (h : x < y) : ¬y < x := by
  rw [lt_iff] at *
  exact fun hn => lt_asymm h.2.2 hn.2.2

protected theorem not_lt_of_le (h : x ≤ y) : ¬y < x := by
  rw [le_iff] at h
  rw [lt_iff]
  exact fun hn => not_lt.mpr h.2.2 hn.2.2

protected theorem lt_of_not_le (hx : Defined x) (hy : Defined y) (h : ¬x ≤ y) : y < x := by
  rw [le_iff] at h
  exact (lt_iff y x).mpr ⟨hy, hx, not_le.mp fun hn => h ⟨hx, hy, hn⟩⟩

theorem defined_zero : Defined (0 : α) := ((le_iff _ _).mp zero_le_maxFinite).1

theorem isNaN_eq_false (h : Defined x) : isNaN x = false := by
  simp [isNaN, RealValued.le_refl h]

/-- A nonnegative number that is not too large is left as it is. -/
theorem value_confine_of_mem (h₀ : 0 ≤ x) (h : x ≤ maxFinite) :
    (confine 0 maxFinite x).value = x := by
  have hd : Defined x := ((le_iff _ _).mp h).1
  unfold confine
  rw [isNaN_eq_false hd, isFinite_of_le h₀ h isFinite_maxFinite]
  simp only [Bool.false_eq_true, if_false, Bool.not_true, Traced.value_pure]
  rw [clamp, if_neg (RealValued.not_lt_of_le h₀), if_neg (RealValued.not_lt_of_le h)]

/-- A negative number becomes zero, even minus infinity. -/
theorem value_confine_of_neg (h : x < 0) : (confine 0 maxFinite x).value = 0 := by
  have hd : Defined x := ((lt_iff _ _).mp h).1
  unfold confine
  rw [isNaN_eq_false hd, if_neg Bool.false_ne_true, if_neg (RealValued.lt_asymm h)]
  split_ifs
  · rfl
  · rw [Traced.value_pure, clamp, if_pos h]

/-- A number that has been lowered from between the bounds is not raised above where it was. -/
theorem value_confine_le (h : x ≤ y) (h₀ : 0 ≤ y) (hy : y ≤ maxFinite) :
    0 ≤ (confine 0 maxFinite x).value ∧ (confine 0 maxFinite x).value ≤ y := by
  have hd : Defined x := ((le_iff _ _).mp h).1
  by_cases hx : 0 ≤ x
  · rw [value_confine_of_mem hx (RealValued.le_trans h hy)]
    exact ⟨hx, h⟩
  · rw [value_confine_of_neg (RealValued.lt_of_not_le defined_zero hd hx)]
    exact ⟨RealValued.le_refl defined_zero, h₀⟩

omit [RealValued α] in
theorem demandFinite_eq_none {q : Quantity} : demandFinite q x = none ↔ isFinite x = true := by
  unfold demandFinite
  split_ifs with h
  · exact iff_of_true rfl h
  · exact iff_of_false (by simp) h

theorem demandNonnegative_eq_none {q : Quantity} :
    demandNonnegative q x = none ↔ isFinite x = true ∧ 0 ≤ x := by
  unfold demandNonnegative
  rw [Option.or_eq_none_iff, demandFinite_eq_none]
  refine and_congr_right fun hf => ?_
  have hd : Defined x := defined_of_isFinite hf
  simp [le_iff, lt_iff, hd, defined_zero]

theorem demandPositive_eq_none {q : Quantity} :
    demandPositive q x = none ↔ isFinite x = true ∧ 0 < x := by
  unfold demandPositive
  rw [Option.or_eq_none_iff, demandFinite_eq_none]
  refine and_congr_right fun hf => ?_
  have hd : Defined x := defined_of_isFinite hf
  simp [le_iff, lt_iff, hd, defined_zero]

end RealValued

namespace PerCategory

section Generic

variable {α : Type} [Scalar α]

/-- Scores that are finite and not negative. Over the reals, too, none of them is greater than the largest
finite double. -/
def Ordinary (s : Scores α) : Prop := ∀ c, 0 ≤ s.get c ∧ s.get c ≤ maxFinite

instance (s : Scores α) : Decidable s.Ordinary :=
  decidable_of_iff (∀ c ∈ Category.all, 0 ≤ s.get c ∧ s.get c ≤ maxFinite)
    ⟨fun h c => h c (Category.mem_all c), fun h c _ => h c⟩

variable [RealValued α] {s : Scores α}

theorem Ordinary.isFinite (h : s.Ordinary) (c : Category) : Scalar.isFinite (s.get c) = true :=
  RealValued.isFinite_of_le (h c).1 (h c).2 RealValued.isFinite_maxFinite

theorem Ordinary.nonnegative_eq_self (h : s.Ordinary) : s.nonnegative.value = s :=
  ext_get fun c => by
    rw [get_value_nonnegative, RealValued.value_confine_of_mem (h c).1 (h c).2]

open scoped Exact in
/-- The leader is that of the values. -/
theorem leader_map_value (h : ∀ c, RealValued.Defined (s.get c)) :
    (s.map RealValued.value).leader = s.leader := by
  have hlt (c d : Category) :
      RealValued.value (s.get c) < RealValued.value (s.get d) ↔ s.get c < s.get d :=
    ⟨fun hv => (RealValued.lt_iff _ _).mpr ⟨h c, h d, hv⟩,
      fun hv => ((RealValued.lt_iff _ _).mp hv).2.2⟩
  unfold leader
  simp only [get_map, hlt]

/-- A category ahead of all others leads. -/
theorem leader_eq_of_lt {c : Category} (h : ∀ d, RealValued.Defined (s.get d))
    (hlt : ∀ d, d ≠ c → s.get d < s.get c) : s.leader = c := by
  rw [← leader_map_value h]
  refine Exact.leader_eq_of_lt fun d hd => ?_
  rw [get_map, get_map]
  exact ((RealValued.lt_iff _ _).mp (hlt d hd)).2.2

/-- The last category leads only if it is ahead of all others. -/
theorem leader_eq_unknown_iff (h : ∀ c, RealValued.Defined (s.get c)) :
    s.leader = .unknown ↔ ∀ c, c ≠ .unknown → s.get c < s.get .unknown := by
  refine ⟨fun hl c hc => ?_, leader_eq_of_lt h⟩
  have hmax := (Exact.firstMax_leader (s.map RealValued.value) c).2
  rw [leader_map_value h, hl, get_map, get_map] at hmax
  refine (RealValued.lt_iff _ _).mpr ⟨h c, h .unknown, hmax ?_⟩
  cases c <;> first | decide | exact absurd rfl hc

end Generic

/-- Among doubles the largest finite one bounds all finite ones. -/
theorem ordinary_iff {s : Scores Float} :
    s.Ordinary ↔ ∀ c, 0 ≤ s.get c ∧ (s.get c).isFinite = true := by
  refine forall_congr' fun c => and_congr_right fun h₀ => ⟨fun h => ?_, fun hf => ?_⟩
  · exact Binary64.isFinite_of_le h₀ h rfl
  · refine (Binary64.le_iff _ _).mpr ⟨Binary64.Defined.of_isFinite hf, Binary64.Defined.of_isFinite rfl, ?_⟩
    have hl := (le_abs_self _).trans (Binary64.abs_value_le_of_isFinite hf)
    exact hl.trans_eq Binary64.value_largest.symm

end PerCategory
end TextIntent

import Mathlib
import TextIntent.Numeric.Scalar

/-! The real numbers as scalars. Nothing is rounded, every value is finite and the functions are the real
ones, so a classification over them is the exact one. The instance is there for modules that open `Exact`;
elsewhere the reals only say what doubles stand for. -/
namespace TextIntent.Exact

noncomputable scoped instance real : Scalar ℝ where
  decLT := inferInstanceAs (DecidableLT ℝ)
  decLE := inferInstanceAs (DecidableLE ℝ)
  isFinite _ := true
  maxFinite := ((2 ^ 53 - 1) * 2 ^ 971 : ℕ)
  abs x := |x|
  sqrt := Real.sqrt
  exp := Real.exp
  tanh := Real.tanh
  logOnePlus x := Real.log (1 + x)

@[simp] theorem isFinite_eq (x : ℝ) : Scalar.isFinite x = true := rfl

@[simp] theorem abs_eq (x : ℝ) : Scalar.abs x = |x| := rfl

@[simp] theorem sqrt_eq (x : ℝ) : Scalar.sqrt x = √x := rfl

theorem epsilon_eq : (Scalar.epsilon : ℝ) = 1 / 10 ^ 9 := by
  change ((1e-9 : ℝ)) = _
  norm_num

theorem epsilon_pos : (0 : ℝ) < Scalar.epsilon := by
  rw [epsilon_eq]
  norm_num

@[simp] theorem isNaN_eq (x : ℝ) : Scalar.isNaN x = false := by
  simp [Scalar.isNaN]

@[simp] theorem isZero_iff (x : ℝ) : Scalar.isZero x = true ↔ x = 0 := by
  simp only [Scalar.isZero, Bool.and_eq_true, decide_eq_true_eq]
  exact le_antisymm_iff.symm

@[simp] theorem larger_eq (x y : ℝ) : Scalar.larger x y = max x y := by
  rw [Scalar.larger, isNaN_eq, if_neg (by simp), max_def_lt]

/-- Without rounding the order of a sum does not matter. -/
@[simp] theorem sum_eq (xs : List ℝ) : Scalar.sum xs = xs.sum :=
  List.sum_eq_foldl.symm

theorem le_peak (xs : List ℝ) : 0 ≤ Scalar.peak xs ∧ ∀ x ∈ xs, x ≤ Scalar.peak xs := by
  induction xs using List.reverseRecOn with
  | nil => simp
  | append_singleton xs x ih =>
    obtain ⟨h₀, hle⟩ := ih
    rw [Scalar.peak_concat, larger_eq]
    refine ⟨h₀.trans (le_max_left _ _), fun y hy => ?_⟩
    rcases List.mem_append.mp hy with hy | hy
    · exact (hle y hy).trans (le_max_left _ _)
    · exact (List.mem_singleton.mp hy).le.trans (le_max_right _ _)

end TextIntent.Exact

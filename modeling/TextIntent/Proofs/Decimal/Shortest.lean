import TextIntent.Proofs.Decimal.Basin

/-! The shortest decimal of a double lies in the basin of the double and has few enough digits to be
read exactly. -/
namespace TextIntent.Decimal

open Binary64

theorem tenTo_eq (k : ℕ) : tenTo k = 10 ^ k := rfl

theorem tenTo_pos (k : ℕ) : 0 < tenTo k := Nat.pow_pos (by norm_num)

@[simp] theorem cast_tenTo (k : ℕ) : (tenTo k : ℝ) = 10 ^ (k : ℤ) := by
  rw [tenTo_eq, zpow_natCast]
  push_cast
  rfl

theorem natCast_lt_tenTo {n k : ℕ} (h : (n : ℝ) < 10 ^ (k : ℤ)) : n < tenTo k := by
  rw [← cast_tenTo] at h
  exact_mod_cast h

/-- A power with an integer exponent as a ratio of powers with natural ones. -/
theorem pow_toNat_div_pow_toNat (b : ℝ) (z : ℤ) : b ^ z.toNat / b ^ (-z).toNat = b ^ z := by
  cases z with
  | ofNat k => simp
  | negSucc k => simp [Int.neg_negSucc, zpow_negSucc]

/-- A point of a decimal grid on the scale of a basin. -/
theorem gridStep_div (q g : ℤ) (n : ℕ) :
    0 < (gridStep q g).2 ∧
      ((n * (gridStep q g).1 : ℕ) : ℝ) / (gridStep q g).2 = 4 * (n * 10 ^ g / 2 ^ q) := by
  have hg := pow_toNat_div_pow_toNat 10 g
  have hq := pow_toNat_div_pow_toNat 2 (2 - q)
  rw [zpow_sub₀ (by norm_num), neg_sub] at hq
  have hpos : 0 < tenTo (-g).toNat := tenTo_pos _
  refine ⟨Nat.shiftLeft_pos_iff.mpr hpos, ?_⟩
  have he : ((gridStep q g).1 : ℝ) / (gridStep q g).2 =
      10 ^ g.toNat / 10 ^ (-g).toNat * (2 ^ (2 - q).toNat / 2 ^ (q - 2).toNat) := by
    have h₁ : (gridStep q g).1 = 10 ^ g.toNat * 2 ^ (2 - q).toNat := Nat.shiftLeft_eq _ _
    have h₂ : (gridStep q g).2 = 10 ^ (-g).toNat * 2 ^ (q - 2).toNat := Nat.shiftLeft_eq _ _
    rw [h₁, h₂]
    push_cast
    ring
  rw [Nat.cast_mul, mul_div_assoc, he, hg, hq]
  norm_num
  ring

theorem inBasin_of_gridPoint {tie : Tie} {m n : ℕ} {q g : ℤ} (hm : 0 < m)
    (h : gridPoint? tie (Basin.of m q) q g = some n) : InBasin m q (n * 10 ^ g) := by
  have hd : (Basin.of m q).below ≤ (Basin.of m q).centre := by
    change (if _ then 1 else 2) ≤ 4 * m
    split_ifs <;> omega
  obtain ⟨hb, he⟩ := gridStep_div q g n
  have hh : (Basin.of m q).holds (gridStep q g).1 (gridStep q g).2 n = true := by
    unfold gridPoint? at h
    simp only at h
    split_ifs at h with h₁ h₂ h₃ <;> cases h <;> assumption
  rw [inBasin_iff, ← he]
  exact Basin.contains_of_holds hd hb hh

/-- A double lies in its own basin. -/
theorem inBasin_self {m : ℕ} (q : ℤ) : InBasin m q (m * 2 ^ q) := by
  have hb : (0 : ℝ) < (Basin.of m q).below := by
    unfold Basin.of
    split_ifs <;> norm_num
  have hx : (4 * ((m : ℝ) * 2 ^ q / 2 ^ q)) = (Basin.of m q).centre := by
    rw [mul_div_cancel_right₀ _ (by positivity)]
    exact_mod_cast rfl
  have ha : (0 : ℝ) < (Basin.of m q).above := by norm_num [Basin.of]
  rw [inBasin_iff, Basin.Contains, hx]
  exact ⟨by linarith, by linarith, Or.inr ⟨by linarith, by linarith⟩⟩

theorem exactDigits_mul (m : ℕ) (q : ℤ) :
    ((exactDigits m q).1 : ℝ) * 10 ^ (exactDigits m q).2 = m * 2 ^ q := by
  cases q with
  | ofNat k => simp [exactDigits, Nat.shiftLeft_eq]
  | negSucc k =>
    have h : (10 : ℝ) ^ (k + 1) = 5 ^ (k + 1) * 2 ^ (k + 1) := by rw [← mul_pow]; norm_num
    simp only [exactDigits, zpow_negSucc, h, Nat.pow_eq]
    push_cast
    field_simp

/-- The shortest digits are a point of a decimal grid in the basin, or the number itself. -/
theorem shortest_cases (tie : Tie) (m : ℕ) (q : ℤ) :
    (∃ i n, i < 22 ∧ gridPoint? tie (Basin.of m q) q (coarsestGrid m q - (i : ℕ)) = some n ∧
      shortest tie m q = (n, coarsestGrid m q - i)) ∨ shortest tie m q = exactDigits m q := by
  unfold shortest
  simp only
  cases hf : (List.range 22).findSome? fun (i : Nat) =>
      (gridPoint? tie (Basin.of m q) q (coarsestGrid m q - i)).map
        fun n => (n, coarsestGrid m q - i) with
  | none => exact Or.inr rfl
  | some p =>
    obtain ⟨i, hi, hp⟩ := List.exists_of_findSome?_eq_some hf
    obtain ⟨n, hn, rfl⟩ := Option.map_eq_some_iff.mp hp
    exact Or.inl ⟨i, n, List.mem_range.mp hi, hn, rfl⟩

theorem shortest_inBasin (tie : Tie) {m : ℕ} (hm : 0 < m) (q : ℤ) :
    InBasin m q ((shortest tie m q).1 * 10 ^ (shortest tie m q).2) := by
  rcases shortest_cases tie m q with ⟨i, n, -, hn, he⟩ | he
  · rw [he]
    exact inBasin_of_gridPoint hm hn
  · rw [he, exactDigits_mul]
    exact inBasin_self q

/-- A number in the basin of a finite double is below the limit. -/
theorem InBasin.lt_limit {m : ℕ} {q : ℤ} {x : ℝ} (hr : InRange m q) (hq : q ≤ 971)
    (h : InBasin m q x) : x < limit := by
  have h₁ : (m : ℝ) + 1 ≤ 2 ^ 53 := by exact_mod_cast hr.lt
  have h₂ : x / 2 ^ q < 2 ^ 53 := by linarith [h.near.2.1]
  have h₃ : (2 : ℝ) ^ q ≤ 2 ^ (971 : ℤ) := zpow_le_zpow_right₀ (by norm_num) hq
  rw [limit_eq]
  calc x < 2 ^ 53 * 2 ^ q := (div_lt_iff₀ (by positivity)).mp h₂
    _ ≤ 2 ^ 53 * 2 ^ (971 : ℤ) := mul_le_mul_of_nonneg_left h₃ (by positivity)

theorem limit_lt_tenTo : limit < (10 : ℝ) ^ (309 : ℤ) := by
  have h : 2 ^ 1024 < 10 ^ 309 := by decide +kernel
  rw [limit]
  exact_mod_cast h

/-- Grids reach down to the smallest doubles only. -/
theorem coarsestGrid_ge {m : ℕ} {q : ℤ} (h : leastExponent ≤ q) : -323 ≤ coarsestGrid m q := by
  unfold coarsestGrid
  unfold leastExponent at h
  omega

theorem mul_pow_lt {m b k s n N : ℕ} (hb : 0 < b) (hm : m ≤ s) (hk : k ≤ n) (h : s * b ^ n < N) :
    m * b ^ k < N :=
  lt_of_le_of_lt (Nat.mul_le_mul hm (Nat.pow_le_pow_right hb hk)) h

theorem exactDigits_lt {m : ℕ} {q : ℤ} (hr : InRange m q) (hq : q ≤ 971) :
    (exactDigits m q).1 < tenTo 768 := by
  have hl := hr.le
  unfold leastExponent at hl
  cases q with
  | ofNat k =>
    have hk : k ≤ 971 := Int.ofNat_le.mp hq
    simp only [exactDigits, Nat.shiftLeft_eq]
    exact mul_pow_lt (by norm_num) hr.lt.le hk (by decide +kernel)
  | negSucc k =>
    have hk : k + 1 ≤ 1074 := by omega
    simp only [exactDigits, Nat.pow_eq]
    exact mul_pow_lt (by norm_num) hr.lt.le hk (by decide +kernel)

theorem shortest_lt (tie : Tie) {m : ℕ} {q : ℤ} (hm : 0 < m) (hr : InRange m q) (hq : q ≤ 971) :
    (shortest tie m q).1 < tenTo 768 := by
  rcases shortest_cases tie m q with ⟨i, n, hi, hn, he⟩ | he
  · have hg := coarsestGrid_ge (m := m) hr.le
    have hx := ((inBasin_of_gridPoint hm hn).lt_limit hr hq).trans limit_lt_tenTo
    have hlt : (n : ℝ) < 10 ^ ((768 : ℕ) : ℤ) := by
      calc (n : ℝ) < 10 ^ (309 : ℤ) / 10 ^ (coarsestGrid m q - i) :=
            (lt_div_iff₀ (by positivity)).mpr hx
        _ = 10 ^ (309 - (coarsestGrid m q - i)) := (zpow_sub₀ (by norm_num) _ _).symm
        _ ≤ 10 ^ ((768 : ℕ) : ℤ) := zpow_le_zpow_right₀ (by norm_num) (by omega)
    rw [he]
    exact natCast_lt_tenTo hlt
  · rw [he]
    exact exactDigits_lt hr hq

end TextIntent.Decimal

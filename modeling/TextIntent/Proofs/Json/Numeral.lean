import Mathlib
import TextIntent.Json.Token

/-! A numeral is read back from its digits: sign, whole part, fraction and exponent each end where the
next one begins. -/
namespace TextIntent.Json

open Decimal (Numeral padded tenTo)

@[simp] theorem natOfDigits_toDigits (n : ℕ) : natOfDigits (Nat.toDigits 10 n) = n :=
  Nat.ofDigitChars_ten_toDigits

theorem natOfDigits_append (xs ys : List Char) :
    natOfDigits (xs ++ ys) = natOfDigits xs * 10 ^ ys.length + natOfDigits ys := by
  induction ys using List.reverseRecOn with
  | nil => simp [natOfDigits]
  | append_singleton ys y ih =>
    have step (zs : List Char) :
        natOfDigits (zs ++ [y]) = 10 * natOfDigits zs + (y.toNat - '0'.toNat) := by
      simp [natOfDigits]
    rw [← List.append_assoc, step, step, ih, List.length_append, List.length_singleton, pow_succ]
    ring

theorem natOfDigits_replicate (k : ℕ) : natOfDigits (List.replicate k '0') = 0 := by
  induction k with
  | zero => rfl
  | succ k ih =>
    rw [List.replicate_succ', natOfDigits_append, ih]
    rfl

theorem isDigit_of_mem_toDigits {n : ℕ} {c : Char} (h : c ∈ Nat.toDigits 10 n) : c.isDigit = true :=
  Nat.isDigit_of_mem_toDigits (by norm_num) (by norm_num) h

theorem isDigit_of_mem_padded {width n : ℕ} {c : Char} (h : c ∈ padded width n) :
    c.isDigit = true := by
  rcases List.mem_append.mp h with h | h
  · rw [List.eq_of_mem_replicate h]
    rfl
  · exact isDigit_of_mem_toDigits h

@[simp] theorem natOfDigits_padded (width n : ℕ) : natOfDigits (padded width n) = n := by
  simp [padded, natOfDigits_append, natOfDigits_replicate]

theorem length_padded {width n : ℕ} (hw : 0 < width) (h : n < tenTo width) :
    (padded width n).length = width := by
  have hl : (Nat.toDigits 10 n).length ≤ width := (Nat.length_toDigits_le_iff (by norm_num) hw).mpr h
  simp only [padded, List.length_append, List.length_replicate]
  omega

theorem toDigits_eq_cons (n : ℕ) : ∃ d ds, Nat.toDigits 10 n = d :: ds ∧ d.isDigit = true := by
  obtain ⟨d, ds, h⟩ := List.exists_cons_of_ne_nil (Nat.toDigits_ne_nil (n := n) (b := 10))
  exact ⟨d, ds, h, isDigit_of_mem_toDigits (h ▸ List.mem_cons_self)⟩

/-- No positive number is written with a leading zero. -/
theorem head_toDigits_ne {n : ℕ} (hn : 0 < n) : (Nat.toDigits 10 n).head? ≠ some '0' := by
  induction n using Nat.strong_induction_on with
  | _ n ih =>
    rcases lt_or_ge n 10 with h | h
    · rw [Nat.toDigits_of_lt_base h]
      interval_cases n <;> decide
    · rw [Nat.toDigits_of_base_le (by norm_num) h, List.head?_append_of_ne_nil _ Nat.toDigits_ne_nil]
      exact ih (n / 10) (by omega) (by omega)

/-- Digits end at the first character that is none. -/
theorem span_digits (ds rest : List Char) (hd : ∀ c ∈ ds, c.isDigit = true)
    (hr : ∀ c ∈ rest.head?, c.isDigit = false) :
    (ds ++ rest).takeWhile Char.isDigit = ds ∧ (ds ++ rest).dropWhile Char.isDigit = rest := by
  have ht : rest.takeWhile Char.isDigit = [] ∧ rest.dropWhile Char.isDigit = rest := by
    cases rest with
    | nil => exact ⟨rfl, rfl⟩
    | cons c cs =>
      have hc : c.isDigit = false := hr c rfl
      simp [hc]
  rw [List.takeWhile_append_of_pos hd, List.dropWhile_append_of_pos hd, ht.1, ht.2]
  simp

theorem exponent?_exponentText (e : Option ℤ) : exponent? (Numeral.exponentText e) = some e := by
  have hd (k : ℕ) : (Nat.toDigits 10 k).all Char.isDigit = true :=
    List.all_eq_true.mpr fun c => isDigit_of_mem_toDigits
  have hn (k : ℕ) : Nat.toDigits 10 k ≠ [] := Nat.toDigits_ne_nil
  rcases e with _ | k | k
  · rfl
  · simp [Numeral.exponentText, exponent?, hd, hn]
  · simp [Numeral.exponentText, exponent?, hd, hn, Int.negSucc_eq]

/-- An exponent does not begin with a digit or a point. -/
theorem head_exponentText {e : Option ℤ} {c : Char} (h : c ∈ (Numeral.exponentText e).head?) :
    c = 'e' := by
  rcases e with _ | k | k
  · simp [Numeral.exponentText] at h
  · simpa [Numeral.exponentText] using h.symm
  · simpa [Numeral.exponentText] using h.symm

theorem isDigit_head_exponentText (e : Option ℤ) :
    ∀ c ∈ (Numeral.exponentText e).head?, c.isDigit = false := by
  intro c hc
  rw [head_exponentText hc]
  rfl

theorem guard_of {p : Prop} [Decidable p] (h : p) : (guard p : Option Unit) = some () := if_pos h

/-- A number after its sign. -/
def unsigned? (negative : Bool) (cs : List Char) : Option Numeral := do
  let whole := cs.takeWhile Char.isDigit
  guard (whole ≠ [] ∧ (whole.head? = some '0' → whole.length = 1))
  match cs.dropWhile Char.isDigit with
  | '.' :: rest =>
    let fraction := rest.takeWhile Char.isDigit
    guard (fraction ≠ [])
    let exponent ← exponent? (rest.dropWhile Char.isDigit)
    return ⟨negative, natOfDigits (whole ++ fraction), fraction.length, exponent⟩
  | rest =>
    let exponent ← exponent? rest
    return ⟨negative, natOfDigits whole, 0, exponent⟩

theorem numeral?_minus (cs : List Char) : numeral? ('-' :: cs) = unsigned? true cs := rfl

theorem numeral?_digit {d : Char} (hd : d.isDigit = true) (cs : List Char) :
    numeral? (d :: cs) = unsigned? false (d :: cs) := by
  have hm : d ≠ '-' := by
    rintro rfl
    exact absurd hd (by decide)
  unfold numeral? unsigned?
  split
  next heq =>
    split at heq
    · next h => exact absurd (List.cons.inj h).1 hm
    · cases heq
      rfl

/-- Without a point the whole part ends at the exponent. -/
theorem unsigned?_whole (s : Bool) {whole : List Char} (hd : ∀ c ∈ whole, c.isDigit = true)
    (hg : whole ≠ [] ∧ (whole.head? = some '0' → whole.length = 1)) (e : Option ℤ) :
    unsigned? s (whole ++ Numeral.exponentText e) = some ⟨s, natOfDigits whole, 0, e⟩ := by
  obtain ⟨ht, hr⟩ := span_digits whole _ hd (isDigit_head_exponentText e)
  simp only [unsigned?, ht, hr, guard_of hg, Option.bind_eq_bind, Option.bind_some]
  split
  · next rest hrest =>
    have hc : '.' = 'e' := head_exponentText (e := e) (by rw [hrest]; rfl)
    exact absurd hc (by decide)
  · simp [exponent?_exponentText]

/-- With a point the whole part ends there, and the fraction at the exponent. -/
theorem unsigned?_point (s : Bool) {whole fraction : List Char} (hd : ∀ c ∈ whole, c.isDigit = true)
    (hg : whole ≠ [] ∧ (whole.head? = some '0' → whole.length = 1))
    (hf : ∀ c ∈ fraction, c.isDigit = true) (hne : fraction ≠ []) (e : Option ℤ) :
    unsigned? s (whole ++ '.' :: (fraction ++ Numeral.exponentText e)) =
      some ⟨s, natOfDigits (whole ++ fraction), fraction.length, e⟩ := by
  obtain ⟨ht, hr⟩ := span_digits whole ('.' :: (fraction ++ Numeral.exponentText e)) hd
    (by rintro c ⟨⟩; rfl)
  obtain ⟨ht', hr'⟩ := span_digits fraction _ hf (isDigit_head_exponentText e)
  simp only [unsigned?, ht, hr, ht', hr', guard_of hg, guard_of hne]
  simp [exponent?_exponentText]

/-- Decimal digits of a number are a whole part. -/
theorem toDigits_isWhole (n : ℕ) : Nat.toDigits 10 n ≠ [] ∧
    ((Nat.toDigits 10 n).head? = some '0' → (Nat.toDigits 10 n).length = 1) := by
  refine ⟨Nat.toDigits_ne_nil, fun h => ?_⟩
  rcases Nat.eq_zero_or_pos n with rfl | hn
  · rfl
  · exact absurd h (head_toDigits_ne hn)

theorem unsigned?_chars (s : Bool) (digits places : ℕ) (e : Option ℤ) :
    unsigned? s (Nat.toDigits 10 (digits / tenTo places) ++
      ((if places = 0 then [] else '.' :: padded places (digits % tenTo places)) ++
        Numeral.exponentText e)) = some ⟨s, digits, places, e⟩ := by
  have hwd : ∀ c ∈ Nat.toDigits 10 (digits / tenTo places), c.isDigit = true :=
    fun c => isDigit_of_mem_toDigits
  have hwg := toDigits_isWhole (digits / tenTo places)
  rcases Nat.eq_zero_or_pos places with rfl | hp
  · rw [if_pos rfl, List.nil_append, unsigned?_whole s hwd hwg, natOfDigits_toDigits]
    rw [show digits / tenTo 0 = digits from Nat.div_one digits]
  · have hlt : digits % tenTo places < tenTo places := Nat.mod_lt _ (Nat.pow_pos (by norm_num))
    have hl : (padded places (digits % tenTo places)).length = places := length_padded hp hlt
    have hv : natOfDigits (Nat.toDigits 10 (digits / tenTo places) ++
        padded places (digits % tenTo places)) = digits := by
      rw [natOfDigits_append, hl, natOfDigits_toDigits, natOfDigits_padded]
      exact Nat.div_add_mod' digits (10 ^ places)
    rw [if_neg hp.ne', List.cons_append, unsigned?_point s hwd hwg
      (fun c => isDigit_of_mem_padded) (List.ne_nil_of_length_pos (hl.symm ▸ hp)), hv, hl]

theorem numeral?_chars (n : Numeral) : numeral? n.chars = some n := by
  obtain ⟨s, digits, places, e⟩ := n
  have hu := unsigned?_chars s digits places e
  unfold Numeral.chars
  simp only [List.append_assoc]
  cases s with
  | true => exact (numeral?_minus _).trans hu
  | false =>
    obtain ⟨d, ds, hw, hd⟩ := toDigits_eq_cons (digits / tenTo places)
    rw [hw] at hu ⊢
    exact (numeral?_digit hd _).trans hu

end TextIntent.Json

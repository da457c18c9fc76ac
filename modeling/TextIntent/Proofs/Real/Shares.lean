import TextIntent.Proofs.Real.Bridging

/-! Boosted scores cannot be levelled. Under the default configuration a category that was raised by a
telltale word keeps enough through the repulsions and any one bridging rule to leave some category with
more than `0.1305` of the total. All bounds follow the scores backwards: from the end, where no category has
more than that, to what they can have been before. -/
namespace TextIntent.Exact

open Scalar Config

/-- No category has more than this share of the total. -/
def Flat (q : Scores ℝ) : Prop := ∀ c, q.get c ≤ 261 / 2000 * q.total

/-- Seven flat scores leave most of the rest to `unknown`, so that a small score of `unknown` makes all of
them small. -/
theorem Flat.get_le {q : Scores ℝ} (h : Flat q) (hu : q.get .unknown ≤ 23 / 160) (c : Category) :
    q.get c ≤ 2169 / 10000 := by
  have htotal : q.total = q.get .greeting + (q.get .help + (q.get .status + (q.get .navigation +
      (q.get .physics + (q.get .operator + (q.get .structural + q.get .unknown)))))) := by
    simp [total_eq, Category.all]
  linarith [h c, h .greeting, h .help, h .status, h .navigation, h .physics, h .operator,
    h .structural]

section Requests

variable {b₁ b₂ b₃ h s₁ s₂ s₃ : ℝ}

/-- `help`, `status` and `navigation` before they were small. -/
theorem requests_lt (r₁ : Repelled (3 / 8) b₁ b₂ h s₂) (r₂ : Repelled (3 / 8) h b₃ s₁ s₃)
    (h₁ : s₁ ≤ 2169 / 10000) (h₂ : 0.8 * s₂ ≤ 2169 / 10000) (h₃ : s₃ ≤ 2169 / 10000) :
    b₁ < 3 / 10 ∧ b₂ < 3 / 10 ∧ b₃ < 3 / 10 := by
  have hk : (0 : ℝ) ≤ 3 / 8 := by norm_num
  have hstatus : s₂ ≤ 0.272 := by linarith
  have hh : h ≤ 0.2362 := r₂.first_le_of hk h₁ h₃ (by norm_num) (by norm_num)
  have hb₃ : b₃ ≤ 0.2362 := r₂.symm.first_le_of hk h₃ h₁ (by norm_num) (by norm_num)
  have hb₁ : b₁ ≤ 0.264 := r₁.first_le_of hk hh hstatus (by norm_num) (by norm_num)
  have hb₂ : b₂ ≤ 0.2985 := r₁.symm.first_le_of hk hstatus hh (by norm_num) (by norm_num)
  norm_num at *
  exact ⟨by linarith, by linarith, by linarith⟩

end Requests

section Sciences

variable {b₁ b₂ b₃ p o t s₁ s₂ s₃ : ℝ}

/-- `physics`, `operator` and `structural` on the way back through their repulsions. -/
theorem sciences_le (r₁ : Repelled (3 / 8) b₁ b₂ p o) (r₂ : Repelled (3 / 8) b₃ o t s₂)
    (r₃ : Repelled (3 / 8) t p s₃ s₁) {S₁ S₂ S₃ T P O B₁ B₂ B₃ : ℝ} (h₁ : s₁ ≤ S₁) (h₂ : s₂ ≤ S₂)
    (h₃ : s₃ ≤ S₃) (hlt : ∀ x ∈ [S₁, S₂, S₃, T, P, O], 3 / 8 * x < 1)
    (hT : S₃ ≤ T * (1 - 3 / 8 * S₁)) (hP : S₁ ≤ P * (1 - 3 / 8 * S₃))
    (hO : S₂ ≤ O * (1 - 3 / 8 * T)) (hB₁ : P ≤ B₁ * (1 - 3 / 8 * O))
    (hB₂ : O ≤ B₂ * (1 - 3 / 8 * P)) (hB₃ : T ≤ B₃ * (1 - 3 / 8 * S₂)) :
    t ≤ T ∧ p ≤ P ∧ o ≤ O ∧ b₁ ≤ B₁ ∧ b₂ ≤ B₂ ∧ b₃ ≤ B₃ := by
  have hk : (0 : ℝ) ≤ 3 / 8 := by norm_num
  simp only [List.forall_mem_cons] at hlt
  obtain ⟨hS₁, hS₂, hS₃, hT₁, hP₁, hO₁, -⟩ := hlt
  have ht : t ≤ T := r₃.first_le_of hk h₃ h₁ hS₁ hT
  have hp : p ≤ P := r₃.symm.first_le_of hk h₁ h₃ hS₃ hP
  have ho : o ≤ O := r₂.symm.first_le_of hk h₂ ht hT₁ hO
  exact ⟨ht, hp, ho, r₁.first_le_of hk hp ho hO₁ hB₁, r₁.symm.first_le_of hk ho hp hP₁ hB₂,
    r₂.first_le_of hk ht h₂ hS₂ hB₃⟩

/-- What is left of a raised score of `physics`. -/
theorem le_physics_of_raised (r₁ : Repelled (3 / 8) b₁ b₂ p o) (r₃ : Repelled (3 / 8) t p s₃ s₁)
    {O S₃ : ℝ} (ho : o ≤ O) (h₃ : s₃ ≤ S₃) (hO : 3 / 8 * O ≤ 1) (hS₃ : 3 / 8 * S₃ ≤ 1)
    (hraised : 3 / 10 ≤ b₁) : 3 / 10 * (1 - 3 / 8 * O) * (1 - 3 / 8 * S₃) ≤ s₁ := by
  have hk : (0 : ℝ) ≤ 3 / 8 := by norm_num
  have hp := r₁.le_first_of hk (by norm_num) hraised ho hO
  exact r₃.symm.le_first_of hk (mul_nonneg (by norm_num) (sub_nonneg.mpr hO)) hp h₃ hS₃

/-- `physics`, `operator` and `structural` before the repulsions, when all of them are small afterwards. -/
theorem sciences_lt (r₁ : Repelled (3 / 8) b₁ b₂ p o) (r₂ : Repelled (3 / 8) b₃ o t s₂)
    (r₃ : Repelled (3 / 8) t p s₃ s₁) (h₁ : s₁ ≤ 2169 / 10000) (h₂ : s₂ ≤ 2169 / 10000)
    (h₃ : s₃ ≤ 2169 / 10000) : b₁ < 3 / 10 ∧ b₂ < 3 / 10 ∧ b₃ < 3 / 10 := by
  obtain ⟨-, -, -, hb₁, hb₂, hb₃⟩ : t ≤ 0.2362 ∧ p ≤ 0.2362 ∧ o ≤ 0.239 ∧
      b₁ ≤ 0.26 ∧ b₂ ≤ 0.27 ∧ b₃ ≤ 0.26 := by
    apply sciences_le r₁ r₂ r₃ h₁ h₂ h₃ <;> norm_num
  exact ⟨hb₁.trans_lt (by norm_num), hb₂.trans_lt (by norm_num), hb₃.trans_lt (by norm_num)⟩

/-- The same under the rule for operator words, which lets `physics` alone be raised, once and without
losing much of it. -/
theorem sciences_of_operator (r₁ : Repelled (3 / 8) b₁ b₂ p o) (r₂ : Repelled (3 / 8) b₃ o t s₂)
    (r₃ : Repelled (3 / 8) t p s₃ s₁) (h₁ : 0.7 * s₁ ≤ 2169 / 10000)
    (h₂ : 1.4 * s₂ ≤ 2169 / 10000) (h₃ : s₃ ≤ 2169 / 10000) :
    b₂ < 3 / 10 ∧ b₃ < 3 / 10 ∧ b₁ < 3 / 5 ∧ (3 / 10 ≤ b₁ → 0.2579 ≤ s₁) := by
  have h₁' : s₁ ≤ 0.31 := by linarith
  have h₂' : s₂ ≤ 0.155 := by linarith
  obtain ⟨-, -, ho, hb₁, hb₂, hb₃⟩ : t ≤ 0.246 ∧ p ≤ 0.338 ∧ o ≤ 0.1708 ∧
      b₁ ≤ 0.4 ∧ b₂ ≤ 0.2 ∧ b₃ ≤ 0.27 := by
    apply sciences_le r₁ r₂ r₃ h₁' h₂' h₃ <;> norm_num
  exact ⟨hb₂.trans_lt (by norm_num), hb₃.trans_lt (by norm_num), hb₁.trans_lt (by norm_num),
    fun hraised => le_trans (by norm_num)
      (le_physics_of_raised r₁ r₃ ho h₃ (by norm_num) (by norm_num) hraised)⟩

/-- The same under the rule for a position in the band. -/
theorem sciences_of_band (r₁ : Repelled (3 / 8) b₁ b₂ p o) (r₂ : Repelled (3 / 8) b₃ o t s₂)
    (r₃ : Repelled (3 / 8) t p s₃ s₁) (h₁ : 0.75 * s₁ ≤ 2169 / 10000)
    (h₂ : s₂ ≤ 2169 / 10000) (h₃ : s₃ ≤ 2169 / 10000) :
    b₂ < 3 / 10 ∧ b₃ < 3 / 10 ∧ b₁ < 3 / 5 ∧ (3 / 10 ≤ b₁ → 0.25 ≤ s₁) := by
  have h₁' : s₁ ≤ 0.2892 := by linarith
  obtain ⟨-, -, ho, hb₁, hb₂, hb₃⟩ : t ≤ 0.244 ∧ p ≤ 0.315 ∧ o ≤ 0.239 ∧
      b₁ ≤ 0.4 ∧ b₂ ≤ 0.28 ∧ b₃ ≤ 0.27 := by
    apply sciences_le r₁ r₂ r₃ h₁' h₂ h₃ <;> norm_num
  exact ⟨hb₂.trans_lt (by norm_num), hb₃.trans_lt (by norm_num), hb₁.trans_lt (by norm_num),
    fun hraised => le_trans (by norm_num)
      (le_physics_of_raised r₁ r₃ ho h₃ (by norm_num) (by norm_num) hraised)⟩

/-- The same under the rule for structural words. -/
theorem sciences_of_structural (r₁ : Repelled (3 / 8) b₁ b₂ p o)
    (r₂ : Repelled (3 / 8) b₃ o t s₂) (r₃ : Repelled (3 / 8) t p s₃ s₁)
    (h₁ : 0.6 * s₁ ≤ 2169 / 10000) (h₂ : 0.6 * s₂ ≤ 2169 / 10000)
    (h₃ : 1.5 * s₃ ≤ 2169 / 10000) : t ≤ 0.1674 ∧ p ≤ 0.383 ∧ b₃ < 3 / 10 ∧ b₂ < 3 / 5 := by
  have h₁' : s₁ ≤ 0.3615 := by linarith
  have h₂' : s₂ ≤ 0.3615 := by linarith
  have h₃' : s₃ ≤ 0.1446 := by linarith
  obtain ⟨ht, hp, -, -, hb₂, hb₃⟩ : t ≤ 0.1674 ∧ p ≤ 0.383 ∧ o ≤ 0.386 ∧
      b₁ ≤ 0.45 ∧ b₂ ≤ 0.46 ∧ b₃ ≤ 0.2 := by
    apply sciences_le r₁ r₂ r₃ h₁' h₂' h₃' <;> norm_num
  exact ⟨ht, hp, hb₃.trans_lt (by norm_num), hb₂.trans_lt (by norm_num)⟩

/-- Under that rule `operator` alone can be raised, and what it keeps is too much for a total that
contains nothing else. -/
theorem operator_not_flat_of_structural {T : ℝ} (r₁ : Repelled (3 / 8) b₁ b₂ p o)
    (r₂ : Repelled (3 / 8) b₃ o t s₂) (r₃ : Repelled (3 / 8) t p s₃ s₁)
    (h₁ : 0.6 * s₁ ≤ 2169 / 10000) (ht : t ≤ 0.1674) (hp : p ≤ 0.383)
    (hT₂ : 0.6 * s₂ ≤ 261 / 2000 * T) (hT₃ : 1.5 * s₃ ≤ 261 / 2000 * T)
    (hT : T ≤ 1.3 + 1 / 2 * s₃ - 2 / 5 * s₁ - 2 / 5 * s₂) : b₂ < 3 / 10 := by
  have hk : (0 : ℝ) ≤ 3 / 8 := by norm_num
  by_contra hraised
  rw [not_lt] at hraised
  have h₁' : s₁ ≤ 0.3615 := by linarith
  have ho : 0.2569 ≤ o := le_trans (by norm_num)
    (r₁.symm.le_first_of hk (by norm_num) hraised hp (by norm_num))
  have hs₂ : 0.2407 ≤ s₂ := le_trans (by norm_num)
    (r₂.symm.le_first_of hk (by norm_num) ho ht (by norm_num))
  -- the total is small now, and so is the score of `structural`
  have hs₃ : s₃ ≤ 0.1096 := by
    norm_num at *
    linarith [r₃.second_nonneg]
  have ht' : t ≤ 0.127 := r₃.first_le_of hk hs₃ h₁' (by norm_num) (by norm_num)
  -- what `operator` keeps, and what the total allows it, both against the score of `physics`
  have hps : 0.958 * p ≤ s₁ := by
    have hp₀ := r₁.first_nonneg
    calc 0.958 * p ≤ p * (1 - 3 / 8 * 0.1096) := by linarith
      _ ≤ p * (1 - 3 / 8 * s₃) := by gcongr
      _ ≤ s₁ := r₃.le_second
  have hkeeps : 0.3 * (1 - 3 / 8 * p) * (1 - 3 / 8 * 0.127) ≤ s₂ := by
    have hpart : 0 ≤ 1 - 3 / 8 * p := by linarith
    have ho' : 0.3 * (1 - 3 / 8 * p) ≤ o :=
      le_trans (mul_le_mul_of_nonneg_right (by linarith) hpart) r₁.le_second
    refine le_trans (mul_le_mul ho' ?_ (by norm_num) r₁.second_nonneg) r₂.le_second
    linarith
  linarith

end Sciences

section Boosted

/-- Scores that have been raised by telltale words: three tenths for each, on top of fused scores that add
up to one at most and leave little to `unknown`. -/
structure Boosted (hits : Category → ℕ) (b : Scores ℝ) : Prop where
  nonneg : ∀ c, 0 ≤ b.get c
  le_get : ∀ c, 3 / 10 * (hits c : ℝ) ≤ b.get c
  total_le : b.total ≤ 1 + 3 / 10 * ((Category.all.map hits).sum : ℕ)
  unknown_le : b.get .unknown ≤ 23 / 160

variable {hits : Category → ℕ} {b s : Scores ℝ} {c : Category}

theorem Boosted.hits_eq_zero (h : Boosted hits b) (hc : b.get c < 3 / 10) : hits c = 0 := by
  by_contra hn
  have hone : (1 : ℝ) ≤ hits c := by exact_mod_cast Nat.one_le_iff_ne_zero.mpr hn
  linarith [h.le_get c]

theorem Boosted.hits_le_one (h : Boosted hits b) (hc : b.get c < 3 / 5) : hits c ≤ 1 := by
  by_contra hn
  have htwo : (2 : ℝ) ≤ hits c := by exact_mod_cast not_le.mp hn
  linarith [h.le_get c]

/-- Something is raised, but nothing except for one category. -/
theorem Boosted.raised_once (h : Boosted hits b) (hraised : ∃ d, hits d ≠ 0)
    (hzero : ∀ d, d ≠ c → hits d = 0) (hone : hits c ≤ 1) : 3 / 10 ≤ b.get c ∧ b.total ≤ 13 / 10 := by
  obtain ⟨d, hd⟩ := hraised
  have hcd : d = c := by
    by_contra hn
    exact hd (hzero d hn)
  subst hcd
  have hd₁ : hits d = 1 := by omega
  have hsum : (Category.all.map hits).sum = 1 := by
    have hhits : hits = fun e => if e = d then 1 else 0 := by
      funext e
      split_ifs with he
      · rw [he, hd₁]
      · exact hzero e he
    rw [hhits]
    cases d <;> rfl
  have hle := h.le_get d
  have ht := h.total_le
  rw [hd₁] at hle
  rw [hsum] at ht
  push_cast at hle ht
  exact ⟨by linarith, by linarith⟩

theorem DefaultRepelled.get_le (h : DefaultRepelled b s) (c : Category) : s.get c ≤ b.get c := by
  obtain ⟨p, o, t, r₁, r₂, r₃⟩ := h.sciences
  obtain ⟨x, r₄, r₅⟩ := h.requests
  cases c
  case greeting => exact h.greeting.le
  case help => exact r₅.first_le.trans r₄.first_le
  case status => exact r₄.second_le
  case navigation => exact r₅.second_le
  case physics => exact r₃.second_le.trans r₁.first_le
  case operator => exact r₂.second_le.trans r₁.second_le
  case structural => exact r₃.first_le.trans r₂.first_le
  case unknown => exact h.unknown.le

theorem DefaultRepelled.get_nonneg (hb : ∀ c, 0 ≤ b.get c) (h : DefaultRepelled b s)
    (c : Category) : 0 ≤ s.get c := by
  obtain ⟨p, o, t, r₁, r₂, r₃⟩ := h.sciences
  obtain ⟨x, r₄, r₅⟩ := h.requests
  cases c
  case greeting => exact h.greeting ▸ hb .greeting
  case help => exact r₅.first_nonneg
  case status => exact r₄.second_nonneg
  case navigation => exact r₅.second_nonneg
  case physics => exact r₃.second_nonneg
  case operator => exact r₂.second_nonneg
  case structural => exact r₃.first_nonneg
  case unknown => exact h.unknown ▸ hb .unknown

theorem DefaultRepelled.total_le (h : DefaultRepelled b s) : s.total ≤ b.total := by
  rw [total_eq, total_eq]
  exact List.sum_le_sum fun c _ => h.get_le c

/-- What a flat outcome says about all categories that the rules treat in the same way. -/
theorem Boosted.hits_of_flat (h : Boosted hits b) (hs : DefaultRepelled b s) {q : Scores ℝ}
    (hflat : Flat q) (hgreeting : q.get .greeting = s.get .greeting)
    (hunknown : q.get .unknown = s.get .unknown) (hhelp : q.get .help = s.get .help)
    (hstatus : 0.8 * s.get .status ≤ q.get .status)
    (hnavigation : s.get .navigation ≤ q.get .navigation) :
    (∀ c, q.get c ≤ 2169 / 10000) ∧ hits .greeting = 0 ∧ hits .help = 0 ∧ hits .status = 0 ∧
      hits .navigation = 0 ∧ hits .unknown = 0 := by
  have hu := h.unknown_le
  rw [← hs.unknown, ← hunknown] at hu
  have hsmall := hflat.get_le hu
  obtain ⟨x, r₁, r₂⟩ := hs.requests
  obtain ⟨h₁, h₂, h₃⟩ := requests_lt r₁ r₂ (hhelp ▸ hsmall .help)
    (hstatus.trans (hsmall .status)) (hnavigation.trans (hsmall .navigation))
  have hg := hsmall .greeting
  rw [hgreeting, hs.greeting] at hg
  exact ⟨hsmall, h.hits_eq_zero (hg.trans_lt (by norm_num)), h.hits_eq_zero h₁, h.hits_eq_zero h₂,
    h.hits_eq_zero h₃, h.hits_eq_zero (h.unknown_le.trans_lt (by norm_num))⟩

section Rules

variable (h : Boosted hits b) (hraised : ∃ c, hits c ≠ 0) (hs : DefaultRepelled b s)

include h hraised hs

/-- No rule, or one that leaves the sciences alone. -/
theorem not_flat_of_sciences_unchanged {q : Scores ℝ}
    (hgreeting : q.get .greeting = s.get .greeting)
    (hunknown : q.get .unknown = s.get .unknown) (hhelp : q.get .help = s.get .help)
    (hstatus : 0.8 * s.get .status ≤ q.get .status)
    (hnavigation : s.get .navigation ≤ q.get .navigation)
    (hphysics : q.get .physics = s.get .physics) (hoperator : q.get .operator = s.get .operator)
    (hstructural : q.get .structural = s.get .structural) : ¬Flat q := by
  intro hflat
  obtain ⟨hsmall, h₁, h₂, h₃, h₄, h₈⟩ :=
    h.hits_of_flat hs hflat hgreeting hunknown hhelp hstatus hnavigation
  obtain ⟨p, o, t, r₁, r₂, r₃⟩ := hs.sciences
  obtain ⟨h₅, h₆, h₇⟩ := sciences_lt r₁ r₂ r₃ (hphysics ▸ hsmall .physics)
    (hoperator ▸ hsmall .operator) (hstructural ▸ hsmall .structural)
  obtain ⟨c, hc⟩ := hraised
  cases c
  case greeting => exact hc h₁
  case help => exact hc h₂
  case status => exact hc h₃
  case navigation => exact hc h₄
  case physics => exact hc (h.hits_eq_zero h₅)
  case operator => exact hc (h.hits_eq_zero h₆)
  case structural => exact hc (h.hits_eq_zero h₇)
  case unknown => exact hc h₈

theorem not_flat_operatorKeyword : ¬Flat (defaultEffect s .operatorKeyword) := by
  intro hflat
  have hstatus : 0.8 * s.get .status ≤ s.get .status :=
    mul_le_of_le_one_left (hs.get_nonneg h.nonneg .status) (by norm_num)
  obtain ⟨hsmall, h₁, h₂, h₃, h₄, h₈⟩ := h.hits_of_flat hs hflat rfl rfl rfl hstatus le_rfl
  obtain ⟨p, o, t, r₁, r₂, r₃⟩ := hs.sciences
  obtain ⟨ho, ht, hp, hkept⟩ := sciences_of_operator r₁ r₂ r₃ (hsmall .physics) (hsmall .operator)
    (hsmall .structural)
  have h₆ := h.hits_eq_zero ho
  have h₇ := h.hits_eq_zero ht
  obtain ⟨hbp, htotal⟩ := h.raised_once hraised (c := .physics)
    (fun d hd => by cases d <;> first | assumption | exact absurd rfl hd) (h.hits_le_one hp)
  have hphysics : 0.7 * s.get .physics ≤ 261 / 2000 * (defaultEffect s .operatorKeyword).total :=
    hflat .physics
  have hoperator : 1.4 * s.get .operator ≤ 2169 / 10000 := hsmall .operator
  have hgain : (defaultEffect s .operatorKeyword).total =
      s.total + 2 / 5 * s.get .operator - 3 / 10 * s.get .physics :=
    total_defaultEffect s .operatorKeyword
  have := hkept hbp
  have := hs.total_le
  norm_num at *
  linarith

theorem not_flat_positionBand : ¬Flat (defaultEffect s .positionBand) := by
  intro hflat
  have hphysics₀ := hs.get_nonneg h.nonneg .physics
  have hstatus : 0.8 * s.get .status ≤ s.get .status :=
    mul_le_of_le_one_left (hs.get_nonneg h.nonneg .status) (by norm_num)
  obtain ⟨hsmall, h₁, h₂, h₃, h₄, h₈⟩ := h.hits_of_flat hs hflat rfl rfl rfl hstatus le_rfl
  obtain ⟨p, o, t, r₁, r₂, r₃⟩ := hs.sciences
  have hoperator : s.get .operator + 0.25 * s.get .physics ≤ 2169 / 10000 := hsmall .operator
  obtain ⟨ho, ht, hp, hkept⟩ := sciences_of_band r₁ r₂ r₃ (hsmall .physics) (by linarith)
    (hsmall .structural)
  have h₆ := h.hits_eq_zero ho
  have h₇ := h.hits_eq_zero ht
  obtain ⟨hbp, htotal⟩ := h.raised_once hraised (c := .physics)
    (fun d hd => by cases d <;> first | assumption | exact absurd rfl hd) (h.hits_le_one hp)
  have hphysics : 0.75 * s.get .physics ≤ 261 / 2000 * (defaultEffect s .positionBand).total :=
    hflat .physics
  have hgain : (defaultEffect s .positionBand).total = s.total :=
    total_defaultEffect s .positionBand
  have := hkept hbp
  have := hs.total_le
  norm_num at *
  linarith

/-- The rule asks for a text without the telltale words of `physics`, which are cues against it. -/
theorem not_flat_structuralVocabulary (hcues : hits .physics = 0) :
    ¬Flat (defaultEffect s .structuralVocabulary) := by
  intro hflat
  have hstatus : 0.8 * s.get .status ≤ s.get .status :=
    mul_le_of_le_one_left (hs.get_nonneg h.nonneg .status) (by norm_num)
  obtain ⟨hsmall, h₁, h₂, h₃, h₄, h₈⟩ := h.hits_of_flat hs hflat rfl rfl rfl hstatus le_rfl
  obtain ⟨p, o, t, r₁, r₂, r₃⟩ := hs.sciences
  obtain ⟨ht, hp, hbt, ho⟩ := sciences_of_structural r₁ r₂ r₃ (hsmall .physics)
    (hsmall .operator) (hsmall .structural)
  have h₇ := h.hits_eq_zero hbt
  obtain ⟨hbo, htotal⟩ := h.raised_once hraised (c := .operator)
    (fun d hd => by cases d <;> first | assumption | exact absurd rfl hd) (h.hits_le_one ho)
  have hgain : (defaultEffect s .structuralVocabulary).total =
      s.total + 1 / 2 * s.get .structural - 2 / 5 * s.get .physics - 2 / 5 * s.get .operator :=
    total_defaultEffect s .structuralVocabulary
  have hlt := operator_not_flat_of_structural r₁ r₂ r₃ (hsmall .physics) ht hp (hflat .operator)
    (hflat .structural)
    (by linarith [hs.total_le, show (13 / 10 : ℝ) = 1.3 by norm_num])
  exact not_lt.mpr hbo hlt

omit h hraised hs in
/-- A leader with three fifths of the total is left with half of that. -/
theorem not_flat_lowSignal (h₀ : ∀ c, 0 ≤ s.get c) (hne : s.leader ≠ .unknown)
    (hshare : 3 / 5 < s.get s.leader / (s.total + Scalar.epsilon)) :
    ¬Flat (defaultEffect s .lowSignal) := by
  intro hflat
  have hε := epsilon_pos
  have htotal := total_nonneg h₀
  rw [lt_div_iff₀ (by linarith)] at hshare
  have hleader := hflat s.leader
  rw [defaultEffect, s.get_transfer hne, if_neg hne, if_pos rfl] at hleader
  rw [total_transfer] at hleader
  linarith

/-- No rule of the default configuration levels boosted scores. -/
theorem not_flat_defaultEffect (rule : Rule) (hcues : rule = .structuralVocabulary → hits .physics = 0)
    (hshare : rule = .lowSignal → s.leader ≠ .unknown ∧
      3 / 5 < s.get s.leader / (s.total + Scalar.epsilon)) : ¬Flat (defaultEffect s rule) := by
  cases rule
  case structuralVocabulary => exact not_flat_structuralVocabulary h hraised hs (hcues rfl)
  case operatorKeyword => exact not_flat_operatorKeyword h hraised hs
  case domainTrigger =>
    obtain ⟨x, r₁, r₂⟩ := hs.requests
    have hn : s.get .navigation ≤ 1.3 * s.get .navigation := by linarith [r₂.second_nonneg]
    exact not_flat_of_sciences_unchanged h hraised hs rfl rfl rfl le_rfl hn rfl rfl rfl
  case positionBand => exact not_flat_positionBand h hraised hs
  case lowSignal =>
    exact not_flat_lowSignal (hs.get_nonneg h.nonneg) (hshare rfl).1 (hshare rfl).2

end Rules

end Boosted

end TextIntent.Exact

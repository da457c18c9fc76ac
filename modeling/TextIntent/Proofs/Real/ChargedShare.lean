import TextIntent.Proofs.Real.Bridging
import TextIntent.Proofs.Suppression.Charges

/-! Shares of the total before and after suppression. When all charges go to one category, the others keep
their scores and divide them by a total that is smaller, while the charged one loses from its score what the
total loses. -/
namespace TextIntent.Exact

open Scalar

section Share

/-- From the one scores to the other, the share of one category does not rise, and that of no other category
falls. -/
def ShareFalls (before after : Scores ℝ) (c : Category) : Prop :=
  after.normalized.get c ≤ before.normalized.get c ∧
    ∀ d, d ≠ c → before.normalized.get d ≤ after.normalized.get d

variable {s : Scores ℝ} {c : Category} {x : ℝ}

theorem shareFalls_modify_add (h : ∀ d, 0 ≤ s.get d) (ht : epsilon < s.total) (hx : 0 ≤ x) :
    ShareFalls (s.modify c (· + x)) s c := by
  have hε := epsilon_pos
  have htotal : (s.modify c (· + x)).total = s.total + x := total_modify_add s c x
  have hE : 0 < s.total + epsilon := by linarith
  have hE' : 0 < s.total + x + epsilon := by linarith
  rw [ShareFalls, normalized_of_lt ht, normalized_of_lt (by linarith), htotal]
  simp only [PerCategory.get_map, PerCategory.get_modify]
  constructor
  · have hle : s.get c ≤ s.total + epsilon := by linarith [get_le_total h c]
    rw [if_true, div_le_div_iff₀ hE hE']
    linarith [mul_le_mul_of_nonneg_right hle hx]
  · intro d hd
    rw [if_neg hd]
    exact div_le_div_of_nonneg_left (h d) hE (by linarith)

end Share

section Charged

variable {s : SuppressionSettings ℝ} {mass scores : Scores ℝ} {c : Category}

/-- Every pair with both sides above the threshold joins this category to a lighter one. -/
def PaysAlone (s : SuppressionSettings ℝ) (mass scores : Scores ℝ) (c : Category) : Prop :=
  ∀ p ∈ s.pairs, s.activationThreshold < scores.get p.first →
    s.activationThreshold < scores.get p.second → ∃ d, p.Joins c d ∧ mass.get d < mass.get c

theorem PaysAlone.eq_of_charged (h : PaysAlone s mass scores c) {d : Category}
    (hd : s.Charged mass scores d) : d = c := by
  obtain ⟨p, hp, e, hde, hd, he, hm⟩ := hd
  obtain ⟨hfirst, hsecond⟩ : s.activationThreshold < scores.get p.first ∧
      s.activationThreshold < scores.get p.second := by
    rcases hde with ⟨rfl, rfl⟩ | ⟨rfl, rfl⟩
    · exact ⟨hd, he⟩
    · exact ⟨he, hd⟩
  obtain ⟨f, hcf, hlt⟩ := h p hp hfirst hsecond
  -- the lighter side of the pair is not charged
  rcases hde with ⟨rfl, rfl⟩ | ⟨rfl, rfl⟩ <;> rcases hcf with ⟨rfl, rfl⟩ | ⟨rfl, rfl⟩
  · rfl
  · exact absurd hlt hm
  · exact absurd hlt hm
  · rfl

/-- What suppression leaves when it charges one category alone, against the scores as they are kept without it.
Only the score of that category differs, and it is not greater. -/
theorem exists_suppress_add (hs : s.Accepted) (hc : PaysAlone s mass scores c) :
    ∃ x, 0 ≤ x ∧
      scores.nonnegative.value = (s.suppress mass scores).value.modify c (· + x) := by
  have hreduced : s.ReducedFrom mass scores (s.pairs.foldl (s.repel mass) scores) :=
    SuppressionSettings.reducedFrom_foldl hs (fun _ => rfl) mass
  refine ⟨scores.nonnegative.value.get c - (s.suppress mass scores).value.get c, ?_,
    PerCategory.ext_get fun d => ?_⟩
  · rw [sub_nonneg, SuppressionSettings.suppress, PerCategory.get_value_nonnegative,
      PerCategory.get_value_nonnegative, value_confine, value_confine]
    exact clamp_mono maxFinite_nonneg (hreduced c).1
  · rw [PerCategory.get_modify]
    split_ifs with hd
    · rw [hd]
      ring
    · have hkept := (hreduced d).2.resolve_right fun hn => hd (hc.eq_of_charged hn)
      rw [SuppressionSettings.suppress, PerCategory.get_value_nonnegative,
        PerCategory.get_value_nonnegative, hkept]

/-- Suppression that charges one category alone does not raise its share, and lowers that of no other. Scores that
are not ordinary are kept between zero and the largest double without suppression, too. -/
theorem shareFalls_suppress (hs : s.Accepted) (hc : PaysAlone s mass scores c)
    (ht : epsilon < (s.suppress mass scores).value.total) :
    (scores.Ordinary → ShareFalls scores (s.suppress mass scores).value c) ∧
      ShareFalls scores.nonnegative.value (s.suppress mass scores).value c := by
  obtain ⟨x, hx, hscores⟩ := exists_suppress_add hs hc
  have h₀ : ∀ d, 0 ≤ (s.suppress mass scores).value.get d :=
    nonnegative_nonneg (s.pairs.foldl (s.repel mass) scores)
  have hfalls : ShareFalls scores.nonnegative.value (s.suppress mass scores).value c :=
    hscores ▸ shareFalls_modify_add h₀ ht hx
  refine ⟨fun h => ?_, hfalls⟩
  rwa [h.nonnegative_eq_self] at hfalls

/-- A text about physics or operators, and all mass on `physics`. -/
theorem default_physics_pays :
    let s : SuppressionSettings ℝ := Config.Default.suppression
    let mass : Scores ℝ := PerCategory.zero.set .physics 1
    let scores : Scores ℝ := ⟨0, 0, 0, 0, 1, 1, 0, 0⟩
    s.Accepted ∧ scores.Ordinary ∧ PaysAlone s mass scores .physics ∧
      epsilon < (s.suppress mass scores).value.total ∧
      ShareFalls scores (s.suppress mass scores).value .physics := by
  intro s mass scores
  have hs : s.Accepted := default_accepted.suppression
  have hmax := thousand_le_maxFinite
  have h₀ : scores.Ordinary := fun c => by
    cases c <;> simp only [scores, PerCategory.get] <;> constructor <;> linarith
  have hc : PaysAlone s mass scores .physics := by
    intro p hp hfirst hsecond
    simp only [s, Config.Default.suppression, List.mem_cons, List.not_mem_nil, or_false] at hp
    rcases hp with rfl | rfl | rfl | rfl | rfl
    · exact ⟨.operator, Or.inl ⟨rfl, rfl⟩, zero_lt_one⟩
    all_goals
      simp only [s, scores, Config.Default.suppression, PerCategory.get] at hfirst
      norm_num at hfirst
  have hbounds := SuppressionSettings.get_suppress_bounds hs h₀ mass
  have hoperator := (hbounds .operator).2.2.resolve_right fun hn =>
    Category.noConfusion (hc.eq_of_charged hn)
  have ht : epsilon < (s.suppress mass scores).value.total := by
    have hle := get_le_total (fun c => (hbounds c).1) .operator
    rw [hoperator] at hle
    exact lt_of_lt_of_le (by rw [epsilon_eq]; norm_num [scores, PerCategory.get]) hle
  exact ⟨hs, h₀, hc, ht, (shareFalls_suppress hs hc ht).1 h₀⟩

end Charged

end TextIntent.Exact

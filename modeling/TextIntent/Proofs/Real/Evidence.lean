import TextIntent.Proofs.Real.Scores
import TextIntent.Proofs.Real.Signature
import TextIntent.Proofs.Evidence.WordHits
import TextIntent.Config.Default

/-! How much of the evidence can go to `unknown` under the default configuration, when a keyword occurs:
nothing of the words, an eighth of the linear read-outs and two fifths of the shape. -/
namespace TextIntent.Exact

open Scalar Config

section Normalized

variable {s : Scores ℝ}

theorem normalized_nonneg (h : ∀ c, 0 ≤ s.get c) (c : Category) : 0 ≤ s.normalized.get c := by
  by_cases ht : Scalar.epsilon < s.total
  · have := epsilon_pos
    rw [normalized_of_lt ht, PerCategory.get_map]
    exact div_nonneg (h c) (by linarith)
  · rw [normalized_of_le (not_lt.mp ht), get_allUnknown]
    split_ifs
    · exact zero_le_one
    · exact le_rfl

theorem total_normalized_le_one (s : Scores ℝ) : s.normalized.total ≤ 1 := by
  have hε := epsilon_pos
  by_cases ht : Scalar.epsilon < s.total
  · rw [normalized_of_lt ht, total_map_div, div_le_one (by linarith)]
    linarith
  · rw [normalized_of_le (not_lt.mp ht), total_allUnknown]

theorem le_get_normalized {c : Category} {x : ℝ} (ht : Scalar.epsilon < s.total)
    (h : x * (s.total + Scalar.epsilon) ≤ s.get c) : x ≤ s.normalized.get c := by
  have hε := epsilon_pos
  rwa [normalized_of_lt ht, PerCategory.get_map, le_div_iff₀ (by linarith)]

/-- The guard of the division takes next to nothing. -/
theorem le_total_normalized (ht : 1 / 2 ≤ s.total) : 1 - 1e-8 ≤ s.normalized.total := by
  have hε := epsilon_eq
  have hlt : Scalar.epsilon < s.total := by
    rw [hε]
    linarith
  rw [normalized_of_lt hlt, total_map_div, le_div_iff₀ (by linarith), hε]
  linarith

/-- A part of the total stays a part of it. -/
theorem get_normalized_le {c : Category} {x : ℝ} (hx : 0 ≤ x) (ht : Scalar.epsilon < s.total)
    (h : s.get c ≤ x * s.total) : s.normalized.get c ≤ x := by
  have hε := epsilon_pos
  rw [normalized_of_lt ht, PerCategory.get_map, div_le_iff₀ (by linarith)]
  linarith [mul_nonneg hx hε.le]

end Normalized

section Words

variable {e : EvidenceSettings ℝ}

/-- What words count that occur: one each, and the bonus for phrases. -/
noncomputable def weigh (e : EvidenceSettings ℝ) (words : List String) : ℝ :=
  words.length + words.countP (·.toList.contains ' ') * e.phraseBonus

theorem weigh_cons (e : EvidenceSettings ℝ) (word : String) (words : List String) (x : ℝ) :
    Evidence.countWord e word x + weigh e words = x + weigh e (word :: words) := by
  rw [weigh, weigh, Evidence.countWord, List.length_cons, List.countP_cons]
  split_ifs <;> push_cast <;> ring

theorem weigh_append (e : EvidenceSettings ℝ) (xs ys : List String) :
    weigh e (xs ++ ys) = weigh e xs + weigh e ys := by
  rw [weigh, weigh, weigh, List.length_append, List.countP_append]
  push_cast
  ring

theorem length_le_weigh (h : 0 ≤ e.phraseBonus) (words : List String) : words.length ≤ weigh e words :=
  le_add_of_nonneg_right (mul_nonneg (Nat.cast_nonneg _) h)

theorem get_countWords (e : EvidenceSettings ℝ) (lower : String) (c : Category) (words : List String)
    (scores : Scores ℝ) (d : Category) :
    (Evidence.countWords e lower c words scores).get d = scores.get d +
      if c = d then weigh e (words.filter (Text.occurs · lower)) else 0 := by
  induction words generalizing scores with
  | nil => simp [Evidence.countWords, weigh]
  | cons word words ih =>
    rw [Evidence.countWords_cons, ih, List.filter_cons]
    by_cases ho : Text.occurs word lower = true
    · rw [if_pos ho, if_pos ho, PerCategory.get_modify]
      by_cases hc : c = d
      · rw [if_pos hc, if_pos hc.symm, if_pos hc, weigh_cons]
      · rw [if_neg hc, if_neg (Ne.symm hc), if_neg hc]
    · rw [if_neg ho, if_neg ho]

/-- Without rounding a category scores for all of its keywords that occur, and it does not matter how they
are spread over the tables. -/
theorem get_wordHits (e : EvidenceSettings ℝ) (lower : String) (c : Category) :
    (Evidence.wordHits e lower).get c =
      weigh e ((Evidence.keywords e c).filter (Text.occurs · lower)) := by
  have hfold (tables : List CategoryWords) (scores : Scores ℝ) :
      (tables.foldl (fun scores table =>
          Evidence.countWords e lower table.category table.words scores) scores).get c =
        scores.get c + weigh e (((tables.filter (·.category == c)).flatMap (·.words)).filter
          (Text.occurs · lower)) := by
    induction tables generalizing scores with
    | nil => simp [weigh]
    | cons table tables ih =>
      rw [List.foldl_cons, ih, get_countWords]
      by_cases hc : table.category = c
      · rw [if_pos hc, List.filter_cons_of_pos (by simpa using hc), List.flatMap_cons,
          List.filter_append, weigh_append, add_assoc]
      · rw [if_neg hc, List.filter_cons_of_neg (by simpa using hc), add_zero]
  rw [Evidence.wordHits_eq, hfold, PerCategory.zero, PerCategory.get_const, zero_add]
  rfl

theorem wordHits_nonneg (h : 0 ≤ e.phraseBonus) (lower : String) (c : Category) :
    0 ≤ (Evidence.wordHits e lower).get c := by
  rw [get_wordHits]
  exact (Nat.cast_nonneg _).trans (length_le_weigh h _)

/-- A category with a keyword in the text scores one at least. -/
theorem one_le_wordHits (h : 0 ≤ e.phraseBonus) {lower : String} {c : Category}
    (ho : Text.occursAny (Evidence.keywords e c) lower = true) :
    1 ≤ (Evidence.wordHits e lower).get c := by
  obtain ⟨word, hw, ho⟩ := Text.occursAny_iff.mp ho
  have hlength : 0 < ((Evidence.keywords e c).filter (Text.occurs · lower)).length :=
    List.length_pos_of_mem (List.mem_filter.mpr ⟨hw, ho⟩)
  rw [get_wordHits]
  exact (Nat.one_le_cast.mpr hlength).trans (length_le_weigh h _)

/-- A category without a keyword in the text scores nothing. -/
theorem wordHits_eq_zero {lower : String} {c : Category}
    (hn : ¬Text.occursAny (Evidence.keywords e c) lower = true) :
    (Evidence.wordHits e lower).get c = 0 := by
  have hnone : (Evidence.keywords e c).filter (Text.occurs · lower) = [] :=
    List.filter_eq_nil_iff.mpr fun word hw ho => hn (Text.occursAny_iff.mpr ⟨word, hw, ho⟩)
  rw [get_wordHits, hnone]
  simp [weigh]

/-- With a keyword somewhere, the words say nothing for a category without one. -/
theorem lexical_eq_zero (h : 0 ≤ e.phraseBonus) {lower : String} {c d : Category}
    (hd : Text.occursAny (Evidence.keywords e d) lower = true)
    (hc : ¬Text.occursAny (Evidence.keywords e c) lower = true) :
    (Evidence.lexical e lower).get c = 0 := by
  have hone := one_le_wordHits h hd
  have htotal := get_le_total (wordHits_nonneg h lower) d
  have ht : Scalar.epsilon < (Evidence.wordHits e lower).total := by
    rw [epsilon_eq]
    linarith
  rw [Evidence.lexical, if_neg (not_le.mpr ht), normalized_of_lt ht, PerCategory.get_map,
    wordHits_eq_zero hc, zero_div]

theorem lexical_nonneg (h : 0 ≤ e.phraseBonus) (hw : 0 ≤ e.noMatchWeight) (lower : String)
    (c : Category) : 0 ≤ (Evidence.lexical e lower).get c := by
  refine normalized_nonneg (fun c => ?_) c
  split_ifs
  · rw [Evidence.prior, PerCategory.set, PerCategory.get_modify, PerCategory.get_const]
    split_ifs
    · exact hw
    · exact zero_le_one
  · exact wordHits_nonneg h lower c

theorem phraseBonus_nonneg : (0 : ℝ) ≤ (Default.evidence : EvidenceSettings ℝ).phraseBonus := by
  change (0 : ℝ) ≤ 0.5
  norm_num

theorem noMatchWeight_nonneg :
    (0 : ℝ) ≤ (Default.evidence : EvidenceSettings ℝ).noMatchWeight := by
  change (0 : ℝ) ≤ 3.0
  norm_num

end Words

section Signatures

/-- What all signatures have in common: no negative component, and a length of one at most. -/
structure Short (v : SlotVector ℝ) : Prop where
  nonneg : ∀ x ∈ v.toList, 0 ≤ x
  sum_sq_le : (v.toList.map fun x => x ^ 2).sum ≤ 1

theorem short_ofLower {config : Config ℝ} (h : config.Accepted) (lower : String) :
    Short (Signature.ofLower config.features lower) := by
  have hnorm : (Signature.ofLower config.features lower).norm ≤ 1 := by
    rw [ofLower_eq]
    by_cases hs : (Signature.unscaled config.features lower).norm < Scalar.epsilon
    · rw [normalize_eq, if_pos hs]
      refine hs.le.trans ?_
      rw [epsilon_eq]
      norm_num
    · exact (norm_normalize hs).le
  refine ⟨?_, ?_⟩
  · rw [ofLower_eq]
    exact zero_le_normalize (unscaled_nonneg h lower)
  · exact Real.sqrt_le_one.mp hnorm

variable {v : SlotVector ℝ}

theorem Short.le_one (h : Short v) {x : ℝ} (hx : x ∈ v.toList) : x ≤ 1 := by
  have hle : x ^ 2 ≤ (v.toList.map fun x => x ^ 2).sum :=
    List.single_le_sum (by simp [sq_nonneg]) _ (List.mem_map_of_mem hx)
  exact (sq_le_one_iff₀ (h.nonneg x hx)).mp (hle.trans h.sum_sq_le)

theorem exists_slots (v : SlotVector ℝ) :
    ∃ a b c d e f g h i j, v = #v[a, b, c, d, e, f, g, h, i, j] := by
  refine ⟨v[0], v[1], v[2], v[3], v[4], v[5], v[6], v[7], v[8], v[9], Vector.ext fun n hn => ?_⟩
  interval_cases n <;> rfl

end Signatures

section Subspace

theorem projection_nonneg (e : EvidenceSettings ℝ) (v : SlotVector ℝ) (c : Category) :
    0 ≤ Evidence.projection e v c := by
  rw [Evidence.projection, larger_eq]
  exact le_max_right _ _

theorem le_projection (e : EvidenceSettings ℝ) (v : SlotVector ℝ) (c : Category) :
    e.subspaceOffset + SlotVector.dot (e.subspace.get c) v ≤ Evidence.projection e v c := by
  rw [Evidence.projection, larger_eq]
  exact le_max_left _ _

theorem dot_eq (a b c d e f g h i j a' b' c' d' e' f' g' h' i' j' : ℝ) :
    SlotVector.dot #v[a, b, c, d, e, f, g, h, i, j] #v[a', b', c', d', e', f', g', h', i', j'] =
      a * a' + (b * b' + (c * c' + (d * d' + (e * e' + (f * f' + (g * g' + (h * h' +
        (i * i' + j * j')))))))) := by
  simp [SlotVector.dot]

/-- The rows of the default configuration. -/
theorem default_readOut (s₀ s₁ s₂ s₃ s₄ s₅ s₆ s₇ s₈ s₉ : ℝ) (c : Category) :
    (Default.evidence : EvidenceSettings ℝ).subspaceOffset +
      SlotVector.dot ((Default.evidence : EvidenceSettings ℝ).subspace.get c)
        #v[s₀, s₁, s₂, s₃, s₄, s₅, s₆, s₇, s₈, s₉] =
      1 / 2 + (⟨s₀, s₁ + s₈ / 2, s₂ + 3 / 10 * s₉, s₃ + s₄, s₄ / 2 + s₅ - 3 / 10 * s₇,
        s₆ - 3 / 10 * s₅, s₇ - s₆ / 5, -(s₀ + s₁ + s₂ + s₃ + s₄ + s₅ + s₆ + s₇) / 2⟩ :
          PerCategory ℝ).get c := by
  cases c <;> simp only [Default.evidence, PerCategory.get, dot_eq] <;> norm_num <;> ring

/-- The row of `unknown` takes from the offset no less than what the other rows add to it, and the other
rows start with the offset as well. -/
theorem projection_unknown_le {v : SlotVector ℝ} (hv : Short v) :
    1 / 2 ≤ Evidence.projection Default.evidence v .greeting ∧
      8 * Evidence.projection Default.evidence v .unknown ≤
        (Category.all.map (Evidence.projection Default.evidence v)).sum := by
  obtain ⟨s₀, s₁, s₂, s₃, s₄, s₅, s₆, s₇, s₈, s₉, rfl⟩ := exists_slots v
  have hs : ∀ x ∈ [s₀, s₁, s₂, s₃, s₄, s₅, s₆, s₇, s₈, s₉], 0 ≤ x ∧ x ≤ 1 := fun x hx =>
    ⟨hv.nonneg x hx, hv.le_one hx⟩
  simp only [List.forall_mem_cons, List.not_mem_nil, false_implies, implies_true, and_true] at hs
  obtain ⟨h₀, h₁, h₂, h₃, h₄, h₅, h₆, h₇, h₈, h₉⟩ := hs
  set p := Evidence.projection Default.evidence #v[s₀, s₁, s₂, s₃, s₄, s₅, s₆, s₇, s₈, s₉] with hp
  have hnonneg (c : Category) : 0 ≤ p c := projection_nonneg _ _ c
  have hle (c : Category) := default_readOut s₀ s₁ s₂ s₃ s₄ s₅ s₆ s₇ s₈ s₉ c ▸
    le_projection Default.evidence #v[s₀, s₁, s₂, s₃, s₄, s₅, s₆, s₇, s₈, s₉] c
  have hgreeting : 1 / 2 + s₀ ≤ p .greeting := hle .greeting
  have hhelp : 1 / 2 + (s₁ + s₈ / 2) ≤ p .help := hle .help
  have hstatus : 1 / 2 + (s₂ + 3 / 10 * s₉) ≤ p .status := hle .status
  have hnavigation : 1 / 2 + (s₃ + s₄) ≤ p .navigation := hle .navigation
  have hphysics : 1 / 2 + (s₄ / 2 + s₅ - 3 / 10 * s₇) ≤ p .physics := hle .physics
  have hoperator : 1 / 2 + (s₆ - 3 / 10 * s₅) ≤ p .operator := hle .operator
  have hstructural : 1 / 2 + (s₇ - s₆ / 5) ≤ p .structural := hle .structural
  have hunknown : p .unknown =
      max (1 / 2 + -(s₀ + s₁ + s₂ + s₃ + s₄ + s₅ + s₆ + s₇) / 2) 0 := by
    rw [hp, Evidence.projection, larger_eq, default_readOut]
    rfl
  refine ⟨by linarith, ?_⟩
  simp only [Category.all, List.map_cons, List.map_nil, List.sum_cons, List.sum_nil]
  rcases le_total (1 / 2 + -(s₀ + s₁ + s₂ + s₃ + s₄ + s₅ + s₆ + s₇) / 2) 0 with hz | hpos
  · rw [hunknown, max_eq_right hz]
    linarith [hnonneg .greeting, hnonneg .help, hnonneg .status, hnonneg .navigation,
      hnonneg .physics, hnonneg .operator, hnonneg .structural]
  · rw [hunknown, max_eq_left hpos]
    linarith

theorem subspace_unknown_le {v : SlotVector ℝ} (hv : Short v) :
    (Evidence.subspace Default.evidence v).get .unknown ≤ 1 / 8 := by
  have htotal : (PerCategory.ofFn (Evidence.projection Default.evidence v) : Scores ℝ).total =
      (Category.all.map (Evidence.projection Default.evidence v)).sum := by
    rw [total_eq, funext (PerCategory.get_ofFn _)]
  refine get_normalized_le (by norm_num) ?_ ?_
  · have hnonneg (c : Category) :
        0 ≤ (PerCategory.ofFn (Evidence.projection Default.evidence v) : Scores ℝ).get c := by
      rw [PerCategory.get_ofFn]
      exact projection_nonneg _ v c
    have h := get_le_total hnonneg .greeting
    rw [PerCategory.get_ofFn] at h
    refine lt_of_lt_of_le ?_ ((projection_unknown_le hv).1.trans h)
    rw [epsilon_eq]
    norm_num
  · rw [htotal, PerCategory.get_ofFn]
    linarith [(projection_unknown_le hv).2]

theorem subspace_nonneg (v : SlotVector ℝ) (c : Category) :
    0 ≤ (Evidence.subspace Default.evidence v).get c := by
  refine normalized_nonneg (fun c => ?_) c
  rw [PerCategory.get_ofFn]
  exact projection_nonneg _ v c

end Subspace

section Shape

variable {v : SlotVector ℝ}

theorem symmetry_nonneg (hv : Short v) : 0 ≤ Evidence.symmetry v := by
  have hpair {x y : ℝ} (hx : x ∈ v.toList) (hy : y ∈ v.toList) : |x - y| ≤ 1 :=
    abs_le.mpr ⟨by linarith [hv.nonneg x hx, hv.le_one hy], by linarith [hv.nonneg y hy, hv.le_one hx]⟩
  have hsum : (v.zipWith (fun x y => Scalar.abs (x - y)) v.reverse).toList.sum ≤ 10 := by
    have hle := List.sum_le_card_nsmul
      (v.zipWith (fun x y => Scalar.abs (x - y)) v.reverse).toList 1 fun z hz => by
        obtain ⟨i, hi, rfl⟩ := Vector.mem_iff_getElem.mp (Vector.mem_toList_iff.mp hz)
        rw [Vector.getElem_zipWith, Vector.getElem_reverse, abs_eq]
        exact hpair (Vector.mem_toList_iff.mpr (Vector.getElem_mem _))
          (Vector.mem_toList_iff.mpr (Vector.getElem_mem _))
    simpa using hle
  rw [Evidence.symmetry, sum_eq, show (10.0 : ℝ) = 10 by norm_num, sub_nonneg,
    div_le_one (by norm_num)]
  exact hsum

/-- The mean squared distance from the mean is at most the mean square. -/
theorem variance_le (hv : Short v) : Evidence.variance v ≤ 1 / 10 := by
  have hε := epsilon_pos
  have hsq := hv.sum_sq_le
  obtain ⟨s₀, s₁, s₂, s₃, s₄, s₅, s₆, s₇, s₈, s₉, rfl⟩ := exists_slots v
  simp only [Evidence.variance, sum_eq, Vector.toList_map, Vector.toList_mk, List.map_cons,
    List.map_nil, List.sum_cons, List.sum_nil] at hsq ⊢
  rw [div_le_iff₀ (by norm_num; linarith)]
  have hmean := sq_nonneg (s₀ + s₁ + s₂ + s₃ + s₄ + s₅ + s₆ + s₇ + s₈ + s₉)
  norm_num
  linarith

/-- A short signature is far from being uneven. -/
theorem uniformity_bounds (hv : Short v) (e : EvidenceSettings ℝ) (heated : SlotVector ℝ) :
    3 / 5 ≤ (Evidence.Shape.of e v heated).uniformity := by
  have hroot : √(Evidence.variance v) ≤ 2 / 5 :=
    Real.sqrt_le_iff.mpr ⟨by norm_num, (variance_le hv).trans (by norm_num)⟩
  change 3 / 5 ≤ clamp 0 1 (1 - √(Evidence.variance v))
  rw [clamp_of_mem (by linarith) (by linarith [Real.sqrt_nonneg (Evidence.variance v)])]
  linarith

theorem concentration_nonneg (e : EvidenceSettings ℝ) (v heated : SlotVector ℝ) :
    0 ≤ (Evidence.Shape.of e v heated).concentration := by
  simp only [Evidence.Shape.of]
  split_ifs <;> norm_num

/-- What the routes of the default configuration make of a shape. -/
noncomputable def routed (f : Evidence.Shape ℝ) : Scores ℝ :=
  ⟨0.3 * f.uniformity, 0.3 * f.concentration, 0.3 * f.uniformity,
    0.3 * f.concentration, 0.4 * f.concentration, 0, 0.6 * f.symmetry,
    0.4 * f.symmetry + 0.4 * f.uniformity⟩

theorem total_routed (f : Evidence.Shape ℝ) :
    (routed f).total = f.symmetry + f.concentration + f.uniformity := by
  simp only [total_eq, routed, Category.all, List.map_cons, List.map_nil, List.sum_cons, List.sum_nil,
    PerCategory.get]
  ring

theorem default_shape (v heated : SlotVector ℝ) : Evidence.shape Default.evidence v heated =
    (routed (Evidence.Shape.of (Default.evidence : EvidenceSettings ℝ) v heated)).normalized := by
  unfold Evidence.shape
  generalize Evidence.Shape.of (Default.evidence : EvidenceSettings ℝ) v heated = f
  refine congrArg PerCategory.normalized (PerCategory.ext_get fun c => ?_)
  simp only [Evidence.route, Default.evidence, List.foldl_cons, List.foldl_nil,
    PerCategory.get_modify, PerCategory.zero, PerCategory.get_const]
  cases c <;> simp only [reduceCtorEq, if_true, if_false, zero_add] <;>
    norm_num [PerCategory.get, routed]

theorem shape_nonneg (hv : Short v) (heated : SlotVector ℝ) (c : Category) :
    0 ≤ (Evidence.shape Default.evidence v heated).get c := by
  have hu := uniformity_bounds hv Default.evidence heated
  have hc := concentration_nonneg Default.evidence v heated
  have hs : 0 ≤ (Evidence.Shape.of (Default.evidence : EvidenceSettings ℝ) v heated).symmetry :=
    symmetry_nonneg hv
  rw [default_shape]
  refine normalized_nonneg (fun c => ?_) c
  cases c <;> simp only [routed, PerCategory.get] <;> linarith

/-- Two fifths of symmetry and evenness go to `unknown`, and nothing of the concentration. -/
theorem shape_unknown_le (hv : Short v) (heated : SlotVector ℝ) :
    (Evidence.shape Default.evidence v heated).get .unknown ≤ 2 / 5 := by
  have hu := uniformity_bounds hv Default.evidence heated
  have hc := concentration_nonneg Default.evidence v heated
  have hs : 0 ≤ (Evidence.Shape.of (Default.evidence : EvidenceSettings ℝ) v heated).symmetry :=
    symmetry_nonneg hv
  have hε := epsilon_eq
  rw [default_shape]
  generalize Evidence.Shape.of (Default.evidence : EvidenceSettings ℝ) v heated = f at *
  refine get_normalized_le (by norm_num) ?_ ?_ <;> rw [total_routed]
  · linarith
  · change 0.4 * f.symmetry + 0.4 * f.uniformity ≤ _
    linarith

end Shape

section Fused

/-- The activations of the channels lie between zero and one. -/
theorem respond_mem_unit (settings : PerChannel (ChannelSettings ℝ)) (gates : Gates ℝ)
    (heated : SlotVector ℝ) (c : Channel) :
    0 ≤ (gates.respond settings heated).value.get c ∧
      (gates.respond settings heated).value.get c ≤ 1 := by
  have h (x : ℝ) : 0 ≤ (confine 0 1 x).value ∧ (confine 0 1 x).value ≤ 1 := by
    rw [value_confine]
    exact ⟨le_clamp zero_le_one x, clamp_le zero_le_one x⟩
  cases c
  · exact h _
  · exact h _
  · exact h _

/-- The fused scores of the default configuration. -/
theorem get_fuse_default (evidence : PerChannel (Scores ℝ)) (activations : PerChannel ℝ)
    (c : Category) :
    (fuse evidence activations (Config.default : Config ℝ).trust).get c =
      2 / 5 * activations.conservative * evidence.conservative.get c +
        7 / 20 * activations.balanced * evidence.balanced.get c +
          1 / 4 * activations.liberal * evidence.liberal.get c := by
  have htrust : (Config.default : Config ℝ).trust = ⟨2 / 5, 7 / 20, 1 / 4⟩ := by
    change (⟨0.40, 0.35, 0.25⟩ : PerChannel ℝ) = _
    norm_num
  rw [fuse, PerCategory.get_ofFn, htrust]
  simp only [Channel.all, List.map_cons, List.map_nil, sum_eq, List.sum_cons, List.sum_nil,
    PerChannel.get]
  ring

theorem total_fuse_default (evidence : PerChannel (Scores ℝ)) (activations : PerChannel ℝ) :
    (fuse evidence activations (Config.default : Config ℝ).trust).total =
      2 / 5 * activations.conservative * evidence.conservative.total +
        7 / 20 * activations.balanced * evidence.balanced.total +
          1 / 4 * activations.liberal * evidence.liberal.total := by
  simp only [total_eq, funext (get_fuse_default evidence activations), Category.all, List.map_cons,
    List.map_nil, List.sum_cons, List.sum_nil]
  ring

section Bounds

variable {activations : PerChannel ℝ}
  (ha : ∀ channel, 0 ≤ activations.get channel ∧ activations.get channel ≤ 1)

include ha

theorem fuse_default_nonneg {evidence : PerChannel (Scores ℝ)}
    (he : ∀ channel c, 0 ≤ (evidence.get channel).get c) (c : Category) :
    0 ≤ (fuse evidence activations (Config.default : Config ℝ).trust).get c := by
  have term (channel : Channel) : 0 ≤ activations.get channel * (evidence.get channel).get c :=
    mul_nonneg (ha channel).1 (he channel c)
  rw [get_fuse_default]
  have := term .conservative
  have := term .balanced
  have := term .liberal
  simp only [PerChannel.get] at *
  linarith

/-- Activations of at most one leave no more of what the channels say than their trusts do. -/
theorem fuse_default_weights_le {p x : PerChannel ℝ}
    (hp : ∀ channel, 0 ≤ p.get channel ∧ p.get channel ≤ x.get channel) :
    2 / 5 * activations.conservative * p.conservative +
        7 / 20 * activations.balanced * p.balanced + 1 / 4 * activations.liberal * p.liberal ≤
      2 / 5 * x.conservative + 7 / 20 * x.balanced + 1 / 4 * x.liberal := by
  have term (channel : Channel) : activations.get channel * p.get channel ≤ x.get channel :=
    (mul_le_of_le_one_left (hp channel).1 (ha channel).2).trans (hp channel).2
  have := term .conservative
  have := term .balanced
  have := term .liberal
  simp only [PerChannel.get] at *
  linarith

end Bounds

/-- The evidence of the default configuration is not negative. -/
theorem gather_default_nonneg (lower : String) {v : SlotVector ℝ} (hv : Short v)
    (heated : SlotVector ℝ) (channel : Channel) (c : Category) :
    0 ≤ ((Evidence.gather (Default.evidence : EvidenceSettings ℝ) lower v heated).get channel).get c := by
  cases channel with
  | conservative => exact lexical_nonneg phraseBonus_nonneg noMatchWeight_nonneg lower c
  | balanced => exact subspace_nonneg v c
  | liberal => exact shape_nonneg hv heated c

theorem total_gather_default_le (lower : String) (v heated : SlotVector ℝ) (channel : Channel) :
    ((Evidence.gather (Default.evidence : EvidenceSettings ℝ) lower v heated).get channel).total ≤ 1 := by
  cases channel <;> exact total_normalized_le_one _

/-- Words of the vocabulary leave `unknown` without lexical evidence, and with little of any other. -/
theorem gather_default_unknown_le {lower : String}
    (hwords : Evidence.hasWords (Default.evidence : EvidenceSettings ℝ) lower = true)
    {v : SlotVector ℝ} (hv : Short v) (heated : SlotVector ℝ) (channel : Channel) :
    ((Evidence.gather (Default.evidence : EvidenceSettings ℝ) lower v heated).get channel).get
      .unknown ≤ (⟨0, 1 / 8, 2 / 5⟩ : PerChannel ℝ).get channel := by
  cases channel with
  | conservative =>
    obtain ⟨c, hc⟩ := Evidence.hasWords_iff.mp hwords
    have hnone : Evidence.keywords (Default.evidence : EvidenceSettings ℝ) .unknown = [] := by
      decide +kernel
    exact (lexical_eq_zero phraseBonus_nonneg hc (by simp [hnone, Text.occursAny])).le
  | balanced => exact subspace_unknown_le hv
  | liberal => exact shape_unknown_le hv heated

/-- The fused scores of the default configuration for a text with a keyword: what they add up to, and how
little of it can be due to `unknown`. -/
theorem fused_bounds (lower : String) {v : SlotVector ℝ} (hv : Short v) (heated : SlotVector ℝ)
    {activations : PerChannel ℝ}
    (ha : ∀ channel, 0 ≤ activations.get channel ∧ activations.get channel ≤ 1) :
    let fused := fuse (Evidence.gather (Default.evidence : EvidenceSettings ℝ) lower v heated)
      activations (Config.default : Config ℝ).trust
    (∀ c, 0 ≤ fused.get c) ∧ fused.total ≤ 1 ∧
      (Evidence.hasWords (Default.evidence : EvidenceSettings ℝ) lower = true →
        fused.get .unknown ≤ 23 / 160) := by
  have he := gather_default_nonneg lower hv heated
  refine ⟨fuse_default_nonneg ha he, ?_, fun hwords => ?_⟩
  · rw [total_fuse_default]
    refine (fuse_default_weights_le ha (p := ⟨_, _, _⟩) (x := ⟨1, 1, 1⟩) fun channel => ?_).trans
      (by norm_num)
    have h₀ := total_nonneg (he channel)
    have h₁ := total_gather_default_le lower v heated channel
    cases channel <;> exact ⟨h₀, h₁⟩
  · rw [get_fuse_default]
    refine (fuse_default_weights_le ha (p := ⟨_, _, _⟩) (x := ⟨0, 1 / 8, 2 / 5⟩) fun channel => ?_).trans
      (by norm_num)
    have h₀ := he channel .unknown
    have h₁ := gather_default_unknown_le hwords hv heated channel
    cases channel <;> exact ⟨h₀, h₁⟩

end Fused

end TextIntent.Exact

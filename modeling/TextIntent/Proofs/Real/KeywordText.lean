import TextIntent.Proofs.Real.Cleared
import TextIntent.Proofs.Real.Evidence
import TextIntent.Proofs.Real.Telltale
import TextIntent.Proofs.Decision.Silent

/-! Whether a text with a keyword is decided with more confidence than the empty text, under the default
configuration and without rounding. A telltale word makes sure of it in every state; other keywords do not, and
there is a text with keywords of seven categories that is decided with less. -/
namespace TextIntent.Exact

open Scalar Config Classifier

section EmptyText

theorem total_evenScores : (evenScores (Config.default : Config ℝ)).total = 161 / 20 := by
  have hw : (Config.default : Config ℝ).noSignalWeight = 21 / 20 := by
    change (1.05 : ℝ) = _
    norm_num
  simp only [total_eq, Category.all, List.map_cons, List.map_nil, List.sum_cons, List.sum_nil,
    get_evenScores, reduceCtorEq, if_true, if_false, hw]
  norm_num

theorem get_leader_evenScores (config : Config ℝ) (h : config.Accepted) :
    (evenScores config).get (evenScores config).leader = config.noSignalWeight := by
  have hleader : (evenScores config).leader = .unknown := leader_eq_of_lt fun c hc => by
    rw [get_evenScores, get_evenScores, if_neg hc, if_pos rfl]
    exact one_lt_noSignalWeight h
  rw [hleader, get_evenScores, if_pos rfl]

/-- The confidence in the answer to the empty text. -/
theorem leadingShare_evenScores : leadingShare (evenScores (Config.default : Config ℝ)) =
    1.05 / (8.05 + epsilon * (8.05 + epsilon)) := by
  have ht := total_evenScores
  have hε := epsilon_eq
  rw [leadingShare_of_lt (by rw [ht, hε]; norm_num), get_leader_evenScores _ default_accepted, ht]
  change (1.05 : ℝ) / _ = _
  norm_num

/-- A score that is not flat is enough. -/
theorem leadingShare_gt_of_not_flat {q : Scores ℝ} (h : ¬Flat q) :
    leadingShare (evenScores (Config.default : Config ℝ)) < leadingShare q := by
  have hε := epsilon_pos
  have hε₁ := epsilon_eq
  obtain ⟨c, hc⟩ := not_forall.mp h
  have hleader : 261 / 2000 * q.total < q.get q.leader :=
    (not_le.mp hc).trans_le (firstMax_leader q c).1
  have hempty : leadingShare (evenScores (Config.default : Config ℝ)) < 21 / 161 := by
    rw [leadingShare_evenScores, div_lt_div_iff₀ (by positivity) (by norm_num), hε₁]
    norm_num
  refine hempty.trans ?_
  by_cases ht : Scalar.epsilon < q.total
  · have hsmall := mul_le_mul_of_nonneg_left ht.le hε.le
    have hprod : 0 < Scalar.epsilon * (q.total + Scalar.epsilon) := mul_pos hε (by linarith)
    rw [leadingShare_of_lt ht, lt_div_iff₀ (by linarith)]
    have hguard : Scalar.epsilon * (q.total + Scalar.epsilon) ≤ 2 / 10 ^ 9 * q.total := by
      rw [mul_add]
      refine (add_le_add_right hsmall _).trans ?_
      rw [hε₁]
      linarith
    linarith
  · rw [leadingShare_of_le (not_lt.mp ht), hε₁]
    norm_num

end EmptyText

section Decided

theorem decision_fused_bounds {matrix : SlotMatrix ℝ} {gates : Gates ℝ} {mass : Scores ℝ}
    {lower : String} {v : SlotVector ℝ} {d : Decision ℝ}
    (hd : d = ((Config.default : Config ℝ).decision matrix gates mass lower v).value)
    (hv : Short v) (hwords : Evidence.hasWords (Default.evidence : EvidenceSettings ℝ) lower = true) :
    (∀ c, 0 ≤ d.fused.get c) ∧ d.fused.total ≤ 1 ∧ d.fused.get .unknown ≤ 23 / 160 := by
  subst hd
  obtain ⟨h₀, h₁, hu⟩ := fused_bounds lower hv _ (respond_mem_unit _ gates _)
  exact ⟨h₀, h₁, hu hwords⟩

theorem isZero_zero : Scalar.isZero (0 : ℝ) = true := (isZero_iff 0).mpr rfl

/-- The empty text gets the same confidence in every state. -/
theorem decided_empty {cls : Classifier ℝ} (hr : Reachable Config.default cls) :
    ∃ d, (cls.perform (.classify "")).value.1 = .decided d ∧
      d.confidence = leadingShare (evenScores Config.default) := by
  have hsilent : (Config.default : Config ℝ).Silent "" := by decide +kernel
  have hquestion : (Operation.classify "").question? (Config.default : Config ℝ) =
      some ("", SlotVector.zero) := by
    have hempty : Text.lower "" = "" := by decide +kernel
    simp only [Operation.question?, hempty, hsilent.ofLower_eq isZero_zero]
  obtain ⟨d, hdecided, -, hconfidence⟩ := decided_confidence default_accepted hr _ hquestion
  rw [unscaledScores_of_lacksSignal _ _ (hsilent.lacksSignal isZero_zero)] at hconfidence
  exact ⟨d, hdecided, hconfidence⟩

/-- A text with a keyword gets the share of the leader of the bridged scores. -/
theorem decided_with_words {cls : Classifier ℝ} (hr : Reachable Config.default cls) {text : String}
    (hwords : Evidence.hasWords (Config.default : Config ℝ).evidence (Text.lower text) = true) :
    let lower := Text.lower text
    let v := Signature.ofLower (Config.default : Config ℝ).features lower
    ∃ d, (cls.perform (.classify text)).value.1 = .decided d ∧
      d = ((Config.default : Config ℝ).decision cls.matrix cls.gates cls.mass lower v).value ∧
      d.confidence = leadingShare (bridgedScores Config.default cls.mass lower v d.fused) := by
  intro lower v
  obtain ⟨d, hdecided, hd, hconfidence⟩ :=
    decided_confidence default_accepted hr (.classify text) rfl
  have hsignal : (Config.default : Config ℝ).lacksSignal lower v = false := by
    rw [Config.lacksSignal, hwords, Bool.not_true, Bool.and_false]
  rw [unscaledScores_of_signal _ _ hsignal] at hconfidence
  exact ⟨d, hdecided, hd, hconfidence⟩

end Decided

section FlatText

/-- Words of all categories but `unknown`, after ten characters that make the last slot stand out. -/
def flatText : String :=
  "hey あhelp😀 good evening assist status go to energy force mass operator apply layer"

/-- Bounds of one kind of evidence: above for each category, and below for `operator` and for the total. -/
structure Within (s bound : Scores ℝ) (operator : ℝ) : Prop where
  le : ∀ c, s.get c ≤ bound.get c
  le_operator : operator ≤ s.get .operator
  le_total : 1 - 1e-8 ≤ s.total

/-- The keywords of the text, as shares of their number. -/
noncomputable def flatLexical : Scores ℝ :=
  ⟨5.0 / 26.0, 2.0 / 13.0, 1.0 / 13.0, 3.0 / 26.0, 3.0 / 13.0, 2.0 / 13.0, 1.0 / 13.0, 0⟩

noncomputable def flatSubspace : Scores ℝ :=
  ⟨0.1153, 0.1154, 0.1828, 0.1367, 0.1256, 0.1147, 0.1149, 0.0961⟩

noncomputable def flatShape : Scores ℝ :=
  ⟨0.0853, 0.1207, 0.0853, 0.1207, 0.1609, 0, 0.189, 0.2394⟩

theorem lexical_flatText :
    Within (Evidence.lexical (Default.evidence : EvidenceSettings ℝ) flatText) flatLexical 0.1538 := by
  -- the number of keywords of each category in the text, and how many of them are phrases
  have hfound (c : Category) :
      (((Evidence.keywords (Default.evidence : EvidenceSettings ℝ) c).filter
          (Text.occurs · flatText)).length,
        ((Evidence.keywords (Default.evidence : EvidenceSettings ℝ) c).filter
          (Text.occurs · flatText)).countP (·.toList.contains ' ')) =
      (⟨(2, 1), (2, 0), (1, 0), (1, 1), (3, 0), (2, 0), (1, 0), (0, 0)⟩ :
        PerCategory (ℕ × ℕ)).get c := by
    cases c <;> decide +kernel
  set hits := Evidence.wordHits (Default.evidence : EvidenceSettings ℝ) flatText with hhits
  have hget (c : Category) :
      hits.get c = (⟨5 / 2, 2, 1, 3 / 2, 3, 2, 1, 0⟩ : Scores ℝ).get c := by
    have hbonus : (Default.evidence : EvidenceSettings ℝ).phraseBonus = 1 / 2 := by
      change (0.5 : ℝ) = _
      norm_num
    obtain ⟨hlength, hphrases⟩ := Prod.ext_iff.mp (hfound c)
    dsimp only at hlength hphrases
    rw [hhits, get_wordHits, weigh, hlength, hphrases, hbonus]
    cases c <;> norm_num [PerCategory.get]
  have htotal : hits.total = 13 := by
    rw [total_eq, funext hget]
    norm_num [Category.all, PerCategory.get]
  have hlt : Scalar.epsilon < hits.total := by
    rw [htotal, epsilon_eq]
    norm_num
  have hlexical : Evidence.lexical (Default.evidence : EvidenceSettings ℝ) flatText =
      hits.normalized := by
    rw [Evidence.lexical, ← hhits, if_neg (not_le.mpr hlt)]
  rw [hlexical]
  refine ⟨fun c => get_normalized_le ?_ hlt ?_, le_get_normalized hlt ?_, le_total_normalized ?_⟩
  · cases c <;> norm_num [flatLexical, PerCategory.get]
  · rw [htotal, hget]
    cases c <;> norm_num [flatLexical, PerCategory.get]
  · rw [htotal, hget, epsilon_eq]
    norm_num [PerCategory.get]
  · rw [htotal]
    norm_num

/-- The signature of the text is this vector, scaled to unit length. -/
theorem unscaled_flatText : Signature.unscaled (Default.features : FeatureSettings ℝ) flatText =
    #v[1.104, 1.101, 1.021, 0.932, 12.354, 1.104, 1.101, 1.108, 0.112, 128.512] := by
  have hvisible : Signature.isVisible (Default.features : FeatureSettings ℝ) flatText = true := by
    decide +kernel
  have hfirst : flatText.toList.take 10 =
      ['h', 'e', 'y', ' ', 'あ', 'h', 'e', 'l', 'p', '😀'] := by
    decide +kernel
  have hlength : 10 ≤ flatText.toList.length := by
    decide +kernel
  have hslots : ((Default.features : FeatureSettings ℝ).slots.map fun slot =>
      Text.occursAny slot.words flatText) =
        [true, true, true, true, false, true, true, true, false, false] := by
    decide +kernel
  have hweights : (Signature.slotWeights (Default.features : FeatureSettings ℝ) flatText).toList =
      [1, 1, 0.9, 0.9, 0, 1, 1, 1, 0, 0] := by
    simp only [Default.features, List.map_cons, List.map_nil, List.cons.injEq, and_true] at hslots
    rw [toList_slotWeights rfl]
    simp only [Default.features, List.map_cons, List.map_nil, hslots, if_true, Bool.false_eq_true,
      if_false]
    norm_num
  have hscale : (Default.features : FeatureSettings ℝ).charScale = 1000 := by
    change (1000.0 : ℝ) = _
    norm_num
  rw [Signature.unscaled, hvisible, Bool.not_true, Bool.and_false, if_neg Bool.false_ne_true,
    ← Vector.toList_inj, toList_addCodes _ hlength, hweights, hfirst, hscale]
  simp only [List.zipWith_cons_cons, List.zipWith_nil_left, Vector.toList_mk, Char.reduceToNat]
  norm_num

/-- The signature of the text, up to the factor. -/
noncomputable def flatSignature (r : ℝ) : SlotVector ℝ :=
  #v[1.104 * r, 1.101 * r, 1.021 * r, 0.932 * r, 12.354 * r, 1.104 * r, 1.101 * r, 1.108 * r,
    0.112 * r, 128.512 * r]

/-- The factor that scales the signature is the inverse of a square root. -/
structure FlatFactor (r : ℝ) : Prop where
  lo : 0.0077435 ≤ r
  hi : r ≤ 0.0077442
  sq : 16675.968767 * r ^ 2 = 1

theorem ofLower_flatText : ∃ r, FlatFactor r ∧
    Signature.ofLower (Default.features : FeatureSettings ℝ) flatText = flatSignature r := by
  set v := Signature.unscaled (Default.features : FeatureSettings ℝ) flatText with hv
  have hnorm : v.norm = √16675.968767 := by
    rw [hv, unscaled_flatText, SlotVector.norm]
    simp only [Vector.toList_mk, List.map_cons, List.map_nil, List.sum_cons, List.sum_nil]
    norm_num
  have hlo : 129.13 ≤ v.norm := hnorm ▸ Real.le_sqrt_of_sq_le (by norm_num)
  have hhi : v.norm ≤ 129.14 := hnorm ▸ Real.sqrt_le_iff.mpr ⟨by norm_num, by norm_num⟩
  have hpos : 0 < v.norm := by linarith
  refine ⟨v.norm⁻¹, ⟨?_, ?_, ?_⟩, ?_⟩
  · rw [le_inv_comm₀ (by norm_num) hpos]
    exact hhi.trans (by norm_num)
  · rw [inv_le_comm₀ hpos (by norm_num)]
    exact le_trans (by norm_num) hlo
  · rw [hnorm, inv_pow, Real.sq_sqrt (by norm_num)]
    norm_num
  · have hlong : ¬v.norm < Scalar.epsilon := by
      rw [epsilon_eq]
      linarith
    rw [ofLower_eq, ← hv, normalize_eq, if_neg hlong]
    generalize v.norm = n
    rw [hv, unscaled_flatText]
    simp [flatSignature, div_eq_mul_inv]

section Factor

variable {r : ℝ}

theorem sum_flatSignature (r : ℝ) : (flatSignature r).toList.sum = 148.449 * r := by
  simp only [flatSignature, Vector.toList_mk, List.sum_cons, List.sum_nil]
  ring

theorem subspace_flatSignature (h : FlatFactor r) :
    Within (Evidence.subspace (Default.evidence : EvidenceSettings ℝ) (flatSignature r))
      flatSubspace 0.1144 := by
  have hlo := h.lo
  have hhi := h.hi
  have hprojection (c : Category) : Evidence.projection Default.evidence (flatSignature r) c =
      (⟨1 / 2 + 1.104 * r, 1 / 2 + 1.157 * r, 1 / 2 + 39.5746 * r, 1 / 2 + 13.286 * r,
        1 / 2 + 6.9486 * r, 1 / 2 + 0.7698 * r, 1 / 2 + 0.8878 * r, 1 / 2 - 9.9125 * r⟩ :
          Scores ℝ).get c := by
    rw [Evidence.projection, larger_eq, flatSignature, default_readOut, max_eq_left]
    · cases c <;> simp only [PerCategory.get] <;> ring
    · cases c <;> simp only [PerCategory.get] <;> linarith
  have htotal :
      (PerCategory.ofFn (Evidence.projection Default.evidence (flatSignature r)) : Scores ℝ).total =
        4 + 53.8153 * r := by
    rw [total_eq, funext (PerCategory.get_ofFn _), funext hprojection]
    simp only [Category.all, List.map_cons, List.map_nil, List.sum_cons, List.sum_nil,
      PerCategory.get]
    ring
  have hlt : Scalar.epsilon < 4 + 53.8153 * r := by
    rw [epsilon_eq]
    linarith
  refine ⟨fun c => get_normalized_le ?_ (htotal ▸ hlt) ?_, le_get_normalized (htotal ▸ hlt) ?_,
    le_total_normalized ?_⟩
  · cases c <;> norm_num [flatSubspace, PerCategory.get]
  · rw [PerCategory.get_ofFn, htotal, hprojection]
    cases c <;> simp only [flatSubspace, PerCategory.get] <;> linarith
  · rw [PerCategory.get_ofFn, htotal, hprojection, epsilon_eq]
    simp only [PerCategory.get]
    linarith
  · rw [htotal]
    linarith

theorem symmetry_flatSignature (h : 0 ≤ r) :
    Evidence.symmetry (flatSignature r) = 1 - 27.9806 * r := by
  have habs (a b : ℝ) : |a * r - b * r| = |a - b| * r := by
    rw [← sub_mul, abs_mul, abs_of_nonneg h]
  simp only [Evidence.symmetry, sum_eq, flatSignature, abs_eq, Vector.reverse_mk,
    List.reverse_toArray, List.reverse_cons, List.reverse_nil, List.nil_append, List.cons_append,
    Vector.mk_zipWith_mk, List.zipWith_toArray, List.zipWith_cons_cons, List.zipWith_nil_left,
    Vector.toList_mk, List.sum_cons, List.sum_nil, habs]
  norm_num [abs_of_nonneg, abs_of_nonpos]
  ring

theorem variance_flatSignature (h : FlatFactor r) :
    Evidence.variance (flatSignature r) ∈ Set.Icc 0.0867 0.0869 := by
  have hmean : sum (flatSignature r).toList / 10.0 = 14.8449 * r := by
    rw [sum_eq, sum_flatSignature]
    norm_num
    ring
  have hsum : sum ((flatSignature r).map fun x =>
      (x - 14.8449 * r) * (x - 14.8449 * r)).toList = 14472.2582069 * r ^ 2 := by
    simp only [sum_eq, flatSignature, Vector.toList_map, Vector.toList_mk, List.map_cons,
      List.map_nil, List.sum_cons, List.sum_nil]
    ring
  have hsq : r ^ 2 = 1 / 16675.968767 := by linarith [h.sq]
  simp only [Evidence.variance, hmean, hsum, hsq, epsilon_eq]
  norm_num

/-- Most of the signature is in the last slot, which keeps a quarter of it when heated. -/
theorem two_le_crest_flatSignature (h : FlatFactor r) :
    2 ≤ Evidence.crest
      ((SlotMatrix.ofFeatures (Default.features : FeatureSettings ℝ)).apply (flatSignature r)) := by
  have hlo := h.lo
  have hbonus : 0 ≤ (Default.features : FeatureSettings ℝ).partnerBonus := by
    change (0 : ℝ) ≤ 0.5
    norm_num
  have hnonneg : ∀ x ∈ (flatSignature r).toList, 0 ≤ x := by
    simp only [flatSignature, Vector.toList_mk, List.forall_mem_cons, List.not_mem_nil,
      false_implies, implies_true, and_true]
    refine ⟨?_, ?_, ?_, ?_, ?_, ?_, ?_, ?_, ?_, ?_⟩ <;> linarith
  have hkept := le_get_apply hbonus hnonneg 9
  have hcoupling : totalCoupling (Default.features : FeatureSettings ℝ)
      ((Default.features : FeatureSettings ℝ).reference.get 9) ≤ 4 :=
    totalCoupling_default_le (Vector.mem_toList_iff.mpr (Vector.getElem_mem (by norm_num)))
  have htotal := sum_apply hbonus (flatSignature r)
  rw [sum_flatSignature] at htotal
  generalize (SlotMatrix.ofFeatures (Default.features : FeatureSettings ℝ)).apply
    (flatSignature r) = heated at *
  have hpeak : 128.512 * r / 4 ≤ peak heated.toList :=
    calc 128.512 * r / 4 ≤ 128.512 * r / totalCoupling (Default.features : FeatureSettings ℝ)
          ((Default.features : FeatureSettings ℝ).reference.get 9) :=
          div_le_div_of_nonneg_left (by linarith) (totalCoupling_pos hbonus _) hcoupling
      _ ≤ heated.get 9 := hkept
      _ ≤ peak heated.toList :=
          (Exact.le_peak _).2 _ (Vector.mem_toList_iff.mpr (Vector.getElem_mem (by norm_num)))
  rw [Evidence.crest, sum_eq, htotal, epsilon_eq, abs_eq, abs_of_nonneg (by linarith),
    le_div_iff₀ (by linarith)]
  linarith

theorem shape_flatSignature (h : FlatFactor r) :
    Within (Evidence.shape (Default.evidence : EvidenceSettings ℝ) (flatSignature r)
      ((SlotMatrix.ofFeatures (Default.features : FeatureSettings ℝ)).apply (flatSignature r)))
      flatShape 0 := by
  have hlo := h.lo
  have hhi := h.hi
  have hcrest := two_le_crest_flatSignature h
  rw [default_shape]
  generalize (SlotMatrix.ofFeatures (Default.features : FeatureSettings ℝ)).apply
    (flatSignature r) = heated at *
  set f := Evidence.Shape.of (Default.evidence : EvidenceSettings ℝ) (flatSignature r) heated with hf
  have hsymmetry : f.symmetry = 1 - 27.9806 * r := symmetry_flatSignature (by linarith)
  have hconcentration : f.concentration = 1 := by
    refine if_pos ?_
    change (2.0 : ℝ) ≤ _
    norm_num
    exact hcrest
  obtain ⟨hu₀, hu₁⟩ : f.uniformity ∈ Set.Icc 0.705 0.706 := by
    obtain ⟨hv₀, hv₁⟩ := variance_flatSignature h
    have hroot₀ : 0.294 ≤ √(Evidence.variance (flatSignature r)) :=
      Real.le_sqrt_of_sq_le (by linarith)
    have hroot₁ : √(Evidence.variance (flatSignature r)) ≤ 0.295 :=
      Real.sqrt_le_iff.mpr ⟨by norm_num, by linarith⟩
    change clamp 0 1 (1 - √(Evidence.variance (flatSignature r))) ∈ _
    rw [clamp_of_mem (by linarith) (by linarith)]
    constructor <;> linarith
  have htotal : (routed f).total = 2 - 27.9806 * r + f.uniformity := by
    rw [total_routed, hsymmetry, hconcentration]
    ring
  have hlt : Scalar.epsilon < (routed f).total := by
    rw [htotal, epsilon_eq]
    linarith
  refine ⟨fun c => get_normalized_le ?_ hlt ?_, le_get_normalized hlt ?_, le_total_normalized ?_⟩
  · cases c <;> norm_num [flatShape, PerCategory.get]
  · rw [htotal]
    cases c <;> simp only [flatShape, routed, PerCategory.get, hsymmetry, hconcentration] <;>
      linarith
  · rw [zero_mul]
    exact le_rfl
  · rw [htotal]
    linarith

end Factor

/-- The text holds no telltale word, and its scores are too small to be told apart. -/
theorem bridgedScores_flatText (mass : Scores ℝ) (v : SlotVector ℝ) {fused : Scores ℝ}
    (h₀ : ∀ c, 0 ≤ fused.get c) (h₁ : ∀ c, fused.get c ≤ 0.1) :
    bridgedScores Config.default mass flatText v fused = defaultEffect fused .operatorKeyword := by
  have htelltale (c : Category) :
      telltaleHits (Default.suppression : SuppressionSettings ℝ) flatText c = 0 := by
    cases c <;> decide +kernel
  have hboost : (Default.suppression : SuppressionSettings ℝ).boost flatText fused = fused :=
    PerCategory.ext_get fun c => by rw [get_boost, htelltale, Nat.cast_zero, zero_mul, add_zero]
  have hsuppress :
      ((Default.suppression : SuppressionSettings ℝ).suppress mass fused).value = fused := by
    refine value_suppress_of_le mass h₀ h₁ ?_
    change (0.1 : ℝ) ≤ 1000
    norm_num
  have hrule : (Default.bridge : BridgeSettings ℝ).rule?
      (Default.features : FeatureSettings ℝ).reference flatText v fused = some .operatorKeyword := by
    have hcues : Text.occursAny (Default.bridge : BridgeSettings ℝ).physicsCues flatText = true := by
      decide +kernel
    have hwords :
        Text.occursAny (Default.bridge : BridgeSettings ℝ).operatorWords flatText = true := by
      decide +kernel
    simp [BridgeSettings.rule?, Rule.all, BridgeSettings.holds, hcues, hwords]
  change ((Default.bridge : BridgeSettings ℝ).bridge (Default.features : FeatureSettings ℝ).reference
    flatText v ((Default.suppression : SuppressionSettings ℝ).suppress mass
      ((Default.suppression : SuppressionSettings ℝ).boost flatText fused)).value).value.1 = _
  rw [hboost, hsuppress,
    value_bridge_default _ _ _ fun c => ⟨h₀ c, (h₁ c).trans (by norm_num)⟩, hrule]

theorem leadingShare_flatText (evidence : PerChannel (Scores ℝ)) {activations : PerChannel ℝ}
    (ha : activations.conservative ∈ Set.Icc 0.2689 0.26895) (hb : activations.balanced = 1 / 2)
    (hl : activations.liberal ∈ Set.Icc 0.47 0.5)
    (hL : Within evidence.conservative flatLexical 0.1538)
    (hS : Within evidence.balanced flatSubspace 0.1144)
    (hH : Within evidence.liberal flatShape 0) (hnonneg : ∀ c, 0 ≤ evidence.conservative.get c) :
    let fused := fuse evidence activations (Config.default : Config ℝ).trust
    (∀ c, fused.get c ≤ 0.1) ∧ leadingShare (defaultEffect fused .operatorKeyword) ≤ 0.1304 := by
  intro fused
  have hget := get_fuse_default evidence activations
  have htotal := total_fuse_default evidence activations
  rw [hb] at hget htotal
  generalize activations.conservative = a at *
  generalize activations.liberal = l at *
  obtain ⟨ha₀, ha₁⟩ := ha
  obtain ⟨hl₀, hl₁⟩ := hl
  -- what is left of each score is linear in the response of the liberal channel
  have hle (c : Category) : fused.get c ≤ 2 / 5 * 0.26895 * flatLexical.get c +
      7 / 40 * flatSubspace.get c + 1 / 4 * l * flatShape.get c := by
    have h₁ := mul_le_mul ha₁ (hL.le c) (hnonneg c) (by norm_num)
    have h₂ := mul_le_mul_of_nonneg_left (hH.le c) (by linarith : 0 ≤ l)
    linarith [hget c, hS.le c]
  have htotal : 2 / 5 * 0.2689 * (1 - 1e-8) + 7 / 40 * (1 - 1e-8) + 1 / 4 * l * (1 - 1e-8) ≤
      fused.total := by
    have h₁ := mul_le_mul ha₀ hL.le_total (by norm_num) (by linarith)
    have h₂ := mul_le_mul_of_nonneg_left hH.le_total (by linarith : 0 ≤ l)
    linarith [htotal, hS.le_total]
  have hoperator : 2 / 5 * 0.2689 * 0.1538 + 7 / 40 * 0.1144 ≤ fused.get .operator := by
    have h₁ := mul_le_mul ha₀ hL.le_operator (by norm_num) (by linarith)
    have h₂ := mul_le_mul_of_nonneg_left hH.le_operator (by linarith : 0 ≤ l)
    linarith [hget .operator, hS.le_operator]
  have heffect : (defaultEffect fused .operatorKeyword).total =
      fused.total + 2 / 5 * fused.get .operator - 3 / 10 * fused.get .physics :=
    total_defaultEffect fused .operatorKeyword
  have hphysics := hle .physics
  simp only [flatLexical, flatSubspace, flatShape] at hle hphysics
  simp only [PerCategory.get] at hphysics hoperator heffect
  refine ⟨fun c => (hle c).trans ?_, leadingShare_le (by norm_num) ?_ fun c => ?_⟩
  · cases c <;> simp only [PerCategory.get] <;> linarith only [hl₁]
  · rw [heffect, epsilon_eq]
    linarith only [hphysics, htotal, hoperator, hl₀, hl₁]
  · rw [heffect]
    have hc := hle c
    cases c <;> simp only [defaultEffect, PerCategory.get] at hc ⊢ <;>
      linarith only [hc, hphysics, htotal, hoperator, hl₀, hl₁]

end FlatText

/-- A text with a keyword, against the empty text, in any state of a classifier with the default
configuration. Without rounding, the confidence is greater exactly if the leader of the bridged scores has a
large enough share of their total, or there is nothing to divide. It is greater in every state if one of the
keywords is a telltale word. -/
theorem keyword_text_against_empty {cls : Classifier ℝ} (hr : Reachable Config.default cls)
    {text : String} {table : CategoryWords}
    (ht : table ∈ (Config.default : Config ℝ).evidence.lexical) {word : String}
    (hw : word ∈ table.words) (ho : Text.occurs word (Text.lower text) = true) :
    ∃ d d₀, (cls.perform (.classify text)).value.1 = .decided d ∧
      (cls.perform (.classify "")).value.1 = .decided d₀ ∧
      d₀.confidence = 1.05 / (8.05 + epsilon * (8.05 + epsilon)) ∧
      (let config : Config ℝ := Config.default
      let lower := Text.lower text
      let boosted := config.suppression.boost lower d.fused
      let suppressed := (config.suppression.suppress cls.mass boosted).value
      let bridged := (config.bridge.bridge config.features.reference lower
        (Signature.ofLower config.features lower) suppressed).value.1
      d₀.confidence < d.confidence ↔ bridged.total ≤ epsilon ∨
        d₀.confidence * (bridged.total + epsilon * (bridged.total + epsilon)) <
          bridged.get bridged.leader) ∧
      ((∃ telltale ∈ (Config.default : Config ℝ).suppression.discriminative,
        ∃ word ∈ telltale.words, Text.occurs word (Text.lower text) = true) →
          d₀.confidence < d.confidence) := by
  have hwords : Evidence.hasWords (Config.default : Config ℝ).evidence (Text.lower text) = true :=
    List.any_eq_true.mpr ⟨table, ht, Text.occursAny_iff.mpr ⟨word, hw, ho⟩⟩
  obtain ⟨d, hdecided, hd, hconfidence⟩ := decided_with_words hr hwords
  obtain ⟨d₀, hdecided₀, hconfidence₀⟩ := decided_empty hr
  refine ⟨d, d₀, hdecided, hdecided₀, hconfidence₀.trans leadingShare_evenScores, ?_,
    fun ⟨telltale, ht, word, hw, ho⟩ => ?_⟩
  · rw [hconfidence]
    refine lt_leadingShare_iff ?_
    rw [hconfidence₀, leadingShare_evenScores, epsilon_eq]
    norm_num
  · obtain ⟨h₀, h₁, hu⟩ := decision_fused_bounds hd (short_ofLower default_accepted _) hwords
    rw [hconfidence, hconfidence₀]
    exact leadingShare_gt_of_not_flat (not_flat_bridgedScores h₀ h₁ hu cls.mass _
      ⟨telltale.category, telltaleHits_ne_zero ht hw ho⟩)

/-- A request with a telltale word, after feedback. -/
theorem classify_this_against_empty :
    let cls := (ofConfig (Config.default : Config ℝ)).after [.feedback .help .greeting]
    Reachable Config.default cls ∧
      ⟨.structural, Default.structuralWords⟩ ∈ (Config.default : Config ℝ).evidence.lexical ∧
      "classify" ∈ Default.structuralWords ∧
      Text.occurs "classify" (Text.lower "please classify this") = true ∧
      ∃ d d₀, (cls.perform (.classify "please classify this")).value.1 = .decided d ∧
        (cls.perform (.classify "")).value.1 = .decided d₀ ∧ d₀.confidence < d.confidence := by
  intro cls
  have hr : Reachable Config.default cls := ⟨_, rfl⟩
  have ht : ⟨.structural, Default.structuralWords⟩ ∈
      (Config.default : Config ℝ).evidence.lexical := by
    simp [Config.default, Default.evidence]
  have hw : "classify" ∈ Default.structuralWords := by decide
  have ho : Text.occurs "classify" (Text.lower "please classify this") = true := by decide +kernel
  obtain ⟨d, d₀, hd, hd₀, -, -, htelltale⟩ := keyword_text_against_empty hr ht hw ho
  have hdiscriminative : ⟨.structural, ["classification", "classify"]⟩ ∈
      (Config.default : Config ℝ).suppression.discriminative := by
    simp [Config.default, Default.suppression]
  exact ⟨hr, ht, hw, ho, d, d₀, hd, hd₀, htelltale ⟨_, hdiscriminative, "classify", by simp, ho⟩⟩

/-- With cleared filters a text with a dozen keywords, none of them a telltale word, is decided with less
confidence than the empty text. -/
theorem flatText_below_empty :
    let cls := (ofConfig (Config.default : Config ℝ)).after [.restore cleared]
    Reachable Config.default cls ∧
      (∃ table ∈ (Config.default : Config ℝ).evidence.lexical, ∃ word ∈ table.words,
        Text.occurs word (Text.lower flatText) = true) ∧
      ∃ d d₀, (cls.perform (.classify flatText)).value.1 = .decided d ∧
        (cls.perform (.classify "")).value.1 = .decided d₀ ∧ d.confidence < d₀.confidence := by
  intro cls
  have hr : Reachable Config.default cls := ⟨_, rfl⟩
  have hlower : Text.lower flatText = flatText := by decide +kernel
  have ht : ⟨.help, Default.helpWords⟩ ∈ (Config.default : Config ℝ).evidence.lexical := by
    simp [Config.default, Default.evidence]
  have hw : "help" ∈ Default.helpWords := by decide
  have ho : Text.occurs "help" (Text.lower flatText) = true := by
    rw [hlower]
    decide +kernel
  have hwords : Evidence.hasWords (Config.default : Config ℝ).evidence (Text.lower flatText) = true :=
    List.any_eq_true.mpr ⟨_, ht, Text.occursAny_iff.mpr ⟨_, hw, ho⟩⟩
  obtain ⟨d, hdecided, hd, hconfidence⟩ := decided_with_words hr hwords
  obtain ⟨d₀, hdecided₀, hconfidence₀⟩ := decided_empty hr
  obtain ⟨r, hfactor, hsignature⟩ := ofLower_flatText
  obtain ⟨hnonneg, -⟩ := decision_fused_bounds hd (short_ofLower default_accepted _) hwords
  rw [hlower, show Signature.ofLower (Config.default : Config ℝ).features flatText = _ from hsignature]
    at hd hconfidence
  set heated := (SlotMatrix.ofFeatures (Default.features : FeatureSettings ℝ)).apply (flatSignature r)
    with hheated
  have hfused : d.fused =
      fuse (Evidence.gather (Default.evidence : EvidenceSettings ℝ) flatText (flatSignature r) heated)
        (cls.gates.respond (Default.channels : PerChannel (ChannelSettings ℝ)) heated).value
        (Config.default : Config ℝ).trust := by
    have hmatrix : cls.matrix = SlotMatrix.ofFeatures (Default.features : FeatureSettings ℝ) := by
      rw [cls.matrix_eq, hr.config_eq]
      rfl
    rw [hd, hheated, ← hmatrix, ← values_heat_default]
    rfl
  obtain ⟨ha, hb, hl⟩ := respond_cleared (filter_cleared (ofConfig Config.default)) heated
  obtain ⟨hsmall, hshare⟩ := leadingShare_flatText
    (Evidence.gather Default.evidence flatText (flatSignature r) heated) ha hb hl
    lexical_flatText (subspace_flatSignature hfactor) (shape_flatSignature hfactor)
    (lexical_nonneg phraseBonus_nonneg noMatchWeight_nonneg flatText)
  rw [← hfused] at hsmall hshare
  rw [bridgedScores_flatText _ _ hnonneg hsmall] at hconfidence
  refine ⟨hr, ⟨_, ht, _, hw, ho⟩, d, d₀, hdecided, hdecided₀, ?_⟩
  rw [hconfidence, hconfidence₀, leadingShare_evenScores, epsilon_eq]
  exact hshare.trans_lt (by norm_num)

end TextIntent.Exact

import TextIntent.Proofs.Real.Config
import TextIntent.Proofs.Real.Norm
import TextIntent.Proofs.Signature.Components

/-! Signatures without rounding. A signature that the classifier has worked out may be given back to it:
none of its components is negative, and scaling it once more changes nothing. -/
namespace TextIntent.Exact

open Scalar Classifier

variable {config : Config ℝ}

theorem unscaled_nonneg (h : config.Accepted) (lower : String) :
    ∀ x ∈ (Signature.unscaled config.features lower).toList, 0 ≤ x :=
  Signature.forall_unscaled le_rfl
    (fun _ hs => add_nonneg le_rfl (slotWeight_nonneg h hs))
    (fun _ c hx => add_nonneg hx (div_nonneg (Nat.cast_nonneg c.toNat) (charScale_pos h).le)) lower

/-- With ten slots every slot has its weight or nothing. -/
theorem toList_slotWeights {f : FeatureSettings ℝ} (h : f.slots.length = 10) (lower : String) :
    (Signature.slotWeights f lower).toList =
      f.slots.map fun slot => if Text.occursAny slot.words lower then slot.weight else 0 := by
  rw [Signature.slotWeights, Vector.toList_ofFn]
  refine List.ext_getElem (by simp [h]) fun i h₁ h₂ => ?_
  have hi : i < f.slots.length := by simpa using h₂
  rw [List.getElem_ofFn, List.getElem_map]
  simp only [List.getElem?_eq_getElem hi, zero_add]

/-- With ten characters every slot has a code added. -/
theorem toList_addCodes (f : FeatureSettings ℝ) {lower : String} (h : 10 ≤ lower.toList.length)
    (v : SlotVector ℝ) : (Signature.addCodes f lower v).toList =
      List.zipWith (fun x c => x + (c.toNat : ℝ) / f.charScale) v.toList (lower.toList.take 10) := by
  have hlength : (lower.toList.take 10).length = 10 := by simpa using h
  refine List.ext_getElem (by simp [hlength]) fun i h₁ h₂ => ?_
  have hi : i < (lower.toList.take 10).length := by
    rw [hlength]
    simpa using h₁
  simp only [List.getElem_zipWith, Vector.getElem_toList, Signature.addCodes,
    Vector.getElem_mapFinIdx, List.getElem?_eq_getElem hi]

theorem ofLower_eq (f : FeatureSettings ℝ) (lower : String) :
    Signature.ofLower f lower = (Signature.unscaled f lower).normalize :=
  Signature.ofLower_eq (fun _ => normalize_of_isZero) f lower

/-- The signature of a text is taken as it is. -/
theorem ofList_ofLower (h : config.Accepted) (lower : String) :
    Signature.ofList (Signature.ofLower config.features lower).toList =
      pure (Signature.ofLower config.features lower) := by
  rw [ofLower_eq, Signature.ofList_toList _ fun x hx =>
    ⟨isFinite_eq x, not_lt.mpr (zero_le_normalize (unscaled_nonneg h lower) x hx)⟩,
    normalize_normalize]

/-- Without rounding, a text that is given with the signature the classifier works out for it is decided
like the text alone: the decision, the counters and the reported events are the same. -/
theorem classifyWith_own_signature (h : config.Accepted) {cls : Classifier ℝ}
    (hr : Reachable config cls) (text : String) :
    (classifyWith text (cls.signature text).toList).run.run cls =
      Prod.map Except.ok id <$> cls.classify text := by
  have hown : Signature.ofList (cls.signature text).toList = pure (cls.signature text) := by
    rw [signature, Signature.ofText, hr.config_eq]
    exact ofList_ofLower h (Text.lower text)
  rw [classifyWith, hown]
  rfl

/-- A greeting with its own signature, given to a classifier that has learnt from feedback. -/
theorem classifyWith_own_signature_after_feedback :
    let cls := (ofConfig (Config.default : Config ℝ)).after [.feedback .help .greeting]
    (Config.default : Config ℝ).Accepted ∧ Reachable Config.default cls ∧
      (classifyWith "good morning" (cls.signature "good morning").toList).run.run cls =
        Prod.map Except.ok id <$> cls.classify "good morning" :=
  ⟨default_accepted, ⟨_, rfl⟩, classifyWith_own_signature default_accepted ⟨_, rfl⟩ "good morning"⟩

end TextIntent.Exact

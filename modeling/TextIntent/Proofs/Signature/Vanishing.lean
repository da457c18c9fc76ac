import TextIntent.Proofs.Binary64.Spacing
import TextIntent.Proofs.Config.Keywords
import TextIntent.Proofs.Signature
import TextIntent.Proofs.Text.Visible

/-! When the signature of a text is zero. Nothing is lost on the way to it: a sum of nonnegative doubles is zero
only if its terms are, every code but that of the null character has a share that is not zero, however large
the scale, and a vector does not vanish when it is scaled to unit length. -/
namespace TextIntent

open Scalar Binary64

namespace Binary64

/-- What is not below the smallest positive double is not rounded to zero. -/
theorem rounded_pos {r : ℝ} (h : 2 ^ leastExponent ≤ r) : 0 < rounded r := by
  have hone : ((1 : ℕ) : ℝ) * 2 ^ leastExponent ≤ limit :=
    (finite_lt_limit (by norm_num) (by decide)).le
  have hself := rounded_eq_self (m := 1) (by norm_num) le_rfl hone
  rw [Nat.cast_one, one_mul] at hself
  calc (0 : ℝ) < 2 ^ leastExponent := by positivity
    _ = rounded (2 ^ leastExponent) := hself.symm
    _ ≤ rounded r := rounded_mono h

/-- No finite double is so large that one divided by it is rounded to zero. -/
theorem rounded_div_pos {r : ℝ} (hr : 1 ≤ r) {x : Float} (hf : x.isFinite = true)
    (hpos : 0 < value x) : 0 < rounded (r / value x) := by
  have hlimit : value x ≤ 2 ^ (1024 : ℤ) := by
    have hl := ((isFinite_iff _).mp hf).2
    rw [abs_of_pos hpos, limit] at hl
    exact_mod_cast hl.le
  apply rounded_pos
  rw [le_div_iff₀ hpos]
  calc (2 : ℝ) ^ leastExponent * value x
      ≤ 2 ^ leastExponent * 2 ^ (1024 : ℤ) := mul_le_mul_of_nonneg_left hlimit (by positivity)
    _ ≤ 1 := by
      rw [← zpow_add₀ (by norm_num)]
      exact zpow_le_one_of_nonpos₀ (by norm_num) (by decide)
    _ ≤ r := hr

theorem isZero_zero : Scalar.isZero (0 : Float) = true :=
  (isZero_iff 0).mpr ⟨isNearest_zero.1, value_zero⟩

theorem isZero_iff_not_pos {x : Float} (h : 0 ≤ x) : Scalar.isZero x = true ↔ ¬0 < x := by
  rw [isZero_iff, lt_iff, value_zero]
  have hv := value_nonneg h
  simp [isNearest_zero.1, defined_of_zero_le h, le_antisymm_iff, hv]

theorem isZero_add_iff {x y : Float} (hx : 0 ≤ x) (hy : 0 ≤ y) :
    Scalar.isZero (x + y) = true ↔ Scalar.isZero x = true ∧ Scalar.isZero y = true := by
  have hs := isNearest_add_of_zero_le hx hy
  have hx₀ := value_nonneg hx
  have hy₀ := value_nonneg hy
  simp only [isZero_iff, hs.1, defined_of_zero_le hx, defined_of_zero_le hy, true_and]
  constructor
  · intro hz
    have hxle := ((le_iff _ _).mp (le_add_right hx hy)).2.2
    have hyle := ((le_iff _ _).mp (le_add_left hx hy)).2.2
    rw [hz] at hxle hyle
    exact ⟨le_antisymm hxle hx₀, le_antisymm hyle hy₀⟩
  · rintro ⟨hxz, hyz⟩
    rw [hs.2, hxz, hyz, add_zero, rounded_zero]

end Binary64

namespace SlotVector

variable {v : SlotVector Float}

/-- A vector with a component to scale does not vanish. -/
theorem isZero_normalize_iff (h : ∀ x ∈ v.toList, 0 ≤ x) :
    v.normalize.isZero = true ↔ v.isZero = true := by
  refine ⟨fun hz => ?_, fun hz => by rwa [normalize_of_isZero hz]⟩
  by_contra hv
  have hscale : ¬Scalar.isZero v.scale = true := mt (isZero_of_isZero_scale h) hv
  by_cases hlt : v.scale * v.scaledNorm < Scalar.epsilon
  · -- a short vector is kept
    rw [normalize_eq, if_neg hscale, if_pos hlt] at hz
    exact hv hz
  have hpos := (value_scale_pos_iff v).mpr hscale
  have hmem : v[0] / v.scale / v.scaledNorm ∈ v.normalize := by
    rw [normalize_eq, if_neg hscale, if_neg hlt]
    exact Vector.mem_map_of_mem (Vector.getElem_mem _)
  -- undefined components are not zero, so nothing was infinite
  have hd : Defined (v[0] / v.scale / v.scaledNorm) :=
    ((isZero_iff _).mp (Vector.all_eq_true'.mp hz _ hmem)).1
  have hf := isFinite_scale h hpos (defined_of_div hd).2
  have hpeak := ((le_iff _ _).mp (le_peak_normalize h hpos hf hlt)).2.2
  rw [value_peak_of_isZero hz] at hpeak
  have hthree : 0 < value 0.3 := value_pos (by decide +kernel)
  linarith

end SlotVector

namespace Signature

variable {config : Config Float}

theorem one_le_code {c : Char} (h : c ≠ '\x00') : 1 ≤ c.toNat := by
  rw [Nat.one_le_iff_ne_zero]
  intro hcode
  apply h
  rw [← Char.ofNat_toNat c, hcode]

/-- Only the null character has no share. -/
theorem isZero_code_div_iff (h : config.Accepted) (c : Char) :
    Scalar.isZero ((c.toNat : Float) / config.features.charScale) = true ↔ c = '\x00' := by
  obtain ⟨hf, hpos⟩ := h.charScale
  have hscale := value_pos hpos
  have hq := isNearest_code_div hf hscale c
  rw [isZero_iff, hq.2]
  constructor
  · rintro ⟨-, hz⟩
    by_contra hc
    have hone : (1 : ℝ) ≤ c.toNat := by exact_mod_cast one_le_code hc
    exact (rounded_div_pos hone hf hscale).ne' hz
  · rintro rfl
    have hzero : (('\x00'.toNat : ℕ) : ℝ) / value config.features.charScale = 0 := by simp
    exact ⟨hq.1, by rw [hzero, rounded_zero]⟩

/-- A slot whose words occur is heard, unless it has no weight. -/
theorem isZero_getElem_slotWeights_iff (h : config.Accepted) (lower : String) {i : ℕ} (hi : i < 10)
    {slot : Slot Float} (hs : config.features.slots[i]? = some slot) :
    Scalar.isZero (slotWeights config.features lower)[i] = true ↔
      (0 < slot.weight → Text.occursAny slot.words lower = false) := by
  have hw := (h.slotWeight (List.mem_of_getElem? hs)).2
  simp only [slotWeights, Vector.getElem_ofFn, hs]
  by_cases ho : Text.occursAny slot.words lower = true
  · rw [if_pos ho, isZero_add_iff zero_le_zero hw, isZero_iff_not_pos hw]
    simp [ho, isZero_zero]
  · rw [if_neg ho]
    simp [ho, isZero_zero]

theorem isZero_slotWeights_iff (h : config.Accepted) (lower : String) :
    (slotWeights config.features lower).isZero = true ↔
      ∀ slot ∈ config.features.slots, 0 < slot.weight →
        Text.occursAny slot.words lower = false := by
  rw [SlotVector.isZero, Vector.all_eq_true]
  constructor
  · intro hz slot hs
    obtain ⟨i, hi, rfl⟩ := List.mem_iff_getElem.mp hs
    have hi' : i < 10 := h.length_slots ▸ hi
    exact (isZero_getElem_slotWeights_iff h lower hi' (List.getElem?_eq_getElem hi)).mp (hz i hi')
  · intro hmute i hi
    have hi' : i < config.features.slots.length := h.length_slots.symm ▸ hi
    exact (isZero_getElem_slotWeights_iff h lower hi (List.getElem?_eq_getElem hi')).mpr
      (hmute _ (List.getElem_mem hi'))

theorem isZero_getElem_addCodes_iff (h : config.Accepted) (lower : String) {v : SlotVector Float}
    {i : ℕ} (hi : i < 10) (hv : 0 ≤ v[i]) :
    Scalar.isZero (addCodes config.features lower v)[i] = true ↔
      Scalar.isZero v[i] = true ∧ ∀ c, (lower.toList.take 10)[i]? = some c → c = '\x00' := by
  rw [addCodes, Vector.getElem_mapFinIdx]
  cases hc : (lower.toList.take 10)[i]? with
  | none => simp
  | some c => simp [isZero_add_iff hv (zero_le_code_div h c), isZero_code_div_iff h c]

/-- Codes add nothing only if all of them are zero. -/
theorem isZero_addCodes_iff (h : config.Accepted) (lower : String) {v : SlotVector Float}
    (hv : ∀ x ∈ v.toList, 0 ≤ x) :
    (addCodes config.features lower v).isZero = true ↔
      v.isZero = true ∧ ∀ c ∈ lower.toList.take 10, c = '\x00' := by
  have hget {i : ℕ} (hi : i < 10) : 0 ≤ v[i] :=
    hv _ (Vector.mem_toList_iff.mpr (Vector.getElem_mem hi))
  rw [SlotVector.isZero, SlotVector.isZero, Vector.all_eq_true, Vector.all_eq_true]
  constructor
  · intro hz
    refine ⟨fun i hi => ((isZero_getElem_addCodes_iff h lower hi (hget hi)).mp (hz i hi)).1, ?_⟩
    intro c hc
    obtain ⟨i, hi, rfl⟩ := List.mem_iff_getElem.mp hc
    have hi' : i < 10 := hi.trans_le (List.length_take_le _ _)
    exact ((isZero_getElem_addCodes_iff h lower hi' (hget hi')).mp (hz i hi')).2 _
      (List.getElem?_eq_getElem hi)
  · rintro ⟨hz, hnull⟩ i hi
    exact (isZero_getElem_addCodes_iff h lower hi (hget hi)).mpr
      ⟨hz i hi, fun c hc => hnull c (List.mem_of_getElem? hc)⟩

theorem isVisible_eq_false_iff {f : FeatureSettings Float} {lower : String} :
    isVisible f lower = false ↔
      lower.toList.countP (fun c => !Text.isBlank c) < max 1 f.minSignalChars.toNat := by
  rw [isVisible, decide_eq_false_iff_not, not_le]

/-- Without slot words a signature is zero if there is too little to hear, or nothing but null characters. -/
theorem isZero_ofLower_iff_slotWeights (h : config.Accepted) (lower : String) :
    (ofLower config.features lower).isZero = true ↔
      (slotWeights config.features lower).isZero = true ∧
        (isVisible config.features lower = false ∨ ∀ c ∈ lower.toList.take 10, c = '\x00') := by
  have hweights : ∀ x ∈ (slotWeights config.features lower).toList, 0 ≤ x :=
    fun x hx => zero_le_slotWeights h lower hx
  rw [ofLower_eq_normalize, SlotVector.isZero_normalize_iff (zero_le_unscaled h lower), unscaled]
  split_ifs with hsilent
  · rw [Bool.and_eq_true, Bool.not_eq_true'] at hsilent
    exact iff_of_true hsilent.1 ⟨hsilent.1, Or.inl hsilent.2⟩
  · rw [isZero_addCodes_iff h lower hweights]
    refine and_congr_right fun hz => ?_
    have hvisible : ¬isVisible config.features lower = false := by
      intro hv
      simp [hz, hv] at hsilent
    simp [hvisible]

/-- The texts in small letters whose signature is zero: no slot with a weight has a word in them, and they have
too few visible characters or start with nothing but null characters. -/
theorem isZero_ofLower_iff (h : config.Accepted) (lower : String) :
    (ofLower config.features lower).isZero = true ↔
      (∀ slot ∈ config.features.slots, 0 < slot.weight →
        ∀ word ∈ slot.words, ¬word.toList <:+: lower.toList) ∧
      (lower.toList.countP (fun c => !Text.isBlank c) <
          max 1 config.features.minSignalChars.toNat ∨
        ∀ c ∈ lower.toList.take 10, c = '\x00') := by
  rw [isZero_ofLower_iff_slotWeights h, isZero_slotWeights_iff h, isVisible_eq_false_iff]
  refine and_congr_left fun _ => forall₃_congr fun slot _ _ => ?_
  rw [← Bool.not_eq_true, Text.occursAny_iff]
  simp only [Text.occurs_iff, not_exists, not_and]

/-- Three null characters are enough to be a signal, but there is nothing in it. -/
theorem three_nulls_isZero :
    (Config.default : Config Float).Accepted ∧
      (ofLower (Config.default : Config Float).features "\x00\x00\x00").isZero = true := by
  have hwords : ∀ slot ∈ (Config.default : Config Float).features.slots, ∀ word ∈ slot.words,
      Text.occurs word "\x00\x00\x00" = false := by decide +kernel
  refine ⟨Config.default_accepted, (isZero_ofLower_iff Config.default_accepted _).mpr ⟨?_, Or.inr ?_⟩⟩
  · intro slot hs _ word hw ho
    rw [← Text.occurs_iff, hwords slot hs word hw] at ho
    exact Bool.noConfusion ho
  · intro c hc
    have hnulls : "\x00\x00\x00".toList.take 10 = List.replicate 3 '\x00' := by decide +kernel
    rw [hnulls] at hc
    exact List.eq_of_mem_replicate hc

/-- Null characters are visible, so a text with few visible characters does not start with many of them when it
is in small letters. -/
theorem not_forall_null {text : String} {n : ℕ} (hn : n ≤ 10)
    (hshort : text.toList.countP (fun c => !Text.isBlank c) < n)
    (hlong : n ≤ (Text.lower text).toList.length) :
    ¬∀ c ∈ (Text.lower text).toList.take 10, c = '\x00' := by
  intro hnull
  have htake : ((Text.lower text).toList.take n).count '\x00' = n := by
    rw [List.count_eq_length.mpr fun c hc => (hnull c (List.take_subset_take_left _ hn hc)).symm]
    exact List.length_take_of_le hlong
  have hle : ((Text.lower text).toList.take n).count '\x00' ≤ (Text.lower text).toList.count '\x00' :=
    (List.take_sublist n _).count_le _
  have hcopies := Text.count_lower_le (d := '\x00') (by decide) text
  omega

/-- Under the default configuration, the signature of a text without slot words and with fewer than three visible
characters is zero if it still has fewer than three with each dotted capital counted twice, and not otherwise:
in small letters a dotted capital is two characters, and these are counted. -/
theorem isZero_ofText_short_iff {text : String}
    (hshort : text.toList.countP (fun c => !Text.isBlank c) < 3)
    (hwords : ∀ slot ∈ (Config.default : Config Float).features.slots, ∀ word ∈ slot.words,
      Text.occurs word (Text.lower text) = false) :
    (ofText (Config.default : Config Float).features text).isZero = true ↔
      text.toList.countP (fun c => !Text.isBlank c) + text.toList.count 'İ' < 3 := by
  have hmute : (slotWeights (Config.default : Config Float).features (Text.lower text)).isZero = true := by
    refine (isZero_slotWeights_iff Config.default_accepted _).mpr fun slot hs _ => ?_
    simpa [Text.occursAny] using hwords slot hs
  have hthree : max 1 (Config.default : Config Float).features.minSignalChars.toNat = 3 := by decide
  rw [ofText, isZero_ofLower_iff_slotWeights Config.default_accepted, isVisible_eq_false_iff,
    Text.countP_visible_lower, hthree]
  constructor
  · rintro ⟨-, hfew | hnull⟩
    · exact hfew
    · by_contra hmany
      have hlong : 3 ≤ (Text.lower text).toList.length := by
        have hcount := Text.countP_visible_lower text
        have hle := List.countP_le_length (p := fun c => !Text.isBlank c) (l := (Text.lower text).toList)
        omega
      exact not_forall_null (by norm_num) hshort hlong hnull
  · exact fun hfew => ⟨hmute, Or.inl hfew⟩

/-- One dotted capital among blanks. -/
theorem dotted_capital_isZero :
    " İ ".toList.countP (fun c => !Text.isBlank c) < 3 ∧
      (∀ slot ∈ (Config.default : Config Float).features.slots, ∀ word ∈ slot.words,
        Text.occurs word (Text.lower " İ ") = false) ∧
      (ofText (Config.default : Config Float).features " İ ").isZero = true := by
  have hshort : " İ ".toList.countP (fun c => !Text.isBlank c) < 3 := by decide +kernel
  have hwords : ∀ slot ∈ (Config.default : Config Float).features.slots, ∀ word ∈ slot.words,
      Text.occurs word (Text.lower " İ ") = false := by decide +kernel
  exact ⟨hshort, hwords, (isZero_ofText_short_iff hshort hwords).mpr (by decide +kernel)⟩

/-- A dotted capital and another letter are two visible characters, but their signature is not zero. -/
theorem dotted_capital_heard :
    "İX".toList.countP (fun c => !Text.isBlank c) < 3 ∧
      (∀ slot ∈ (Config.default : Config Float).features.slots, ∀ word ∈ slot.words,
        Text.occurs word (Text.lower "İX") = false) ∧
      ¬(ofText (Config.default : Config Float).features "İX").isZero = true := by
  decide +kernel

end Signature
end TextIntent

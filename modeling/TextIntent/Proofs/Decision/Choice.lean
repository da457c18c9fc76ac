import TextIntent.Config.Default
import TextIntent.Decision
import TextIntent.Proofs.Scores.Bounds

/-! The three choices of a decision: the category with the highest score, the slot of the signature that gives the
position, and the channel whose evidence weighs most. Each is the first place with the greatest value, also where
values are infinite or level. The weights of the channels are products and may be undefined for operands that are
not; an undefined weight counts as minus infinity. -/
namespace TextIntent

open Scalar Binary64

namespace Binary64

instance (x : Float) : Decidable (Defined x) := decidable_of_iff _ (isNaN_eq_false_iff x)

/-- The double, or minus infinity in place of an undefined one. -/
def orLeast (x : Float) : Float := if isNaN x then -infinity else x

theorem unpack_neg_infinity : (-infinity).toModel.unpack = .infinity .negative := by rfl

theorem neg_limit_le_value (x : Float) : -limit ≤ value x := by
  have h := abs_rounded_le_limit (value x)
  rw [rounded_value] at h
  exact (abs_le.mp h).1

theorem orLeast_of_defined {x : Float} (h : Defined x) : orLeast x = x := by
  rw [orLeast, (isNaN_eq_false_iff x).mpr h, if_neg Bool.false_ne_true]

theorem orLeast_of_not_defined {x : Float} (h : ¬Defined x) : orLeast x = -infinity :=
  if_pos ((isNaN_iff x).mpr h)

theorem defined_orLeast (x : Float) : Defined (orLeast x) := by
  by_cases h : Defined x
  · rwa [orLeast_of_defined h]
  · rw [orLeast_of_not_defined h, Defined, unpack_neg_infinity]
    simp

theorem value_orLeast_of_not_defined {x : Float} (h : ¬Defined x) : value (orLeast x) = -limit := by
  rw [orLeast_of_not_defined h, value, unpack_neg_infinity]
  rfl

/-- What is above minus infinity is finite or positive. -/
theorem neg_limit_lt_orLeast_iff (x : Float) :
    -limit < value (orLeast x) ↔ isFinite x = true ∨ 0 < x := by
  change _ ↔ x.isFinite = true ∨ 0 < x
  by_cases h : Defined x
  · rw [orLeast_of_defined h, isFinite_iff, lt_iff, abs_lt, value_zero]
    constructor
    · intro hlt
      by_cases hl : value x < limit
      · exact Or.inl ⟨h, hlt, hl⟩
      · exact Or.inr ⟨isNearest_zero.1, h, limit_pos.trans_le (not_lt.mp hl)⟩
    · rintro (⟨-, hlt, -⟩ | ⟨-, -, hpos⟩)
      · exact hlt
      · exact (neg_lt_zero.mpr limit_pos).trans hpos
  · rw [value_orLeast_of_not_defined h]
    refine iff_of_false (lt_irrefl _) ?_
    rintro (hf | hpos)
    · exact h (Defined.of_isFinite hf)
    · exact h ((lt_iff _ _).mp hpos).2.1

/-- A double that is above minus infinity is compared as before. -/
theorem value_orLeast_lt_iff {x : Float} (hx : -limit < value (orLeast x)) (y : Float) :
    value (orLeast x) < value (orLeast y) ↔ x < y := by
  have h : Defined x := by
    by_contra hn
    rw [value_orLeast_of_not_defined hn] at hx
    exact lt_irrefl _ hx
  rw [lt_iff, orLeast_of_defined h]
  by_cases hy : Defined y
  · rw [orLeast_of_defined hy]
    exact ⟨fun hlt => ⟨h, hy, hlt⟩, fun hlt => hlt.2.2⟩
  · rw [value_orLeast_of_not_defined hy]
    exact iff_of_false (not_lt.mpr (neg_limit_le_value x)) fun hlt => hy hlt.2.1

end Binary64

/-- The dominant slot is the first one with the greatest component. -/
theorem SlotVector.firstGreatest_dominant {v : SlotVector Float} (h : ∀ i, Defined (v.get i)) :
    FirstGreatest (List.finRange 10) v.get (SlotVector.dominant v) :=
  FirstGreatest.foldl_ahead_of_defined h 0 (List.finRange 10).tail

/-- What the evidence of a channel weighs for a category. -/
def Evidence.weight (evidence : PerChannel (Scores Float)) (trust : PerChannel Float)
    (c : Category) (channel : Channel) : Float :=
  (evidence.get channel).get c * trust.get channel

namespace Channel

variable (w : Channel → Float)

/-- The best channel after one more in the search for the strongest one. -/
def stronger? (best : Option Channel) (channel : Channel) : Option Channel :=
  let better : Bool := match best with
    | none => isFinite (w channel) || 0 < w channel
    | some other => w other < w channel
  if better then some channel else best

/-- A step compares what the weights count for, as long as the best channel is above minus infinity. -/
theorem stronger?_eq_aheadOf? {best : Option Channel}
    (h : ∀ i ∈ best, -limit < value (orLeast (w i))) (channel : Channel) :
    stronger? w best channel =
      FirstGreatest.aheadOf? (fun i => value (orLeast (w i))) (-limit) best channel := by
  refine if_congr ?_ rfl rfl
  cases best with
  | none => simp [neg_limit_lt_orLeast_iff]
  | some other => simp [value_orLeast_lt_iff (h other rfl)]

/-- The whole search goes step by step, since a channel that is taken is above minus infinity. -/
theorem foldl_stronger?_eq (l : List Channel) {best : Option Channel}
    (h : ∀ i ∈ best, -limit < value (orLeast (w i))) :
    l.foldl (stronger? w) best =
      l.foldl (FirstGreatest.aheadOf? (fun i => value (orLeast (w i))) (-limit)) best := by
  induction l generalizing best with
  | nil => rfl
  | cons channel l ih =>
    rw [List.foldl_cons, List.foldl_cons, stronger?_eq_aheadOf? w h]
    exact ih (FirstGreatest.bottom_lt_of_mem_aheadOf? h channel)

end Channel

theorem strongestChannel_eq (evidence : PerChannel (Scores Float)) (trust : PerChannel Float)
    (c : Category) : strongestChannel evidence trust c =
      (Channel.all.foldl (Channel.stronger? (Evidence.weight evidence trust c)) none).getD
        .conservative := rfl

/-- Whatever the evidence and the trusts are, the strongest channel is the first one with the greatest weight. -/
theorem firstGreatest_strongestChannel (evidence : PerChannel (Scores Float))
    (trust : PerChannel Float) (c : Category) :
    FirstGreatest Channel.all (fun channel => orLeast (Evidence.weight evidence trust c channel))
      (strongestChannel evidence trust c) := by
  rw [strongestChannel_eq, Channel.foldl_stronger?_eq _ Channel.all (by simp)]
  refine FirstGreatest.of_value (fun _ => defined_orLeast _) ?_
  exact FirstGreatest.getD_foldl_aheadOf? (fun _ => neg_limit_le_value _) .conservative
    Channel.all.tail

/-- Each search finds the first place with the greatest value, whatever is infinite and whatever is level: the
category that leads, the slot whose reference value is drawn towards the center, and the strongest channel. Without
a condition on the weights, undefined ones count as minus infinity. -/
theorem firstGreatest_of_searches {scores : Scores Float} (hscores : ∀ c, Defined (scores.get c))
    {signature : SlotVector Float} (hsignature : ∀ i, Defined (signature.get i))
    (b : BridgeSettings Float) (reference : SlotVector Float)
    (evidence : PerChannel (Scores Float)) (trust : PerChannel Float) (c : Category) :
    FirstGreatest Category.all scores.get scores.leader ∧
      (∃ i, FirstGreatest (List.finRange 10) signature.get i ∧
        b.position reference signature = b.center + (reference.get i - b.center) / b.warp) ∧
      ((∀ channel, Defined (Evidence.weight evidence trust c channel)) →
        FirstGreatest Channel.all (Evidence.weight evidence trust c)
          (strongestChannel evidence trust c)) ∧
      FirstGreatest Channel.all
        (fun channel => orLeast (Evidence.weight evidence trust c channel))
        (strongestChannel evidence trust c) := by
  have hchannel := firstGreatest_strongestChannel evidence trust c
  refine ⟨PerCategory.firstGreatest_leader hscores,
    ⟨SlotVector.dominant signature, SlotVector.firstGreatest_dominant hsignature, rfl⟩,
    fun hweights => ?_, hchannel⟩
  have hweight : (fun channel => orLeast (Evidence.weight evidence trust c channel)) =
      Evidence.weight evidence trust c :=
    funext fun channel => orLeast_of_defined (hweights channel)
  rwa [hweight] at hchannel

/-- Infinite values that are level: two categories and two slots at infinity, and all channels at minus infinity. -/
theorem firstGreatest_of_level_infinities :
    let scores : Scores Float := ⟨-infinity, 1, infinity, 0, infinity, 1, 0, -infinity⟩
    let signature : SlotVector Float := #v[0, 1, infinity, 0, 0, infinity, 1, 0, 0, 0]
    let b : BridgeSettings Float := Config.Default.bridge
    let reference : SlotVector Float := Config.Default.features.reference
    let evidence : PerChannel (Scores Float) := .ofFn fun _ => .const (-infinity)
    let trust : PerChannel Float := .ofFn fun _ => 1
    ((∀ c, Defined (scores.get c)) ∧ (∀ i, Defined (signature.get i)) ∧
      ∀ channel, Defined (Evidence.weight evidence trust .help channel)) ∧
      FirstGreatest Category.all scores.get .status ∧
      (∃ i, FirstGreatest (List.finRange 10) signature.get i ∧
        b.position reference signature = b.center + (reference.get i - b.center) / b.warp) ∧
      FirstGreatest Channel.all (Evidence.weight evidence trust .help) .conservative := by
  intro scores signature b reference evidence trust
  have hscores : ∀ c, Defined (scores.get c) :=
    PerCategory.forall_mem_toList.mp (by decide +kernel)
  have hsignature : ∀ i, Defined (signature.get i) := by decide +kernel
  have hweights (channel : Channel) : Defined (Evidence.weight evidence trust .help channel) := by
    cases channel <;> decide +kernel
  have hleader : scores.leader = .status := by decide +kernel
  have hchannel : strongestChannel evidence trust .help = .conservative := by decide +kernel
  obtain ⟨hfirst, hslot, hstrongest, -⟩ :=
    firstGreatest_of_searches hscores hsignature b reference evidence trust .help
  rw [hleader] at hfirst
  rw [hchannel] at hstrongest
  exact ⟨⟨hscores, hsignature, hweights⟩, hfirst, hslot, hstrongest hweights⟩

end TextIntent

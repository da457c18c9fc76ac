import Mathlib.Data.List.MinMax

/-! The first place with the greatest value, for places in a given order, and the scans that find it. A scan keeps
the best place so far, which gives way only to a place with a greater value. One that knows no place at the start
takes the first place above the bottom, and finds the same one. -/
namespace TextIntent

variable {ι α β : Type} [DecidableEq ι]

/-- No value is greater than the one at this place, and those at earlier places are smaller. -/
structure FirstGreatest [LE α] [LT α] (places : List ι) (v : ι → α) (i : ι) : Prop where
  mem : i ∈ places
  greatest : ∀ j ∈ places, v j ≤ v i
  first : ∀ j ∈ places, places.idxOf j < places.idxOf i → v j < v i

namespace FirstGreatest

/-- The order of the values decides alone. -/
theorem of_le_iff [LE α] [LT α] [LE β] [LT β] {v : ι → α} {w : ι → β}
    (hle : ∀ i j, v i ≤ v j ↔ w i ≤ w j) (hlt : ∀ i j, v i < v j ↔ w i < w j)
    {places : List ι} {i : ι} (h : FirstGreatest places w i) : FirstGreatest places v i where
  mem := h.mem
  greatest j hj := (hle j i).mpr (h.greatest j hj)
  first j hj hi := (hlt j i).mpr (h.first j hj hi)

/-- The better of two places. -/
def ahead [LT α] [DecidableLT α] (v : ι → α) (best j : ι) : ι := if v best < v j then j else best

variable [LinearOrder β] {w : ι → β}

theorem of_argmax {places : List ι} {i : ι} (h : places.argmax w = some i) :
    FirstGreatest places w i := by
  obtain ⟨hm, hg, hf⟩ := List.argmax_eq_some_iff.mp h
  refine ⟨hm, hg, fun j hj hi => ?_⟩
  by_contra hn
  exact absurd (hf j hj (not_lt.mp hn)) (not_le.mpr hi)

omit [DecidableEq ι] in
/-- One step of the scan is one step of `List.argmax`. -/
theorem argmax_cons_eq_foldl (w : ι → β) (a : ι) (l : List ι) :
    (a :: l).argmax w = some (l.foldl (ahead w) a) :=
  List.foldl_hom some fun best j => (apply_ite some (w best < w j) j best).symm

/-- The scan from the first place on. -/
theorem foldl_ahead (w : ι → β) (a : ι) (l : List ι) :
    FirstGreatest (a :: l) w (l.foldl (ahead w) a) :=
  of_argmax (argmax_cons_eq_foldl w a l)

/-- The scan of values that are ordered as those of a linear order. It may look at the first place again. -/
theorem foldl_ahead_of_lt_iff [LT α] [DecidableLT α] {v : ι → α}
    (h : ∀ i j, v i < v j ↔ w i < w j) (a : ι) (l : List ι) :
    FirstGreatest (a :: l) w ((a :: l).foldl (ahead v) a) := by
  have hstep : ahead v = ahead w := by
    funext best j
    exact if_congr (h best j) rfl rfl
  rw [hstep, List.foldl_cons, show ahead w a a = a from ite_self a]
  exact foldl_ahead w a l

/-- The best place after one more, in a scan that has taken none as long as no value was above the bottom. -/
def aheadOf? (w : ι → β) (bottom : β) (best : Option ι) (j : ι) : Option ι :=
  if best.elim bottom w < w j then some j else best

omit [DecidableEq ι] in
/-- From a known place on, the scans are the same. -/
theorem foldl_aheadOf?_some (bottom : β) (a : ι) (l : List ι) :
    l.foldl (aheadOf? w bottom) (some a) = some (l.foldl (ahead w) a) :=
  List.foldl_hom some fun best j => (apply_ite some (w best < w j) j best).symm

omit [DecidableEq ι] in
/-- To have taken none is to have a place at the bottom. -/
theorem getD_foldl_aheadOf?_none (a : ι) (l : List ι) :
    (l.foldl (aheadOf? w (w a)) none).getD a = l.foldl (ahead w) a := by
  have hvalue (best : Option ι) : best.elim (w a) w = w (best.getD a) := by
    cases best with
    | none => rfl
    | some i => rfl
  have hstep (best : Option ι) (j : ι) :
      ahead w (best.getD a) j = (aheadOf? w (w a) best j).getD a := by
    rw [aheadOf?, hvalue]
    exact (apply_ite (·.getD a) (w (best.getD a) < w j) (some j) best).symm
  exact (List.foldl_hom (fun best : Option ι => best.getD a) hstep).symm

/-- The scan from below all values, with the first place if it takes none. -/
theorem getD_foldl_aheadOf? {bottom : β} (h : ∀ j, bottom ≤ w j) (a : ι) (l : List ι) :
    FirstGreatest (a :: l) w (((a :: l).foldl (aheadOf? w bottom) none).getD a) := by
  have hscan : ((a :: l).foldl (aheadOf? w bottom) none).getD a = l.foldl (ahead w) a := by
    rw [List.foldl_cons]
    rcases (h a).lt_or_eq with ha | rfl
    · have hstart : aheadOf? w bottom none a = some a := if_pos ha
      rw [hstart, foldl_aheadOf?_some, Option.getD_some]
    · have hstart : aheadOf? w (w a) none a = none := if_neg (lt_irrefl _)
      rw [hstart, getD_foldl_aheadOf?_none]
  rw [hscan]
  exact foldl_ahead w a l

omit [DecidableEq ι] in
/-- Places that are taken have values above the bottom. -/
theorem bottom_lt_of_mem_aheadOf? {bottom : β} {best : Option ι} (h : ∀ i ∈ best, bottom < w i)
    (j : ι) : ∀ i ∈ aheadOf? w bottom best j, bottom < w i := by
  intro i hi
  unfold aheadOf? at hi
  split_ifs at hi with hlt
  · obtain rfl := Option.mem_some.mp hi
    cases best with
    | none => exact hlt
    | some k => exact (h k rfl).trans hlt
  · exact h i hi

end FirstGreatest
end TextIntent

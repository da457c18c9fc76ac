import TextIntent.Proofs.Binary64.Special

/-! Sums of nonnegative doubles. Whatever is rounded on the way, a sum is not less than any of its
terms, it grows with them, and it is finite only if all of them are. -/
namespace TextIntent.Binary64

open Scalar

theorem zero_le_iff (x : Float) : 0 ≤ x ↔ Defined x ∧ 0 ≤ value x := by
  rw [le_iff, value_zero]
  exact and_iff_right isNearest_zero.1

theorem defined_of_zero_le {x : Float} (h : 0 ≤ x) : Defined x := ((zero_le_iff x).mp h).1

theorem value_nonneg {x : Float} (h : 0 ≤ x) : 0 ≤ value x := ((zero_le_iff x).mp h).2

theorem value_pos {x : Float} (h : 0 < x) : 0 < value x := by
  simpa using ((lt_iff _ _).mp h).2.2

protected theorem le_trans {x y z : Float} (h₁ : x ≤ y) (h₂ : y ≤ z) : x ≤ z := by
  rw [le_iff] at *
  exact ⟨h₁.1, h₂.2.1, h₁.2.2.trans h₂.2.2⟩

protected theorem le_refl {x : Float} (h : Defined x) : x ≤ x := (le_iff x x).mpr ⟨h, h, le_rfl⟩

protected theorem le_of_lt {x y : Float} (h : x < y) : x ≤ y := by
  obtain ⟨hx, hy, hlt⟩ := (lt_iff x y).mp h
  exact (le_iff x y).mpr ⟨hx, hy, hlt.le⟩

protected theorem le_of_not_lt {x y : Float} (hx : Defined x) (hy : Defined y) (h : ¬x < y) :
    y ≤ x :=
  (le_iff y x).mpr ⟨hy, hx, not_lt.mp fun hn => h ((lt_iff x y).mpr ⟨hx, hy, hn⟩)⟩

/-- A nonnegative double below a finite one is finite. -/
theorem isFinite_of_le {x y : Float} (h₀ : 0 ≤ x) (h : x ≤ y) (hy : y.isFinite = true) :
    x.isFinite = true := by
  rw [le_iff] at h
  refine (isFinite_iff x).mpr ⟨h.1, lt_of_le_of_lt ?_ ((isFinite_iff y).mp hy).2⟩
  exact abs_le_abs_of_nonneg (value_nonneg h₀) h.2.2

theorem isNearest_add_of_zero_le {x y : Float} (hx : 0 ≤ x) (hy : 0 ≤ y) :
    IsNearest (x + y) (value x + value y) :=
  isNearest_add_of_nonneg (defined_of_zero_le hx) (defined_of_zero_le hy) (value_nonneg hx)
    (value_nonneg hy)

theorem zero_le_add {x y : Float} (hx : 0 ≤ x) (hy : 0 ≤ y) : 0 ≤ x + y :=
  (zero_le_iff _).mpr ⟨(isNearest_add_of_zero_le hx hy).1,
    (isNearest_add_of_zero_le hx hy).nonneg (add_nonneg (value_nonneg hx) (value_nonneg hy))⟩

theorem le_add_right {x y : Float} (hx : 0 ≤ x) (hy : 0 ≤ y) : x ≤ x + y := by
  have h := isNearest_add_of_zero_le hx hy
  exact (le_iff _ _).mpr ⟨defined_of_zero_le hx, h.1,
    h.le_value (le_add_of_nonneg_right (value_nonneg hy))⟩

theorem le_add_left {x y : Float} (hx : 0 ≤ x) (hy : 0 ≤ y) : y ≤ x + y := by
  have h := isNearest_add_of_zero_le hx hy
  exact (le_iff _ _).mpr ⟨defined_of_zero_le hy, h.1,
    h.le_value (le_add_of_nonneg_left (value_nonneg hx))⟩

protected theorem add_le_add {x y u v : Float} (hx : 0 ≤ x) (hy : 0 ≤ y) (h₁ : x ≤ u) (h₂ : y ≤ v) :
    x + y ≤ u + v := by
  have h := isNearest_add_of_zero_le hx hy
  have h' := isNearest_add_of_zero_le (Binary64.le_trans hx h₁) (Binary64.le_trans hy h₂)
  rw [le_iff] at h₁ h₂
  refine (le_iff _ _).mpr ⟨h.1, h'.1, ?_⟩
  rw [h.2, h'.2]
  exact rounded_mono (add_le_add h₁.2.2 h₂.2.2)

theorem zero_le_zero : (0 : Float) ≤ 0 := Binary64.le_refl isNearest_zero.1

protected theorem zero_le_one : (0 : Float) ≤ 1 := by
  rw [zero_le_iff, value_one]
  exact ⟨isNearest_one.1, zero_le_one⟩

/-- What is defined after clamping lies between the bounds. -/
theorem le_clamp {lo hi x : Float} (h : lo ≤ hi) (hd : Defined (clamp lo hi x)) :
    lo ≤ clamp lo hi x ∧ clamp lo hi x ≤ hi := by
  obtain ⟨hlo, hhi, -⟩ := (le_iff lo hi).mp h
  unfold clamp at hd ⊢
  split_ifs at hd ⊢ with h₁ h₂
  · exact ⟨Binary64.le_refl hlo, h⟩
  · exact ⟨h, Binary64.le_refl hhi⟩
  · exact ⟨Binary64.le_of_not_lt hd hlo h₁, Binary64.le_of_not_lt hhi hd h₂⟩

theorem zero_le_larger_zero (x : Float) : 0 ≤ larger x 0 := by
  unfold larger
  split_ifs with h₁ h₂
  · exact zero_le_zero
  · exact zero_le_zero
  · rw [isNaN_iff, not_not] at h₁
    simpa [zero_le_iff, lt_iff, h₁, isNearest_zero.1] using h₂

theorem zero_le_sum {xs : List Float} (h : ∀ x ∈ xs, 0 ≤ x) : 0 ≤ sum xs := by
  induction xs using List.reverseRecOn with
  | nil => exact zero_le_zero
  | append_singleton xs x ih =>
    rw [sum_concat]
    exact zero_le_add (ih fun y hy => h y (by simp [hy])) (h x (by simp))

/-- A sum is not less than its terms. -/
theorem le_sum {xs : List Float} (h : ∀ x ∈ xs, 0 ≤ x) {x : Float} (hx : x ∈ xs) : x ≤ sum xs := by
  induction xs using List.reverseRecOn with
  | nil => simp at hx
  | append_singleton xs y ih =>
    have hs : ∀ x ∈ xs, 0 ≤ x := fun z hz => h z (by simp [hz])
    have hy : 0 ≤ y := h y (by simp)
    rw [sum_concat]
    rcases List.mem_append.mp hx with hx | hx
    · exact Binary64.le_trans (ih hs hx) (le_add_right (zero_le_sum hs) hy)
    · rw [List.mem_singleton.mp hx]
      exact le_add_left (zero_le_sum hs) hy

/-- A sum grows with every further term. -/
theorem sum_le_sum_append {xs ys : List Float} (hx : ∀ x ∈ xs, 0 ≤ x)
    (hy : ∀ y ∈ ys, 0 ≤ y) : sum xs ≤ sum (xs ++ ys) := by
  induction ys using List.reverseRecOn with
  | nil =>
    rw [List.append_nil]
    exact Binary64.le_refl (defined_of_zero_le (zero_le_sum hx))
  | append_singleton ys y ih =>
    have hrest : ∀ z ∈ ys, 0 ≤ z := fun z hz => hy z (by simp [hz])
    have hlast : 0 ≤ y := hy y (by simp)
    have hall : ∀ z ∈ xs ++ ys, 0 ≤ z := by
      intro z hz
      rcases List.mem_append.mp hz with hz | hz
      · exact hx z hz
      · exact hrest z hz
    rw [← List.append_assoc, sum_concat]
    exact Binary64.le_trans (ih hrest) (le_add_right (zero_le_sum hall) hlast)

/-- What both terms inherit from a sum of two, all terms inherit from a longer sum. -/
theorem inherit_sum {p : Float → Prop} (hadd : ∀ x y, p (x + y) → p x ∧ p y) {xs : List Float}
    (h : p (sum xs)) {x : Float} (hx : x ∈ xs) : p x := by
  induction xs using List.reverseRecOn with
  | nil => simp at hx
  | append_singleton xs y ih =>
    rw [sum_concat] at h
    obtain ⟨h₁, h₂⟩ := hadd _ _ h
    rcases List.mem_append.mp hx with hx | hx
    · exact ih h₁ hx
    · rwa [List.mem_singleton.mp hx]

/-- A sum with an infinite or undefined term is infinite or undefined. -/
theorem isFinite_of_sum {xs : List Float} (h : (sum xs).isFinite = true) {x : Float}
    (hx : x ∈ xs) : x.isFinite = true :=
  inherit_sum (p := fun x => x.isFinite = true) (fun _ _ => isFinite_of_add) h hx

theorem defined_of_sum {xs : List Float} (h : Defined (sum xs)) {x : Float} (hx : x ∈ xs) :
    Defined x :=
  inherit_sum (fun _ _ => defined_of_add) h hx

/-- Sums grow with their terms. -/
theorem sum_map_le_sum_map {β : Type} (l : List β) {f g : β → Float}
    (h : ∀ b ∈ l, 0 ≤ f b ∧ f b ≤ g b) : sum (l.map f) ≤ sum (l.map g) := by
  induction l using List.reverseRecOn with
  | nil => exact zero_le_zero
  | append_singleton l b ih =>
    have hl : ∀ c ∈ l, 0 ≤ f c ∧ f c ≤ g c := fun c hc => h c (by simp [hc])
    have hb := h b (by simp)
    simp only [List.map_append, List.map_cons, List.map_nil, sum_concat]
    refine Binary64.add_le_add (zero_le_sum ?_) hb.1 (ih hl) hb.2
    simpa using fun c hc => (hl c hc).1

/-- A sum is known by the values of its terms. -/
theorem value_sum_map_congr {β : Type} (l : List β) {f g : β → Float} (hf : ∀ b ∈ l, 0 ≤ f b)
    (hg : ∀ b ∈ l, 0 ≤ g b) (h : ∀ b ∈ l, value (f b) = value (g b)) :
    value (sum (l.map f)) = value (sum (l.map g)) := by
  induction l using List.reverseRecOn with
  | nil => rfl
  | append_singleton l b ih =>
    have hfl : ∀ c ∈ l, 0 ≤ f c := fun c hc => hf c (by simp [hc])
    have hgl : ∀ c ∈ l, 0 ≤ g c := fun c hc => hg c (by simp [hc])
    have hsum := ih hfl hgl fun c hc => h c (by simp [hc])
    simp only [List.map_append, List.map_cons, List.map_nil, sum_concat]
    rw [(isNearest_add_of_zero_le (zero_le_sum (List.forall_mem_map.mpr hfl)) (hf b (by simp))).2,
      (isNearest_add_of_zero_le (zero_le_sum (List.forall_mem_map.mpr hgl)) (hg b (by simp))).2,
      hsum, h b (by simp)]

end TextIntent.Binary64

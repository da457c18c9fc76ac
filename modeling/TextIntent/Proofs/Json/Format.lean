import TextIntent.Json.Format
import TextIntent.Proofs.Decimal.ReadBack

/-! Which values a format restores. `Exact` says that for all values at once: those that meet a
condition are read back as they were written, and the others are not read back at all. -/
namespace TextIntent

namespace Json

/-- Each of some fields of different names is found under its name. -/
theorem lookup_of_mem {fields : List (String × Json)} (hn : (fields.map Prod.fst).Nodup)
    {p : String × Json} (hp : p ∈ fields) : fields.lookup p.1 = some p.2 := by
  induction fields with
  | nil => simp at hp
  | cons q fields ih =>
    obtain ⟨name, value⟩ := q
    rw [List.map_cons, List.nodup_cons] at hn
    rcases List.mem_cons.mp hp with rfl | hp
    · simp
    · have hne : p.1 ≠ name := fun h => hn.1 (List.mem_map.mpr ⟨p, hp, h⟩)
      rw [List.lookup_cons, beq_false_of_ne hne]
      exact ih hn.2 hp

theorem lookup_fields {fields : List (String × Json)} (hn : (fields.map Prod.fst).Nodup) :
    (fields.map Prod.fst).map (fun name => fields.lookup name) = fields.map fun p => some p.2 := by
  rw [List.map_map]
  exact List.map_congr_left fun p hp => lookup_of_mem hn hp

theorem mapM_some {σ τ : Type} (f : σ → Option τ) (g : σ → τ) (xs : List σ)
    (h : ∀ x ∈ xs, f x = some (g x)) : xs.mapM f = some (xs.map g) := by
  induction xs with
  | nil => rfl
  | cons x xs ih =>
    rw [List.mapM_cons, h x List.mem_cons_self, ih fun y hy => h y (List.mem_cons_of_mem x hy)]
    rfl

/-- All keys of a record are texts. -/
theorem mapM_keys (fields : List (String × Json)) :
    (fields.map fun (key, value) => (some key, value)).mapM
      (fun (key, value) => key.map (·, value)) = some fields := by
  induction fields with
  | nil => rfl
  | cons p fields ih =>
    rw [List.map_cons, List.mapM_cons, ih]
    rfl

/-- A record of fields with different names is taken apart into its values. -/
theorem record?_record {fields : List (String × Json)} {names : List String}
    (h : fields.map Prod.fst = names) (hn : names.Nodup) :
    (record fields).record? names = some (fields.map Prod.snd) := by
  subst h
  have hg : (fields.map Prod.fst).all (fun name => fields.countP (·.1 == name) ≤ 1) = true := by
    simp only [List.all_eq_true, decide_eq_true_eq]
    intro name _
    have hc := List.nodup_iff_count_le_one.mp hn name
    rwa [List.count, List.countP_map] at hc
  have hf : (record fields).fields? (fields.map Prod.fst) = some (fields.map fun p => some p.2) := by
    unfold fields? record
    simp only [mapM_keys, hg, guard_true, Option.bind_eq_bind, Option.bind_some, lookup_fields hn]
    rfl
  have hs : (fields.map fun p => some p.2).mapM id = some (fields.map Prod.snd) := by
    rw [List.mapM_map]
    exact mapM_some _ Prod.snd fields fun p _ => rfl
  unfold record?
  rw [hf]
  exact hs

end Json

namespace Format

variable {β γ : Type} {f : Format β} {p : β → Prop}

/-- The values that meet the condition are read back as they were written, the others not at all. -/
def Exact (f : Format β) (p : β → Prop) : Prop :=
  ∀ x y, f.decode (f.encode x) = some y ↔ p x ∧ x = y

theorem Exact.restores (h : f.Exact p) {x : β} (hx : p x) : f.Restores x := (h x x).mpr ⟨hx, rfl⟩

theorem Exact.decode_eq_none (h : f.Exact p) {x : β} (hx : ¬p x) : f.decode (f.encode x) = none :=
  Option.eq_none_iff_forall_ne_some.mpr fun y hy => hx ((h x y).mp hy).1

/-- What is done with a value that was read back is done with the value that was written. -/
theorem Exact.bind_iff (h : f.Exact p) (x : β) (k : β → Option γ) (z : γ) :
    f.decode (f.encode x) >>= k = some z ↔ p x ∧ k x = some z := by
  rw [Option.bind_eq_bind, Option.bind_eq_some_iff]
  constructor
  · rintro ⟨y, hy, hz⟩
    obtain ⟨hx, rfl⟩ := (h x y).mp hy
    exact ⟨hx, hz⟩
  · rintro ⟨hx, hz⟩
    exact ⟨x, h.restores hx, hz⟩

theorem exact_of_restores (h : ∀ x, f.Restores x) : f.Exact fun _ => True := by
  intro x y
  rw [show f.decode (f.encode x) = some x from h x, Option.some.injEq, true_and]

theorem exact_text : text.Exact fun _ => True := exact_of_restores restores_text

theorem exact_word64 : word64.Exact fun _ => True := exact_of_restores restores_word64

/-- Just the finite doubles are read back, bit for bit. -/
theorem exact_double : double.Exact fun x => x.isFinite = true := by
  intro x y
  by_cases hx : x.isFinite = true
  · obtain ⟨n, hn, hd⟩ := Decimal.pointed.toDouble?_numeral? hx
    have h : double.decode (double.encode x) = some x := by
      change Json.double? (((Decimal.pointed.numeral? x).map Json.number).getD .null) = some x
      rw [hn]
      exact hd
    simp [h, hx]
  · have h : double.decode (double.encode x) = none := by
      change Json.double? (((Decimal.pointed.numeral? x).map Json.number).getD .null) = none
      rw [Decimal.pointed.numeral?_of_not_isFinite hx]
      rfl
    simp [h, hx]

theorem Exact.list (h : f.Exact p) : f.list.Exact fun xs => ∀ x ∈ xs, p x := by
  intro xs ys
  change (xs.map f.encode).mapM f.decode = some ys ↔ _
  induction xs generalizing ys with
  | nil => simp
  | cons x xs ih =>
    rw [List.map_cons, List.mapM_cons, h.bind_iff]
    simp only [Option.bind_eq_bind, Option.bind_eq_some_iff, ih, Option.pure_def, Option.some.injEq,
      List.forall_mem_cons]
    constructor
    · rintro ⟨hx, _, ⟨hxs, rfl⟩, rfl⟩
      exact ⟨⟨hx, hxs⟩, rfl⟩
    · rintro ⟨⟨hx, hxs⟩, rfl⟩
      exact ⟨hx, xs, ⟨hxs, rfl⟩, rfl⟩

theorem Exact.list_of_all (h : f.Exact fun _ => True) : f.list.Exact fun _ => True :=
  exact_of_restores fun _ => h.list.restores fun _ _ => trivial

/-- A container with fixed places is read back if all its items are. -/
theorem Exact.places (h : f.Exact p) {toList : γ → List β} {ofList? : List β → Option γ}
    (hl : ∀ c, ofList? (toList c) = some c) :
    (f.places toList ofList?).Exact fun c => ∀ x ∈ toList c, p x := by
  intro c d
  change f.list.decode (f.list.encode (toList c)) >>= ofList? = some d ↔ _
  rw [h.list.bind_iff, hl, Option.some.injEq]

theorem Exact.slotVector (h : f.Exact p) : f.slotVector.Exact fun v => ∀ x ∈ v.toList, p x :=
  h.places SlotVector.ofList?_toList

theorem Exact.perChannel (h : f.Exact p) : f.perChannel.Exact fun v => ∀ x ∈ v.toList, p x :=
  h.places PerChannel.ofList?_toList

theorem Exact.perCategory (h : f.Exact p) : f.perCategory.Exact fun v => ∀ x ∈ v.toList, p x :=
  h.places PerCategory.ofList?_toList

/-- A format that writes a record is exact if putting its values together is. -/
theorem exact_record {names : List String} {fields : β → List (String × Json)}
    {build : List Json → Option β} (he : ∀ x, f.encode x = .record (fields x))
    (hd : ∀ v, f.decode v = v.record? names >>= build) (hn : ∀ x, (fields x).map Prod.fst = names)
    (hnodup : names.Nodup) (h : ∀ x y, build ((fields x).map Prod.snd) = some y ↔ p x ∧ x = y) :
    f.Exact p := by
  intro x y
  rw [he, hd, Json.record?_record (hn x) hnodup]
  exact h x y

theorem exact_category : category.Exact fun _ => True :=
  exact_of_restores fun c => by cases c <;> rfl

theorem exact_channel : channel.Exact fun _ => True :=
  exact_of_restores fun c => by cases c <;> rfl

end Format
end TextIntent

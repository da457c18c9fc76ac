import TextIntent.Proofs.Decision.Finite

/-! What the channels count over a run. Every decision that is handed out is counted once by each channel,
with the activation it reports, and nothing else is counted. So the counters are known from the replies: the
flow is the sum of the activations in the order of the decisions. -/
namespace TextIntent

variable {α : Type} [Scalar α]

/-- The decision that a reply hands out. -/
def Reply.decision? : Reply α → Option (Decision α)
  | .decided d => some d
  | _ => none

/-- The counters after some decisions, for the channel with these activations. -/
def Counters.addAll (k : Counters α) (activations : List α) : Counters α :=
  activations.foldl Counters.add k

namespace Counters

theorem addAll_cons (k : Counters α) (a : α) (as : List α) :
    k.addAll (a :: as) = (k.add a).addAll as := rfl

theorem flow_addAll (k : Counters α) (as : List α) :
    (k.addAll as).flow = as.foldl (· + ·) k.flow := by
  induction as generalizing k with
  | nil => rfl
  | cons a as ih => exact ih (k.add a)

/-- The number of activations wraps around. -/
theorem activations_addAll (k : Counters α) (as : List α) :
    (k.addAll as).activations = k.activations + UInt64.ofNat as.length := by
  induction as generalizing k with
  | nil =>
    change k.activations = k.activations + 0
    exact (UInt64.add_zero _).symm
  | cons a as ih =>
    rw [addAll_cons, ih, List.length_cons, UInt64.ofNat_add]
    change k.activations + 1 + UInt64.ofNat as.length = _
    rw [UInt64.add_assoc, UInt64.add_comm 1]
    rfl

end Counters

namespace Classifier

theorem counters_get (cls : Classifier α) (c : Channel) :
    cls.counters.get c = (cls.gates.get c).counters := PerChannel.get_map _ _ c

theorem counters_run (cls : Classifier α) (lower : String) (signature : SlotVector α) (c : Channel) :
    (cls.run lower signature).value.2.counters.get c = (cls.counters.get c).add
      ((cls.run lower signature).value.1.activations.get c) := by
  rw [counters_get, counters_get]
  simp [run, Gates.count, Gate.count]

/-- A new filter leaves what has been counted. -/
theorem counters_setFilter (cls : Classifier α) (d : Channel) (filter : SlotVector α) (c : Channel) :
    ({ cls with gates := cls.gates.setFilter d filter } : Classifier α).counters.get c =
      cls.counters.get c := by
  rw [counters_get, counters_get]
  by_cases h : c = d
  · simp [Gates.setFilter, h]
  · simp [Gates.setFilter, h]

theorem counters_setFilters (cls : Classifier α) (s : Snapshot α) (c : Channel) :
    ({ cls with mass := s.mass, gates := cls.gates.setFilters s.filters } : Classifier α).counters.get
      c = cls.counters.get c := by
  rw [counters_get, counters_get]
  simp [Gates.setFilters]

/-- Each channel counts the decision that an operation is answered by, if it is answered by one. -/
theorem counters_perform (cls : Classifier α) (op : Operation α) (c : Channel) :
    (cls.perform op).value.2.counters.get c = match (cls.perform op).value.1.decision? with
      | some d => (cls.counters.get c).add (d.activations.get c)
      | none => cls.counters.get c := by
  cases op with
  | classify text =>
    simp only [perform, classify, Traced.value_bind, Traced.value_pure, Reply.decision?]
    exact cls.counters_run _ _ c
  | classifyWith text signature =>
    simp only [value_perform_classifyWith]
    cases (Signature.ofList signature).run.value with
    | ok v => exact cls.counters_run _ v c
    | error fault => rfl
  | adjustFilter d gradient rate =>
    simp only [value_perform_adjustFilter]
    cases ((cls.config.channels.get d).adjusted (cls.gates.get d).filter gradient rate).run.value with
    | ok filter => exact cls.counters_setFilter d filter c
    | error fault => rfl
  | feedback predicted actual => rfl
  | mass => rfl
  | counters => rfl
  | snapshot => rfl
  | restore s =>
    simp only [value_perform_restore]
    cases s.fault? with
    | none => exact cls.counters_setFilters s c
    | some fault => rfl

/-- The decisions that a run hands out, in order. -/
def decisions (cls : Classifier α) (ops : List (Operation α)) : List (Decision α) :=
  (cls.performAll ops).value.1.filterMap Reply.decision?

@[simp] theorem decisions_nil (cls : Classifier α) : cls.decisions [] = [] := rfl

theorem decisions_cons (cls : Classifier α) (op : Operation α) (ops : List (Operation α)) :
    cls.decisions (op :: ops) =
      (cls.perform op).value.1.decision?.toList ++ (cls.perform op).value.2.decisions ops := by
  change List.filterMap Reply.decision? ((cls.perform op).value.1 ::
    ((cls.perform op).value.2.performAll ops).value.1) = _
  rw [List.filterMap_cons]
  cases (cls.perform op).value.1.decision? with
  | none => rfl
  | some d => rfl

theorem decisions_append (cls : Classifier α) (ops rest : List (Operation α)) :
    cls.decisions (ops ++ rest) = cls.decisions ops ++ (cls.after ops).decisions rest := by
  induction ops generalizing cls with
  | nil => rfl
  | cons op ops ih =>
    rw [List.cons_append, decisions_cons, decisions_cons, ih, List.append_assoc, after_cons]

/-- There are no more decisions than operations. -/
theorem length_decisions_le (cls : Classifier α) (ops : List (Operation α)) :
    (cls.decisions ops).length ≤ ops.length := by
  induction ops generalizing cls with
  | nil => exact Nat.le_refl 0
  | cons op ops ih =>
    have hrest := ih (cls.perform op).value.2
    have hone : (cls.perform op).value.1.decision?.toList.length ≤ 1 := by
      cases (cls.perform op).value.1.decision? with
      | none => exact Nat.zero_le 1
      | some d => exact Nat.le_refl 1
    rw [decisions_cons, List.length_append, List.length_cons]
    omega

/-- A run adds the activations of its decisions to the counters, and nothing else. -/
theorem counters_after (cls : Classifier α) (ops : List (Operation α)) (c : Channel) :
    (cls.after ops).counters.get c =
      (cls.counters.get c).addAll ((cls.decisions ops).map (·.activations.get c)) := by
  induction ops generalizing cls with
  | nil => rfl
  | cons op ops ih =>
    rw [after_cons, ih, counters_perform, decisions_cons]
    cases (cls.perform op).value.1.decision? with
    | none => rfl
    | some d => rfl

theorem counters_ofConfig (config : Config α) (c : Channel) :
    (ofConfig config).counters.get c = .zero := by
  rw [counters_get]
  simp [ofConfig, Gates.initial, ChannelSettings.initialGate]

theorem flow_after (config : Config α) (ops : List (Operation α)) (c : Channel) :
    (((ofConfig config).after ops).counters.get c).flow =
      Scalar.sum (((ofConfig config).decisions ops).map (·.activations.get c)) := by
  rw [counters_after, Counters.flow_addAll, counters_ofConfig]
  rfl

theorem activations_after (config : Config α) (ops : List (Operation α)) (c : Channel) :
    (((ofConfig config).after ops).counters.get c).activations =
      UInt64.ofNat ((ofConfig config).decisions ops).length := by
  rw [counters_after, Counters.activations_addAll, counters_ofConfig, List.length_map]
  exact UInt64.zero_add _

section Doubles

open Scalar Binary64

variable {config : Config Float}

/-- Every decision of a run reports activations from zero to one, whatever the filters have become. -/
theorem activations_mem_unit (cls : Classifier Float) (ops : List (Operation Float)) (c : Channel) :
    ∀ a ∈ (cls.decisions ops).map (·.activations.get c), InUnit a := by
  induction ops generalizing cls with
  | nil => simp
  | cons op ops ih =>
    intro a ha
    rw [decisions_cons, List.map_append] at ha
    rcases List.mem_append.mp ha with ha | ha
    · obtain ⟨d, hd, rfl⟩ := List.mem_map.mp ha
      have hreply : (cls.perform op).value.1 = .decided d := by
        cases hr : (cls.perform op).value.1 with
        | decided e =>
          rw [hr] at hd
          have he : d = e := by simpa [Reply.decision?] using hd
          rw [he]
        | _ => simp [hr, Reply.decision?] at hd
      obtain ⟨lower, signature, -, rfl⟩ := (cls.perform_eq_decided_iff op d).mp hreply
      rw [Config.decision_activations]
      exact Gates.respond_mem_unit _ _ _ c
    · exact ih _ a ha

/-- What a channel has counted after fewer than `2 ^ 64` operations: as many activations as there were
decisions, and as flow the sum of the activations that these report. The flow never falls, and it stays
between zero and the number of activations up to `2 ^ 53` of them. -/
theorem counted_decisions (ops : List (Operation Float)) (h : ops.length < 2 ^ 64) (c : Channel) :
    let start := ofConfig config
    let counted := (start.after ops).counters.get c
    counted.activations.toNat = (start.decisions ops).length ∧
      counted.flow = sum ((start.decisions ops).map (·.activations.get c)) ∧
      (∀ earlier later, ops = earlier ++ later →
        ((start.after earlier).counters.get c).flow ≤ counted.flow) ∧
      0 ≤ counted.flow ∧
      (counted.activations.toNat ≤ 2 ^ 53 → counted.flow ≤ counted.activations.toFloat) := by
  intro start counted
  have hunit := start.activations_mem_unit ops c
  have hflow : counted.flow = sum ((start.decisions ops).map (·.activations.get c)) :=
    flow_after config ops c
  have hcount : counted.activations.toNat = (start.decisions ops).length := by
    rw [activations_after,
      UInt64.toNat_ofNat_of_lt' ((length_decisions_le (ofConfig config) ops).trans_lt h)]
  refine ⟨hcount, hflow, ?_, ?_, ?_⟩
  · rintro earlier later rfl
    rw [hflow, flow_after, decisions_append, List.map_append]
    rw [decisions_append, List.map_append] at hunit
    exact sum_le_sum_append (fun a ha => (hunit a (List.mem_append_left _ ha)).1)
      fun a ha => (hunit a (List.mem_append_right _ ha)).1
  · rw [hflow]
    exact zero_le_sum fun a ha => (hunit a ha).1
  · intro hexact
    have hnearest := isNearest_toFloat counted.activations
    have hvalue : value counted.activations.toFloat = counted.activations.toNat := by
      rw [hnearest.2, rounded_natCast_of_le hexact]
    have hlength : ((start.decisions ops).map (·.activations.get c)).length =
        counted.activations.toNat := by
      rw [List.length_map, hcount]
    rw [le_iff, hvalue, hflow, ← hlength]
    refine ⟨defined_of_zero_le (zero_le_sum fun a ha => (hunit a ha).1), hnearest.1, ?_⟩
    exact value_sum_le_length hunit (by rw [hlength]; exact hexact)

/-- A text, an override that is too short, feedback and the empty text: two decisions are counted. -/
theorem counted_decisions_of_two :
    let ops : List (Operation Float) := [.classify "hello", .classifyWith "hello" [0.5],
      .feedback .greeting .help, .classify ""]
    let counted := ((ofConfig (Config.default : Config Float)).after ops).counters.get .balanced
    ops.length < 2 ^ 64 ∧ counted.activations.toNat = 2 ∧ 0 ≤ counted.flow ∧
      counted.flow ≤ counted.activations.toFloat := by
  intro ops counted
  have hlt : ops.length < 2 ^ 64 := by decide
  obtain ⟨hcount, -, -, h₀, h₁⟩ :=
    @counted_decisions Config.default ops hlt .balanced
  have htwo : ((ofConfig (Config.default : Config Float)).decisions ops).length = 2 := rfl
  rw [htwo] at hcount
  exact ⟨hlt, hcount, h₀, h₁ (by rw [hcount]; norm_num)⟩

end Doubles

end Classifier
end TextIntent

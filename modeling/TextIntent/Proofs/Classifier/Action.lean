import TextIntent.Classifier.Operation

/-! What actions answer and what they leave behind. A fault takes no write back: an action is all or
nothing only because no check that may fail comes after a write, and this is how `AllOrNothing` is
put together, from actions that only look and actions that cannot fail. -/
namespace TextIntent

namespace Classifier

variable {α β γ : Type} [Scalar α]

namespace Action

/-- The answer of an action, and the classifier after it. -/
def outcome (x : Action α β) (cls : Classifier α) : Except (Fault α) β × Classifier α :=
  (x.run.run cls).value

theorem outcome_check (x : Checked α β) (cls : Classifier α) :
    outcome (check x) cls = (x.run.value, cls) := rfl

theorem outcome_get (cls : Classifier α) : outcome get cls = (.ok cls, cls) := rfl

theorem outcome_modify (f : Classifier α → Classifier α) (cls : Classifier α) :
    outcome (modify f) cls = (.ok (), f cls) := rfl

/-- A fault ends an action. The classifier is then as the steps before the fault have left it. -/
theorem outcome_bind (x : Action α β) (f : β → Action α γ) (cls : Classifier α) :
    outcome (x >>= f) cls = match outcome x cls with
      | (.ok b, next) => outcome (f b) next
      | (.error fault, next) => (.error fault, next) := by
  unfold outcome
  rw [ExceptT.run_bind, StateT.run_bind, Traced.value_bind]
  rcases (x.run.run cls).value with ⟨_ | _, next⟩
  · rfl
  · rfl

/-- A write is not taken back by a fault that comes after it. -/
example (f : Classifier α → Classifier α) (fault : Fault α) (cls : Classifier α) :
    outcome (modify f >>= fun _ => (check (throw fault) : Action α Unit)) cls =
      (.error fault, f cls) := rfl

/-- The action leaves the classifier as it is, whatever it answers. -/
def Looks (x : Action α β) : Prop := ∀ cls, (outcome x cls).2 = cls

/-- The action has no fault. -/
def Succeeds (x : Action α β) : Prop := ∀ cls fault, (outcome x cls).1 ≠ .error fault

/-- With a fault the action leaves the classifier as it was. -/
def AllOrNothing (x : Action α β) : Prop :=
  ∀ cls fault, (outcome x cls).1 = .error fault → (outcome x cls).2 = cls

theorem looks_check (x : Checked α β) : Looks (check x) := fun _ => rfl

theorem looks_get : Looks (get : Action α (Classifier α)) := fun _ => rfl

theorem succeeds_step (f : Classifier α → Traced (Event α) (β × Classifier α)) :
    Succeeds (step f) := fun _ _ => nofun

theorem succeeds_modify (f : Classifier α → Classifier α) :
    Succeeds (modify f : Action α PUnit) := fun _ _ => nofun

theorem succeeds_report (e : Event α) : Succeeds (check (Checked.report e)) := fun _ _ => nofun

theorem Looks.allOrNothing {x : Action α β} (h : Looks x) : AllOrNothing x :=
  fun cls _ _ => h cls

theorem Succeeds.allOrNothing {x : Action α β} (h : Succeeds x) : AllOrNothing x :=
  fun cls fault he => absurd he (h cls fault)

/-- The first part goes through and the second goes on from there, or its fault is the answer. -/
theorem outcome_bind_cases (x : Action α β) (f : β → Action α γ) (cls : Classifier α) :
    (∃ b, (outcome x cls).1 = .ok b ∧
        outcome (x >>= f) cls = outcome (f b) (outcome x cls).2) ∨
      ∃ fault, (outcome x cls).1 = .error fault ∧
        outcome (x >>= f) cls = (.error fault, (outcome x cls).2) := by
  rw [outcome_bind]
  generalize outcome x cls = out
  rcases out with ⟨fault | b, next⟩
  · exact Or.inr ⟨fault, rfl, rfl⟩
  · exact Or.inl ⟨b, rfl, rfl⟩

theorem Looks.bind {x : Action α β} {f : β → Action α γ} (hx : Looks x) (hf : ∀ b, Looks (f b)) :
    Looks (x >>= f) := by
  intro cls
  rcases outcome_bind_cases x f cls with ⟨b, -, h⟩ | ⟨fault, -, h⟩
  · rw [h]
    exact (hf b _).trans (hx cls)
  · rw [h]
    exact hx cls

theorem Succeeds.bind {x : Action α β} {f : β → Action α γ} (hx : Succeeds x)
    (hf : ∀ b, Succeeds (f b)) : Succeeds (x >>= f) := by
  intro cls fault
  rcases outcome_bind_cases x f cls with ⟨b, -, h⟩ | ⟨found, hfound, -⟩
  · rw [h]
    exact hf b _ fault
  · exact absurd hfound (hx cls found)

/-- Looking first spoils nothing. -/
theorem Looks.bind_allOrNothing {x : Action α β} {f : β → Action α γ} (hx : Looks x)
    (hf : ∀ b, AllOrNothing (f b)) : AllOrNothing (x >>= f) := by
  intro cls fault
  rcases outcome_bind_cases x f cls with ⟨b, -, h⟩ | ⟨found, -, h⟩
  · rw [h, hx cls]
    exact hf b cls fault
  · rw [h]
    exact fun _ => hx cls

/-- What comes after the writes must not fail. -/
theorem AllOrNothing.bind {x : Action α β} {f : β → Action α γ} (hx : AllOrNothing x)
    (hf : ∀ b, Succeeds (f b)) : AllOrNothing (x >>= f) := by
  intro cls fault
  rcases outcome_bind_cases x f cls with ⟨b, -, h⟩ | ⟨found, hfound, h⟩
  · rw [h]
    exact fun he => absurd he (hf b _ fault)
  · rw [h]
    exact fun _ => hx cls found hfound

theorem looks_forM {ι : Type} (is : List ι) {f : ι → Action α PUnit} (hf : ∀ i, Looks (f i)) :
    Looks (is.forM f) := by
  induction is with
  | nil => exact fun _ => rfl
  | cons i is ih =>
    change Looks (f i >>= fun _ => is.forM f)
    exact (hf i).bind fun _ => ih

theorem succeeds_forM {ι : Type} (is : List ι) {f : ι → Action α PUnit}
    (hf : ∀ i, Succeeds (f i)) : Succeeds (is.forM f) := by
  induction is with
  | nil => exact fun _ _ => nofun
  | cons i is ih =>
    change Succeeds (f i >>= fun _ => is.forM f)
    exact (hf i).bind fun _ => ih

end Action

theorem allOrNothing_classifyWith (text : String) (signature : List α) :
    Action.AllOrNothing (classifyWith text signature) :=
  (Action.looks_check _).bind_allOrNothing fun _ => (Action.succeeds_step _).allOrNothing

theorem allOrNothing_adjustFilter (c : Channel) (gradient : List α) (rate : α) :
    Action.AllOrNothing (adjustFilter c gradient rate) :=
  Action.looks_get.bind_allOrNothing fun _ =>
    (Action.looks_check _).bind_allOrNothing fun _ => (Action.succeeds_modify _).allOrNothing

theorem allOrNothing_restoreMass (mass : Scores α) : Action.AllOrNothing (restoreMass mass) :=
  (Action.looks_check _).bind_allOrNothing fun _ => (Action.succeeds_modify _).allOrNothing

/-- All filters are looked at before anything is written, and the check of the masses is the last
one that may fail. -/
theorem allOrNothing_restore (s : Snapshot α) : Action.AllOrNothing (restore s) := by
  refine (Action.looks_forM _ fun c => Action.looks_check _).bind_allOrNothing fun _ => ?_
  refine (allOrNothing_restoreMass s.mass).bind fun _ => ?_
  exact (Action.succeeds_forM _ fun c => Action.succeeds_modify _).bind fun _ =>
    Action.succeeds_report _

theorem value_answer (cls : Classifier α) (x : Action α β) (reply : β → Reply α) :
    (cls.answer x reply).value = match Action.outcome x cls with
      | (.ok b, next) => (reply b, next)
      | (.error fault, next) => (.failed fault, next) := by
  unfold answer Action.outcome
  rw [Traced.value_bind]
  rcases (x.run.run cls).value with ⟨_ | _, next⟩
  · rfl
  · rfl

theorem outcome_classifyWith (text : String) (signature : List α) (cls : Classifier α) :
    Action.outcome (classifyWith text signature) cls =
      match (Signature.ofList signature).run.value with
      | .ok v => (.ok (cls.run (Text.lower text) v).value.1, (cls.run (Text.lower text) v).value.2)
      | .error fault => (.error fault, cls) := by
  rw [classifyWith, Action.outcome_bind, Action.outcome_check]
  cases (Signature.ofList signature).run.value with
  | ok v => rfl
  | error fault => rfl

theorem outcome_adjustFilter (c : Channel) (gradient : List α) (rate : α) (cls : Classifier α) :
    Action.outcome (adjustFilter c gradient rate) cls =
      match ((cls.config.channels.get c).adjusted (cls.gates.get c).filter gradient
          rate).run.value with
      | .ok filter => (.ok (), { cls with gates := cls.gates.setFilter c filter })
      | .error fault => (.error fault, cls) := by
  rw [adjustFilter, Action.outcome_bind, Action.outcome_get]
  dsimp only
  rw [Action.outcome_bind, Action.outcome_check]
  cases ((cls.config.channels.get c).adjusted (cls.gates.get c).filter gradient rate).run.value with
  | ok filter => rfl
  | error fault => rfl

/-- What is wrong with the filters of a snapshot. -/
def filterFault? (filters : PerChannel (SlotVector α)) : Option (NumericalFault α) :=
  (Channel.all.find? fun c => !(filters.get c).all Scalar.isFinite).map .filterNotFinite

end Classifier

/-- Why a snapshot may not be put in place. Filters are looked at before masses. -/
def Snapshot.fault? {α : Type} [Scalar α] (s : Snapshot α) : Option (Fault α) :=
  match Classifier.filterFault? s.filters with
  | some fault => some (.numerical fault)
  | none =>
    match (demandMass s.mass).run.value with
    | .ok _ => none
    | .error fault => some fault

namespace Classifier

variable {α : Type} [Scalar α]

/-- The checks of some filters find the first one that is not finite, and write nothing. -/
theorem outcome_demandFilters (cs : List Channel) (filters : PerChannel (SlotVector α))
    (cls : Classifier α) :
    Action.outcome (cs.forM fun c => Action.check (demandFilter c (filters.get c))) cls =
      (match cs.find? fun c => !(filters.get c).all Scalar.isFinite with
        | some c => .error (.numerical (.filterNotFinite c))
        | none => .ok (), cls) := by
  induction cs with
  | nil => rfl
  | cons c cs ih =>
    change Action.outcome
      (Action.check (demandFilter c (filters.get c)) >>= fun _ => cs.forM _) cls = _
    rw [Action.outcome_bind, Action.outcome_check, List.find?_cons, demandFilter]
    cases (filters.get c).all Scalar.isFinite with
    | true => exact ih
    | false => rfl

/-- The writes of some filters go through one after the other. -/
theorem outcome_setFilters (cs : List Channel) (filters : PerChannel (SlotVector α))
    (cls : Classifier α) :
    Action.outcome (cs.forM fun c => setFilter c (filters.get c)) cls =
      (.ok (), { cls with
        gates := cs.foldl (fun gates c => gates.setFilter c (filters.get c)) cls.gates }) := by
  induction cs generalizing cls with
  | nil => rfl
  | cons c cs ih =>
    change Action.outcome (setFilter c (filters.get c) >>= fun _ => cs.forM _) cls = _
    rw [Action.outcome_bind, setFilter, Action.outcome_modify]
    exact ih _

omit [Scalar α] in
theorem foldl_setFilter (gates : Gates α) (filters : PerChannel (SlotVector α)) :
    Channel.all.foldl (fun gates c => gates.setFilter c (filters.get c)) gates =
      gates.setFilters filters :=
  PerChannel.ext_get fun c => by cases c <;> rfl

theorem outcome_restoreMass (mass : Scores α) (cls : Classifier α) :
    Action.outcome (restoreMass mass) cls =
      match (demandMass mass).run.value with
      | .ok () => (.ok (), { cls with mass := mass })
      | .error fault => (.error fault, cls) := by
  rw [restoreMass, Action.outcome_bind, Action.outcome_check]
  cases (demandMass mass).run.value with
  | ok _ => rfl
  | error fault => rfl

theorem outcome_restore (s : Snapshot α) (cls : Classifier α) :
    Action.outcome (restore s) cls = match s.fault? with
      | some fault => (.error fault, cls)
      | none => (.ok (), { cls with mass := s.mass, gates := cls.gates.setFilters s.filters }) := by
  unfold restore Snapshot.fault? filterFault?
  rw [Action.outcome_bind, outcome_demandFilters]
  cases Channel.all.find? fun c => !(s.filters.get c).all Scalar.isFinite with
  | some c => rfl
  | none =>
    dsimp only [Option.map_none]
    rw [Action.outcome_bind, outcome_restoreMass]
    cases (demandMass s.mass).run.value with
    | error fault => rfl
    | ok _ =>
      dsimp only
      rw [Action.outcome_bind, outcome_setFilters, foldl_setFilter]
      rfl

end Classifier
end TextIntent

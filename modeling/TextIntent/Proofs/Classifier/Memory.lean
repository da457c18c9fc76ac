import TextIntent.Config.Default
import TextIntent.Numeric.Double
import TextIntent.Proofs.Classifier.Run

/-! What a classifier remembers. All replies but the counters follow from the settings and the
snapshot, so classifiers that agree on these cannot be told apart by any run. Classifications and
operations that are turned down keep the snapshot, and a run goes on as if they had not been made. -/
namespace TextIntent

variable {α : Type} [Scalar α]

/-- Activations are read off the filters; what was counted before plays no part. -/
theorem Gates.respond_congr (settings : PerChannel (ChannelSettings α)) {g h : Gates α}
    (hf : g.filters = h.filters) (heated : SlotVector α) :
    g.respond settings heated = h.respond settings heated := by
  have hc (c : Channel) : (g.get c).filter = (h.get c).filter := by
    have := congrArg (·.get c) hf
    simpa [Gates.filters] using this
  unfold Gates.respond
  simp only [hc]

theorem Config.decision_congr (config : Config α) (matrix : SlotMatrix α) {g h : Gates α}
    (hf : g.filters = h.filters) (mass : Scores α) (lower : String) (signature : SlotVector α) :
    config.decision matrix g mass lower signature =
      config.decision matrix h mass lower signature := by
  unfold Config.decision
  simp only [Gates.respond_congr config.channels hf]

/-- The operation asks for a decision. -/
def Operation.isQuestion : Operation α → Bool
  | .classify _ => true
  | .classifyWith .. => true
  | _ => false

def Reply.isFailed : Reply α → Bool
  | .failed _ => true
  | _ => false

namespace Classifier

variable {e f g : Classifier α}

/-- The settings are the same, and the same has been learnt. Counters may differ. -/
structure SameMemory (e f : Classifier α) : Prop where
  config : e.config = f.config
  snapshot : e.snapshot = f.snapshot

namespace SameMemory

theorem refl (e : Classifier α) : SameMemory e e := ⟨rfl, rfl⟩

theorem symm (h : SameMemory e f) : SameMemory f e := ⟨h.config.symm, h.snapshot.symm⟩

theorem trans (h₁ : SameMemory e f) (h₂ : SameMemory f g) : SameMemory e g :=
  ⟨h₁.config.trans h₂.config, h₁.snapshot.trans h₂.snapshot⟩

theorem matrix (h : SameMemory e f) : e.matrix = f.matrix := by
  rw [e.matrix_eq, f.matrix_eq, h.config]

theorem mass (h : SameMemory e f) : e.mass = f.mass := congrArg Snapshot.mass h.snapshot

theorem filters (h : SameMemory e f) : e.gates.filters = f.gates.filters :=
  congrArg Snapshot.filters h.snapshot

theorem filter (h : SameMemory e f) (c : Channel) :
    (e.gates.get c).filter = (f.gates.get c).filter := by
  have := congrArg (·.get c) h.filters
  simpa [Gates.filters] using this

theorem decision (h : SameMemory e f) (lower : String) (signature : SlotVector α) :
    e.config.decision e.matrix e.gates e.mass lower signature =
      f.config.decision f.matrix f.gates f.mass lower signature := by
  rw [h.config, h.matrix, h.mass]
  exact f.config.decision_congr f.matrix h.filters f.mass lower signature

/-- An operation leaves the memories the same. -/
theorem perform (h : SameMemory e f) (op : Operation α) :
    SameMemory (e.perform op).value.2 (f.perform op).value.2 where
  config := by rw [config_perform, config_perform, h.config]
  snapshot := by rw [snapshot_perform, snapshot_perform, h.config, h.snapshot]

theorem after (h : SameMemory e f) (ops : List (Operation α)) :
    SameMemory (e.after ops) (f.after ops) := by
  induction ops generalizing e f with
  | nil => exact h
  | cons op ops ih => exact ih (h.perform op)

/-- Replies tell apart only what the memories tell apart, unless the counters are asked for. -/
theorem reply (h : SameMemory e f) {op : Operation α} (ho : op ≠ .counters) :
    (e.perform op).value.1 = (f.perform op).value.1 := by
  cases op with
  | classify text =>
    change Reply.decided (e.config.decision e.matrix e.gates e.mass _ _).value =
      Reply.decided (f.config.decision f.matrix f.gates f.mass _ _).value
    rw [h.decision, h.config]
  | classifyWith text signature =>
    simp only [value_perform_classifyWith]
    cases (Signature.ofList signature).run.value with
    | ok v => exact congrArg (fun d => Reply.decided d.value) (h.decision _ v)
    | error fault => rfl
  | adjustFilter c gradient rate =>
    simp only [value_perform_adjustFilter, h.config, h.filter c]
    cases ((f.config.channels.get c).adjusted (f.gates.get c).filter gradient rate).run.value with
    | ok filter => rfl
    | error fault => rfl
  | feedback predicted actual => rfl
  | mass => exact congrArg Reply.mass h.mass
  | counters => exact absurd rfl ho
  | snapshot => exact congrArg Reply.snapshot h.snapshot
  | restore s =>
    simp only [value_perform_restore]
    cases s.fault? with
    | none => rfl
    | some fault => rfl

end SameMemory

/-- An action that is all or nothing changes nothing when it is turned down. -/
theorem answer_of_isFailed {β : Type} {x : Action α β} (hx : Action.AllOrNothing x)
    {reply : β → Reply α} (hr : ∀ b, (reply b).isFailed = false) {cls : Classifier α}
    (h : (cls.answer x reply).value.1.isFailed = true) : (cls.answer x reply).value.2 = cls := by
  have hcls := hx cls
  rw [value_answer] at h ⊢
  generalize Action.outcome x cls = out at h hcls ⊢
  rcases out with ⟨fault | b, next⟩
  · exact hcls fault rfl
  · rw [hr b] at h
    cases h

/-- What is turned down changes nothing, the counters included. -/
theorem perform_of_isFailed (cls : Classifier α) {op : Operation α}
    (h : (cls.perform op).value.1.isFailed = true) : (cls.perform op).value.2 = cls := by
  cases op with
  | classifyWith text signature =>
    exact answer_of_isFailed (allOrNothing_classifyWith text signature) (fun _ => rfl) h
  | adjustFilter c gradient rate =>
    exact answer_of_isFailed (allOrNothing_adjustFilter c gradient rate) (fun _ => rfl) h
  | restore s => exact answer_of_isFailed (allOrNothing_restore s) (fun _ => rfl) h
  | _ => simp [perform, Reply.isFailed] at h

/-- Questions change the counters alone. -/
theorem sameMemory_perform_of_isQuestion (cls : Classifier α) {op : Operation α}
    (h : op.isQuestion = true) : SameMemory (cls.perform op).value.2 cls where
  config := config_perform cls op
  snapshot := by
    rw [snapshot_perform]
    cases op with
    | classify text => rfl
    | classifyWith text signature => rfl
    | _ => simp [Operation.isQuestion] at h

/-- The operations of a run, each with the reply to it. -/
def transcript (cls : Classifier α) (ops : List (Operation α)) :
    List (Operation α × Reply α) :=
  ops.zip (cls.performAll ops).value.1

@[simp] theorem transcript_nil (cls : Classifier α) : cls.transcript [] = [] := rfl

theorem transcript_cons (cls : Classifier α) (op : Operation α) (ops : List (Operation α)) :
    cls.transcript (op :: ops) =
      (op, (cls.perform op).value.1) :: (cls.perform op).value.2.transcript ops := rfl

/-- The same operation with the same reply. Replies about the counters may differ. -/
def SameReply (x y : Operation α × Reply α) : Prop :=
  x.1 = y.1 ∧ (x.1 ≠ .counters → x.2 = y.2)

theorem SameMemory.sameReply (h : SameMemory e f) (op : Operation α) :
    SameReply (op, (e.perform op).value.1) (op, (f.perform op).value.1) :=
  ⟨rfl, fun ho => h.reply ho⟩

/-- No run tells classifiers with the same memory apart. -/
theorem SameMemory.transcript (h : SameMemory e f) (ops : List (Operation α)) :
    List.Forall₂ SameReply (e.transcript ops) (f.transcript ops) := by
  induction ops generalizing e f with
  | nil => exact List.Forall₂.nil
  | cons op ops ih =>
    rw [transcript_cons, transcript_cons]
    exact List.Forall₂.cons (h.sameReply op) (ih (h.perform op))

/-- What is left of a run without its questions and without what was turned down. -/
def essential (log : List (Operation α × Reply α)) : List (Operation α × Reply α) :=
  log.filter fun x => !x.1.isQuestion && !x.2.isFailed

/-- A step of a run that is left out does not change the memory. -/
theorem sameMemory_perform_of_omitted (cls : Classifier α) {op : Operation α}
    (h : (!op.isQuestion && !(cls.perform op).value.1.isFailed) = false) :
    SameMemory (cls.perform op).value.2 cls := by
  rw [Bool.and_eq_false_iff, Bool.not_eq_false', Bool.not_eq_false'] at h
  cases h with
  | inl hq => exact cls.sameMemory_perform_of_isQuestion hq
  | inr hf =>
    rw [cls.perform_of_isFailed hf]
    exact SameMemory.refl cls

/-- The essential operations of one run, made on a classifier with the same memory, get the replies
they got and lead to the same memory. -/
theorem SameMemory.essential (h : SameMemory e f) (ops : List (Operation α)) :
    let kept := essential (e.transcript ops)
    SameMemory (e.after ops) (f.after (kept.map Prod.fst)) ∧
      List.Forall₂ SameReply kept (f.transcript (kept.map Prod.fst)) := by
  induction ops generalizing e f with
  | nil => exact ⟨h, List.Forall₂.nil⟩
  | cons op ops ih =>
    intro kept
    cases hk : !op.isQuestion && !(e.perform op).value.1.isFailed with
    | false =>
      -- the operation is left out, and the rest starts from the memory that was there before
      have hkept : kept = Classifier.essential ((e.perform op).value.2.transcript ops) :=
        List.filter_cons_of_neg (by simpa using hk)
      rw [hkept, after_cons]
      exact ih ((sameMemory_perform_of_omitted e hk).trans h)
    | true =>
      have hkept : kept = (op, (e.perform op).value.1) ::
          Classifier.essential ((e.perform op).value.2.transcript ops) :=
        List.filter_cons_of_pos (by simpa using hk)
      obtain ⟨hm, hr⟩ := ih (h.perform op)
      rw [hkept, after_cons, List.map_cons, after_cons, transcript_cons]
      exact ⟨hm, List.Forall₂.cons (h.sameReply op) hr⟩

/-- Questions and failures leave no trace outside the counters: without them a run, from any
classifier, ends with the same snapshot, the other operations get the same replies, and whatever
is asked later is answered in the same way. -/
theorem run_without_questions_and_failures (cls : Classifier α) (ops : List (Operation α)) :
    let kept := essential (cls.transcript ops)
    let rerun := kept.map Prod.fst
    (cls.after ops).snapshot = (cls.after rerun).snapshot ∧
      List.Forall₂ SameReply kept (cls.transcript rerun) ∧
      ∀ later op, op ≠ .counters →
        (((cls.after ops).after later).perform op).value.1 =
          (((cls.after rerun).after later).perform op).value.1 := by
  obtain ⟨hm, hr⟩ := (SameMemory.refl cls).essential ops
  exact ⟨hm.snapshot, hr, fun later op ho => (hm.after later).reply ho⟩

/-- Whatever takes over the snapshot of another classifier with the same settings has its memory. -/
theorem sameMemory_perform_restore (hc : e.config = f.config)
    (h : (f.perform (.restore e.snapshot)).value.1 = .done) :
    SameMemory e (f.perform (.restore e.snapshot)).value.2 where
  config := by rw [config_perform, hc]
  snapshot := by
    rw [perform_restore_eq_done_iff] at h
    rw [snapshot_perform, Snapshot.after, h]
    rfl

/-- A snapshot carries over everything but the counters: a classifier that has taken it over cannot be
told apart by any run from the one it was taken of. -/
theorem run_after_handover {config : Config α} (he : Reachable config e) (hf : Reachable config f)
    (h : (f.perform (.restore e.snapshot)).value.1 = .done) (ops : List (Operation α)) :
    List.Forall₂ SameReply (e.transcript ops)
      ((f.perform (.restore e.snapshot)).value.2.transcript ops) :=
  (sameMemory_perform_restore (he.config_eq.trans hf.config_eq.symm) h).transcript ops

/-- One classifier has had feedback and the other has counted a decision before it takes over. -/
theorem run_after_handover_of_feedback :
    let start := ofConfig (Config.default : Config Float)
    let e := start.after [.feedback .greeting .status]
    let f := start.after [.classify "hello", .feedback .help .status]
    let ops := [.feedback .help .greeting, .mass, .classify "status"]
    (f.perform (.restore e.snapshot)).value.1 = .done ∧
      List.Forall₂ SameReply (e.transcript ops)
        ((f.perform (.restore e.snapshot)).value.2.transcript ops) := by
  intro start e f ops
  have hs : e.snapshot.fault? = none := by decide +kernel
  have hd : (f.perform (.restore e.snapshot)).value.1 = .done :=
    (perform_restore_eq_done_iff f e.snapshot).mpr hs
  exact ⟨hd, run_after_handover ⟨_, rfl⟩ ⟨_, rfl⟩ hd ops⟩

end Classifier
end TextIntent

import TextIntent.Classifier.Basic

/-! Operations on a classifier as data, what each answers, and runs of several operations. After an
operation that fails the run goes on from the classifier as that operation has left it. -/
namespace TextIntent

inductive Operation (α : Type) where
  | classify (text : String)
  | classifyWith (text : String) (signature : List α)
  | adjustFilter (channel : Channel) (gradient : List α) (rate : α)
  | feedback (predicted actual : Category)
  | mass
  | counters
  | snapshot
  | restore (snapshot : Snapshot α)

inductive Reply (α : Type) where
  | decided (decision : Decision α)
  | failed (fault : Fault α)
  | done
  | mass (mass : Scores α)
  | counters (counters : PerChannel (Counters α))
  | snapshot (snapshot : Snapshot α)

namespace Classifier

variable {α : Type} [Scalar α]

/-- The reply to an action, and the classifier as the action leaves it, with a fault or without. -/
def answer {β : Type} (cls : Classifier α) (action : Action α β) (reply : β → Reply α) :
    Traced (Event α) (Reply α × Classifier α) := do
  match ← action.run.run cls with
  | (.ok x, cls) => return (reply x, cls)
  | (.error fault, cls) => return (.failed fault, cls)

def perform (cls : Classifier α) : Operation α → Traced (Event α) (Reply α × Classifier α)
  | .classify text => do
    let (decision, cls) ← cls.classify text
    return (.decided decision, cls)
  | .classifyWith text signature => cls.answer (classifyWith text signature) .decided
  | .adjustFilter c gradient rate => cls.answer (adjustFilter c gradient rate) fun () => .done
  | .feedback predicted actual => do
    return (.done, ← cls.feedback predicted actual)
  | .mass => return (.mass cls.mass, cls)
  | .counters => return (.counters cls.counters, cls)
  | .snapshot => return (.snapshot cls.snapshot, cls)
  | .restore s => cls.answer (restore s) fun () => .done

/-- Performs operations in order and collects the replies. -/
def performAll (cls : Classifier α) :
    List (Operation α) → Traced (Event α) (List (Reply α) × Classifier α)
  | [] => return ([], cls)
  | op :: ops => do
    let (reply, cls) ← cls.perform op
    let (replies, cls) ← cls.performAll ops
    return (reply :: replies, cls)

/-- The classifier after some operations on one that had learnt nothing. -/
def Reachable (config : Config α) (cls : Classifier α) : Prop :=
  ∃ ops, cls = ((ofConfig config).performAll ops).value.2

end Classifier
end TextIntent

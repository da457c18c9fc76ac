import TextIntent.Config.Validation
import TextIntent.Decision

/-! The classifier: an accepted configuration, the filters and counters of its channels, and the
masses of the categories. Classifying changes the counters alone; filters change by `adjustFilter`,
masses by `feedback`, and both by `restore`. What may fail is an `Action`: its steps look at the
classifier and write to it in order, and a fault takes nothing back. -/
namespace TextIntent

/-- What a classifier has learnt, enough to go on from in another one. -/
structure Snapshot (α : Type) where
  mass : Scores α
  filters : PerChannel (SlotVector α)
  deriving DecidableEq

structure Classifier (α : Type) [Scalar α] where
  config : Config α
  /-- Kept so that it is worked out once. -/
  matrix : SlotMatrix α
  matrix_eq : matrix = SlotMatrix.ofFeatures config.features
  gates : Gates α
  mass : Scores α

namespace Classifier

variable {α : Type} [Scalar α]

/-- A classifier that has learnt nothing, without a check of the configuration. -/
def ofConfig (config : Config α) : Classifier α where
  config := config
  matrix := SlotMatrix.ofFeatures config.features
  matrix_eq := rfl
  gates := .initial config.channels
  mass := .zero

/-- A classifier for an accepted configuration. -/
def start (config : Config α) : Except (Fault α) (Classifier α) :=
  match config.validate with
  | .ok () => .ok (ofConfig config)
  | .error fault => .error fault

def counters (cls : Classifier α) : PerChannel (Counters α) := cls.gates.counters

def snapshot (cls : Classifier α) : Snapshot α := ⟨cls.mass, cls.gates.filters⟩

/-- The signature that the classifier gives a text. -/
def signature (cls : Classifier α) (text : String) : SlotVector α :=
  Signature.ofText cls.config.features text

/-- Decides on a text in small letters and counts the activations. -/
def run (cls : Classifier α) (lower : String) (signature : SlotVector α) :
    Traced (Event α) (Decision α × Classifier α) := do
  let decision ← cls.config.decision cls.matrix cls.gates cls.mass lower signature
  return (decision, { cls with gates := cls.gates.count decision.activations })

/-- Classifies a text. Every text has a decision. -/
def classify (cls : Classifier α) (text : String) : Traced (Event α) (Decision α × Classifier α) :=
  let lower := Text.lower text
  cls.run lower (Signature.ofLower cls.config.features lower)

/-- A computation on a classifier that may fail. What it has written before a fault stays
written. -/
abbrev Action (α : Type) [Scalar α] (β : Type) :=
  ExceptT (Fault α) (StateT (Classifier α) (Traced (Event α))) β

namespace Action

variable {β : Type}

/-- A check that neither reads nor writes the classifier. -/
def check (x : Checked α β) : Action α β := ExceptT.mk (StateT.lift x.run)

/-- A step that cannot fail. -/
def step (f : Classifier α → Traced (Event α) (β × Classifier α)) : Action α β :=
  ExceptT.lift f

end Action

/-- Classifies a text with a given signature in place of its own. -/
def classifyWith (text : String) (signature : List α) : Action α (Decision α) := do
  let signature ← Action.check (Signature.ofList signature)
  Action.step fun cls => cls.run (Text.lower text) signature

/-- Puts a filter in place of the present one of a channel. -/
def setFilter (c : Channel) (filter : SlotVector α) : Action α Unit :=
  modify fun cls => { cls with gates := cls.gates.setFilter c filter }

/-- Moves the filter of a channel against a gradient. -/
def adjustFilter (c : Channel) (gradient : List α) (rate : α) : Action α Unit := do
  let cls ← get
  let settings := cls.config.channels.get c
  let filter ← Action.check (settings.adjusted (cls.gates.get c).filter gradient rate)
  setFilter c filter

/-- Feedback about a prediction, for when the right category is known. -/
def feedback (cls : Classifier α) (predicted actual : Category) :
    Traced (Event α) (Classifier α) := do
  return { cls with mass := ← cls.config.suppression.feedback cls.mass predicted actual }

/-- A filter that may be put in place of the present one of a channel: it is finite. -/
def demandFilter (c : Channel) (filter : SlotVector α) : Checked α Unit :=
  if filter.all Scalar.isFinite then return else throw (.numerical (.filterNotFinite c))

/-- Puts masses in place of the present ones, if they are in order. -/
def restoreMass (mass : Scores α) : Action α Unit := do
  Action.check (demandMass mass)
  modify fun cls => { cls with mass := mass }

/-- Puts filters and masses in place of the present ones. The filters of all channels are looked at
before the masses, and they are put in place after them. -/
def restore (s : Snapshot α) : Action α Unit := do
  Channel.all.forM fun c => Action.check (demandFilter c (s.filters.get c))
  restoreMass s.mass
  Channel.all.forM fun c => setFilter c (s.filters.get c)
  Action.check (Checked.report .stateRestored)

end Classifier
end TextIntent

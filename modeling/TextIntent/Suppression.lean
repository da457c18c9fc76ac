import TextIntent.Checked
import TextIntent.Config.Basic

/-! Telling confusable categories apart. Telltale words raise the score of their category, and the
two sides of a confusable pair repel each other: the one that was wrong more often, which has the
greater mass, pays. -/
namespace TextIntent

open Scalar

variable {α : Type} [Scalar α]

namespace SuppressionSettings

/-- Raises each category by the increment for every telltale word in the text. -/
def boost (s : SuppressionSettings α) (lower : String) (scores : Scores α) : Scores α :=
  s.discriminative.foldl (fun scores table =>
    let hits := table.words.countP (Text.occurs · lower)
    scores.modify table.category (· + (hits : α) * s.boostIncrement)) scores

/-- The repulsion of one pair. Only sides above the threshold repel each other, and sides of equal
mass share the penalty. -/
def repel (s : SuppressionSettings α) (mass : Scores α) (scores : Scores α)
    (pair : ConfusablePair α) : Scores α :=
  let a := scores.get pair.first
  let b := scores.get pair.second
  if a ≤ s.activationThreshold ∨ b ≤ s.activationThreshold then scores
  else
    let penalty := pair.repulsion * s.dominance * a * b
    if mass.get pair.second < mass.get pair.first then
      scores.modify pair.first (· - penalty)
    else if mass.get pair.first < mass.get pair.second then
      scores.modify pair.second (· - penalty)
    else
      (scores.modify pair.first (· - 0.5 * penalty)).modify pair.second (· - 0.5 * penalty)

/-- The repulsions of all pairs in order, each on the scores that the one before has left, and no
score below zero. -/
def suppress (s : SuppressionSettings α) (mass scores : Scores α) :
    Traced (Event α) (Scores α) :=
  (s.pairs.foldl (s.repel mass) scores).nonnegative

/-- The masses after feedback. A wrong prediction weighs on the predicted category and relieves the
right one; a right prediction changes nothing. -/
def learn (s : SuppressionSettings α) (mass : Scores α) (predicted actual : Category) :
    Scores α :=
  if predicted = actual then mass
  else (mass.modify predicted (· + s.massPenalty)).modify actual
    fun m => larger (m - s.massRelief) 0

/-- Feedback that reports the new masses. -/
def feedback (s : SuppressionSettings α) (mass : Scores α) (predicted actual : Category) :
    Traced (Event α) (Scores α) := do
  let learnt := s.learn mass predicted actual
  if predicted ≠ actual then
    Traced.report (.massUpdated predicted (learnt.get predicted) actual (learnt.get actual))
  return learnt

end SuppressionSettings

/-- Masses that may be put in place of the present ones: finite and not negative. -/
def demandMass (mass : Scores α) : Checked α Unit :=
  let bad (c : Category) :=
    let m := mass.get c
    if !isFinite m ∨ m < 0 then some (.massInvalid c m) else none
  match Category.all.findSome? bad with
  | some fault => throw (.numerical fault)
  | none => return

end TextIntent

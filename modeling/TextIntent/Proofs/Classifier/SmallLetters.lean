import TextIntent.Proofs.Classifier.Run
import TextIntent.Proofs.Text.Lower

/-! A classifier sees nothing of a text but its small letters. Lower-casing a text a second time changes nothing, so
a text and its small letters are answered alike, event by event, and leave the same classifier behind. The same
holds of any run of operations and the run with all its texts in small letters. -/
namespace TextIntent

variable {α : Type} [Scalar α]

/-- The operation with its text in small letters. -/
def Operation.inSmallLetters : Operation α → Operation α
  | .classify text => .classify (Text.lower text)
  | .classifyWith text signature => .classifyWith (Text.lower text) signature
  | op => op

namespace Classifier

/-- A text and its small letters have the same decision. -/
theorem classify_lower (cls : Classifier α) (text : String) :
    cls.classify (Text.lower text) = cls.classify text := by
  simp only [classify, Text.lower_lower]

theorem perform_inSmallLetters (cls : Classifier α) (op : Operation α) :
    cls.perform op.inSmallLetters = cls.perform op := by
  cases op with
  | classify text => simp only [Operation.inSmallLetters, perform, classify, Text.lower_lower]
  | classifyWith text signature =>
    simp only [Operation.inSmallLetters, perform, classifyWith, Text.lower_lower]
  | _ => rfl

theorem performAll_inSmallLetters (cls : Classifier α) (ops : List (Operation α)) :
    cls.performAll (ops.map Operation.inSmallLetters) = cls.performAll ops := by
  induction ops generalizing cls with
  | nil => rfl
  | cons op ops ih => simp only [List.map_cons, performAll, perform_inSmallLetters, ih]

end Classifier
end TextIntent

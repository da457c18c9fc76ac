import TextIntent.Config.Basic

/-! Evidence from the words of a text. -/
namespace TextIntent.Evidence

open Scalar

variable {α : Type} [Scalar α]

/-- What one occurring keyword counts: one, and the bonus if it is a phrase of several words. The
two are added one after the other. -/
def countWord (e : EvidenceSettings α) (word : String) (score : α) : α :=
  if word.toList.contains ' ' then score + 1 + e.phraseBonus else score + 1

/-- Counts for each category the keywords that occur in the text. -/
def wordHits (e : EvidenceSettings α) (lower : String) : Scores α :=
  e.lexical.foldl (fun scores table =>
    table.words.foldl (fun scores word =>
      if Text.occurs word lower then scores.modify table.category (countWord e word) else scores)
      scores) PerCategory.zero

/-- Some keyword of some category occurs in the text. -/
def hasWords (e : EvidenceSettings α) (lower : String) : Bool :=
  e.lexical.any fun table => Text.occursAny table.words lower

/-- The distribution for a text without keywords, which leans to `unknown`. -/
def prior (e : EvidenceSettings α) : Scores α :=
  (PerCategory.const 1 : Scores α).set .unknown e.noMatchWeight

/-- Keyword counts as a distribution. -/
def lexical (e : EvidenceSettings α) (lower : String) : Scores α :=
  let hits := wordHits e lower
  (if hits.total ≤ epsilon then prior e else hits).normalized

end TextIntent.Evidence

/-! The bridging rules, in the order in which they are tried. -/
namespace TextIntent

/-- Why scores were adjusted after suppression. -/
inductive Rule where
  | structuralVocabulary
  | operatorKeyword
  | domainTrigger
  | positionBand
  | lowSignal
  deriving DecidableEq, Repr

namespace Rule

/-- Every rule; the first one that holds is applied. -/
def all : List Rule :=
  [structuralVocabulary, operatorKeyword, domainTrigger, positionBand, lowSignal]

theorem mem_all (r : Rule) : r ∈ all := by cases r <;> decide

def name : Rule → String
  | structuralVocabulary => "structural_vocabulary"
  | operatorKeyword => "operator_keyword"
  | domainTrigger => "domain_trigger"
  | positionBand => "position_band"
  | lowSignal => "low_signal"

/-- The name as one capitalised word. -/
def title : Rule → String
  | structuralVocabulary => "StructuralVocabulary"
  | operatorKeyword => "OperatorKeyword"
  | domainTrigger => "DomainTrigger"
  | positionBand => "PositionBand"
  | lowSignal => "LowSignal"

def named : List (String × Rule) := all.map fun r => (r.name, r)

end Rule
end TextIntent

import TextIntent.Text.Lower
import TextIntent.Text.Search

/-! The intents a text is sorted into. Their order matters: of equal scores the first category
wins. -/
namespace TextIntent

/-- What a text is about. `unknown` takes everything else. -/
inductive Category where
  | greeting
  | help
  | status
  | navigation
  | physics
  | operator
  | structural
  | unknown
  deriving DecidableEq, Repr, Inhabited

namespace Category

def all : List Category :=
  [greeting, help, status, navigation, physics, operator, structural, unknown]

theorem mem_all (c : Category) : c ∈ all := by cases c <;> decide

def name : Category → String
  | greeting => "greeting"
  | help => "help"
  | status => "status"
  | navigation => "navigation"
  | physics => "physics"
  | operator => "operator"
  | structural => "structure"
  | unknown => "unknown"

/-- Position in the order of `all`. -/
def index (c : Category) : Nat := all.idxOf c

def ofIndex? (n : Nat) : Option Category := all[n]?

@[simp] theorem ofIndex?_index (c : Category) : ofIndex? c.index = some c := by cases c <;> rfl

/-- The category named by a text, whatever its case and the blanks around it. -/
def parse? (s : String) : Option Category :=
  let needle := Text.lower (Text.trim s)
  all.find? (·.name == needle)

/-- Each category with its name. -/
def named : List (String × Category) := all.map fun c => (c.name, c)

end Category
end TextIntent

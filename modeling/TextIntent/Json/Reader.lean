import TextIntent.Json.Token

/-! Reading JSON text. Values nest to any depth: a stack of frames holds the arrays and objects that
are still open, and each token moves the reader one step. -/
namespace TextIntent.Json

/-- An array or object that is still open. What it holds so far is in reverse order; an object also
has the key whose value comes next. -/
inductive Frame where
  | array (items : List Json)
  | object (members : List (Option String × Json)) (key : Option String)

/-- What may come next. -/
inductive Reader where
  /-- A value. -/
  | value (stack : List Frame)
  /-- The first item of an array, or its end. -/
  | firstItem (stack : List Frame)
  /-- The first key of an object, or its end. -/
  | firstKey (stack : List Frame)
  | key (members : List (Option String × Json)) (stack : List Frame)
  | colon (members : List (Option String × Json)) (key : Option String) (stack : List Frame)
  /-- A complete value: its frame goes on or ends. -/
  | after (v : Json) (stack : List Frame)

/-- Takes the first token of a value. -/
def beginValue (stack : List Frame) : Token → Option Reader
  | .null => some (.after .null stack)
  | .bool b => some (.after (.bool b) stack)
  | .number n => some (.after (.number n) stack)
  | .string s => some (.after (.string s) stack)
  | .openArray => some (.firstItem stack)
  | .openObject => some (.firstKey stack)
  | _ => none

def read : Reader → Token → Option Reader
  | .value stack, t => beginValue stack t
  | .firstItem stack, .closeArray => some (.after (.array []) stack)
  | .firstItem stack, t => beginValue (.array [] :: stack) t
  | .firstKey stack, .closeObject => some (.after (.object []) stack)
  | .firstKey stack, .string k => some (.colon [] k stack)
  | .key members stack, .string k => some (.colon members k stack)
  | .colon members k stack, .colon => some (.value (.object members k :: stack))
  | .after v (.array items :: stack), .comma => some (.value (.array (v :: items) :: stack))
  | .after v (.array items :: stack), .closeArray =>
    some (.after (.array (v :: items).reverse) stack)
  | .after v (.object members k :: stack), .comma => some (.key ((k, v) :: members) stack)
  | .after v (.object members k :: stack), .closeObject =>
    some (.after (.object ((k, v) :: members).reverse) stack)
  | _, _ => none

/-- The value that is complete, with nothing left open. -/
def Reader.result? : Reader → Option Json
  | .after v [] => some v
  | _ => none

def ofTokens? (ts : List Token) : Option Json := do
  (← ts.foldlM read (.value [])).result?

/-- The value of a JSON text; there is none if the text breaks the grammar anywhere. -/
def parse? (s : String) : Option Json := do
  ofTokens? (← tokens? s.toList)

end TextIntent.Json

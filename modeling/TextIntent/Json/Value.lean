import TextIntent.Decimal.Numeral

/-! JSON values. Numbers keep the digits they were written with, so that reading one as an integer
or as a double is left to whoever uses it. -/
namespace TextIntent

/-- A string or a key is `none` when its escapes leave a surrogate unpaired: it is part of a valid
document and yet no text. -/
inductive Json where
  | null
  | bool (b : Bool)
  | number (n : Decimal.Numeral)
  | string (s : Option String)
  | array (items : List Json)
  | object (members : List (Option String × Json))
  deriving Inhabited

namespace Json

def text (s : String) : Json := .string (some s)

def nat (n : Nat) : Json := .number (.ofNat n)

def texts (ss : List String) : Json := .array (ss.map text)

/-- An object with these members, in this order. -/
def record (fields : List (String × Json)) : Json :=
  .object (fields.map fun (key, value) => (some key, value))

end Json
end TextIntent

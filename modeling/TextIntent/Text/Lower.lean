import TextIntent.Text.Class
import TextIntent.Text.LowerRuns

/-! Lower-casing of text. Most characters are mapped on their own; a capital sigma becomes a final
sigma where it ends a word, which `isFinal` reads off the neighbouring letters. -/
namespace TextIntent.Text

def LowerRun.mem (r : LowerRun) (n : Nat) : Bool :=
  decide (r.first ≤ n) && decide (n ≤ r.last) && decide ((n - r.first) % r.stride = 0)

/-- The code point a run maps to; one outside every run is kept. -/
def lowerCodePoint (n : Nat) : Nat :=
  match lowerRuns.find? (·.mem n) with
  | some r => (n + r.shift).toNat
  | none => n

/-- The small letters of one character, without regard to its neighbours. A dotted capital `İ`
keeps its dot as a combining character. -/
def lowerChar (c : Char) : List Char :=
  if c.toNat < 0x80 then [c.toLower]
  else if c = 'İ' then ['i', '\u0307']
  else [Char.ofNat (lowerCodePoint c.toNat)]

/-- Skipping the characters that casing ignores, the next one has a case. -/
def startsCased (cs : List Char) : Bool :=
  match cs.dropWhile isCaseIgnorable with
  | [] => false
  | c :: _ => isCased c

/-- A sigma between these texts, the first one reversed, ends a word: a letter comes before it and
none after it. -/
def isFinal (before after : List Char) : Bool := startsCased before && !startsCased after

/-- Lower-cases the text `cs` that follows the reversed text `before`. -/
def lowerFrom (before : List Char) : List Char → List Char
  | [] => []
  | c :: cs =>
    let mapped :=
      if c = 'Σ' then [if isFinal before cs then 'ς' else 'σ'] else lowerChar c
    mapped ++ lowerFrom (c :: before) cs

def lowerChars (cs : List Char) : List Char := lowerFrom [] cs

/-- The text in small letters. -/
def lower (s : String) : String := String.ofList (lowerChars s.toList)

@[simp] theorem lowerChars_nil : lowerChars [] = [] := rfl

@[simp] theorem toList_lower (s : String) : (lower s).toList = lowerChars s.toList := by
  simp [lower]

end TextIntent.Text

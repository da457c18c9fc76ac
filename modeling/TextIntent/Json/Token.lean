import TextIntent.Json.Value

/-! The tokens of JSON text. A scanner takes the text one character at a time; numbers and words end
at the first character that cannot belong to them. -/
namespace TextIntent.Json

open Decimal (Numeral)

inductive Token where
  | openArray
  | closeArray
  | openObject
  | closeObject
  | comma
  | colon
  | null
  | bool (b : Bool)
  | number (n : Numeral)
  | string (s : Option String)

/-- Part of a string: a character, or a code unit given by its four hexadecimal digits. -/
inductive Piece where
  | char (c : Char)
  | unit (n : Nat)

def isHighSurrogate (n : Nat) : Bool := 0xd800 ≤ n && n < 0xdc00

def isLowSurrogate (n : Nat) : Bool := 0xdc00 ≤ n && n < 0xe000

/-- The text of a string, if each high surrogate is followed by a low one and no low one stands
alone. -/
def assemble : List Piece → Option (List Char)
  | [] => some []
  | .char c :: ps => (assemble ps).map (c :: ·)
  | .unit n :: ps =>
    if isHighSurrogate n then
      match ps with
      | .unit m :: ps' =>
        if isLowSurrogate m then
          (assemble ps').map (Char.ofNat (0x10000 + (n - 0xd800) * 0x400 + (m - 0xdc00)) :: ·)
        else none
      | _ => none
    else if isLowSurrogate n then none
    else (assemble ps).map (Char.ofNat n :: ·)

/-- The character that a one-letter escape stands for. -/
def escape? : Char → Option Char
  | '"' => some '"'
  | '\\' => some '\\'
  | '/' => some '/'
  | 'b' => some '\x08'
  | 'f' => some '\x0c'
  | 'n' => some '\n'
  | 'r' => some '\r'
  | 't' => some '\t'
  | _ => none

def hexDigit? (c : Char) : Option Nat :=
  if c.isDigit then some (c.toNat - '0'.toNat)
  else if 'a' ≤ c ∧ c ≤ 'f' then some (c.toNat - 'a'.toNat + 10)
  else if 'A' ≤ c ∧ c ≤ 'F' then some (c.toNat - 'A'.toNat + 10)
  else none

def natOfDigits (ds : List Char) : Nat := ds.foldl (fun n d => 10 * n + (d.toNat - '0'.toNat)) 0

/-- The exponent of a number: nothing, or a letter, perhaps a sign, and digits to the end. -/
def exponent? : List Char → Option (Option Int)
  | [] => some none
  | e :: cs =>
    if e = 'e' ∨ e = 'E' then
      let (negative, ds) := match cs with
        | '-' :: ds => (true, ds)
        | '+' :: ds => (false, ds)
        | ds => (false, ds)
      if ds ≠ [] ∧ ds.all Char.isDigit then
        some (some (if negative then -(natOfDigits ds : Int) else natOfDigits ds))
      else none
    else none

/-- A number: digits without a leading zero, perhaps a point and digits, perhaps an exponent. -/
def numeral? (cs : List Char) : Option Numeral := do
  let (negative, cs) := match cs with
    | '-' :: cs => (true, cs)
    | cs => (false, cs)
  let whole := cs.takeWhile Char.isDigit
  guard (whole ≠ [] ∧ (whole.head? = some '0' → whole.length = 1))
  match cs.dropWhile Char.isDigit with
  | '.' :: rest =>
    let fraction := rest.takeWhile Char.isDigit
    guard (fraction ≠ [])
    let exponent ← exponent? (rest.dropWhile Char.isDigit)
    return ⟨negative, natOfDigits (whole ++ fraction), fraction.length, exponent⟩
  | rest =>
    let exponent ← exponent? rest
    return ⟨negative, natOfDigits whole, 0, exponent⟩

def word? (cs : List Char) : Option Token :=
  match String.ofList cs with
  | "null" => some .null
  | "true" => some (.bool true)
  | "false" => some (.bool false)
  | _ => none

/-- What the scanner is in the middle of. Accumulated characters are in reverse order. -/
inductive Mode where
  | between
  | word (seen : List Char)
  | number (seen : List Char)
  | string (seen : List Piece)
  | escape (seen : List Piece)
  | unit (seen : List Piece) (digits : Nat) (value : Nat)

/-- The tokens found so far, the last one first, and the token under way. -/
structure Scanner where
  found : List Token
  mode : Mode

def isNumberChar (c : Char) : Bool :=
  c.isDigit || c = '-' || c = '+' || c = '.' || c = 'e' || c = 'E'

/-- Starts a token, or skips a blank. -/
def start (found : List Token) (c : Char) : Option Scanner :=
  match c with
  | ' ' | '\t' | '\n' | '\r' => some ⟨found, .between⟩
  | '[' => some ⟨.openArray :: found, .between⟩
  | ']' => some ⟨.closeArray :: found, .between⟩
  | '\x7b' => some ⟨.openObject :: found, .between⟩
  | '\x7d' => some ⟨.closeObject :: found, .between⟩
  | ',' => some ⟨.comma :: found, .between⟩
  | ':' => some ⟨.colon :: found, .between⟩
  | '"' => some ⟨found, .string []⟩
  | c =>
    if c.isDigit || c = '-' then some ⟨found, .number [c]⟩
    else if c.isLower then some ⟨found, .word [c]⟩
    else none

/-- Ends a word or number that is under way. -/
def finish (s : Scanner) : Option (List Token) :=
  match s.mode with
  | .between => some s.found
  | .word seen => (word? seen.reverse).map (· :: s.found)
  | .number seen => (numeral? seen.reverse).map (.number · :: s.found)
  | _ => none

def scan (s : Scanner) (c : Char) : Option Scanner :=
  match s.mode with
  | .between => start s.found c
  | .word seen =>
    if c.isLower then some ⟨s.found, .word (c :: seen)⟩
    else do start (← finish s) c
  | .number seen =>
    if isNumberChar c then some ⟨s.found, .number (c :: seen)⟩
    else do start (← finish s) c
  | .string seen =>
    if c = '"' then
      some ⟨.string ((assemble seen.reverse).map String.ofList) :: s.found, .between⟩
    else if c = '\\' then some ⟨s.found, .escape seen⟩
    else if c < ' ' then none
    else some ⟨s.found, .string (.char c :: seen)⟩
  | .escape seen =>
    if c = 'u' then some ⟨s.found, .unit seen 0 0⟩
    else (escape? c).map fun d => ⟨s.found, .string (.char d :: seen)⟩
  | .unit seen digits value => do
    let d ← hexDigit? c
    let value := 16 * value + d
    return ⟨s.found, if digits = 3 then .string (.unit value :: seen)
      else .unit seen (digits + 1) value⟩

/-- All tokens of a text, the last one first. -/
def tokensReversed? (cs : List Char) : Option (List Token) := do
  finish (← cs.foldlM scan ⟨[], .between⟩)

/-- All tokens of a text. -/
def tokens? (cs : List Char) : Option (List Token) := (tokensReversed? cs).map List.reverse

end TextIntent.Json

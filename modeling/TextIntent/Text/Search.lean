import TextIntent.Text.Class

/-! Finding words and phrases in a text. `occurs` looks for a phrase anywhere, and `containsWord` for
a maximal run of letters and numbers. -/
namespace TextIntent.Text

/-- The phrase stands somewhere in the text. -/
def occursIn (phrase : List Char) : List Char → Bool
  | [] => phrase.isEmpty
  | c :: cs => phrase.isPrefixOf (c :: cs) || occursIn phrase cs

theorem occursIn_iff {phrase text : List Char} :
    occursIn phrase text = true ↔ phrase <:+: text := by
  induction text with
  | nil => simp [occursIn]
  | cons c cs ih => simp [occursIn, ih, List.infix_cons_iff]

/-- The phrase stands somewhere in the text; the empty phrase does in every text. -/
def occurs (phrase text : String) : Bool := occursIn phrase.toList text.toList

theorem occurs_iff {phrase text : String} :
    occurs phrase text = true ↔ phrase.toList <:+: text.toList := occursIn_iff

def occursAny (phrases : List String) (text : String) : Bool := phrases.any (occurs · text)

/-- The first run of letters and numbers, and those after each further character. Runs are empty
where two separators meet. -/
def runs : List Char → List Char × List (List Char)
  | [] => ([], [])
  | c :: cs =>
    let (first, rest) := runs cs
    if isAlphanumeric c then (c :: first, rest) else ([], first :: rest)

/-- The word is one of the runs of letters and numbers of the text. -/
def containsWord (text word : String) : Bool :=
  let (first, rest) := runs text.toList
  (first :: rest).any (· == word.toList)

/-- The text without the blanks at both ends. -/
def trim (s : String) : String :=
  String.ofList ((s.toList.dropWhile isBlank).reverse.dropWhile isBlank).reverse

/-- The text holds nothing but blanks. -/
def isVacant (s : String) : Bool := s.toList.all isBlank

end TextIntent.Text

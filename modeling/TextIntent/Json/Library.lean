import TextIntent.Json.Format
import TextIntent.Json.Reader
import TextIntent.Json.Writer

/-! What saving and loading ask of a JSON library: text for documents, documents for text, and the
numbers of a document. `Library.standard` is the library of this project. -/
namespace TextIntent.Json

structure Library where
  write : Json → String
  parse? : String → Option Json
  /-- How a double is put into a document and taken out of it. -/
  double : Format Float

namespace Library

variable {β : Type} (lib : Library)

def standard : Library := ⟨Json.write, Json.parse?, Format.double⟩

/-- The text of a value. -/
def print (f : Format β) (x : β) : String := lib.write (f.encode x)

/-- The value that a text stands for, if it is the text of a document and that has the right form. -/
def read? (f : Format β) (s : String) : Option β := do f.decode (← lib.parse? s)

end Library
end TextIntent.Json

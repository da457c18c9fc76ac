import TextIntent.Config.Basic
import TextIntent.Fault

/-! The words of a category are listed in several tables, and `vocabularyChecks` demands that those
agree. Tables are compared by their vocabulary, the sorted list of their distinct words, so neither
order nor repetition counts. -/
namespace TextIntent

/-- Inserts a word into a sorted list unless it is there. -/
def insertWord (w : String) : List String → List String
  | [] => [w]
  | v :: vs => if w < v then w :: v :: vs else if w = v then v :: vs else v :: insertWord w vs

/-- The distinct words in increasing order. -/
def vocabulary (words : List String) : List String := words.foldr insertWord []

theorem mem_insertWord {w x : String} {vs : List String} :
    x ∈ insertWord w vs ↔ x = w ∨ x ∈ vs := by
  induction vs with
  | nil => simp [insertWord]
  | cons v vs ih =>
    unfold insertWord
    split
    · simp
    · split
      · next h => simp [h]
      · simp only [List.mem_cons, ih]
        constructor
        · rintro (h | h | h) <;> simp [h]
        · rintro (h | h | h) <;> simp [h]

theorem mem_vocabulary {x : String} {words : List String} : x ∈ vocabulary words ↔ x ∈ words := by
  induction words with
  | nil => simp [vocabulary]
  | cons w ws ih =>
    change x ∈ insertWord w (vocabulary ws) ↔ _
    rw [mem_insertWord, ih, List.mem_cons]

namespace Config

variable {α : Type}

/-- The category whose words each slot carries, if any. -/
def categoriesBySlot : List (Option Category) :=
  [some .greeting, some .help, some .status, some .navigation, none, some .physics,
    some .operator, some .structural, none, none]

/-- The vocabulary of a category over all its lexical tables. -/
def vocabularyOf (config : Config α) (c : Category) : List String :=
  vocabulary ((config.evidence.lexical.filter (·.category == c)).flatMap (·.words))

/-- The words of a table make up the whole vocabulary of a category. -/
def sameWords (config : Config α) (table : WordTable) (words : List String) (c : Category) :
    Option (ConfigFault α) :=
  let words := vocabulary words
  let lexical := config.vocabularyOf c
  if words = lexical then none else some (.wordsDiffer table words lexical)

/-- The words of a table belong to the vocabulary of a category. -/
def knownWords (config : Config α) (table : WordTable) (words : List String) (c : Category) :
    Option (ConfigFault α) :=
  let lexical := config.vocabularyOf c
  ((vocabulary words).find? fun w => !lexical.contains w).map (.wordMissing table)

/-- Every demand on the word tables, with the fault of each that is not met. -/
def vocabularyChecks (config : Config α) : List (Option (ConfigFault α)) :=
  ((config.features.slots.zip categoriesBySlot).filterMap fun (slot, category) =>
      category.map fun c => config.sameWords (.slot c) slot.words c)
    ++ [config.sameWords .structuralKeywords config.bridge.structuralWords .structural,
      config.sameWords .physicsCues config.bridge.physicsCues .physics,
      config.knownWords .operatorKeywords config.bridge.operatorWords .operator]
    ++ config.suppression.discriminative.map fun table =>
      config.knownWords (.discriminative table.category) table.words table.category

end Config
end TextIntent

import TextIntent.Text.Alphanumeric
import TextIntent.Text.AttachedMarks
import TextIntent.Text.Cased
import TextIntent.Text.CaseIgnorable
import TextIntent.Text.Hidden

/-! Classes of characters, for the whole of Unicode. -/
namespace TextIntent.Text

/-- The property `White_Space`. -/
def isBlank (c : Char) : Bool :=
  inRanges [(0x9, 0xd), (0x20, 0x20), (0x85, 0x85), (0xa0, 0xa0), (0x1680, 0x1680),
    (0x2000, 0x200a), (0x2028, 0x2029), (0x202f, 0x202f), (0x205f, 0x205f), (0x3000, 0x3000)]
    c.toNat

/-- A letter or a number. -/
def isAlphanumeric (c : Char) : Bool := inRanges alphanumericRanges c.toNat

def isCased (c : Char) : Bool := inRanges casedRanges c.toNat

def isCaseIgnorable (c : Char) : Bool := inRanges caseIgnorableRanges c.toNat

/-- The character is a mark on the one before it. -/
def isAttachedMark (c : Char) : Bool := inRanges attachedMarkRanges c.toNat

/-- The character has a glyph, or is the space. -/
def isPrintable (c : Char) : Bool := !inRanges hiddenRanges c.toNat

/-- Every space and control that core counts as white space is blank. -/
theorem isBlank_of_isWhitespace {c : Char} (h : c.isWhitespace = true) : isBlank c = true := by
  simp only [Char.isWhitespace, Bool.or_eq_true, decide_eq_true_eq] at h
  rcases h with ((h | h) | h) | h <;> subst h <;> decide

end TextIntent.Text

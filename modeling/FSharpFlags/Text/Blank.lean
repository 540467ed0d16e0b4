import FSharpFlags.Text.CharSet

/-!
# Blank characters

Blank means white space in the wide sense: the spaces of every script, the line and paragraph
separators and the four information separators U+001C to U+001F. Two operations rest on it:
`strip` removes blanks from both ends of a text, and `words` lists the maximal runs of
characters that are not blank.
-/

namespace FSharpFlags

namespace Text

/-- The white-space characters. -/
def blanks : CharSet where
  ranges :=
    [(0x9, 0xD), (0x1C, 0x20), (0x85, 0x85), (0xA0, 0xA0), (0x1680, 0x1680), (0x2000, 0x200A),
     (0x2028, 0x2029), (0x202F, 0x202F), (0x205F, 0x205F), (0x3000, 0x3000)]

/-- Whether a character is white space. -/
def isBlank (c : Char) : Bool := blanks.contains c

/-- The text without its leading and trailing blanks. -/
def strip (cs : List Char) : List Char :=
  ((cs.dropWhile isBlank).reverse.dropWhile isBlank).reverse

/-- The maximal runs of characters that are not blank, in order. -/
def words (cs : List Char) : List (List Char) :=
  (cs.splitOnP isBlank).filter fun w ↦ !w.isEmpty

/-- Whether the text holds blanks only. -/
def isAllBlank (cs : List Char) : Bool := cs.all isBlank

@[simp] theorem strip_nil : strip [] = [] := rfl

@[simp] theorem words_nil : words [] = [] := rfl

end Text

end FSharpFlags

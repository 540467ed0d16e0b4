/-!
# Lines of a text

A line of a file ends with a line feed, a carriage return or both in this order, and a reader of
texts sees a line feed in each case. A place in a text is told by its line and column, both counted
from one, and by the number of characters before it.
-/

namespace FSharpFlags

namespace Text

/-- The characters with a line feed for every end of a line. -/
def withLineFeeds : List Char → List Char
  | [] => []
  | '\r' :: '\n' :: rest => '\n' :: withLineFeeds rest
  | '\r' :: rest => '\n' :: withLineFeeds rest
  | c :: rest => c :: withLineFeeds rest

@[simp] theorem withLineFeeds_nil : withLineFeeds [] = [] := rfl

end Text

/-- A place in a text. -/
structure Position where
  /-- The number of characters before the place. -/
  offset : Nat
  /-- The line, counted from one. -/
  line : Nat
  /-- The column, counted from one. -/
  column : Nat
  deriving DecidableEq, Repr

namespace Position

/-- The place after the first characters of a text. -/
def after (offset : Nat) (cs : List Char) : Position where
  offset
  line := (cs.take offset).count '\n' + 1
  column := ((cs.take offset).reverse.takeWhile (· ≠ '\n')).length + 1

/-- How a place is told. -/
def text (p : Position) : String :=
  s!"line {p.line} column {p.column} (char {p.offset})"

end Position

end FSharpFlags

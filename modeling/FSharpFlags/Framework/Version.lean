import FSharpFlags.Text.Blank
import FSharpFlags.Text.Digit
import FSharpFlags.Text.Numeral

/-!
# Framework versions

A version is the list of the numbers between its dots. Reading is forgiving: one leading marker
that is not a digit (the `v` of `v4.5`) is dropped and a segment that is no numeral counts as
zero, so the only text that cannot be read is one with a numeral of unreadable length.

Versions are compared on their common beginning alone. `4` and `4.5.1` are indistinguishable, and
an incumbent is kept unless the other version is really newer.
-/

namespace FSharpFlags

/-- The numbers of a version, most significant first. -/
abbrev Version := List Nat

namespace Version

/-- Drops one leading character that is not a digit. -/
def dropMarker : List Char → List Char
  | [] => []
  | c :: cs => if Text.isDigitSign c then c :: cs else cs

/-- The number of one segment, zero where there is no numeral. -/
def readSegment (segment : List Char) : Except Failure Nat :=
  if Numeral.isNumeral (Text.strip segment) then Numeral.read (Text.strip segment) else .ok 0

/-- The segments of a version text. -/
def segments (cs : List Char) : List (List Char) :=
  (dropMarker (Text.strip cs)).splitOn '.'

/-- Reads a version text. -/
def parse (text : String) : Except Failure Version := (segments text.toList).mapM readSegment

/-- The version with dots between its numbers. -/
def format (version : Version) : String := ".".intercalate (version.map Nat.repr)

/-- Whether the candidate beats the incumbent on their common beginning. -/
def prefers {α : Type} [LT α] [DecidableLT α] : List α → List α → Bool
  | a :: as, b :: bs => if b < a then true else if a < b then false else prefers as bs
  | _, _ => false

section Prefers

variable {α : Type} [LT α] [DecidableLT α]

@[simp] theorem prefers_nil_left (best : List α) : prefers [] best = false := by
  cases best <;> rfl

@[simp] theorem prefers_nil_right (candidate : List α) : prefers candidate [] = false := by
  cases candidate <;> rfl

theorem prefers_cons_cons (a b : α) (as bs : List α) :
    prefers (a :: as) (b :: bs) = if b < a then true else if a < b then false else prefers as bs :=
  rfl

end Prefers

end Version

end FSharpFlags

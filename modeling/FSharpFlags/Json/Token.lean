import FSharpFlags.Json.Fault
import FSharpFlags.Json.Value

/-!
# The tokens of a JSON text

A text is cut into tokens from left to right, blanks between them skipped. Each token is measured
first and cut off afterwards, so the text that is left is visibly shorter. What begins no token
becomes a token of its own that no text of a value may hold, and the end of the text is a token
too, so that whatever can go wrong goes wrong at a token.

Strings are texts of characters here. An escape can also stand for half of a surrogate pair, and
where the other half is missing there is no character. Such a string is well-formed but no text; it
has a token of its own.
-/

namespace FSharpFlags

namespace Json

/-- A token of a JSON text. -/
inductive Token where
  | openArray
  | closeArray
  | openObject
  | closeObject
  | comma
  | colon
  /-- A value that is written as one token. -/
  | scalar (value : Json)
  /-- A whole number, by its sign and digits. -/
  | digits (negative : Bool) (ds : List Char)
  /-- A string. -/
  | text (value : String)
  /-- A string that cannot be read, with the place of the fault. -/
  | brokenText (cause : Cause) (offset : Nat)
  /-- A string with half of a pair on its own. -/
  | unpairedText
  /-- Something that is no token. -/
  | junk
  /-- The end of the text. -/
  | finish

/-- A token with the number of characters before it. -/
structure Placed where
  /-- The number of characters before the token. -/
  offset : Nat
  /-- The token. -/
  token : Token

/-- The blanks between tokens. -/
def isSpace (c : Char) : Bool := c = ' ' || c = '\t' || c = '\n' || c = '\r'

/-- The value of a hexadecimal digit. -/
def hexDigit? (c : Char) : Option Nat :=
  if '0' ≤ c ∧ c ≤ '9' then some (c.toNat - '0'.toNat)
  else if 'a' ≤ c ∧ c ≤ 'f' then some (c.toNat - 'a'.toNat + 10)
  else if 'A' ≤ c ∧ c ≤ 'F' then some (c.toNat - 'A'.toNat + 10)
  else none

/-- The value of four hexadecimal digits. -/
def unit? (a b c d : Char) : Option Nat := do
  return 4096 * (← hexDigit? a) + 256 * (← hexDigit? b) + 16 * (← hexDigit? c) + (← hexDigit? d)

/-- The character of an escape of two characters. -/
def escaped? : Char → Option Char
  | '"' => some '"'
  | '\\' => some '\\'
  | '/' => some '/'
  | 'b' => some '\x08'
  | 'f' => some '\x0c'
  | 'n' => some '\n'
  | 'r' => some '\r'
  | 't' => some '\t'
  | _ => none

/-- Whether a unit is the first of a pair. -/
def isHigh (unit : Nat) : Bool := 0xD800 ≤ unit && unit < 0xDC00

/-- Whether a unit is the second of a pair. -/
def isLow (unit : Nat) : Bool := 0xDC00 ≤ unit && unit < 0xE000

/-- The character of a code; half of a pair on its own is none. -/
def codeChar? (code : Nat) : Option Char :=
  if isHigh code || isLow code then none else some (Char.ofNat code)

/-- The characters of the codes, the two halves of a pair taken together. -/
def joinPairs? : List Nat → Option (List Char)
  | [] => some []
  | [code] => (codeChar? code).map ([·])
  | first :: second :: rest =>
    if isHigh first && isLow second then
      (joinPairs? rest).map
        (Char.ofNat (0x10000 + 1024 * (first - 0xD800) + (second - 0xDC00)) :: ·)
    else do return (← codeChar? first) :: (← joinPairs? (second :: rest))

/-- The token of a string, given its codes. -/
def textToken (codes : List Nat) : Token :=
  match joinPairs? codes with
  | some cs => .text (String.ofList cs)
  | none => .unpairedText

/-- What can be wrong in a string, and where. -/
abbrev StringFault := Cause × Nat

/-- The codes of a string up to its closing mark, and what follows the mark. The string begins at
the offset `start`, and the characters to scan at the offset `here`. A code is only taken when
something follows its digits. -/
def scanString (start here : Nat) : List Char → Except StringFault (List Nat × List Char)
  | [] => .error (.openString, start)
  | '"' :: rest => .ok ([], rest)
  | '\\' :: 'u' :: a :: b :: c :: d :: rest =>
    match unit? a b c d with
    | none => .error (.incompleteCode, here + 1)
    | some unit =>
      if rest.isEmpty then .error (.incompleteCode, here + 1)
      else (scanString start (here + 6) rest).map fun r ↦ (unit :: r.1, r.2)
  | '\\' :: 'u' :: _ => .error (.incompleteCode, here + 1)
  | ['\\'] => .error (.openString, start)
  | '\\' :: c :: rest =>
    match escaped? c with
    | none => .error (.unknownEscape, here)
    | some image => (scanString start (here + 2) rest).map fun r ↦ (image.toNat :: r.1, r.2)
  | c :: rest =>
    if c.toNat < 0x20 then .error (.controlCharacter, here)
    else (scanString start (here + 1) rest).map fun r ↦ (c.toNat :: r.1, r.2)

/-- The digits of a whole number: a zero alone, or digits that begin with another one. -/
def wholeDigits : List Char → List Char
  | '0' :: _ => ['0']
  | cs => cs.takeWhile Char.isDigit

/-- The digits after a point; none when the point does not begin a fraction. -/
def fractionDigits : List Char → List Char
  | '.' :: rest => rest.takeWhile Char.isDigit
  | _ => []

/-- The length and the value of an exponent; zero of both when there is none. -/
def exponentPart : List Char → Nat × Int
  | e :: rest =>
    if e = 'e' || e = 'E' then
      let sign := (rest.takeWhile fun c ↦ c = '+' || c = '-').take 1
      let ds := (rest.drop sign.length).takeWhile Char.isDigit
      let value : Int := Nat.ofDigitChars 10 ds 0
      if ds.isEmpty then (0, 0)
      else (1 + sign.length + ds.length, if sign = ['-'] then -value else value)
    else (0, 0)
  | [] => (0, 0)

/-- The number at the front and its length. -/
def scanNumber? (negative : Bool) (cs : List Char) : Option (Token × Nat) :=
  let whole := wholeDigits cs
  let afterWhole := cs.drop whole.length
  let fraction := fractionDigits afterWhole
  let fractionLength := if fraction.isEmpty then 0 else 1 + fraction.length
  let (exponentLength, exponent) := exponentPart (afterWhole.drop fractionLength)
  let length := whole.length + fractionLength + exponentLength
  if whole.isEmpty then none
  else if fractionLength = 0 ∧ exponentLength = 0 then some (.digits negative whole, length)
  else
    let ds := whole ++ fraction
    some (.scalar (.real (Binary64.ofDecimal negative (Nat.ofDigitChars 10 ds 0) ds.length
      (exponent - fraction.length))), length)

/-- The words that stand for a value. -/
def literals : List (String × Json) :=
  [("null", .null), ("true", .bool true), ("false", .bool false), ("NaN", .real .notANumber),
    ("Infinity", .real (.infinite false)), ("-Infinity", .real (.infinite true))]

/-- The word at the front and its length. -/
def scanLiteral? (cs : List Char) : Option (Token × Nat) :=
  (literals.find? fun l ↦ l.1.toList.isPrefixOf cs).map fun l ↦ (.scalar l.2, l.1.length)

/-- The token at the front and its length, for characters at the given offset. -/
def scanToken (offset : Nat) (cs : List Char) : Token × Nat :=
  match cs with
  | '[' :: _ => (.openArray, 1)
  | ']' :: _ => (.closeArray, 1)
  | '\x7b' :: _ => (.openObject, 1)
  | '\x7d' :: _ => (.closeObject, 1)
  | ',' :: _ => (.comma, 1)
  | ':' :: _ => (.colon, 1)
  | '"' :: rest =>
    match scanString offset (offset + 1) rest with
    | .ok (codes, left) => (textToken codes, cs.length - left.length)
    | .error (cause, place) => (.brokenText cause place, cs.length)
  | '-' :: rest =>
    match scanNumber? true rest with
    | some (token, length) => (token, length + 1)
    | none => (scanLiteral? cs).getD (.junk, cs.length)
  | _ => ((scanNumber? false cs).or (scanLiteral? cs)).getD (.junk, cs.length)

/-- The tokens of characters at the given offset. -/
def tokens (offset : Nat) (cs : List Char) : List Placed :=
  match cs with
  | [] => [⟨offset, .finish⟩]
  | c :: rest =>
    if isSpace c then tokens (offset + 1) rest
    else
      let (token, length) := scanToken offset (c :: rest)
      ⟨offset, token⟩ :: tokens (offset + 1 + (length - 1)) (rest.drop (length - 1))
termination_by cs.length
decreasing_by
  · simp
  · simp only [List.length_drop, List.length_cons]
    omega

end Json

end FSharpFlags

import FSharpFlags.Failure

/-!
# Faults of JSON texts

Why a text is no value: what was expected where something else stands, or what is wrong inside a
string. Where the fault lies is part of it, as the number of characters before it.
-/

namespace FSharpFlags

namespace Json

/-- What is wrong in a text. -/
inductive Cause where
  /-- The text begins with a byte order mark. -/
  | byteOrderMark
  /-- No value begins here. -/
  | noValue
  /-- No key begins here. -/
  | noKey
  /-- No comma separates two items. -/
  | noComma
  /-- No colon follows a key. -/
  | noColon
  /-- Something follows the value. -/
  | extraData
  /-- A string has no end. -/
  | openString
  /-- A control character stands in a string. -/
  | controlCharacter
  /-- An escape of two characters has no meaning. -/
  | unknownEscape
  /-- An escape by a code has no four digits. -/
  | incompleteCode
  deriving DecidableEq, Repr

/-- What is said of the cause. -/
def Cause.text : Cause → String
  | .byteOrderMark => "Unexpected UTF-8 BOM (decode using utf-8-sig)"
  | .noValue => "Expecting value"
  | .noKey => "Expecting property name enclosed in double quotes"
  | .noComma => "Expecting ',' delimiter"
  | .noColon => "Expecting ':' delimiter"
  | .extraData => "Extra data"
  | .openString => "Unterminated string starting at"
  | .controlCharacter => "Invalid control character at"
  | .unknownEscape => "Invalid \\escape"
  | .incompleteCode => "Invalid \\uXXXX escape"

/-- Why a text is no value. -/
inductive Fault where
  /-- The text is not written as JSON; the offset is that of the fault. -/
  | malformed (cause : Cause) (offset : Nat)
  /-- The text has a whole number that cannot be read. -/
  | unreadableNumber (failure : Failure)
  /-- The text has a string that is no text, with half of a surrogate pair on its own. -/
  | unpairedHalf
  deriving DecidableEq, Repr

end Json

end FSharpFlags

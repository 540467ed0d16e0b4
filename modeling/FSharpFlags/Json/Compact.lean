import FSharpFlags.Json.Value

/-!
# Compact JSON texts

The compact text of a value has no blanks, the members of an object stand in the order of their
keys, and every character is printable ASCII. A character beyond the first 65536 is written as the
escapes of its two halves.
-/

namespace FSharpFlags

namespace Json

/-- The escape of a code of sixteen bits. -/
def unitEscape (unit : Nat) : List Char := '\\' :: 'u' :: Text.hex 4 unit

/-- How one character of a string is written. -/
def escapeChar (c : Char) : List Char :=
  if c = '"' || c = '\\' then ['\\', c]
  else if c = '\n' then ['\\', 'n']
  else if c = '\r' then ['\\', 'r']
  else if c = '\t' then ['\\', 't']
  else if c = '\x08' then ['\\', 'b']
  else if c = '\x0c' then ['\\', 'f']
  else if ' ' ≤ c && c ≤ '~' then [c]
  else if c.toNat < 0x10000 then unitEscape c.toNat
  else
    unitEscape (0xD800 + (c.toNat - 0x10000) / 1024)
      ++ unitEscape (0xDC00 + (c.toNat - 0x10000) % 1024)

/-- The text of a string. -/
def stringText (text : String) : String :=
  "\"" ++ String.ofList (text.toList.flatMap escapeChar) ++ "\""

/-- The text of a number with a fraction or an exponent. -/
def numberText : Binary64 → String
  | .notANumber => "NaN"
  | .infinite negative => if negative then "-Infinity" else "Infinity"
  | x => realText x

mutual

/-- The compact text of a value. -/
def compact : Json → String
  | .null => "null"
  | .bool value => if value then "true" else "false"
  | .integer value => toString value
  | .real value => numberText value
  | .string value => stringText value
  | .array items => "[" ++ ",".intercalate (compactItems items) ++ "]"
  | .object members =>
    let sorted := (compactMembers members).mergeSort fun a b ↦ decide (a.1 ≤ b.1)
    "\x7b" ++ ",".intercalate (sorted.map fun m ↦ stringText m.1 ++ ":" ++ m.2) ++ "\x7d"

/-- The compact texts of the items of an array. -/
def compactItems : List Json → List String
  | [] => []
  | item :: rest => compact item :: compactItems rest

/-- The keys of an object with the compact texts of their values. -/
def compactMembers : List (String × Json) → List (String × String)
  | [] => []
  | (key, value) :: rest => (key, compact value) :: compactMembers rest

end

/-- A text, or nothing. -/
def ofText? (text : Option String) : Json := (text.map Json.string).getD .null

/-- An array of texts. -/
def ofTexts (texts : List String) : Json := .array (texts.map .string)

end Json

end FSharpFlags

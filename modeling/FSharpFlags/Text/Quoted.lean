import FSharpFlags.Text.Printable

/-!
# Quoted texts

Messages show paths and names between quotation marks. Single marks are used unless the text
holds a single mark and no double one. Inside, the backslash, the mark in use, line feed,
carriage return and tab have two-character escapes, every other character that is not printable
is written by its code point in hexadecimal, and all else stands for itself.
-/

namespace FSharpFlags

namespace Text

/-- A number in lower-case hexadecimal, filled up with zeros to the given width. -/
def hex (width n : Nat) : List Char :=
  let ds := Nat.toDigits 16 n
  List.replicate (width - ds.length) '0' ++ ds

/-- The code point of a character as an escape, in the shortest of the three widths that fits. -/
def codeEscape (c : Char) : List Char :=
  if c.toNat < 0x100 then '\\' :: 'x' :: hex 2 c.toNat
  else if c.toNat < 0x10000 then '\\' :: 'u' :: hex 4 c.toNat
  else '\\' :: 'U' :: hex 8 c.toNat

/-- How one character is written between the given marks. -/
def quoteChar (mark c : Char) : List Char :=
  if c = mark || c = '\\' then ['\\', c]
  else if c = '\n' then ['\\', 'n']
  else if c = '\r' then ['\\', 'r']
  else if c = '\t' then ['\\', 't']
  else if isPrintable c then [c]
  else codeEscape c

/-- The mark that a text is quoted with. -/
def markFor (cs : List Char) : Char :=
  if cs.contains '\'' && !cs.contains '"' then '"' else '\''

/-- The text between quotation marks. -/
def quote (cs : List Char) : List Char :=
  markFor cs :: cs.flatMap (quoteChar (markFor cs)) ++ [markFor cs]

end Text

/-- The text between quotation marks. -/
def quoted (text : String) : String := String.ofList (Text.quote text.toList)

/-- A list of texts, each quoted, between square brackets. -/
def quotedList (texts : List String) : String :=
  "[" ++ ", ".intercalate (texts.map quoted) ++ "]"

end FSharpFlags

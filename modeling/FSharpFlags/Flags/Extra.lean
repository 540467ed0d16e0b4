import FSharpFlags.Attempt
import FSharpFlags.Text.Blank

/-!
# Extra flags

The further flags of a configuration are one text. Blanks separate arguments except between
quotation marks, and the marks themselves are dropped. The text is scanned once from left to
right; what does not scan (an open quotation, or a blank outside quotations that is none of the
five separators) is split at every blank instead, with the marks left in place.
-/

namespace FSharpFlags

namespace ExtraFlags

/-- The blanks that separate arguments. -/
def isSeparator (c : Char) : Bool :=
  c = ' ' || c = '\t' || c = '\x0c' || c = '\r' || c = '\n'

/-- Where the scanner stands; an argument is kept with its last character first. -/
inductive Standing where
  /-- Between two arguments. -/
  | between
  /-- In an argument, outside quotation marks. -/
  | outside (argument : List Char)
  /-- In an argument, between quotation marks. -/
  | inside (argument : List Char)

/-- The arguments of the text from the present standing on. -/
def scan : Standing → List Char → Option (List (List Char))
  | .between, [] => some []
  | .outside argument, [] => some [argument.reverse]
  | .inside _, [] => none
  | .between, c :: rest =>
    if c = '"' then scan (.inside []) rest
    else if isSeparator c then scan .between rest
    else if Text.isBlank c then none
    else scan (.outside [c]) rest
  | .outside argument, c :: rest =>
    if c = '"' then scan (.inside argument) rest
    else if isSeparator c then (scan .between rest).map (argument.reverse :: ·)
    else if Text.isBlank c then none
    else scan (.outside (c :: argument)) rest
  | .inside argument, c :: rest =>
    if c = '"' then scan (.outside argument) rest else scan (.inside (c :: argument)) rest

/-- The arguments of a text that scans. -/
def arguments? (cs : List Char) : Option (List (List Char)) := scan .between cs

end ExtraFlags

/-- Splits the text of the extra flags into arguments. -/
def splitExtraFlags (text : String) : Attempt (List String) :=
  match ExtraFlags.arguments? text.toList with
  | some arguments => return arguments.map String.ofList
  | none =>
    if Text.isAllBlank text.toList then return []
    else do
      Attempt.note (.unscannedFlags text)
      return (Text.words text.toList).map String.ofList

end FSharpFlags

import FSharpFlags.Framework.Moniker
import FSharpFlags.Text.LowerCase

/-!
# Framework names

The full name of a framework is an identifier followed by components, as in
`.NETPortable,Version=v4.5,Profile=Profile111`. Reading goes in three steps: the characters become
tokens (commas, equals signs and the texts between them), the tokens become an identifier and a
list of keys and values, and these are checked. Keys are `version`, which is required, and
`profile`, in any case and at most once each.
-/

namespace FSharpFlags

/-- The parts of a framework name. -/
structure FrameworkName where
  /-- The family of the framework. -/
  identifier : String
  /-- The version as written, its mark included. -/
  version : String
  /-- The profile, empty when there is none. -/
  profile : String
  deriving DecidableEq, Repr

namespace FrameworkName

/-- A token of a framework name. -/
inductive Token where
  | text (cs : List Char)
  | comma
  | equals
  deriving DecidableEq, Repr

/-- The tokens of a text; neighbouring characters of a text form one token. -/
def tokens : List Char → List Token
  | [] => []
  | c :: rest =>
    if c = ',' then .comma :: tokens rest
    else if c = '=' then .equals :: tokens rest
    else
      match tokens rest with
      | .text cs :: more => .text (c :: cs) :: more
      | more => .text [c] :: more

/-- A key and its value as written. -/
abbrev Component := List Char × List Char

/-- Components, each introduced by a comma; the value may be left out. -/
def components? : List Token → Option (List Component)
  | [] => some []
  | .comma :: .text key :: .equals :: .text value :: rest =>
    (components? rest).map ((key, value) :: ·)
  | .comma :: .text key :: .equals :: rest => (components? rest).map ((key, []) :: ·)
  | _ => none

/-- An identifier and the components after it. -/
def sentence? : List Token → Option (List Char × List Component)
  | .text identifier :: rest => (components? rest).map (identifier, ·)
  | _ => none

/-- The values of the known keys. -/
structure Fields where
  /-- The value of `version`. -/
  version : Option (List Char) := none
  /-- The value of `profile`. -/
  profile : Option (List Char) := none

/-- Adds one component. -/
def Fields.add (fields : Fields) (component : Component) : Except NameFault Fields :=
  let key := String.ofList (Text.lowerCase (Text.strip component.1))
  let value := Text.strip component.2
  if key = "version" then
    if fields.version.isSome then .error (.repeatedComponent key)
    else .ok { fields with version := some value }
  else if key = "profile" then
    if fields.profile.isSome then .error (.repeatedComponent key)
    else .ok { fields with profile := some value }
  else .error (.unknownComponent key)

/-- Drops one leading `v` or `V`. -/
def dropMark : List Char → List Char
  | 'v' :: rest => rest
  | 'V' :: rest => rest
  | cs => cs

/-- Whether the characters are numerals with dots between them, after an optional mark. -/
def isVersion (cs : List Char) : Bool := ((dropMark cs).splitOn '.').all Numeral.isNumeral

/-- Reads a framework name. -/
def read (cs : List Char) : Except NameFault FrameworkName :=
  match sentence? (tokens cs) with
  | none => .error .malformed
  | some (identifier, components) =>
    if (Text.strip identifier).isEmpty then .error .emptyIdentifier
    else do
      let fields ← components.foldlM Fields.add {}
      let version := fields.version.getD []
      if isVersion version then
        return {
          identifier := String.ofList (Text.strip identifier)
          version := String.ofList version
          profile := String.ofList (fields.profile.getD []) }
      else throw .invalidVersion

/-- Reads the text of a framework name. -/
def parse (text : String) : Except NameFault FrameworkName := read text.toList

/-- The moniker that the name spells. -/
def toMoniker (name : FrameworkName) : Moniker where
  identifier := name.identifier
  version := String.ofList (dropMark name.version.toList)
  profile := name.profile

end FrameworkName

end FSharpFlags

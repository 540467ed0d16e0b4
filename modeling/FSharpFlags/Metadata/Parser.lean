import FSharpFlags.Metadata.Blob

/-!
# Parsers of images

The format of executable images is the business of a parser, and which images it takes and how it
reads broken ones is left to it here. All that is asked of it is what the inspector asks: given the
bytes of a file, the rows of two tables of the metadata. Every answer may be a fault instead, as
the parser follows a reference from row to row only when it is asked to.

An item of a row may be absent, be it that the parser has no such column or nothing in it.
-/

namespace FSharpFlags

/-- A fault that a parser meets. -/
structure ParserFault where
  /-- The class of the fault. -/
  className : String
  /-- What is said of it. -/
  message : String := ""
  /-- Whether it is a fault of the file system. -/
  isFileFault : Bool := false
  deriving DecidableEq, Repr

/-- The fault with its class. -/
def ParserFault.describe (fault : ParserFault) : String := fault.className ++ ": " ++ fault.message

/-- A row of the reference table. -/
structure ReferenceRow where
  /-- The first part of the version. -/
  major : Option Nat := none
  /-- The second part of the version. -/
  minor : Option Nat := none
  /-- The third part of the version. -/
  build : Option Nat := none
  /-- The fourth part of the version. -/
  revision : Option Nat := none
  /-- The name of the assembly. -/
  name : Option String := none
  /-- The culture of the assembly. -/
  culture : Option String := none
  /-- The public key of the assembly or its token. -/
  key : Option Bytes := none
  deriving DecidableEq, Repr

/-- The row of a type. -/
structure TypeRow where
  /-- The namespace of the type. -/
  space : Option String := none
  /-- The name of the type. -/
  name : Option String := none
  deriving DecidableEq, Repr

/-- A row of the table of custom attributes. -/
structure AttributeRow where
  /-- The name of the table of what the attribute belongs to. -/
  parentTable : Option String := none
  /-- The name of the table of the attribute's constructor. -/
  constructorTable : Option String := none
  /-- The row of the type that the constructor is a member of. -/
  owner : Except ParserFault (Option TypeRow) := .ok none
  /-- The value of the attribute. -/
  value : Option Bytes := none

/-- The tables of the metadata of an image. -/
structure MetadataTables where
  /-- The rows of the reference table, none if there is no such table. -/
  references : Except ParserFault (List ReferenceRow)
  /-- The rows of the table of custom attributes, none if there is no such table. -/
  attributes : Except ParserFault (List AttributeRow)

/-- A parser of images. -/
structure ImageParser where
  /-- The tables of the image that the bytes of a file are; there are none if it is an image without
  metadata. -/
  tables : ByteArray → Except ParserFault (Option MetadataTables)

namespace ImageParser

end ImageParser

end FSharpFlags

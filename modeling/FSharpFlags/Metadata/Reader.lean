import FSharpFlags.Metadata.Inspection
import FSharpFlags.Metadata.Tables

/-!
# The parser of the program

The program itself parses images with the reader of metadata. What the reader finds in the tables is
put into the form that the inspector asks for: the two tables row by row, and of an attribute the
tables that its references lead to and the type of its constructor. A blank row has no items, and a
reference behind the last row of a table is a fault.
-/

namespace FSharpFlags

/-- The name of a table, for those that the inspector tells apart. -/
def TableId.name : TableId → String
  | 0x0A => "MemberRef"
  | 0x20 => "Assembly"
  | _ => ""

namespace Metadata

/-- A row of the reference table. -/
def referenceRow (m : Metadata) : Row → ReferenceRow
  | major :: minor :: build :: revision :: _ :: key :: name :: culture :: _ =>
    { major, minor, build, revision
      name := m.stringAt name
      culture := m.stringAt culture
      key := m.blobAt key }
  | _ => {}

/-- The row of a type. In the tables of types the name and the namespace stand at the same place;
other tables have no such columns. -/
def typeRow (m : Metadata) : TableId × Row → TypeRow
  | (id, _ :: name :: space :: _) =>
    if id = TableId.typeRef ∨ id = TableId.typeDef then
      { space := m.stringAt space, name := m.stringAt name }
    else {}
  | _ => {}

/-- The row of the type that a constructor is a member of. -/
def owner? (m : Metadata) (constructor : Nat) : Except Failure (Option TypeRow) := do
  match ← m.follow? .customAttributeType constructor with
  | some (_, parent :: _) => return (← m.follow? .memberRefParent parent).map m.typeRow
  | _ => return none

/-- The name of the table that a coded reference means. -/
def tableName? (m : Metadata) (kind : CodedKind) (value : Nat) : Option String :=
  (m.target? kind value).map (·.1.id.name)

/-- The fault of following a reference that leads nowhere. -/
def rowFault (_ : Failure) : ParserFault := { className := "IndexError" }

/-- A row of the table of custom attributes. -/
def attributeRow (m : Metadata) : Row → AttributeRow
  | [parent, constructor, value] =>
    { parentTable := m.tableName? .hasCustomAttribute parent
      constructorTable := m.tableName? .customAttributeType constructor
      owner := (m.owner? constructor).mapError rowFault
      value := m.blobAt value }
  | _ => {}

/-- The two tables that the inspector asks for. -/
def parsedTables (m : Metadata) : MetadataTables where
  references := .ok ((m.rows TableId.assemblyRef).map m.referenceRow)
  attributes := .ok ((m.rows TableId.customAttribute).map m.attributeRow)

end Metadata

namespace ImageParser

/-- The fault of opening a file that is no image. -/
def formatFault : ParserFault := { className := "PEFormatError" }

/-- The parser that reads the metadata. -/
def cli : ImageParser where
  tables file :=
    match Image.read? file with
    | none => .error formatFault
    | some image => .ok ((Metadata.ofImage? image).map (·.parsedTables))

end ImageParser

/-- The inspector of the files of a file system. -/
def Inspector.ofFiles (fs : FileSystem) : Inspector := .ofParser .cli fs

end FSharpFlags

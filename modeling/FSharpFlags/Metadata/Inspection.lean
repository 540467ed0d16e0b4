import FSharpFlags.Assembly.Reference
import FSharpFlags.FileSystem.Basic
import FSharpFlags.Metadata.Parser
import FSharpFlags.Path.Basic

/-!
# Inspecting assembly files

The inspector of real files reads the bytes of a file first and hands them to a parser afterwards,
so a refusal by the file system never depends on the bytes and the meaning of the bytes never on
the file system. The target framework of an assembly is the text of the first custom attribute
that belongs to the assembly itself and whose constructor is a member of the attribute type for
it. The attributes are looked at in their order, so a fault on the way to the type of one matters
only when no attribute before it decides.

The two questions differ in what they make of a fault of the file system that the parser meets in
the tables: the reference table is unreadable then, the target framework inaccessible.
-/

namespace FSharpFlags

/-- The assembly that a row of the reference table names; what is absent is empty or zero. -/
def ReferenceRow.assembly (row : ReferenceRow) : AssemblyReference where
  name := row.name.getD ""
  version := ⟨row.major.getD 0, row.minor.getD 0, row.build.getD 0, row.revision.getD 0⟩
  culture := row.culture.getD ""
  keyToken := Blob.keyToken (row.key.getD [])

/-- The namespace and name of a type. -/
def TypeRow.fullName (row : TypeRow) : String × String := (row.space.getD "", row.name.getD "")

namespace AttributeRow

/-- The type of the attribute that records the target framework. -/
def frameworkAttribute : String × String :=
  ("System.Runtime.Versioning", "TargetFrameworkAttribute")

/-- Whether the attribute belongs to the assembly itself and is constructed by a member of a type
that is referred to. -/
def isCandidate (row : AttributeRow) : Bool :=
  row.parentTable = some "Assembly" && row.constructorTable = some "MemberRef"

/-- The value of an attribute that belongs to the assembly and records its target framework. -/
def frameworkBlob? (row : AttributeRow) : Except ParserFault (Option Bytes) := do
  if row.isCandidate then
    if (← row.owner).map (·.fullName) = some frameworkAttribute then
      return some (row.value.getD [])
    else return none
  else return none

end AttributeRow

namespace MetadataTables

/-- The value of the first attribute that records the target framework. -/
def frameworkBlob? (tables : MetadataTables) : Except ParserFault (Option Bytes) := do
  (← tables.attributes).findSomeM? (·.frameworkBlob?)

end MetadataTables

namespace Inspector

/-- How a failure to make sense of a value is described. -/
def describe (failure : Failure) : String :=
  if failure.message.isEmpty then "" else "ValueError: " ++ failure.message

/-- What a failure on the way to a value makes of it, by whether the file system is the cause. -/
def ofFailure {α : Type} (failure : Failure) : Reading α :=
  if failure.isFileFault then .inaccessible failure.message else .unreadable (describe failure)

/-- What a fault of the parser makes of a value, by whether the file system is the cause. -/
def ofFault {α : Type} (fault : ParserFault) : Reading α :=
  if fault.isFileFault then .inaccessible fault.message else .unreadable fault.describe

/-- The assemblies that the reference table names. -/
def readReferences (tables : MetadataTables) : Reading (List AssemblyReference) :=
  match tables.references with
  | .error fault => .unreadable fault.describe
  | .ok rows => .ok (rows.map (·.assembly))

/-- The recorded target framework: the first attribute that records one decides. -/
def readFramework (tables : MetadataTables) : Reading (Option String) :=
  match tables.frameworkBlob? with
  | .error fault => ofFault fault
  | .ok none => .ok none
  | .ok (some blob) =>
    match Blob.decodeStringAttribute blob with
    | .ok text => .ok text
    | .error failure => ofFailure failure

/-- What a reader makes of the tables in the bytes of a file. -/
def ofBytes {α : Type} (parser : ImageParser) (reader : MetadataTables → Reading α)
    (file : ByteArray) : Reading α :=
  match parser.tables file with
  | .error fault => ofFault fault
  | .ok none => .unreadable "no CLI metadata"
  | .ok (some tables) => reader tables

/-- What a reader makes of the tables of a file. -/
def ofFile {α : Type} (parser : ImageParser) (fs : FileSystem)
    (reader : MetadataTables → Reading α) (path : String) : Reading α :=
  match fs.read (Path.parse path).text with
  | .ok file => ofBytes parser reader file
  | .error failure => ofFailure failure

/-- The inspector that reads the files of a file system and has their bytes parsed. -/
def ofParser (parser : ImageParser) (fs : FileSystem) : Inspector where
  references := ofFile parser fs readReferences
  framework := ofFile parser fs readFramework

end Inspector

end FSharpFlags

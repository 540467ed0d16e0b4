import FSharpFlags.Metadata.Reader
import FSharpFlags.Proofs.AttributeText
import FSharpFlags.Proofs.DocumentReading
import FSharpFlags.Proofs.FacadeDecision

/-!
# What a file that cannot be read comes to

An inspector may say of a file that it could not be fetched, and of a framework that cannot be
fetched portability takes the bold view. The inspector of real files gives no occasion for it, as
long as its parser of images works in memory. It says so exactly of the files whose bytes the file
system refuses, and to every question alike, since nothing that goes wrong in the bytes themselves
is a fault of the file system. So a file that is refused is never portable: its reference table,
which is asked for first, was refused already.

Nothing else is supposed of the parser.
-/

namespace FSharpFlags

variable {parser : ImageParser} {fs : FileSystem} {path detail : String}

/-! ## Searches that may fail -/

section Search

variable {ε α β : Type} {f : α → Except ε (Option β)} {as : List α}

end Search

/-! ## Faults of the parser -/

section Attributes

variable {tables : MetadataTables} {fault : ParserFault}

namespace MetadataTables

end MetadataTables

end Attributes

/-! ## What is read from the tables -/

namespace Inspector

section Tables

variable {α : Type} {tables : MetadataTables} {value : α}

end Tables

end Inspector

/-! ## Reading a file -/

namespace ImageParser

/-- Whether the bytes of a file can be had and the parser finds these tables in them. -/
def FindsTables (parser : ImageParser) (fs : FileSystem) (path : String)
    (tables : MetadataTables) : Prop :=
  ∃ file, fs.read (Path.parse path).text = .ok file ∧ parser.tables file = .ok (some tables)

variable {tables : MetadataTables}

theorem FindsTables.unique {tables' : MetadataTables} (h : parser.FindsTables fs path tables)
    (h' : parser.FindsTables fs path tables') : tables = tables' := by
  obtain ⟨file, hread, htables⟩ := h
  obtain ⟨file', hread', htables'⟩ := h'
  obtain rfl := Except.ok.inj (hread.symm.trans hread')
  exact Option.some.inj (Except.ok.inj (htables.symm.trans htables'))

end ImageParser

namespace Inspector

section Reader

variable {α : Type} {reader : MetadataTables → Reading α} {value : α}

end Reader

/-! ## The inspector of real files -/

end Inspector

/-! ## The parser of the program -/

namespace ImageParser

end ImageParser

/-! ### An instance -/

/-- The characters of a text as bytes. -/
def asciiBytes (text : String) : Bytes := text.toList.map fun c ↦ c.toNat.toUInt8

/-- The headers of an image with one section that begins at `0x200` and is loaded at `0x2000`, where
the CLI header is. -/
def sectionHeaders : Bytes :=
  [0x4d, 0x5a] ++ .replicate 58 0 ++ [0x40, 0, 0, 0, 0x50, 0x45, 0, 0, 0x4c, 1, 1]
    ++ .replicate 13 0 ++ [0xe0, 0, 0x02, 0x21, 0x0b, 1, 8, 0, 0, 2] ++ .replicate 15 0
    ++ [0x20, 0, 0, 0, 0x40, 0, 0, 0, 0, 0x40, 0, 0, 0x20, 0, 0, 0, 2, 0, 0, 4]
    ++ .replicate 7 0 ++ [4] ++ .replicate 8 0 ++ [0x40, 0, 0, 0, 2] ++ .replicate 6 0
    ++ [3, 0, 0, 0, 0, 0, 0x10, 0, 0, 0x10, 0, 0, 0, 0, 0x10, 0, 0, 0x10] ++ .replicate 6 0
    ++ [0x10] ++ .replicate 116 0 ++ [0x20, 0, 0, 0x48] ++ .replicate 11 0
    ++ asciiBytes ".text\x00\x00\x00" ++ [0xd1, 1, 0, 0, 0, 0x20, 0, 0, 0, 2, 0, 0, 0, 2]
    ++ .replicate 14 0 ++ [0x20, 0, 0, 0x60] ++ .replicate 160 0

/-- The CLI header and the root of the metadata with the headers of five streams. -/
def metadataHeaders : Bytes :=
  [0x48, 0, 0, 0, 2, 0, 5, 0, 0x48, 0x20, 0, 0, 0x89, 1, 0, 0, 1] ++ .replicate 55 0
    ++ asciiBytes "BSJB" ++ [1, 0, 1, 0, 0, 0, 0, 0, 0x0c, 0, 0, 0]
    ++ asciiBytes "v4.0.30319\x00\x00" ++ [0, 0, 5, 0]
    ++ [0x6c, 0, 0, 0, 0x74, 0, 0, 0] ++ asciiBytes "#~\x00\x00"
    ++ [0xe0, 0, 0, 0, 0x54, 0, 0, 0] ++ asciiBytes "#Strings\x00\x00\x00\x00"
    ++ [0x34, 1, 0, 0, 4, 0, 0, 0] ++ asciiBytes "#US\x00"
    ++ [0x38, 1, 0, 0, 0x10, 0, 0, 0] ++ asciiBytes "#GUID\x00\x00\x00"
    ++ [0x48, 1, 0, 0, 0x41, 0, 0, 0] ++ asciiBytes "#Blob\x00\x00\x00"

/-- The tables of an assembly with one attribute and no references. -/
def attributeTables : Bytes :=
  [0, 0, 0, 0, 2, 0, 0, 1, 7, 0x14, 0, 0, 9] ++ .replicate 11 0
    ++ [1, 0, 0, 0, 1, 0, 0, 0, 1, 0, 0, 0, 1, 0, 0, 0, 1, 0, 0, 0, 1, 0, 0, 0]
    ++ [0, 0, 0, 0, 0, 0, 1, 0, 1, 0] ++ [0, 0, 0, 0, 6, 0, 0x10, 0, 0x29, 0]
    ++ [0, 0, 0, 0, 7, 0, 0, 0, 0, 0, 1, 0, 1, 0] ++ [9, 0, 0x43, 0, 1, 0]
    ++ [0x2e, 0, 0x0b, 0, 6, 0] ++ [4, 0x80, 0, 0, 1] ++ .replicate 13 0 ++ [0x49, 0, 0, 0]

/-- The heaps of the assembly. The attribute says that it was compiled for a profile. -/
def attributeHeaps : Bytes :=
  asciiBytes "\x00a.dll\x00<Module>\x00TargetFrameworkAttribute\x00"
    ++ asciiBytes "System.Runtime.Versioning\x00.ctor\x00a\x00mscorlib\x00"
    ++ [0, 0, 0, 0] ++ (List.range 16).map (·.toUInt8)
    ++ [0, 4, 0x20, 1, 1, 0x0e, 0x31, 1, 0, 0x2c]
    ++ asciiBytes ".NETPortable,Version=v4.5,Profile=Profile111"
    ++ [0, 0, 8, 0xb7, 0x7a, 0x5c, 0x56, 0x19, 0x34, 0xe0, 0x89] ++ .replicate 47 0

/-- The assembly as an image. -/
def profileImage : Bytes := sectionHeaders ++ metadataHeaders ++ attributeTables ++ attributeHeaps

/-- The assembly in two files, one of which is closed to the user. -/
def profileLibraries : FileSystem where
  root := .directory [("Closed.dll", .file ⟨⟨profileImage⟩⟩ true),
    ("Open.dll", .file ⟨⟨profileImage⟩⟩ false)] false
  currentDirectory := "/"

end FSharpFlags

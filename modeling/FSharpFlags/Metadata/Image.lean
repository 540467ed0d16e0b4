import FSharpFlags.Metadata.Blob

/-!
# Executable images

An assembly is a portable executable file. Three things are needed of it: that it is one at all,
the sections that say which part of the file lies at which address, and the place of the CLI
header. A file without the two signatures or with an incomplete header is no image; an image whose
directory names no CLI header is an image without metadata.

An address is looked up in the sections first and in the file as it stands otherwise. Bytes may be
fewer than asked for, but an address that leads nowhere at all is a fault of whatever names it.

The program reads its files this way when it runs, while what is proved of it holds for every parser
of images. What a full parser does beyond this with images that are broken is left out: sections are
neither sorted nor cut short where they overlap, offsets and addresses are not rounded to the
alignment of the image, and there is no limit to the number of sections.
-/

namespace FSharpFlags

namespace Binary

/-- The value of bytes, least significant first. -/
def littleEndian (bytes : Bytes) : Nat := bytes.foldr (fun b n ↦ b.toNat + 256 * n) 0

/-- The bytes from an offset on, as many as there are up to the given number. -/
def slice (data : ByteArray) (offset size : Nat) : ByteArray :=
  ⟨⟨(List.range (min size (data.size - offset))).map fun i ↦ data.get! (offset + i)⟩⟩

/-- The number at an offset; bytes past the end count as zero. -/
def number (data : ByteArray) (offset width : Nat) : Nat :=
  littleEndian ((List.range width).map fun i ↦ data[offset + i]?.getD 0)

/-- The number at an offset, when all its bytes are there. -/
def number? (data : ByteArray) (offset width : Nat) : Option Nat :=
  if offset + width ≤ data.size then some (number data offset width) else none

end Binary

/-- A part of an image with its place in the file. -/
structure Section where
  /-- The address of the first byte. -/
  address : Nat
  /-- The number of addresses. -/
  size : Nat
  /-- The offset of the first byte in the file. -/
  offset : Nat
  /-- The number of bytes in the file. -/
  fileSize : Nat

/-- An executable image. -/
structure Image where
  /-- The bytes of the file. -/
  file : ByteArray
  /-- The sections in order. -/
  sections : List Section
  /-- The address and the size of the CLI header. -/
  cliHeader : Option (Nat × Nat)

namespace Section

/-- The size of a section header. -/
def headerSize : Nat := 40

/-- Reads a section header. -/
def read (file : ByteArray) (offset : Nat) : Section where
  size := Binary.number file (offset + 8) 4
  address := Binary.number file (offset + 12) 4
  fileSize := Binary.number file (offset + 16) 4
  offset := Binary.number file (offset + 20) 4

/-- Reads a number of section headers. The list ends early at the end of the file and at a header
of zeros; a header that is cut off makes it unusable. -/
def readAll (file : ByteArray) (offset : Nat) : Nat → Option (List Section)
  | 0 => some []
  | count + 1 =>
    let header := (Binary.slice file offset headerSize).data.toList
    if header.all (· = 0) && (header.isEmpty || header.length = headerSize) then some []
    else if header.length < headerSize then none
    else (readAll file (offset + headerSize) count).map (read file offset :: ·)

/-- The number of addresses that the section covers: also those of bytes that the file has beyond
the section's size, unless the file ends before they do. -/
def extent (s : Section) (file : ByteArray) : Nat :=
  if file.size < s.offset + s.fileSize then s.size else max s.size s.fileSize

/-- Whether an address lies in the section. -/
def holds (s : Section) (file : ByteArray) (address : Nat) : Bool :=
  s.address ≤ address && address < s.address + s.extent file

end Section

namespace Image

/-- The first two bytes of an executable. -/
def dosSignature : Nat := 0x5A4D

/-- The signature at the head of the image proper. -/
def imageSignature : Nat := 0x4550

/-- The format with addresses of eight bytes. -/
def wideFormat : Nat := 0x20B

/-- The place of the CLI header among the directories. -/
def cliDirectory : Nat := 14

/-- The entry of the CLI header among the directories, when it names an address. It is read at its
fixed place, however many directories the image declares. -/
def cliHeaderOf (file : ByteArray) (directories : Nat) : Option (Nat × Nat) :=
  let entry := directories + 8 * cliDirectory
  let address := Binary.number file entry 4
  if address = 0 then none else some (address, Binary.number file (entry + 4) 4)

/-- Reads the headers of an image. -/
def read? (file : ByteArray) : Option Image :=
  let head := Binary.number file 0x3C 4
  let optional := head + 24
  let isWide := Binary.number file optional 2 = wideFormat
  let directories := optional + if isWide then 112 else 96
  let required := optional + if isWide then 73 else 69
  if file.size < 64 || Binary.number file 0 2 ≠ dosSignature
      || Binary.number file head 4 ≠ imageSignature || file.size < required then none
  else
    let sections := optional + Binary.number file (head + 20) 2
    (Section.readAll file sections (Binary.number file (head + 6) 2)).map fun sections ↦
      ⟨file, sections, cliHeaderOf file directories⟩

/-- The bytes at an address, as many as there are up to the given number. An address in no section
is a place in the file itself; there are no bytes for one beyond its end. -/
def bytesAt? (image : Image) (address size : Nat) : Option ByteArray :=
  match image.sections.find? (·.holds image.file address) with
  | some s =>
    let within := address - s.address
    some (Binary.slice image.file (s.offset + within) (min size (s.fileSize - within)))
  | none =>
    if address < image.file.size then some (Binary.slice image.file address size) else none

end Image

end FSharpFlags

import FSharpFlags.Metadata.Image
import FSharpFlags.Metadata.Schema

/-!
# Reading the metadata of an image

The CLI header leads to the metadata root, the root to its streams, and the stream named `#~` (or
`#-`) holds the tables; two further streams are the heaps of strings and blobs. Of several streams
for one purpose the last one counts, and the list of streams ends before one without data.

What says how to read the rest must be there: the headers, the root and the row counts. The rest is
read with tolerance. A table without rows, or with more of them than the stream has bytes, is not
present. A table that the end of the stream cuts off keeps its rows, but all of them are blank. In
the heaps an offset that leads nowhere and a string that is not UTF-8 count as an empty value.
-/

namespace FSharpFlags

/-- A stream of the metadata. -/
structure MetadataStream where
  /-- The name of the stream. -/
  name : Bytes
  /-- Its bytes, as far as the file has them. -/
  data : ByteArray

/-- A table with its place in the stream of tables. -/
structure TableExtent where
  /-- Which table it is. -/
  id : TableId
  /-- Its columns. -/
  columns : List Column
  /-- The number of its rows. -/
  rows : Nat
  /-- The offset of the first row. -/
  offset : Nat

/-- The metadata of an image. -/
structure Metadata where
  /-- The stream of tables. -/
  data : ByteArray
  /-- What the widths of the columns depend on. -/
  sizes : Sizes
  /-- The tables that are present. -/
  tables : List TableExtent
  /-- The heap of strings. -/
  strings : ByteArray
  /-- The heap of blobs. -/
  blobs : ByteArray

/-- The values of the columns of one row; a blank row has none. -/
abbrev Row := List Nat

namespace Metadata

/-- The signature of the metadata root. -/
def signature : Nat := 0x424A5342

/-- The smallest multiple of four that is not less. -/
def roundUp (n : Nat) : Nat := (n + 3) / 4 * 4

/-- Reads a number of stream headers that begin at an offset of the root. The streams end early at
a header that is cut off and at a stream without data. -/
def readStreams (image : Image) (address : Nat) (root : ByteArray) (offset : Nat) :
    Nat → Option (List MetadataStream)
  | 0 => some []
  | count + 1 =>
    match Binary.number? root offset 4, Binary.number? root (offset + 4) 4 with
    | some start, some size => do
      let data ← image.bytesAt? (address + start) size
      if data.isEmpty then return []
      else
        let name := (root.data.toList.drop (offset + 8)).takeWhile (· ≠ 0)
        let next := offset + 8 + roundUp (name.length + 1)
        return ⟨name, data⟩ :: (← readStreams image address root next count)
    | _, _ => some []

/-- The smallest size of a CLI header. -/
def headerSize : Nat := 72

/-- The address and the size of the metadata root. -/
def root? (image : Image) : Option (Nat × Nat) := do
  let (address, size) ← image.cliHeader
  let header ← image.bytesAt? address size
  if header.size < headerSize then none
  else return (Binary.number header 8 4, Binary.number header 12 4)

/-- The streams of an image. The head of the root lies within the size that the root has by its
header; what the streams are is read from all bytes behind it. -/
def streams? (image : Image) : Option (List MetadataStream) := do
  let (address, size) ← root? image
  let root ← image.bytesAt? address size
  let versionLength ← Binary.number? root 12 4
  let count ← Binary.number? root (18 + versionLength) 2
  if root.size < size || Binary.number root 0 4 ≠ signature then none
  else
    let whole ← image.bytesAt? address image.file.size
    readStreams image address whole (20 + versionLength) count

/-- The data of the last stream of a name; empty when there is none. -/
def heap (streams : List MetadataStream) (name : String) : ByteArray :=
  let named := streams.filter (·.name = name.toUTF8.data.toList)
  (named.getLast?.map (·.data)).getD ByteArray.empty

/-- Whether a stream holds the tables. -/
def holdsTables (stream : MetadataStream) : Bool :=
  stream.name = "#~".toUTF8.data.toList || stream.name = "#-".toUTF8.data.toList

/-- The numbers of the bits that are set. -/
def setBits (mask : Nat) : List Nat := (List.range 64).filter mask.testBit

/-- The row counts of the tables, from an offset on. -/
def readCounts (data : ByteArray) (offset : Nat) : List TableId → Option (List (TableId × Nat))
  | [] => some []
  | id :: rest => do
    let count ← Binary.number? data offset 4
    return (id, count) :: (← readCounts data (offset + 4) rest)

/-- Whether a number of rows makes a table present: there are some, and not more than the bytes of
the stream. -/
def isPresent (data : ByteArray) (rows : Nat) : Bool := 0 < rows && rows ≤ data.size

/-- Lays the tables that are present out one after the other; those of no known shape are left
out. -/
def layOut (data : ByteArray) (sizes : Sizes) (offset : Nat) :
    List (TableId × Nat) → List TableExtent
  | [] => []
  | (id, rows) :: rest =>
    match if isPresent data rows then id.columns else none with
    | some columns =>
      ⟨id, columns, rows, offset⟩ ::
        layOut data sizes (offset + rows * sizes.rowSize columns) rest
    | none => layOut data sizes offset rest

/-- The size of the header of the stream of tables. -/
def tablesHeaderSize : Nat := 24

/-- Reads the stream of tables. -/
def readTables? (data strings blobs : ByteArray) : Option Metadata := do
  if data.size < tablesHeaderSize then none
  else
    let flags := Binary.number data 6 1
    let ids := setBits (Binary.number data 8 8)
    let counts ← readCounts data tablesHeaderSize ids
    let sizes : Sizes :=
      { wideStrings := flags.testBit 0
        wideGuids := flags.testBit 1
        wideBlobs := flags.testBit 2
        rows := fun id ↦ (counts.lookup id).getD 0 }
    let extra := if flags.testBit 6 then 4 else 0
    let tables := layOut data sizes (tablesHeaderSize + 4 * ids.length + extra) counts
    return ⟨data, sizes, tables, strings, blobs⟩

/-- The metadata of an image, when there is some. -/
def ofImage? (image : Image) : Option Metadata := do
  let streams ← streams? image
  let stream ← (streams.filter holdsTables).getLast?
  readTables? stream.data (heap streams "#Strings") (heap streams "#Blob")

/-- Reads the columns of a row. -/
def readColumns (m : Metadata) (offset : Nat) : List Column → Row
  | [] => []
  | column :: rest =>
    Binary.number m.data offset (m.sizes.width column) ::
      m.readColumns (offset + m.sizes.width column) rest

/-- Whether all rows of a table lie within the stream. -/
def isComplete (m : Metadata) (t : TableExtent) : Bool :=
  t.offset + t.rows * m.sizes.rowSize t.columns ≤ m.data.size

/-- The row of a table at a place counted from zero; blank when the table is cut off. -/
def rowAt (m : Metadata) (t : TableExtent) (place : Nat) : Row :=
  if m.isComplete t then
    m.readColumns (t.offset + place * m.sizes.rowSize t.columns) t.columns
  else []

/-- The table of a number, when it is present. -/
def table? (m : Metadata) (id : TableId) : Option TableExtent := m.tables.find? (·.id = id)

/-- The rows of a table, none when it is not present. -/
def rows (m : Metadata) (id : TableId) : List Row :=
  match m.table? id with
  | none => []
  | some t => (List.range t.rows).map (m.rowAt t)

/-- The table that a coded reference means, and the number of the row, counted from one. -/
def target? (m : Metadata) (kind : CodedKind) (value : Nat) : Option (TableExtent × Nat) := do
  let id ← (kind.tables[value % Nat.pow 2 kind.bits]?).join
  let t ← m.table? id
  return (t, value / Nat.pow 2 kind.bits)

/-- The row that a coded reference leads to, with its table; none when it means no table. The
number zero leads to the last row, and a number behind the last row is a failure. -/
def follow? (m : Metadata) (kind : CodedKind) (value : Nat) :
    Except Failure (Option (TableId × Row)) :=
  match m.target? kind value with
  | none => .ok none
  | some (t, number) =>
    if t.rows < number then .error .noSuchRow
    else .ok (some (t.id, m.rowAt t ((if number = 0 then t.rows else number) - 1)))

/-- The bytes of a string of the heap, given those from its offset on: up to the first NUL. Without
one, the last byte is not taken. -/
def stringBytes (bytes : Bytes) : Bytes :=
  if bytes.contains 0 then bytes.takeWhile (· ≠ 0) else bytes.dropLast

/-- The string at an offset of the heap; empty when there is none. -/
def stringAt (m : Metadata) (offset : Nat) : String :=
  (Bytes.text? (stringBytes (m.strings.data.toList.drop offset))).getD ""

/-- The blob at an offset of the heap; empty when there is none. -/
def blobAt (m : Metadata) (offset : Nat) : Bytes :=
  if offset = 0 then []
  else
    let bytes := m.blobs.data.toList.drop offset
    match Blob.readCompressed bytes with
    | .ok (length, width) => (bytes.drop width).take length
    | .error _ => []

end Metadata

end FSharpFlags

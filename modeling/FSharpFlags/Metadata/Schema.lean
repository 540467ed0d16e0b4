/-!
# The shape of metadata tables

Metadata is a database of up to 45 tables. The rows of a table all have the same columns, and the
width of a column depends on the sizes of the heaps and of other tables: a reference to a row takes
two bytes unless a table that it may lead to has more rows than two bytes have values. A coded
reference spends its lowest bits on saying which table of a fixed list is meant, and only the
others count.
-/

namespace FSharpFlags

/-- A table, by its number. -/
abbrev TableId := Nat

namespace TableId

def module : TableId := 0x00
def typeRef : TableId := 0x01
def typeDef : TableId := 0x02
def field : TableId := 0x04
def methodDef : TableId := 0x06
def param : TableId := 0x08
def interfaceImpl : TableId := 0x09
def memberRef : TableId := 0x0A
def customAttribute : TableId := 0x0C
def declSecurity : TableId := 0x0E
def standAloneSig : TableId := 0x11
def event : TableId := 0x14
def property : TableId := 0x17
def moduleRef : TableId := 0x1A
def typeSpec : TableId := 0x1B
def assembly : TableId := 0x20
def assemblyRef : TableId := 0x23
def file : TableId := 0x26
def exportedType : TableId := 0x27
def manifestResource : TableId := 0x28
def genericParam : TableId := 0x2A
def methodSpec : TableId := 0x2B
def genericParamConstraint : TableId := 0x2C

end TableId

/-- A kind of coded reference: the number of bits that say which table is meant, and the tables;
some values of the bits stand for no table. -/
structure CodedKind where
  bits : Nat
  tables : List (Option TableId)

namespace CodedKind

open TableId

def typeDefOrRef : CodedKind := ⟨2, [typeDef, typeRef, typeSpec]⟩
def hasConstant : CodedKind := ⟨2, [field, param, property]⟩
def hasCustomAttribute : CodedKind :=
  ⟨5, [methodDef, field, typeRef, typeDef, param, interfaceImpl, memberRef, module, declSecurity,
    property, event, standAloneSig, moduleRef, typeSpec, assembly, assemblyRef, file, exportedType,
    manifestResource, genericParam, genericParamConstraint, methodSpec]⟩
def hasFieldMarshal : CodedKind := ⟨1, [field, param]⟩
def hasDeclSecurity : CodedKind := ⟨2, [typeDef, methodDef, assembly]⟩
def memberRefParent : CodedKind := ⟨3, [typeDef, typeRef, moduleRef, methodDef, typeSpec]⟩
def hasSemantics : CodedKind := ⟨1, [event, property]⟩
def methodDefOrRef : CodedKind := ⟨1, [methodDef, memberRef]⟩
def memberForwarded : CodedKind := ⟨1, [field, methodDef]⟩
def implementation : CodedKind := ⟨2, [file, assemblyRef, exportedType]⟩
def customAttributeType : CodedKind := ⟨3, [none, none, methodDef, memberRef]⟩
def resolutionScope : CodedKind := ⟨2, [module, moduleRef, assemblyRef, typeRef]⟩
def typeOrMethodDef : CodedKind := ⟨1, [typeDef, methodDef]⟩

end CodedKind

/-- A column of a table. -/
inductive Column where
  /-- A number of the given width in bytes. -/
  | fixed (width : Nat)
  /-- An offset into the heap of strings. -/
  | string
  /-- A place in the heap of identifiers. -/
  | guid
  /-- An offset into the heap of blobs. -/
  | blob
  /-- A row of a table. -/
  | row (table : TableId)
  /-- A row of one of several tables. -/
  | coded (kind : CodedKind)

open Column in
/-- The columns of a table. -/
def TableId.columns : TableId → Option (List Column)
  | 0x00 => some [fixed 2, string, guid, guid, guid]
  | 0x01 => some [coded .resolutionScope, string, string]
  | 0x02 => some [fixed 4, string, string, coded .typeDefOrRef, row TableId.field,
      row TableId.methodDef]
  | 0x03 => some [row TableId.field]
  | 0x04 => some [fixed 2, string, blob]
  | 0x05 => some [row TableId.methodDef]
  | 0x06 => some [fixed 4, fixed 2, fixed 2, string, blob, row TableId.param]
  | 0x07 => some [row TableId.param]
  | 0x08 => some [fixed 2, fixed 2, string]
  | 0x09 => some [row TableId.typeDef, coded .typeDefOrRef]
  | 0x0A => some [coded .memberRefParent, string, blob]
  | 0x0B => some [fixed 2, coded .hasConstant, blob]
  | 0x0C => some [coded .hasCustomAttribute, coded .customAttributeType, blob]
  | 0x0D => some [coded .hasFieldMarshal, blob]
  | 0x0E => some [fixed 2, coded .hasDeclSecurity, blob]
  | 0x0F => some [fixed 2, fixed 4, row TableId.typeDef]
  | 0x10 => some [fixed 4, row TableId.field]
  | 0x11 => some [blob]
  | 0x12 => some [row TableId.typeDef, row TableId.event]
  | 0x13 => some [row TableId.event]
  | 0x14 => some [fixed 2, string, coded .typeDefOrRef]
  | 0x15 => some [row TableId.typeDef, row TableId.property]
  | 0x16 => some [row TableId.property]
  | 0x17 => some [fixed 2, string, blob]
  | 0x18 => some [fixed 2, row TableId.methodDef, coded .hasSemantics]
  | 0x19 => some [row TableId.typeDef, coded .methodDefOrRef, coded .methodDefOrRef]
  | 0x1A => some [string]
  | 0x1B => some [blob]
  | 0x1C => some [fixed 2, coded .memberForwarded, string, row TableId.moduleRef]
  | 0x1D => some [fixed 4, row TableId.field]
  | 0x1E => some [fixed 4, fixed 4]
  | 0x1F => some [fixed 4]
  | 0x20 => some [fixed 4, fixed 2, fixed 2, fixed 2, fixed 2, fixed 4, blob, string, string]
  | 0x21 => some [fixed 4]
  | 0x22 => some [fixed 4, fixed 4, fixed 4]
  | 0x23 => some [fixed 2, fixed 2, fixed 2, fixed 2, fixed 4, blob, string, string, blob]
  | 0x24 => some [fixed 4, row TableId.assemblyRef]
  | 0x25 => some [fixed 4, fixed 4, fixed 4, row TableId.assemblyRef]
  | 0x26 => some [fixed 4, string, blob]
  | 0x27 => some [fixed 4, fixed 4, string, string, coded .implementation]
  | 0x28 => some [fixed 4, fixed 4, string, coded .implementation]
  | 0x29 => some [row TableId.typeDef, row TableId.typeDef]
  | 0x2A => some [fixed 2, fixed 2, coded .typeOrMethodDef, string]
  | 0x2B => some [coded .methodDefOrRef, blob]
  | 0x2C => some [row TableId.genericParam, coded .typeDefOrRef]
  | _ => none

/-- What the widths of columns depend on. -/
structure Sizes where
  /-- Whether offsets into the heap of strings take four bytes. -/
  wideStrings : Bool
  /-- Whether places in the heap of identifiers take four bytes. -/
  wideGuids : Bool
  /-- Whether offsets into the heap of blobs take four bytes. -/
  wideBlobs : Bool
  /-- The number of rows of each table. -/
  rows : TableId → Nat

namespace Sizes

/-- The width of a reference into a heap. -/
def heapWidth (wide : Bool) : Nat := if wide then 4 else 2

/-- The width of a reference that has to reach a number of rows. -/
def rowWidth (bits rows : Nat) : Nat := if rows ≤ Nat.pow 2 (16 - bits) then 2 else 4

/-- The largest number of rows of the tables of a coded reference. -/
def largest (s : Sizes) (kind : CodedKind) : Nat :=
  (kind.tables.filterMap fun t ↦ t.map s.rows).foldl max 0

/-- The width of a column in bytes. -/
def width (s : Sizes) : Column → Nat
  | .fixed width => width
  | .string => heapWidth s.wideStrings
  | .guid => heapWidth s.wideGuids
  | .blob => heapWidth s.wideBlobs
  | .row table => rowWidth 0 (s.rows table)
  | .coded kind => rowWidth kind.bits (s.largest kind)

/-- The width of a row in bytes. -/
def rowSize (s : Sizes) (columns : List Column) : Nat :=
  columns.foldr (fun column size ↦ s.width column + size) 0

end Sizes

end FSharpFlags

import FSharpFlags.Digest.Sha1
import FSharpFlags.Failure

/-!
# Blobs of the metadata

Two values are read out of the blobs of an assembly: the token of a public key and the text in a
custom attribute whose constructor takes one string. The lengths in blobs are compressed integers
of one, two or four bytes, told apart by the highest bits of the first byte.
-/

namespace FSharpFlags

/-- A row of bytes. -/
abbrev Bytes := List UInt8

/-- The text that bytes encode, when they are well-formed UTF-8. -/
def Bytes.text? (bytes : Bytes) : Option String := String.fromUTF8? bytes.toByteArray

/-- Bytes in lower-case hexadecimal, two digits each. -/
def Bytes.hex (bytes : Bytes) : String :=
  String.ofList (bytes.flatMap fun b ↦ Text.hex 2 b.toNat)

namespace Blob

/-- The value of bytes, most significant first. -/
def bigEndianValue (bytes : Bytes) : Nat := bytes.foldl (fun n b ↦ 256 * n + b.toNat) 0

/-- Reads a compressed integer at the front; the result is its value and its width. -/
def readCompressed : Bytes → Except BlobFault (Nat × Nat)
  | [] => .error .truncatedInteger
  | b :: rest =>
    if b < 0x80 then .ok (b.toNat, 1)
    else if b < 0xC0 then
      if rest.length < 1 then .error .truncatedInteger
      else .ok (256 * (b.toNat - 0x80) + bigEndianValue (rest.take 1), 2)
    else if b < 0xE0 then
      if rest.length < 3 then .error .truncatedInteger
      else .ok (16777216 * (b.toNat - 0xC0) + bigEndianValue (rest.take 3), 4)
    else .error .invalidInteger

/-- Reads a compressed integer at an offset; the result is its value and the offset after it. -/
def readCompressedAt (bytes : Bytes) (offset : Nat) : Except BlobFault (Nat × Nat) :=
  (readCompressed (bytes.drop offset)).map fun r ↦ (r.1, offset + r.2)

/-- Reads the text of a length that is given in front of it. -/
def readText (bytes : Bytes) : Except Failure String :=
  match readCompressed bytes with
  | .error fault => .error (.blob fault)
  | .ok (length, width) =>
    let body := bytes.drop width
    if body.length < length then .error (.blob .stringTooLong)
    else
      match Bytes.text? (body.take length) with
      | some text => .ok text
      | none => .error .notUtf8

/-- Decodes the value of an attribute with one string: a prolog, then the text or the mark of a
missing text. Whatever follows the text is ignored. -/
def decodeStringAttribute : Bytes → Except Failure (Option String)
  | 0x01 :: 0x00 :: b :: rest =>
    if b = 0xFF then .ok none else (readText (b :: rest)).map some
  | _ => .error (.blob .noProlog)

/-- The token of a key: the key itself when it has the size of a token, else the last eight bytes
of its digest in reverse. -/
def keyToken (key : Bytes) : String :=
  if key.length = 8 ∨ key = [] then Bytes.hex key
  else Bytes.hex ((Sha1.digest key).drop 12).reverse

end Blob

end FSharpFlags

/-!
# SHA-1

The digest from which public key tokens are taken. The message is followed by one set bit, zeros
and its length in bits, so that it fills whole blocks of sixteen words; each block is expanded to
eighty words, which are mixed into a state of five.
-/

namespace FSharpFlags

namespace Sha1

/-- The five words of the state. -/
structure State where
  a : UInt32
  b : UInt32
  c : UInt32
  d : UInt32
  e : UInt32

/-- The state before the first block. -/
def initial : State := ⟨0x67452301, 0xEFCDAB89, 0x98BADCFE, 0x10325476, 0xC3D2E1F0⟩

/-- Rotates a word to the left. -/
def rotate (w n : UInt32) : UInt32 := (w <<< n) ||| (w >>> (32 - n))

/-- The bytes of a number, most significant first. -/
def bigEndian : Nat → Nat → List UInt8
  | 0, _ => []
  | width + 1, n => bigEndian width (n / 256) ++ [UInt8.ofNat n]

/-- The message filled up to whole blocks. -/
def padded (message : List UInt8) : List UInt8 :=
  let zeros := (119 - message.length % 64) % 64
  message ++ 0x80 :: List.replicate zeros 0 ++ bigEndian 8 (8 * message.length)

/-- The words of the bytes, four bytes each. -/
def words : List UInt8 → List UInt32
  | a :: b :: c :: d :: rest =>
    ((a.toUInt32 <<< 24) ||| (b.toUInt32 <<< 16) ||| (c.toUInt32 <<< 8) ||| d.toUInt32)
      :: words rest
  | _ => []

/-- Appends words to a block, each made from four of the sixteen before it. -/
def expand : Nat → Array UInt32 → Array UInt32
  | 0, ws => ws
  | n + 1, ws =>
    let back := fun k ↦ ws.getD (ws.size - k) 0
    expand n (ws.push (rotate (back 3 ^^^ back 8 ^^^ back 14 ^^^ back 16) 1))

/-- The mixing function and the constant of a round. -/
def roundTerm (round : Nat) (s : State) : UInt32 :=
  if round < 20 then ((s.b &&& s.c) ||| (~~~s.b &&& s.d)) + 0x5A827999
  else if round < 40 then (s.b ^^^ s.c ^^^ s.d) + 0x6ED9EBA1
  else if round < 60 then ((s.b &&& s.c) ||| (s.b &&& s.d) ||| (s.c &&& s.d)) + 0x8F1BBCDC
  else (s.b ^^^ s.c ^^^ s.d) + 0xCA62C1D6

/-- One round. -/
def mix (s : State) (entry : UInt32 × Nat) : State :=
  ⟨rotate s.a 5 + roundTerm entry.2 s + s.e + entry.1, s.a, rotate s.b 30, s.c, s.d⟩

/-- Mixes one block into the state. -/
def addBlock (s : State) (block : List UInt32) : State :=
  let m := ((expand 64 block.toArray).toList.zipIdx).foldl mix s
  ⟨s.a + m.a, s.b + m.b, s.c + m.c, s.d + m.d, s.e + m.e⟩

/-- Mixes whole blocks of sixteen words into the state, one for each unit of the count. -/
def addBlocks : Nat → State → List UInt32 → State
  | 0, s, _ => s
  | n + 1, s, ws => addBlocks n (addBlock s (ws.take 16)) (ws.drop 16)

/-- The digest of a message. -/
def digest (message : List UInt8) : List UInt8 :=
  let ws := words (padded message)
  let s := addBlocks (ws.length / 16) initial ws
  [s.a, s.b, s.c, s.d, s.e].flatMap fun w ↦ bigEndian 4 w.toNat

end Sha1

end FSharpFlags

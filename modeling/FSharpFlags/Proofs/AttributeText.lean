import FSharpFlags.Metadata.Blob
import Mathlib.Data.List.Induction
import Mathlib.Tactic.Ring

/-!
# Texts in attribute blobs

The value of an attribute with one string is a prolog, the length of the text as a compressed
integer, and the text in UTF-8. Nothing says that the integer has the shortest of its three forms,
so most texts have several blobs, and anything may follow the text. The decoder and this layout
determine each other: a blob is decoded to a text exactly if it is laid out for that text, in any
of the forms with room for the length.

A form is a row of bytes that is read as one number, most significant byte first, with a mark of
the form in the highest bits. What the decoder does with the first byte is therefore a comparison
of that number with the ranges of the three marks, which do not meet.
-/

namespace FSharpFlags

/-- The bytes of a text in UTF-8. -/
def Bytes.ofText (text : String) : Bytes := text.toByteArray.data.toList

theorem Bytes.length_ofText (text : String) : (ofText text).length = text.utf8ByteSize := rfl

theorem Bytes.text?_eq_some_iff {bytes : Bytes} {text : String} :
    bytes.text? = some text ↔ bytes = ofText text := by
  have hbytes : bytes.toByteArray = text.toByteArray ↔ bytes = ofText text := by
    constructor
    · intro h
      rw [ofText, ← h, List.toList_data_toByteArray]
    · rintro rfl
      exact ByteArray.ext (by rw [ofText, List.data_toByteArray, Array.toArray_toList])
  rw [← hbytes, Bytes.text?, String.fromUTF8?]
  by_cases hvalid : bytes.toByteArray.IsValidUTF8
  · rw [dif_pos hvalid, Option.some_inj, ← String.toByteArray_inj]
    rfl
  · rw [dif_neg hvalid]
    refine iff_of_false (fun h ↦ nomatch h) fun h ↦ hvalid ?_
    rw [h]
    exact text.isValidUTF8

/-- Whether a failure says that bytes are no text or no blob with one. -/
def Failure.isMalformedText : Failure → Bool
  | .blob _ | .notUtf8 => true
  | _ => false

namespace Blob

/-! ## Numbers as bytes -/

/-- The lowest bytes of a number, most significant first. -/
def bigEndian : Nat → Nat → Bytes
  | 0, _ => []
  | width + 1, n => bigEndian width (n / 256) ++ [UInt8.ofNat n]

theorem length_bigEndian (width n : Nat) : (bigEndian width n).length = width := by
  induction width generalizing n with
  | zero => rfl
  | succ width ih => rw [bigEndian, List.length_append, ih, List.length_singleton]

theorem bigEndianValue_concat (bytes : Bytes) (b : UInt8) :
    bigEndianValue (bytes ++ [b]) = 256 * bigEndianValue bytes + b.toNat := by
  rw [bigEndianValue, List.foldl_append]
  rfl

theorem bigEndianValue_lt (bytes : Bytes) : bigEndianValue bytes < 256 ^ bytes.length := by
  induction bytes using List.reverseRecOn with
  | nil => exact Nat.one_pos
  | append_singleton bytes b ih =>
    have hb := b.toNat_lt
    rw [bigEndianValue_concat, List.length_append, List.length_singleton, pow_succ]
    omega

theorem bigEndianValue_cons (b : UInt8) (bytes : Bytes) :
    bigEndianValue (b :: bytes) = 256 ^ bytes.length * b.toNat + bigEndianValue bytes := by
  induction bytes using List.reverseRecOn with
  | nil => simp [bigEndianValue]
  | append_singleton bytes c ih =>
    rw [← List.cons_append, bigEndianValue_concat, bigEndianValue_concat, ih, List.length_append,
      List.length_singleton, pow_succ]
    ring

theorem bigEndianValue_bigEndian {width n : Nat} (h : n < 256 ^ width) :
    bigEndianValue (bigEndian width n) = n := by
  induction width generalizing n with
  | zero => exact (Nat.lt_one_iff.mp h).symm
  | succ width ih =>
    have hrest : n / 256 < 256 ^ width := by
      rw [pow_succ] at h
      omega
    have hlast : (UInt8.ofNat n).toNat = n % 256 := UInt8.toNat_ofNat'
    rw [bigEndian, bigEndianValue_concat, ih hrest, hlast, Nat.div_add_mod]

theorem bigEndian_bigEndianValue (bytes : Bytes) :
    bigEndian bytes.length (bigEndianValue bytes) = bytes := by
  induction bytes using List.reverseRecOn with
  | nil => rfl
  | append_singleton bytes b ih =>
    have hb := b.toNat_lt
    have hrest : (256 * bigEndianValue bytes + b.toNat) / 256 = bigEndianValue bytes := by omega
    have hlast : UInt8.ofNat (256 * bigEndianValue bytes + b.toNat) = b := by
      rw [← UInt8.toNat_inj, UInt8.toNat_ofNat']
      omega
    rw [bigEndianValue_concat, List.length_append, List.length_singleton, bigEndian, hrest, hlast,
      ih]

/-! ## The forms of a length -/

/-- The forms of a compressed integer, by the number of their bytes. -/
inductive LengthForm where
  | one
  | two
  | four
  deriving DecidableEq, Repr

namespace LengthForm

/-- The number of bytes. -/
def width : LengthForm → Nat
  | one => 1
  | two => 2
  | four => 4

/-- The first number for which the form has no room. -/
def bound : LengthForm → Nat
  | one => 0x80
  | two => 0x4000
  | four => 0x20000000

/-- What the highest bits, which tell the form, add to the number. -/
def mark : LengthForm → Nat
  | one => 0
  | two => 0x8000
  | four => 0xC0000000

/-- A number in the form. -/
def field (form : LengthForm) (n : Nat) : Bytes := bigEndian form.width (form.mark + n)

/-- The shortest form with room for a number, the longest one if there is none. -/
def shortest (n : Nat) : LengthForm := if n < 0x80 then one else if n < 0x4000 then two else four

theorem length_field (form : LengthForm) (n : Nat) : (form.field n).length = form.width :=
  length_bigEndian form.width (form.mark + n)

theorem lt_bound_shortest {n : Nat} (h : n < 0x20000000) : n < (shortest n).bound := by
  unfold shortest
  split
  · assumption
  · split <;> assumption

theorem bigEndianValue_field {form : LengthForm} {n : Nat} (h : n < form.bound) :
    bigEndianValue (form.field n) = form.mark + n := by
  refine bigEndianValue_bigEndian ?_
  cases form <;> simp only [bound, mark, width] at h ⊢ <;> omega

/-- Bytes whose number reaches the mark of a form are a field of it. -/
theorem field_sub_mark {form : LengthForm} {bytes : Bytes} (hlength : bytes.length = form.width)
    (hmark : form.mark ≤ bigEndianValue bytes) :
    form.field (bigEndianValue bytes - form.mark) = bytes := by
  rw [field, Nat.add_sub_cancel' hmark, ← hlength, bigEndian_bigEndianValue]

theorem take_width_cons (form : LengthForm) (b : UInt8) (rest : Bytes) :
    (b :: rest).take form.width = b :: rest.take (form.width - 1) := by
  cases form <;> rfl

end LengthForm

/-! ## Reading a length -/

/-- The form that a first byte announces. -/
def LengthForm.ofFirst? (b : UInt8) : Option LengthForm :=
  if b < 0x80 then some one
  else if b < 0xC0 then some two
  else if b < 0xE0 then some four
  else none

/-- The first byte announces a form exactly if the number lies in the range of the form. -/
theorem LengthForm.ofFirst?_eq_some_iff {form : LengthForm} {b : UInt8} {tail : Bytes}
    (hlength : (b :: tail).length = form.width) :
    ofFirst? b = some form ↔ form.mark ≤ bigEndianValue (b :: tail)
      ∧ bigEndianValue (b :: tail) < form.mark + form.bound := by
  have htail := bigEndianValue_lt tail
  have hwidth : tail.length = form.width - 1 := by
    rw [← hlength, List.length_cons, Nat.add_sub_cancel]
  simp only [ofFirst?, UInt8.lt_iff_toNat_lt, UInt8.reduceToNat]
  rw [hwidth] at htail
  rw [bigEndianValue_cons, hwidth]
  cases form <;> simp only [width, mark, bound] at htail ⊢ <;> split_ifs <;> simp <;> omega

/-- Reads a number in a form: as the number of its bytes, less the mark. -/
def LengthForm.readAs (form : LengthForm) (bytes : Bytes) : Except BlobFault (Nat × Nat) :=
  if bytes.length < form.width then .error .truncatedInteger
  else .ok (bigEndianValue (bytes.take form.width) - form.mark, form.width)

/-- The mark may be taken off the first byte, before the bytes are put together. -/
theorem LengthForm.readAs_cons {form : LengthForm} {k m : Nat} (hwidth : form.width = k + 1)
    (hmark : form.mark = 256 ^ k * m) {b : UInt8} (hm : m ≤ b.toNat) (rest : Bytes) :
    form.readAs (b :: rest)
      = if rest.length < k then .error .truncatedInteger
        else .ok (256 ^ k * (b.toNat - m) + bigEndianValue (rest.take k), k + 1) := by
  have hroom : (b :: rest).length < k + 1 ↔ rest.length < k := Nat.succ_lt_succ_iff
  rw [readAs, hwidth, hmark]
  simp only [hroom]
  by_cases hshort : rest.length < k
  · rw [if_pos hshort, if_pos hshort]
  · have htake : (rest.take k).length = k := List.length_take_of_le (Nat.not_lt.mp hshort)
    rw [if_neg hshort, if_neg hshort, List.take_succ_cons, bigEndianValue_cons, htake,
      Nat.mul_sub, Nat.sub_add_comm (Nat.mul_le_mul_left _ hm)]

/-- Reading goes by the form that the first byte announces. -/
theorem readCompressed_cons (b : UInt8) (rest : Bytes) :
    readCompressed (b :: rest)
      = (LengthForm.ofFirst? b).elim (.error .invalidInteger) (·.readAs (b :: rest)) := by
  rw [readCompressed, LengthForm.ofFirst?]
  by_cases hone : b < 0x80
  · rw [if_pos hone, if_pos hone, Option.elim_some,
      LengthForm.readAs_cons (k := 0) (m := 0) rfl rfl (Nat.zero_le _), if_neg (Nat.not_lt_zero _)]
    simp [bigEndianValue]
  · rw [if_neg hone, if_neg hone]
    by_cases htwo : b < 0xC0
    · rw [if_pos htwo, if_pos htwo, Option.elim_some,
        LengthForm.readAs_cons (k := 1) (m := 0x80) rfl rfl (Nat.not_lt.mp hone)]
      rfl
    · rw [if_neg htwo, if_neg htwo]
      by_cases hfour : b < 0xE0
      · rw [if_pos hfour, if_pos hfour, Option.elim_some,
          LengthForm.readAs_cons (k := 3) (m := 0xC0) rfl rfl (Nat.not_lt.mp htwo)]
        rfl
      · rw [if_neg hfour, if_neg hfour, Option.elim_none]

theorem LengthForm.readAs_eq_ok_iff {form : LengthForm} {bytes : Bytes} {n width : Nat} :
    form.readAs bytes = .ok (n, width) ↔ form.width ≤ bytes.length
      ∧ n = bigEndianValue (bytes.take form.width) - form.mark ∧ width = form.width := by
  rw [readAs]
  split
  · exact iff_of_false (fun h ↦ nomatch h) fun h ↦ by omega
  · next hroom =>
    rw [Except.ok.injEq, Prod.mk.injEq, and_iff_right (Nat.not_lt.mp hroom), eq_comm,
      eq_comm (b := width)]

/-- A length is read exactly where one of the forms holds it. -/
theorem readCompressed_eq_ok_iff {bytes : Bytes} {n width : Nat} :
    readCompressed bytes = .ok (n, width)
      ↔ ∃ form : LengthForm, n < form.bound ∧ width = form.width
        ∧ ∃ rest, bytes = form.field n ++ rest := by
  constructor
  · intro h
    cases bytes with
    | nil => cases h
    | cons b rest =>
      rw [readCompressed_cons] at h
      cases hform : LengthForm.ofFirst? b with
      | none => rw [hform] at h; cases h
      | some form =>
        rw [hform, Option.elim_some, LengthForm.readAs_eq_ok_iff] at h
        obtain ⟨hroom, rfl, hwidth⟩ := h
        have hlength := List.length_take_of_le hroom
        have hrange := (LengthForm.ofFirst?_eq_some_iff
          (by rwa [LengthForm.take_width_cons] at hlength)).mp hform
        rw [← LengthForm.take_width_cons] at hrange
        refine ⟨form, by omega, hwidth, (b :: rest).drop form.width, ?_⟩
        rw [LengthForm.field_sub_mark hlength hrange.1, List.take_append_drop]
  · rintro ⟨form, hn, rfl, rest, rfl⟩
    have hlength := form.length_field n
    have hvalue := LengthForm.bigEndianValue_field hn
    cases hfield : form.field n with
    | nil =>
      rw [hfield] at hlength
      cases form <;> cases hlength
    | cons b tail =>
      rw [hfield] at hlength hvalue
      have hform : LengthForm.ofFirst? b = some form :=
        (LengthForm.ofFirst?_eq_some_iff hlength).mpr (by omega)
      have htake : (b :: (tail ++ rest)).take form.width = b :: tail :=
        List.take_left' hlength
      rw [List.cons_append, readCompressed_cons, hform, Option.elim_some,
        LengthForm.readAs_eq_ok_iff, htake, hvalue, Nat.add_sub_cancel_left]
      refine ⟨?_, rfl, rfl⟩
      rw [← hlength, ← List.cons_append, List.length_append]
      exact Nat.le_add_right _ _

/-! ## Reading a text -/

/-- A text behind its length in a form, and what follows. -/
def writtenText (form : LengthForm) (text : String) (trailing : Bytes) : Bytes :=
  form.field text.utf8ByteSize ++ (Bytes.ofText text ++ trailing)

theorem readText_of_readCompressed {bytes : Bytes} {length width : Nat}
    (h : readCompressed bytes = .ok (length, width)) :
    readText bytes = if (bytes.drop width).length < length then .error (.blob .stringTooLong)
      else (Bytes.text? ((bytes.drop width).take length)).elim (.error .notUtf8) .ok := by
  rw [readText, h]
  dsimp only
  split
  · rfl
  · cases Bytes.text? ((bytes.drop width).take length) <;> rfl

theorem readText_eq_ok_iff {bytes : Bytes} {text : String} :
    readText bytes = .ok text ↔ ∃ form trailing, text.utf8ByteSize < form.bound
      ∧ bytes = writtenText form text trailing := by
  constructor
  · intro h
    cases hread : readCompressed bytes with
    | error fault =>
      rw [readText, hread] at h
      cases h
    | ok found =>
      obtain ⟨length, width⟩ := found
      rw [readText_of_readCompressed hread] at h
      obtain ⟨form, hlength, rfl, rest, rfl⟩ := readCompressed_eq_ok_iff.mp hread
      rw [List.drop_left' (form.length_field length)] at h
      split at h
      · cases h
      · next hroom =>
        cases htext : Bytes.text? (rest.take length) with
        | none => rw [htext] at h; cases h
        | some found =>
          rw [htext] at h
          obtain rfl : found = text := Except.ok.inj h
          have hbytes := Bytes.text?_eq_some_iff.mp htext
          have hsize : found.utf8ByteSize = length := by
            rw [← Bytes.length_ofText, ← hbytes,
              List.length_take_of_le (Nat.not_lt.mp hroom)]
          refine ⟨form, rest.drop length, by rwa [hsize], ?_⟩
          rw [writtenText, hsize, ← hbytes, List.take_append_drop]
  · rintro ⟨form, trailing, hroom, rfl⟩
    have hread : readCompressed (writtenText form text trailing)
        = .ok (text.utf8ByteSize, form.width) :=
      readCompressed_eq_ok_iff.mpr ⟨form, hroom, rfl, _, rfl⟩
    have hlength := Bytes.length_ofText text
    have hshort : ¬(Bytes.ofText text ++ trailing).length < text.utf8ByteSize := by
      rw [List.length_append, hlength]
      omega
    rw [readText_of_readCompressed hread, writtenText,
      List.drop_left' (form.length_field text.utf8ByteSize), if_neg hshort,
      List.take_left' hlength, Bytes.text?_eq_some_iff.mpr rfl]
    rfl

theorem isMalformedText_of_readText {bytes : Bytes} {failure : Failure}
    (h : readText bytes = .error failure) : failure.isMalformedText = true := by
  cases hread : readCompressed bytes with
  | error fault =>
    rw [readText, hread] at h
    obtain rfl := Except.error.inj h
    rfl
  | ok found =>
    rw [readText_of_readCompressed hread] at h
    split at h
    · obtain rfl := Except.error.inj h
      rfl
    · cases htext : Bytes.text? ((bytes.drop found.2).take found.1) with
      | none =>
        rw [htext] at h
        obtain rfl := Except.error.inj h
        rfl
      | some text => rw [htext] at h; cases h

/-! ## The value of an attribute -/

/-- The blob of an attribute value: the prolog, the text behind its length, and what follows. -/
def attributeBlob (form : LengthForm) (text : String) (trailing : Bytes) : Bytes :=
  0x01 :: 0x00 :: writtenText form text trailing

/-- How the blob of an attribute value without a text begins. -/
def missingText : Bytes := [0x01, 0x00, 0xFF]

/-- The mark of a missing text announces no form. -/
theorem readText_missing (rest : Bytes) :
    readText (0xFF :: rest) = .error (.blob .invalidInteger) := rfl

theorem decodeStringAttribute_eq_some_iff {blob : Bytes} {text : String} :
    decodeStringAttribute blob = .ok (some text)
      ↔ ∃ body, blob = 0x01 :: 0x00 :: body ∧ readText body = .ok text := by
  constructor
  · intro h
    unfold decodeStringAttribute at h
    split at h
    · next b rest =>
      split at h
      · cases h
      · cases hread : readText (b :: rest) with
        | error failure => rw [hread] at h; cases h
        | ok found =>
          rw [hread] at h
          cases h
          exact ⟨b :: rest, rfl, hread⟩
    · cases h
  · rintro ⟨body, rfl, hread⟩
    cases body with
    | nil => cases hread
    | cons b rest =>
      rw [decodeStringAttribute, hread]
      by_cases hmissing : b = 0xFF
      · subst hmissing
        cases (readText_missing rest).symm.trans hread
      · rw [if_neg hmissing]
        rfl

theorem decodeStringAttribute_eq_none_iff {blob : Bytes} :
    decodeStringAttribute blob = .ok none ↔ missingText <+: blob := by
  constructor
  · intro h
    unfold decodeStringAttribute at h
    split at h
    · next b rest =>
      split at h
      · next hmissing => exact ⟨rest, by rw [hmissing]; rfl⟩
      · cases hread : readText (b :: rest) with
        | error failure => rw [hread] at h; cases h
        | ok found => rw [hread] at h; cases h
    · cases h
  · rintro ⟨rest, rfl⟩
    rfl

theorem isMalformedText_of_decodeStringAttribute {blob : Bytes} {failure : Failure}
    (h : decodeStringAttribute blob = .error failure) : failure.isMalformedText = true := by
  unfold decodeStringAttribute at h
  split at h
  · next b rest =>
    split at h
    · cases h
    · cases hread : readText (b :: rest) with
      | error found =>
        rw [hread] at h
        obtain rfl := Except.error.inj h
        exact isMalformedText_of_readText hread
      | ok found => rw [hread] at h; cases h
  · obtain rfl := Except.error.inj h
    rfl

/-- **Decoding undoes the layout, and nothing else is decoded.** A text whose length has room in
some form comes back from its blob; what is decoded to a text is a blob of it; what begins with
the mark of a missing text is decoded to none; and every other blob is refused as malformed. -/
theorem decodeStringAttribute_iff :
    (∀ text trailing, text.utf8ByteSize < 0x20000000 →
        decodeStringAttribute (attributeBlob (.shortest text.utf8ByteSize) text trailing)
          = .ok (some text))
      ∧ ∀ blob,
        (∀ text, decodeStringAttribute blob = .ok (some text)
            ↔ ∃ form trailing, text.utf8ByteSize < form.bound
              ∧ blob = attributeBlob form text trailing)
          ∧ (decodeStringAttribute blob = .ok none ↔ missingText <+: blob)
          ∧ ((∃ failure, decodeStringAttribute blob = .error failure
              ∧ failure.isMalformedText = true)
            ↔ ¬missingText <+: blob ∧ ∀ form text trailing, text.utf8ByteSize < form.bound →
              blob ≠ attributeBlob form text trailing) := by
  have hsome : ∀ blob text, decodeStringAttribute blob = .ok (some text)
      ↔ ∃ form trailing, text.utf8ByteSize < form.bound
        ∧ blob = attributeBlob form text trailing := by
    intro blob text
    rw [decodeStringAttribute_eq_some_iff]
    constructor
    · rintro ⟨body, rfl, hread⟩
      obtain ⟨form, trailing, hroom, rfl⟩ := readText_eq_ok_iff.mp hread
      exact ⟨form, trailing, hroom, rfl⟩
    · rintro ⟨form, trailing, hroom, rfl⟩
      exact ⟨_, rfl, readText_eq_ok_iff.mpr ⟨form, trailing, hroom, rfl⟩⟩
  refine ⟨fun text trailing hsize ↦ ?_, fun blob ↦
    ⟨hsome blob, decodeStringAttribute_eq_none_iff, ?_⟩⟩
  · exact (hsome _ text).mpr
      ⟨_, trailing, LengthForm.lt_bound_shortest hsize, rfl⟩
  · rw [← decodeStringAttribute_eq_none_iff]
    constructor
    · rintro ⟨failure, hfailure, -⟩
      rw [hfailure]
      refine ⟨(fun h ↦ nomatch h), fun form text trailing hroom heq ↦ ?_⟩
      cases hfailure.symm.trans ((hsome blob text).mpr ⟨form, trailing, hroom, heq⟩)
    · rintro ⟨hnone, hother⟩
      cases hdecode : decodeStringAttribute blob with
      | error failure => exact ⟨failure, rfl, isMalformedText_of_decodeStringAttribute hdecode⟩
      | ok found =>
        cases found with
        | none => exact absurd hdecode hnone
        | some text =>
          obtain ⟨form, trailing, hroom, heq⟩ := (hsome blob text).mp hdecode
          exact absurd heq (hother form text trailing hroom)

/-- A length in a form that is longer than it has to be is read as well, whatever follows the text;
a text that is cut off is not. -/
theorem decodeStringAttribute_iff_longForm :
    "a".utf8ByteSize < 0x20000000
      ∧ decodeStringAttribute (attributeBlob .one "a" [0x07]) = .ok (some "a")
      ∧ decodeStringAttribute [0x01, 0x00, 0x80, 0x01, 0x61, 0x07] = .ok (some "a")
      ∧ ¬missingText <+: [0x01, 0x00, 0x05, 0x61, 0x62] := by
  have hroom : "a".utf8ByteSize < 0x20000000 := by decide
  have hlong : [0x01, 0x00, 0x80, 0x01, 0x61, 0x07] = attributeBlob .two "a" [0x07] := by
    decide +kernel
  have hshort : decodeStringAttribute [0x01, 0x00, 0x05, 0x61, 0x62]
      = .error (.blob .stringTooLong) := by decide +kernel
  exact ⟨hroom, decodeStringAttribute_iff.1 "a" [0x07] hroom,
    ((decodeStringAttribute_iff.2 _).1 "a").mpr ⟨.two, [0x07], by decide, hlong⟩,
    ((decodeStringAttribute_iff.2 _).2.2.mp ⟨_, hshort, rfl⟩).1⟩

end Blob

end FSharpFlags

import FSharpFlags.Json.Compact
import FSharpFlags.Json.Parser
import FSharpFlags.Proofs.Pieces
import Mathlib.Data.List.Basic
import Mathlib.Data.String.Basic

/-!
# Compact texts are read back

The compact text of a value can be read as JSON, and what is read is the value. Two things are lost
on the way and are left out here: members are written in the order of their keys, so a value has to
have them in that order to come back unchanged; and whole numbers can be too long to be read.

Reading runs a machine over the tokens of a text. A value is taken in one piece: started where a
value is expected, the machine is behind its text where it would be if the value had been one token.
This is shown along the structure of the value; strings, which are escaped character by character,
come first.
-/

namespace FSharpFlags

namespace Json

/-! ## Strings -/

theorem hex_four {n : Nat} (h : n < 0x10000) :
    Text.hex 4 n = [(n / 4096).digitChar, (n / 256 % 16).digitChar, (n / 16 % 16).digitChar,
      (n % 16).digitChar] := by
  rw [Text.hex]
  by_cases h₁ : n < 16
  · rw [Nat.toDigits_of_lt_base h₁, show n / 4096 = 0 by omega, show n / 256 % 16 = 0 by omega,
      show n / 16 % 16 = 0 by omega, show n % 16 = n by omega]
    rfl
  rw [Nat.toDigits_of_base_le (by decide) (by omega)]
  by_cases h₂ : n / 16 < 16
  · rw [Nat.toDigits_of_lt_base h₂, show n / 4096 = 0 by omega, show n / 256 % 16 = 0 by omega,
      show n / 16 % 16 = n / 16 by omega]
    rfl
  rw [Nat.toDigits_of_base_le (by decide) (by omega)]
  by_cases h₃ : n / 16 / 16 < 16
  · rw [Nat.toDigits_of_lt_base h₃, show n / 4096 = 0 by omega,
      show n / 256 % 16 = n / 16 / 16 by omega]
    rfl
  rw [Nat.toDigits_of_base_le (by decide) (by omega), Nat.toDigits_of_lt_base (by omega),
    show n / 4096 = n / 16 / 16 / 16 by omega, show n / 256 % 16 = n / 16 / 16 % 16 by omega]
  rfl

theorem hexDigit?_digitChar {d : Nat} (h : d < 16) : hexDigit? d.digitChar = some d := by
  have hall : ∀ d < 16, hexDigit? d.digitChar = some d := by decide
  exact hall d h

theorem unit?_digitChar {n : Nat} (h : n < 0x10000) :
    unit? (n / 4096).digitChar (n / 256 % 16).digitChar (n / 16 % 16).digitChar
      (n % 16).digitChar = some n := by
  rw [unit?, hexDigit?_digitChar (by omega), hexDigit?_digitChar (by omega),
    hexDigit?_digitChar (by omega), hexDigit?_digitChar (by omega)]
  show some _ = some n
  congr 1
  omega

/-- The codes that a character is written by: its own, or those of its two halves. -/
def units (c : Char) : List Nat :=
  if c.toNat < 0x10000 then [c.toNat]
  else [0xD800 + (c.toNat - 0x10000) / 1024, 0xDC00 + (c.toNat - 0x10000) % 1024]

variable {start here : Nat} {codes : List Nat} {left rest : List Char}

theorem scanString_unitEscape {unit : Nat} (h : unit < 0x10000) (hrest : rest ≠ [])
    (hscan : ∀ here, scanString start here rest = .ok (codes, left)) :
    scanString start here (unitEscape unit ++ rest) = .ok (unit :: codes, left) := by
  rw [unitEscape, hex_four h]
  show scanString start here ('\\' :: 'u' :: _ :: _ :: _ :: _ :: rest) = _
  rw [scanString, unit?_digitChar h]
  simp [hrest, hscan, Except.map]

/-- A code is that of a character, and not that of half a pair. -/
theorem toNat_cases (c : Char) : c.toNat < 0xD800 ∨ 0xDFFF < c.toNat ∧ c.toNat < 0x110000 := c.valid

theorem scanString_escape {c image : Char} (hc : c ≠ 'u') (himage : escaped? c = some image)
    (hscan : ∀ here, scanString start here rest = .ok (codes, left)) :
    scanString start here ('\\' :: c :: rest) = .ok (image.toNat :: codes, left) := by
  rw [scanString.eq_def]
  split <;> simp_all [Except.map]
  next hno heq => exact absurd heq.2.symm (hno c rest heq.1.symm)

theorem scanString_self {c : Char} (hquote : c ≠ '"') (hslash : c ≠ '\\') (hc : 0x20 ≤ c.toNat)
    (hscan : ∀ here, scanString start here rest = .ok (codes, left)) :
    scanString start here (c :: rest) = .ok (c.toNat :: codes, left) := by
  rw [scanString.eq_def]
  split <;> simp_all [Except.map]

/-- Scanning an escaped character gives its codes. -/
theorem scanString_escapeChar (c : Char) (hrest : rest ≠ [])
    (hscan : ∀ here, scanString start here rest = .ok (codes, left)) :
    scanString start here (escapeChar c ++ rest) = .ok (units c ++ codes, left) := by
  have hescape : ∀ {letter : Char}, letter ≠ 'u' → escaped? letter = some c → c.toNat < 0x10000 →
      scanString start here ('\\' :: letter :: rest) = .ok (units c ++ codes, left) := by
    intro letter hne himage hlt
    rw [units, if_pos hlt]
    exact scanString_escape hne himage hscan
  unfold escapeChar
  split_ifs with hmark hn hr ht hb hf hprintable hlt
  · rcases (Bool.or_eq_true _ _).mp hmark with h | h
    · obtain rfl := of_decide_eq_true h
      exact hescape (by decide) rfl (by decide)
    · obtain rfl := of_decide_eq_true h
      exact hescape (by decide) rfl (by decide)
  · subst hn
    exact hescape (by decide) rfl (by decide)
  · subst hr
    exact hescape (by decide) rfl (by decide)
  · subst ht
    exact hescape (by decide) rfl (by decide)
  · subst hb
    exact hescape (by decide) rfl (by decide)
  · subst hf
    exact hescape (by decide) rfl (by decide)
  · rw [Bool.and_eq_true, decide_eq_true_eq, decide_eq_true_eq] at hprintable
    have hlow : 0x20 ≤ c.toNat := hprintable.1
    have hhigh : c.toNat ≤ 0x7E := hprintable.2
    rw [Bool.or_eq_true, decide_eq_true_eq, decide_eq_true_eq, not_or] at hmark
    rw [units, if_pos (by omega)]
    exact scanString_self hmark.1 hmark.2 (by omega) hscan
  · rw [units, if_pos hlt]
    exact scanString_unitEscape hlt hrest hscan
  · have hc := toNat_cases c
    have hhigh : 0xD800 + (c.toNat - 0x10000) / 1024 < 0x10000 := by omega
    have hlow : 0xDC00 + (c.toNat - 0x10000) % 1024 < 0x10000 := by omega
    rw [units, if_neg hlt]
    generalize 0xD800 + (c.toNat - 0x10000) / 1024 = high at *
    generalize 0xDC00 + (c.toNat - 0x10000) % 1024 = low at *
    rw [List.append_assoc]
    exact scanString_unitEscape hhigh (List.cons_ne_nil _ _)
      fun here ↦ scanString_unitEscape hlow hrest hscan

theorem scanString_flatMap_escapeChar (cs : List Char) (here : Nat) :
    scanString start here (cs.flatMap escapeChar ++ '"' :: rest)
      = .ok (cs.flatMap units, rest) := by
  induction cs generalizing here with
  | nil => simp [scanString]
  | cons c cs ih =>
    rw [List.flatMap_cons, List.flatMap_cons, List.append_assoc]
    exact scanString_escapeChar c (by simp) ih

theorem joinPairs?_units (c : Char) (codes : List Nat) :
    joinPairs? (units c ++ codes) = (joinPairs? codes).map (c :: ·) := by
  have hc := toNat_cases c
  unfold units
  split_ifs with hlt
  · have hhigh : isHigh c.toNat = false := by
      simp [isHigh]
      omega
    have hcode : codeChar? c.toNat = some c := by
      have hlow : isLow c.toNat = false := by
        simp [isLow]
        omega
      rw [codeChar?, hhigh, hlow]
      exact congrArg some (Char.ofNat_toNat c)
    cases codes with
    | nil => simp [joinPairs?, hcode]
    | cons second rest =>
      rw [List.singleton_append, joinPairs?, hhigh, hcode]
      cases joinPairs? (second :: rest) <;> rfl
  · have hhigh : isHigh (0xD800 + (c.toNat - 0x10000) / 1024) = true := by
      simp [isHigh]
      omega
    have hlow : isLow (0xDC00 + (c.toNat - 0x10000) % 1024) = true := by
      simp [isLow]
      omega
    have hsum : 0x10000 + 1024 * (0xD800 + (c.toNat - 0x10000) / 1024 - 0xD800)
        + (0xDC00 + (c.toNat - 0x10000) % 1024 - 0xDC00) = c.toNat := by omega
    generalize 0xD800 + (c.toNat - 0x10000) / 1024 = high at *
    generalize 0xDC00 + (c.toNat - 0x10000) % 1024 = low at *
    show joinPairs? (high :: low :: codes) = _
    rw [joinPairs?, hhigh, hlow, hsum, Char.ofNat_toNat]
    rfl

theorem joinPairs?_flatMap_units (cs : List Char) : joinPairs? (cs.flatMap units) = some cs := by
  induction cs with
  | nil => rfl
  | cons c cs ih => rw [List.flatMap_cons, joinPairs?_units, ih, Option.map_some]

theorem textToken_flatMap_units (text : String) :
    textToken (text.toList.flatMap units) = .text text := by
  rw [textToken, joinPairs?_flatMap_units]
  dsimp only
  rw [String.ofList_toList]

/-! ## Tokens -/

variable {offset : Nat}

theorem tokens_cons {c : Char} {token : Token} {length : Nat} (hspace : isSpace c = false)
    (hscan : scanToken offset (c :: rest) = (token, length)) :
    tokens offset (c :: rest)
      = ⟨offset, token⟩ :: tokens (offset + 1 + (length - 1)) (rest.drop (length - 1)) := by
  rw [tokens]
  simp [hspace, hscan]

theorem tokens_cons_of_length_one {c : Char} {token : Token} (hspace : isSpace c = false)
    (hscan : scanToken offset (c :: rest) = (token, 1)) :
    tokens offset (c :: rest) = ⟨offset, token⟩ :: tokens (offset + 1) rest :=
  tokens_cons hspace hscan

theorem toList_stringText (text : String) :
    (stringText text).toList = '"' :: (text.toList.flatMap escapeChar ++ ['"']) := by
  simp [stringText]

/-- The text of a string is one token. -/
theorem exists_tokens_stringText (text : String) (offset : Nat) (rest : List Char) :
    ∃ offset', tokens offset ((stringText text).toList ++ rest)
      = ⟨offset, .text text⟩ :: tokens offset' rest := by
  have hscan : scanToken offset ('"' :: (text.toList.flatMap escapeChar ++ '"' :: rest))
      = (.text text, (text.toList.flatMap escapeChar).length + 2) := by
    rw [scanToken, scanString_flatMap_escapeChar]
    simp [textToken_flatMap_units]
    omega
  rw [toList_stringText, List.cons_append, List.append_assoc, List.singleton_append,
    tokens_cons (by decide) hscan]
  refine ⟨_, congrArg _ (congrArg _ ?_)⟩
  rw [Nat.add_sub_assoc (by decide), List.drop_append]
  simp

/-! ## Values -/

/-- Whether a text is taken as a value wherever one may begin, as the first item of an array too. -/
def ReadsAs (cs : List Char) (v : Json) : Prop :=
  ∀ offset rest, ∃ first more offset', tokens offset (cs ++ rest) = first :: more
    ∧ first.token ≠ .closeArray
    ∧ ∀ frames, (first :: more).foldlM Machine.step (.value frames)
      = (tokens offset' rest).foldlM Machine.step (Machine.finish v frames)

theorem readsAs_of_token {cs : List Char} {v : Json} {token : Token} (hclose : token ≠ .closeArray)
    (hbegin : ∀ frames offset, Machine.begin frames ⟨offset, token⟩ = .ok (Machine.finish v frames))
    (htokens : ∀ offset rest, ∃ offset',
      tokens offset (cs ++ rest) = ⟨offset, token⟩ :: tokens offset' rest) : ReadsAs cs v := by
  intro offset rest
  obtain ⟨offset', h⟩ := htokens offset rest
  refine ⟨_, _, offset', h, hclose, fun frames ↦ ?_⟩
  rw [List.foldlM_cons, Machine.step, hbegin]
  rfl

theorem readsAs_string (text : String) :
    ReadsAs (compact (.string text)).toList (.string text) := by
  rw [compact]
  exact readsAs_of_token (by simp) (fun _ _ ↦ rfl) (exists_tokens_stringText text)

theorem readsAs_null : ReadsAs (compact .null).toList .null := by
  have hbegin : ∀ frames offset, Machine.begin frames ⟨offset, .scalar .null⟩
      = .ok (Machine.finish .null frames) := fun _ _ ↦ rfl
  refine readsAs_of_token (by simp) hbegin fun offset rest ↦ ?_
  have hscan : scanToken offset ('n' :: ('u' :: 'l' :: 'l' :: rest)) = (.scalar .null, 4) := by
    simp [scanToken, scanNumber?, wholeDigits, scanLiteral?, literals]
    rfl
  exact ⟨_, tokens_cons (by decide) hscan⟩

theorem readsAs_bool (value : Bool) : ReadsAs (compact (.bool value)).toList (.bool value) := by
  have hbegin : ∀ frames offset, Machine.begin frames ⟨offset, .scalar (.bool value)⟩
      = .ok (Machine.finish (.bool value) frames) := fun _ _ ↦ rfl
  refine readsAs_of_token (by simp) hbegin fun offset rest ↦ ?_
  cases value with
  | false =>
    have hscan : scanToken offset ('f' :: ('a' :: 'l' :: 's' :: 'e' :: rest))
        = (.scalar (.bool false), 5) := by
      simp [scanToken, scanNumber?, wholeDigits, scanLiteral?, literals]
      rfl
    exact ⟨_, tokens_cons (by decide) hscan⟩
  | true =>
    have hscan : scanToken offset ('t' :: ('r' :: 'u' :: 'e' :: rest))
        = (.scalar (.bool true), 4) := by
      simp [scanToken, scanNumber?, wholeDigits, scanLiteral?, literals]
      rfl
    exact ⟨_, tokens_cons (by decide) hscan⟩

/-! ### Arrays -/

theorem compactItems_eq (items : List Json) : compactItems items = items.map compact := by
  induction items with
  | nil => rfl
  | cons item items ih => rw [compactItems, ih, List.map_cons]

theorem step_firstItem {t : Placed} (h : t.token ≠ .closeArray) (frames : List Frame) :
    Machine.step (.firstItem frames) t = Machine.step (.value (.item [] :: frames)) t := by
  obtain ⟨offset, token⟩ := t
  cases token <;> first | rfl | exact absurd rfl h

/-- The items behind the first one are taken one after the other. -/
theorem exists_foldlM_items {items : List Json}
    (h : ∀ item ∈ items, ReadsAs item.compact.toList item) (offset : Nat) (rest : List Char) :
    ∃ offset', ∀ before frames,
      (tokens offset (items.flatMap (fun item ↦ ',' :: item.compact.toList) ++ ']' :: rest)).foldlM
          Machine.step (.afterItem before frames)
        = (tokens offset' rest).foldlM Machine.step
          (Machine.finish (.array (before.reverse ++ items)) frames) := by
  induction items generalizing offset with
  | nil =>
    refine ⟨offset + 1, fun before frames ↦ ?_⟩
    rw [List.flatMap_nil, List.nil_append, tokens_cons_of_length_one (by decide) rfl,
      List.foldlM_cons, List.append_nil]
    rfl
  | cons item items ih =>
    rw [List.forall_mem_cons] at h
    obtain ⟨first, more, offset₁, htokens, -, hitem⟩ := h.1 (offset + 1)
      (items.flatMap (fun item ↦ ',' :: item.compact.toList) ++ ']' :: rest)
    obtain ⟨offset₂, hitems⟩ := ih h.2 offset₁
    refine ⟨offset₂, fun before frames ↦ ?_⟩
    rw [List.flatMap_cons, List.append_assoc, List.cons_append,
      tokens_cons_of_length_one (by decide) rfl, List.foldlM_cons]
    show (tokens (offset + 1) (item.compact.toList ++ _)).foldlM Machine.step
      (.value (.item before :: frames)) = _
    rw [htokens, hitem]
    show List.foldlM Machine.step (.afterItem (item :: before) frames) _ = _
    rw [hitems, List.reverse_cons, List.append_assoc, List.singleton_append]

theorem toList_compact_array (items : List Json) :
    (compact (.array items)).toList
      = '[' :: ([','].intercalate (items.map fun item ↦ item.compact.toList) ++ [']']) := by
  simp [compact, compactItems_eq, String.toList_intercalate, Function.comp_def]

theorem readsAs_array {items : List Json} (h : ∀ item ∈ items, ReadsAs item.compact.toList item) :
    ReadsAs (compact (.array items)).toList (.array items) := by
  intro offset rest
  rw [toList_compact_array, List.cons_append, List.append_assoc, List.singleton_append]
  cases items with
  | nil =>
    refine ⟨_, _, offset + 2, tokens_cons_of_length_one (by decide) rfl, by simp, fun frames ↦ ?_⟩
    rw [List.map_nil, List.intercalate_nil, List.nil_append, List.foldlM_cons]
    show (tokens (offset + 1) (']' :: rest)).foldlM Machine.step (.firstItem frames) = _
    rw [tokens_cons_of_length_one (by decide) rfl, List.foldlM_cons]
    rfl
  | cons item items =>
    rw [List.forall_mem_cons] at h
    rw [List.map_cons, intercalate_cons, List.flatMap_map, List.append_assoc]
    obtain ⟨first, more, offset₁, htokens, hfirst, hitem⟩ := h.1 (offset + 1)
      (items.flatMap (fun item ↦ ',' :: item.compact.toList) ++ ']' :: rest)
    obtain ⟨offset₂, hitems⟩ := exists_foldlM_items h.2 offset₁ rest
    refine ⟨_, _, offset₂, tokens_cons_of_length_one (by decide) rfl, by simp, fun frames ↦ ?_⟩
    rw [List.foldlM_cons]
    show (tokens (offset + 1) (item.compact.toList ++ _)).foldlM Machine.step
      (.firstItem frames) = _
    -- The first item is taken as any value is, since it does not begin like the end of the array.
    rw [htokens, List.foldlM_cons, step_firstItem hfirst, ← List.foldlM_cons, hitem]
    exact hitems [item] frames

/-! ### Objects -/

theorem put_of_not_mem {members : Members} {key : String} (h : key ∉ members.map (·.1))
    (value : Json) : put members key value = members ++ [(key, value)] := by
  induction members with
  | nil => rfl
  | cons m members ih =>
    obtain ⟨k, v⟩ := m
    rw [List.map_cons, List.mem_cons, not_or] at h
    rw [put, if_neg (Ne.symm h.1), ih h.2, List.cons_append]

theorem compactMembers_eq (members : Members) :
    compactMembers members = members.map fun m ↦ (m.1, m.2.compact) := by
  induction members with
  | nil => rfl
  | cons m members ih =>
    obtain ⟨key, value⟩ := m
    rw [compactMembers, ih, List.map_cons]

/-- How a member of an object is written. -/
def memberChars (m : String × Json) : List Char :=
  (stringText m.1).toList ++ ':' :: m.2.compact.toList

/-- Members in the order of their keys are written in that order. -/
theorem toList_compact_object {members : Members} (h : (members.map (·.1)).Pairwise (· < ·)) :
    (compact (.object members)).toList
      = '\x7b' :: ([','].intercalate (members.map memberChars) ++ ['\x7d']) := by
  have hsorted : ((compactMembers members).mergeSort fun a b ↦ decide (a.1 ≤ b.1))
      = compactMembers members := by
    refine List.mergeSort_of_pairwise ?_
    rw [compactMembers_eq, List.pairwise_map]
    exact (List.pairwise_map.mp h).imp fun hlt ↦ decide_eq_true hlt.le
  rw [compact, hsorted, compactMembers_eq]
  simp [String.toList_intercalate, Function.comp_def]
  rfl

/-- A member is taken wherever its key may stand. -/
theorem exists_foldlM_member {m : String × Json} (h : ReadsAs m.2.compact.toList m.2)
    (offset : Nat) (rest : List Char) :
    ∃ offset', ∀ state before frames,
      (∀ t : Placed, t.token = .text m.1 → Machine.step state t = .ok (.colon before m.1 frames)) →
        (tokens offset (memberChars m ++ rest)).foldlM Machine.step state
          = (tokens offset' rest).foldlM Machine.step
            (.afterMember (put before m.1 m.2) frames) := by
  obtain ⟨offset₁, hkey⟩ :=
    exists_tokens_stringText m.1 offset (':' :: (m.2.compact.toList ++ rest))
  obtain ⟨first, more, offset₂, htokens, -, hvalue⟩ := h (offset₁ + 1) rest
  refine ⟨offset₂, fun state before frames hstate ↦ ?_⟩
  rw [memberChars, List.append_assoc, List.cons_append, hkey, List.foldlM_cons, hstate _ rfl]
  show List.foldlM Machine.step (.colon before m.1 frames) _ = _
  rw [tokens_cons_of_length_one (by decide) rfl, List.foldlM_cons]
  show (tokens (offset₁ + 1) (m.2.compact.toList ++ rest)).foldlM Machine.step
    (.value (.member before m.1 :: frames)) = _
  rw [htokens, hvalue]
  rfl

/-- The members behind the first one are taken one after the other. -/
theorem exists_foldlM_members {members : Members}
    (h : ∀ m ∈ members, ReadsAs m.2.compact.toList m.2) (offset : Nat) (rest : List Char) :
    ∃ offset', ∀ before frames, ((before ++ members).map (·.1)).Nodup →
      (tokens offset (members.flatMap (fun m ↦ ',' :: memberChars m) ++ '\x7d' :: rest)).foldlM
          Machine.step (.afterMember before frames)
        = (tokens offset' rest).foldlM Machine.step
          (Machine.finish (.object (before ++ members)) frames) := by
  induction members generalizing offset with
  | nil =>
    refine ⟨offset + 1, fun before frames _ ↦ ?_⟩
    rw [List.flatMap_nil, List.nil_append, tokens_cons_of_length_one (by decide) rfl,
      List.foldlM_cons, List.append_nil]
    rfl
  | cons m members ih =>
    rw [List.forall_mem_cons] at h
    obtain ⟨offset₁, hmember⟩ := exists_foldlM_member h.1 (offset + 1)
      (members.flatMap (fun m ↦ ',' :: memberChars m) ++ '\x7d' :: rest)
    obtain ⟨offset₂, hmembers⟩ := ih h.2 offset₁
    refine ⟨offset₂, fun before frames hnodup ↦ ?_⟩
    have hfresh : m.1 ∉ before.map (·.1) := by
      rw [List.map_append, List.map_cons, List.nodup_append] at hnodup
      exact fun hmem ↦ hnodup.2.2 _ hmem _ List.mem_cons_self rfl
    rw [List.flatMap_cons, List.append_assoc, List.cons_append,
      tokens_cons_of_length_one (by decide) rfl, List.foldlM_cons]
    show (tokens (offset + 1) (memberChars m ++ _)).foldlM Machine.step (.nextKey before frames) = _
    rw [hmember (.nextKey before frames) before frames, put_of_not_mem hfresh,
      List.append_cons before m members]
    · exact hmembers _ frames (by rwa [← List.append_cons])
    · rintro ⟨offset, token⟩ rfl
      rfl

theorem readsAs_object {members : Members} (hsorted : (members.map (·.1)).Pairwise (· < ·))
    (h : ∀ m ∈ members, ReadsAs m.2.compact.toList m.2) :
    ReadsAs (compact (.object members)).toList (.object members) := by
  have hnodup : (members.map (·.1)).Nodup := hsorted.imp fun hlt ↦ hlt.ne
  intro offset rest
  rw [toList_compact_object hsorted, List.cons_append, List.append_assoc, List.singleton_append]
  cases members with
  | nil =>
    refine ⟨_, _, offset + 2, tokens_cons_of_length_one (by decide) rfl, by simp, fun frames ↦ ?_⟩
    rw [List.map_nil, List.intercalate_nil, List.nil_append, List.foldlM_cons]
    show (tokens (offset + 1) ('\x7d' :: rest)).foldlM Machine.step (.firstKey frames) = _
    rw [tokens_cons_of_length_one (by decide) rfl, List.foldlM_cons]
    rfl
  | cons m members =>
    rw [List.forall_mem_cons] at h
    rw [List.map_cons, intercalate_cons, List.flatMap_map, List.append_assoc]
    obtain ⟨offset₁, hmember⟩ := exists_foldlM_member h.1 (offset + 1)
      (members.flatMap (fun m ↦ ',' :: memberChars m) ++ '\x7d' :: rest)
    obtain ⟨offset₂, hmembers⟩ := exists_foldlM_members h.2 offset₁ rest
    refine ⟨_, _, offset₂, tokens_cons_of_length_one (by decide) rfl, by simp, fun frames ↦ ?_⟩
    rw [List.foldlM_cons]
    show (tokens (offset + 1) (memberChars m ++ _)).foldlM Machine.step (.firstKey frames) = _
    rw [hmember (.firstKey frames) [] frames]
    · exact hmembers [m] frames hnodup
    · rintro ⟨offset, token⟩ rfl
      rfl

/-! ## Reading back -/

/-- Whether a value comes back from its text: it has no numbers, and its members stand in the order
of their keys. -/
inductive IsOrdered : Json → Prop where
  | null : IsOrdered .null
  | bool (value : Bool) : IsOrdered (.bool value)
  | string (value : String) : IsOrdered (.string value)
  | array {items : List Json} (items_ordered : ∀ item ∈ items, IsOrdered item) :
    IsOrdered (.array items)
  | object {members : Members} (sorted : (members.map (·.1)).Pairwise (· < ·))
    (values : ∀ m ∈ members, IsOrdered m.2) : IsOrdered (.object members)

theorem IsOrdered.readsAs {v : Json} (h : v.IsOrdered) : ReadsAs v.compact.toList v := by
  induction h with
  | null => exact readsAs_null
  | bool value => exact readsAs_bool value
  | string value => exact readsAs_string value
  | array _ ih => exact readsAs_array ih
  | object sorted _ ih => exact readsAs_object sorted ih

theorem IsOrdered.head?_compact {v : Json} (h : v.IsOrdered) (rest : List Char) :
    (v.compact.toList ++ rest).head? ≠ some '\uFEFF' := by
  have hmark : ∀ c ∈ ['n', 'f', 't', '"', '[', '\x7b'], c ≠ '\uFEFF' := by simp
  have hhead : ∃ c ∈ ['n', 'f', 't', '"', '[', '\x7b'],
      (v.compact.toList ++ rest).head? = some c := by
    cases h with
    | null => exact ⟨'n', by simp, rfl⟩
    | bool value =>
      cases value with
      | false => exact ⟨'f', by simp, rfl⟩
      | true => exact ⟨'t', by simp, rfl⟩
    | string value => exact ⟨'"', by simp, by rw [compact, toList_stringText]; rfl⟩
    | array _ => exact ⟨'[', by simp, by rw [toList_compact_array]; rfl⟩
    | object sorted _ => exact ⟨'\x7b', by simp, by rw [toList_compact_object sorted]; rfl⟩
  obtain ⟨c, hc, hhead⟩ := hhead
  rw [hhead]
  exact fun heq ↦ hmark c hc (Option.some.inj heq)

theorem tokens_blanks {blanks : List Char} (h : ∀ c ∈ blanks, isSpace c = true) (offset : Nat) :
    ∃ offset', tokens offset blanks = [⟨offset', .finish⟩] := by
  induction blanks generalizing offset with
  | nil => exact ⟨offset, by rw [tokens]⟩
  | cons c blanks ih =>
    rw [List.forall_mem_cons] at h
    obtain ⟨offset', htokens⟩ := ih h.2 (offset + 1)
    exact ⟨offset', by rw [tokens, if_pos h.1, htokens]⟩

/-- **The compact text of a value is read as the value**, with any blanks behind it. -/
theorem IsOrdered.read_compact {v : Json} (h : v.IsOrdered) {blanks : List Char}
    (hblanks : ∀ c ∈ blanks, isSpace c = true) :
    read (v.compact.toList ++ blanks) = .ok v := by
  obtain ⟨first, more, offset', htokens, -, hvalue⟩ := h.readsAs 0 blanks
  obtain ⟨last, hlast⟩ := tokens_blanks hblanks offset'
  rw [read, if_neg (h.head?_compact blanks), htokens, hvalue, hlast]
  rfl

theorem pairwise_keys_mergeSort {α : Type} {members : List (String × α)}
    (h : (members.map (·.1)).Nodup) :
    ((members.mergeSort fun a b ↦ decide (a.1 ≤ b.1)).map (·.1)).Pairwise (· < ·) := by
  let le : String × α → String × α → Bool := fun a b ↦ decide (a.1 ≤ b.1)
  have htrans : ∀ a b c, le a b = true → le b c = true → le a c = true := by
    intro a b c hab hbc
    rw [decide_eq_true_eq] at hab hbc ⊢
    exact hab.trans hbc
  have htotal : ∀ a b, (le a b || le b a) = true := by
    intro a b
    rw [Bool.or_eq_true, decide_eq_true_eq, decide_eq_true_eq]
    exact le_total a.1 b.1
  have hsorted := List.pairwise_map.mpr
    ((List.pairwise_mergeSort htrans htotal members).imp fun hle ↦ of_decide_eq_true hle)
  have hnodup := ((List.mergeSort_perm members le).symm.map (·.1)).nodup h
  exact (hsorted.and hnodup).imp fun hle ↦ lt_of_le_of_ne hle.1 hle.2

theorem mergeSort_eq_of_perm {α : Type} {members members' : List (String × α)}
    (h : members.Perm members') (hnodup : (members.map (·.1)).Nodup) :
    (members.mergeSort fun a b ↦ decide (a.1 ≤ b.1))
      = members'.mergeSort fun a b ↦ decide (a.1 ≤ b.1) := by
  have hnodup' := (h.map (·.1)).nodup hnodup
  refine List.Perm.eq_of_pairwise (fun a b _ _ hab hba ↦ absurd hab hba.asymm)
    (List.pairwise_map.mp (pairwise_keys_mergeSort hnodup))
    (List.pairwise_map.mp (pairwise_keys_mergeSort hnodup')) ?_
  exact ((List.mergeSort_perm _ _).trans h).trans (List.mergeSort_perm _ _).symm

theorem compact_object_of_perm {members members' : Members} (h : members.Perm members')
    (hnodup : (members.map (·.1)).Nodup) :
    compact (.object members) = compact (.object members') := by
  have hkeys : ((compactMembers members).map (·.1)).Nodup := by
    rw [compactMembers_eq, List.map_map]
    exact hnodup
  have hperm : (compactMembers members).Perm (compactMembers members') := by
    rw [compactMembers_eq, compactMembers_eq]
    exact h.map _
  rw [compact, compact, mergeSort_eq_of_perm hperm hkeys]

/-- The text of an object with different keys is read as an object with the same members. -/
theorem exists_read_compact {members : Members} (hnodup : (members.map (·.1)).Nodup)
    (hvalues : ∀ m ∈ members, m.2.IsOrdered) {blanks : List Char}
    (hblanks : ∀ c ∈ blanks, isSpace c = true) :
    ∃ sorted, read ((compact (.object members)).toList ++ blanks) = .ok (.object sorted)
      ∧ sorted.Perm members := by
  have hperm := List.mergeSort_perm members fun a b ↦ decide (a.1 ≤ b.1)
  have hpairwise := pairwise_keys_mergeSort hnodup
  generalize members.mergeSort (fun a b ↦ decide (a.1 ≤ b.1)) = sorted at hperm hpairwise
  have hordered : (Json.object sorted).IsOrdered :=
    .object hpairwise fun m hm ↦ hvalues m (hperm.subset hm)
  have htext := compact_object_of_perm hperm.symm hnodup
  exact ⟨sorted, htext ▸ hordered.read_compact hblanks, hperm⟩

end Json

end FSharpFlags

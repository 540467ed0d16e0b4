import FSharpFlags.Json.Token
import FSharpFlags.Text.Numeral

/-!
# Parsing JSON texts

The tokens of a text drive a machine whose state is a stack of unfinished arrays and objects and
what may come next. A text is a value when the machine ends with one and an empty stack. A whole
number is converted when the machine meets it, so of two faults in a text the first one counts.
-/

namespace FSharpFlags

namespace Json

/-- The members of an unfinished object. -/
abbrev Members := List (String × Json)

/-- An unfinished array or object that waits for a value. -/
inductive Frame where
  /-- An array with its items so far, the last one first. -/
  | item (items : List Json)
  /-- An object with its members so far and the key of the next one. -/
  | member (members : Members) (key : String)

/-- What may come next, inside the frames, innermost first. -/
inductive Machine where
  /-- A value. -/
  | value (frames : List Frame)
  /-- The first item of an array, or its end. -/
  | firstItem (frames : List Frame)
  /-- The first key of an object, or its end. -/
  | firstKey (frames : List Frame)
  /-- A further key of an object. -/
  | nextKey (members : Members) (frames : List Frame)
  /-- The colon after a key. -/
  | colon (members : Members) (key : String) (frames : List Frame)
  /-- A comma after an item, or the end of the array. -/
  | afterItem (items : List Json) (frames : List Frame)
  /-- A comma after a member, or the end of the object. -/
  | afterMember (members : Members) (frames : List Frame)
  /-- Nothing. -/
  | done (value : Json)

namespace Machine

/-- Hands a finished value to the innermost frame. -/
def finish (v : Json) : List Frame → Machine
  | [] => .done v
  | .item items :: frames => .afterItem (v :: items) frames
  | .member members key :: frames => .afterMember (put members key v) frames

/-- Meets the first token of a value. -/
def begin (frames : List Frame) (t : Placed) : Except Fault Machine :=
  match t.token with
  | .openArray => .ok (.firstItem frames)
  | .openObject => .ok (.firstKey frames)
  | .scalar v => .ok (finish v frames)
  | .text s => .ok (finish (.string s) frames)
  | .brokenText cause place => .error (.malformed cause place)
  | .unpairedText => .error .unpairedHalf
  | .digits negative ds =>
    match Numeral.read ds with
    | .ok n => .ok (finish (.integer (if negative then -(n : Int) else n)) frames)
    | .error failure => .error (.unreadableNumber failure)
  | _ => .error (.malformed .noValue t.offset)

/-- Meets a key. -/
def beginKey (members : Members) (frames : List Frame) (t : Placed) : Except Fault Machine :=
  match t.token with
  | .text key => .ok (.colon members key frames)
  | .brokenText cause place => .error (.malformed cause place)
  | .unpairedText => .error .unpairedHalf
  | _ => .error (.malformed .noKey t.offset)

/-- Meets one token; at the end of the text a finished value stays as it is. -/
def step (m : Machine) (t : Placed) : Except Fault Machine :=
  match m, t.token with
  | .value frames, _ => begin frames t
  | .firstItem frames, .closeArray => .ok (finish (.array []) frames)
  | .firstItem frames, _ => begin (.item [] :: frames) t
  | .firstKey frames, .closeObject => .ok (finish (.object []) frames)
  | .firstKey frames, _ => beginKey [] frames t
  | .nextKey members frames, _ => beginKey members frames t
  | .colon members key frames, .colon => .ok (.value (.member members key :: frames))
  | .colon .., _ => .error (.malformed .noColon t.offset)
  | .afterItem items frames, .comma => .ok (.value (.item items :: frames))
  | .afterItem items frames, .closeArray => .ok (finish (.array items.reverse) frames)
  | .afterMember members frames, .comma => .ok (.nextKey members frames)
  | .afterMember members frames, .closeObject => .ok (finish (.object members) frames)
  | .afterItem .., _ | .afterMember .., _ => .error (.malformed .noComma t.offset)
  | .done v, .finish => .ok (.done v)
  | .done _, _ => .error (.malformed .extraData t.offset)

end Machine

/-- The value of the characters of a text. -/
def read (cs : List Char) : Except Fault Json :=
  if cs.head? = some '\uFEFF' then .error (.malformed .byteOrderMark 0)
  else do
    match ← (tokens 0 cs).foldlM Machine.step (.value []) with
    | .done value => return value
    | _ => throw (.malformed .noValue cs.length)

/-- The value of a key. -/
def get? (members : Members) (key : String) : Option Json := members.lookup key

end Json

end FSharpFlags

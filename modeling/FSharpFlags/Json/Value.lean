import FSharpFlags.Decimal.Shortest
import FSharpFlags.Text.Quoted

/-!
# JSON values

A workspace document is a JSON text. Numbers keep the kind that they are written in, since a whole
number and a fraction of the same value are shown differently. The members of an object stand in
the order in which their keys first appear, and the last value of a key counts.
-/

namespace FSharpFlags

/-- A JSON value. -/
inductive Json where
  | null
  | bool (value : Bool)
  | integer (value : Int)
  | real (value : Binary64)
  | string (value : String)
  | array (items : List Json)
  | object (members : List (String × Json))

namespace Json

/-- Sets the value of a key, which keeps its place if it has one. -/
def put (members : List (String × Json)) (key : String) (value : Json) : List (String × Json) :=
  match members with
  | [] => [(key, value)]
  | (k, v) :: rest => if k = key then (k, value) :: rest else (k, v) :: put rest key value

/-- Whether a value counts as true: everything but nothing, false, zero and what is empty. -/
def isTruthy : Json → Bool
  | .null => false
  | .bool value => value
  | .integer value => value ≠ 0
  | .real value => !value.isZero
  | .string value => !value.isEmpty
  | .array items => !items.isEmpty
  | .object members => !members.isEmpty

/-- Whether a value equals zero; false does. -/
def isZero : Json → Bool
  | .bool value => !value
  | .integer value => value = 0
  | .real value => value.isZero
  | _ => false

/-- The text of a positive decimal: positional for up to sixteen digits before the point and up to
four zeros after it, else with an exponent of at least two digits. -/
def decimalText (d : Decimal) : String :=
  let digits := String.ofList d.digits
  if -4 < d.point ∧ d.point ≤ 0 then
    "0." ++ String.ofList (List.replicate (-d.point).toNat '0') ++ digits
  else if 0 < d.point ∧ d.point ≤ 16 then
    let whole := d.point.toNat
    if d.digits.length ≤ whole then
      digits ++ String.ofList (List.replicate (whole - d.digits.length) '0') ++ ".0"
    else String.ofList (d.digits.take whole) ++ "." ++ String.ofList (d.digits.drop whole)
  else
    let first := String.ofList (d.digits.take 1)
    let more := String.ofList (d.digits.drop 1)
    let mantissa := if more.isEmpty then first else first ++ "." ++ more
    let exponent := d.point - 1
    let size := exponent.natAbs.repr
    mantissa ++ "e" ++ (if exponent < 0 then "-" else "+")
      ++ (if exponent.natAbs < 10 then "0" ++ size else size)

/-- The text of a number with a fraction or an exponent. -/
def realText : Binary64 → String
  | .notANumber => "nan"
  | .infinite negative => if negative then "-inf" else "inf"
  | .finite negative significand exponent =>
    (if negative then "-" else "") ++
      if significand = 0 then "0.0" else decimalText (Decimal.shortest significand exponent)

mutual

/-- How a value is shown inside another one. -/
def inner : Json → String
  | .null => "None"
  | .bool value => if value then "True" else "False"
  | .integer value => toString value
  | .real value => realText value
  | .string value => quoted value
  | .array items => "[" ++ ", ".intercalate (innerItems items) ++ "]"
  | .object members => "\x7b" ++ ", ".intercalate (innerMembers members) ++ "\x7d"

/-- How the items of an array are shown. -/
def innerItems : List Json → List String
  | [] => []
  | item :: rest => inner item :: innerItems rest

/-- How the members of an object are shown. -/
def innerMembers : List (String × Json) → List String
  | [] => []
  | (key, value) :: rest => (quoted key ++ ": " ++ inner value) :: innerMembers rest

end

/-- How a value is shown where a text is wanted; a string is the text itself. -/
def shown : Json → String
  | .string value => value
  | value => inner value

end Json

end FSharpFlags

import FieldTypes.Json.Basic
import FieldTypes.Json.Fault

set_option autoImplicit false

namespace FieldTypes.Json

structure Numeral where
  negative : Bool
  /-- Digits before the point, at least one, and only one if the first is zero. -/
  whole : List Char
  /-- Digits after the point, at least one. -/
  fraction : Option (List Char)
  exponent : Option Int
  deriving DecidableEq, Repr

namespace Numeral

def digitValue (c : Char) : Nat := c.toNat - 48

def digitsValue (digits : List Char) : Nat :=
  digits.foldl (fun value c => value * 10 + digitValue c) 0

def missingDigit : List Char → Fault
  | [] => .endInValue
  | _ :: _ => .invalidNumber

def readWhole (text : List Char) : Except Fault (List Char × List Char) :=
  let rest := text.dropWhile Char.isDigit
  match text.takeWhile Char.isDigit with
  | [] => .error (missingDigit rest)
  | '0' :: _ :: _ => .error .invalidNumber
  | digits => .ok (digits, rest)

def readFraction : List Char → Except Fault (Option (List Char) × List Char)
  | '.' :: text =>
    let rest := text.dropWhile Char.isDigit
    match text.takeWhile Char.isDigit with
    | [] => .error (missingDigit rest)
    | digits => .ok (some digits, rest)
  | text => .ok (none, text)

/-- The digits of an exponent whose mark and sign have been taken. -/
def readPower (negative : Bool) (text : List Char) : Except Fault (Option Int × List Char) :=
  let rest := text.dropWhile Char.isDigit
  match text.takeWhile Char.isDigit with
  | [] => .error (missingDigit rest)
  | digits =>
    let power : Int := digitsValue digits
    .ok (some (if negative then -power else power), rest)

def readExponent : List Char → Except Fault (Option Int × List Char)
  | c :: text =>
    if c = 'e' ∨ c = 'E' then
      match text with
      | '+' :: rest => readPower false rest
      | '-' :: rest => readPower true rest
      | rest => readPower false rest
    else .ok (none, c :: text)
  | [] => .ok (none, [])

/-- Takes a numeral apart; a minus sign has been taken already. -/
def read (negative : Bool) (text : List Char) : Except Fault (Numeral × List Char) := do
  let (whole, text) ← readWhole text
  let (fraction, text) ← readFraction text
  let (exponent, text) ← readExponent text
  .ok (⟨negative, whole, fraction, exponent⟩, text)

/-- Appends digits to a significand while it stays below `2 ^ 64`; gives the digits left over. -/
def gather (significand : Nat) : List Char → Nat × List Char
  | [] => (significand, [])
  | c :: rest =>
    let next := significand * 10 + digitValue c
    if next < Nat.pow 2 64 then gather next rest else (significand, c :: rest)

/-- Scales by a power of ten: one product or quotient while the power is at most `10 ^ 308`. Below
that, `10 ^ 308` is divided off first; `none` is out of range. -/
def scale (value : Binary64) (power : Int) : Option Binary64 :=
  if power < -308 then
    if value.isZero then some value
    else scale (value.divide (Binary64.powerOfTen 308)) (power + 308)
  else if power < 0 then some (value.divide (Binary64.powerOfTen power.natAbs))
  else if power ≤ 308 then
    let product := value.multiply (Binary64.powerOfTen power.natAbs)
    if product.isFinite then some product else none
  else if value.isZero then some value
  else none
termination_by power.natAbs
decreasing_by omega

/-- The floating-point value: surplus digits before the point only raise the exponent, surplus digits
after it are dropped. -/
def float (numeral : Numeral) : Except Fault Binary64 :=
  let fraction := numeral.fraction.getD []
  let (significand, surplus) := gather 0 numeral.whole
  let (significand, dropped) := gather significand fraction
  let power := numeral.exponent.getD 0 + surplus.length - (fraction.length - dropped.length : Nat)
  match scale (Binary64.nearest significand 1) power with
  | none => .error .numberOutOfRange
  | some value => .ok (if numeral.negative then value.negate else value)

/-- The integer value, if the numeral spells one of `-2 ^ 63, ..., -1, 0, ..., 2 ^ 64 - 1` without point
and exponent; minus zero is not an integer. -/
def integer? (numeral : Numeral) : Option Int :=
  if numeral.fraction.isSome ∨ numeral.exponent.isSome then none
  else
    let value := digitsValue numeral.whole
    if numeral.negative then
      if 0 < value ∧ value ≤ Nat.pow 2 63 then some (-(value : Int)) else none
    else if value < Nat.pow 2 64 then some value else none

def value (numeral : Numeral) : Except Fault Number :=
  match numeral.integer? with
  | some value => .ok (.integer value)
  | none => numeral.float.map .float

end Numeral

end FieldTypes.Json

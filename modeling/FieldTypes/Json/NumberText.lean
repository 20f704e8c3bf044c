import FieldTypes.Binary64.Shortest
import FieldTypes.Json.Basic

set_option autoImplicit false

namespace FieldTypes.Number

/-- The least and greatest exponent of a leading digit that is written without an exponent mark. -/
def plainRange : Int × Int := (-5, 15)

/-- Digits with a point: always at least one digit on both sides. -/
def plainText (digits : List Char) (leading : Int) : List Char :=
  if leading < 0 then
    '0' :: '.' :: List.replicate (-leading - 1).toNat '0' ++ digits
  else
    let before := leading.toNat + 1
    let whole := digits.take before ++ List.replicate (before - digits.length) '0'
    match digits.drop before with
    | [] => whole ++ ['.', '0']
    | rest => whole ++ '.' :: rest

/-- One digit, a point if more follow, and an exponent that always has a sign. -/
def exponentText (digits : List Char) (leading : Int) : List Char :=
  let sign := if leading < 0 then '-' else '+'
  let mantissa := match digits with
    | first :: second :: rest => first :: '.' :: second :: rest
    | other => other
  mantissa ++ 'e' :: sign :: Nat.toDigits 10 leading.natAbs

/-- A finite number in its shortest digits; what is not finite has no number text. -/
def floatText (value : Binary64) : List Char :=
  if value.isFinite then
    let sign := if value.isNegative then ['-'] else []
    let decimal := value.shortest
    let digits := Nat.toDigits 10 decimal.digits
    let leading := decimal.exponent + digits.length - 1
    if plainRange.1 ≤ leading ∧ leading ≤ plainRange.2 then sign ++ plainText digits leading
    else sign ++ exponentText digits leading
  else "null".toList

def integerText : Int → List Char
  | .ofNat value => Nat.toDigits 10 value
  | .negSucc value => '-' :: Nat.toDigits 10 (value + 1)

def text : Number → List Char
  | .integer value => integerText value
  | .float value => floatText value

end FieldTypes.Number

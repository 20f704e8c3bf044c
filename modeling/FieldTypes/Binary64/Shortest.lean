import FieldTypes.Binary64

set_option autoImplicit false

namespace FieldTypes

/-- The decimal `digits * 10 ^ exponent`. -/
structure Decimal where
  digits : Nat
  exponent : Int
  deriving DecidableEq, Repr

namespace Decimal

/-- Drops trailing zeros of the digits, at most `fuel` of them. -/
def trim : Nat → Decimal → Decimal
  | 0, d => d
  | fuel + 1, d =>
    if d.digits ≠ 0 ∧ d.digits % 10 = 0 then trim fuel ⟨d.digits / 10, d.exponent + 1⟩ else d

end Decimal

namespace Binary64

/-- A number with the ends of its rounding interval, in quarters of its last place. -/
structure Interval where
  low : Nat
  value : Nat
  high : Nat
  /-- Whether the ends themselves round to the number. -/
  closed : Bool
  /-- The power of two that a quarter of the last place is. -/
  power : Int

def interval (x : Binary64) : Interval :=
  let significand := x.significand
  { low := if significand = Nat.pow 2 52 ∧ 1 < x.biased then 4 * significand - 1 else 4 * significand - 2
    value := 4 * significand
    high := 4 * significand + 2
    closed := significand % 2 == 0
    power := x.exponent - 2 }

/-- The point of the grid with last place `10 ^ place` that stands for the number, if one does. -/
def onGrid (i : Interval) (place : Int) : Option Nat :=
  let unit := Nat.pow 10 place.toNat * Nat.pow 2 (-i.power).toNat
  let quarter := Nat.pow 2 i.power.toNat * Nat.pow 10 (-place).toNat
  let inside (point : Nat) : Bool :=
    if i.closed then decide (i.low * quarter ≤ point * unit ∧ point * unit ≤ i.high * quarter)
    else decide (i.low * quarter < point * unit ∧ point * unit < i.high * quarter)
  let below := i.value * quarter / unit
  let above := below + 1
  match inside below, inside above with
  | false, false => none
  | true, false => some below
  | false, true => some above
  | true, true =>
    let down := i.value * quarter - below * unit
    let up := above * unit - i.value * quarter
    if down < up ∨ (down = up ∧ below % 2 = 0) then some below else some above

/-- Tries ever finer grids, `fuel` of them. -/
def searchGrids (i : Interval) : Nat → Int → Decimal
  | 0, place => ⟨0, place⟩
  | fuel + 1, place =>
    match onGrid i place with
    | some point => ⟨point, place⟩
    | none => searchGrids i fuel (place - 1)

/-- A place not below the leading decimal digit: a bit is worth 0.30103 digits. -/
def highestPlace (x : Binary64) : Int :=
  (x.exponent + x.significand.log2) * 30103 / 100000 + 2

/-- The shortest decimal that rounds to the magnitude of a finite number, and zero for zero. Seventeen
digits always suffice, so twenty-four grids from the highest place on reach one with a point. -/
def shortest (x : Binary64) : Decimal :=
  if x.isZero then ⟨0, 0⟩ else (searchGrids x.interval 24 x.highestPlace).trim 20

end Binary64

end FieldTypes

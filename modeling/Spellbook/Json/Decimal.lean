import Spellbook.Json.Range
set_option autoImplicit false

/-!
# The shortest decimal

A floating-point number stands for all numbers that are nearer to it than to its
neighbours.  Among the decimals in that interval the shortest is the one of the
coarsest grid of powers of ten that has a point in the interval, and of two such
points the nearer one.
-/

namespace Spellbook.Json

/-- The number `digits * 10 ^ exponent`. -/
structure Decimal where
  digits : Nat
  exponent : Int
  deriving DecidableEq, Inhabited

namespace Decimal

/-- Two to a power. -/
def twoPow (n : Nat) : Nat := 1 <<< n

/-- Ten to a power. -/
def tenPow (n : Nat) : Nat := Nat.pow 10 n

/-- The number of digits of a number. -/
def width (n : Nat) : Nat := (Nat.toDigits 10 n).length

/-- An interval around a value, over one denominator. -/
structure Around where
  low : Nat
  value : Nat
  high : Nat
  denominator : Nat
  /-- Whether the ends belong to the interval. -/
  closed : Bool

namespace Around

/-- The numbers that round to `mantissa * 2 ^ exponent`.  Below a power of two the
neighbour is only half as far away. -/
def ofBinary (mantissa : Nat) (exponent : Int) : Around :=
  let e := exponent - 2
  let up := twoPow e.toNat
  let below := if mantissa = 0x10000000000000 ∧ -1074 < exponent then 1 else 2
  ⟨(4 * mantissa - below) * up, 4 * mantissa * up, (4 * mantissa + 2) * up,
    twoPow (-e).toNat, mantissa % 2 = 0⟩

/-- How often a value below one must be taken ten times to reach one. -/
def places (value denominator : Nat) : Nat → Nat
  | 0 => 0
  | bound + 1 => if denominator ≤ value then 0 else places (10 * value) denominator bound + 1

/-- The power of ten of the first digit. -/
def leading (a : Around) : Int :=
  if a.denominator ≤ a.value then (width (a.value / a.denominator) : Int) - 1
  else -(places a.value a.denominator 400 : Int)

/-- The point of the grid of a power of ten that is in the interval, if there is
one, and of two the nearer one. -/
def onGrid (a : Around) (k : Int) : Option Nat :=
  let unit := tenPow k.toNat * a.denominator
  let scale := tenPow (-k).toNat
  let inside (c : Nat) : Bool :=
    if a.closed then a.low * scale ≤ c * unit && c * unit ≤ a.high * scale
    else a.low * scale < c * unit && c * unit < a.high * scale
  let c := a.value * scale / unit
  let upper := (2 * c + 1) * unit < 2 * a.value * scale ||
    ((2 * c + 1) * unit = 2 * a.value * scale && c % 2 = 1)
  match inside c, inside (c + 1) with
  | false, false => none
  | true, false => some c
  | false, true => some (c + 1)
  | true, true => some (if upper then c + 1 else c)

/-- The point of the coarsest grid, beginning with this many digits. -/
def search (a : Around) (digits : Nat) : Nat → Decimal
  | 0 => ⟨0, 0⟩
  | bound + 1 =>
    let k := a.leading - digits + 1
    match a.onGrid k with
    | some c => ⟨c, k⟩
    | none => search a (digits + 1) bound

end Around

/-- The decimal without zeros at its end. -/
def trimmed (digits : Nat) (exponent : Int) : Nat → Decimal
  | 0 => ⟨digits, exponent⟩
  | bound + 1 =>
    if digits ≠ 0 ∧ digits % 10 = 0 then trimmed (digits / 10) (exponent + 1) bound
    else ⟨digits, exponent⟩

/-- The shortest decimal of a positive number `mantissa * 2 ^ exponent`. -/
def shortest (mantissa : Nat) (exponent : Int) : Decimal :=
  let d := (Around.ofBinary mantissa exponent).search 1 17
  trimmed d.digits d.exponent 17

/-- The shortest decimal of the size of a finite floating-point number. -/
def ofFloat (f : Float) : Decimal :=
  let bits := f.toBits.toNat
  let fraction := bits % 0x10000000000000
  let exponent := bits / 0x10000000000000 % 0x800
  if exponent = 0 then
    if fraction = 0 then ⟨0, 0⟩ else shortest fraction (-1074)
  else shortest (fraction + 0x10000000000000) ((exponent : Int) - 1075)

/-- The decimal written out: with a point from `0.00001` up to sixteen digits before
the point, and with an exponent otherwise. -/
def shown (d : Decimal) : String :=
  let s := toString d.digits
  let e := d.exponent + s.length - 1
  let zeros (n : Int) := String.ofList (List.replicate n.toNat '0')
  let head (n : Int) := String.ofList (s.toList.take n.toNat)
  let rest (n : Int) := String.ofList (s.toList.drop n.toNat)
  if -5 ≤ e ∧ e ≤ 15 then
    if 0 ≤ d.exponent then s ++ zeros d.exponent ++ ".0"
    else if 0 ≤ e then head (e + 1) ++ "." ++ rest (e + 1)
    else "0." ++ zeros (-e - 1) ++ s
  else
    let sign := if e < 0 then "-" else "+"
    let point := if s.length = 1 then "" else "."
    head 1 ++ point ++ rest 1 ++ "e" ++ sign ++ toString e.natAbs

end Decimal

namespace Scaled

/-- Divides by a power of ten, in steps of the largest one. -/
def divide (f : Float) (power : Nat) : Nat → Float
  | 0 => f
  | bound + 1 =>
    if power ≤ 308 then f / Float.ofScientific 1 false power
    else divide (f / Float.ofScientific 1 false 308) (power - 308) bound

/-- The floating-point number that a number is read as: the significand and the
power of ten are rounded, and then their product or quotient. -/
def value (s : Scaled) : Float :=
  let f := Float.ofNat s.significand
  match s.exponent with
  | .ofNat e => if s.significand = 0 then f else f * Float.ofScientific 1 false e
  | .negSucc e => divide f (e + 1) 4

/-- The number as it is read, written out. -/
def shown (s : Scaled) (negative : Bool) : String :=
  (if negative then "-" else "") ++ (Decimal.ofFloat s.value).shown

end Scaled

end Spellbook.Json

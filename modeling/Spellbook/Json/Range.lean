set_option autoImplicit false

/-!
# The range of numbers

A number is kept only if a 64-bit floating-point number can hold its size.  Its
digits are taken as a significand below `2^64` and a power of ten; further digits
only count towards the power.  Significand and power are rounded to 53 bits each,
and so is their product, which must not round to infinity.
-/

namespace Spellbook.Json

/-- Takes digits into a number for as long as it stays below `2^64`, and says how
many are left over. -/
def takeDigits (n : Nat) : List Char → Nat × Nat
  | [] => (n, 0)
  | c :: rest =>
    let m := 10 * n + (c.toNat - '0'.toNat)
    if m < 0x10000000000000000 then takeDigits m rest else (n, rest.length + 1)

/-- A number as a significand below `2^64` times a power of ten. -/
structure Scaled where
  significand : Nat
  exponent : Int
  deriving DecidableEq, Inhabited

namespace Scaled

/-- The number with these digits before and after the point, and this exponent. -/
def ofDigits (whole fraction : List Char) (exponent : Int) : Scaled :=
  let (n, spilled) := takeDigits 0 whole
  let (n, left) := takeDigits n fraction
  ⟨n, spilled - (fraction.length - left : Nat) + exponent⟩

/-- The nearest number of at most 53 bits; of two that are as near, the even one. -/
def roundBits (n : Nat) : Nat :=
  let drop := n.log2 - 52
  let kept := n >>> drop
  let rest := n - (kept <<< drop)
  let up := 2 * rest > 1 <<< drop || (2 * rest = 1 <<< drop && kept % 2 = 1)
  (if up then kept + 1 else kept) <<< drop

/-- The least number that rounds to infinity. -/
def overflow : Nat := 0x3fffffffffffff <<< 970

/-- Whether the number is too large for a floating-point number. -/
def isVast (s : Scaled) : Bool :=
  s.significand ≠ 0 &&
    match s.exponent with
    | .ofNat e =>
      308 < e || overflow ≤ roundBits s.significand * roundBits (Nat.pow 10 e)
    | .negSucc _ => false

end Scaled

end Spellbook.Json

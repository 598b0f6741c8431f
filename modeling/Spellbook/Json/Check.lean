import Spellbook.Json.Trouble
set_option autoImplicit false

/-!
# Checking a JSON text

A step reads from the start of what is left of a text and says what is left then,
or what is wrong.  A value from which nothing is read is only checked for its
form.
-/

namespace Spellbook.Json

/-- A reader of the start of a text: what it reads and what is left, or what is
wrong. -/
abbrev Step (α : Type) := List Char → Except Trouble (α × List Char)

/-- A checker of the start of a text: what is left, or what is wrong. -/
abbrev Pass := List Char → Except Trouble (List Char)

namespace Check

/-- Something is wrong, so many bytes into what is left. -/
def stop {α : Type} (cause : Cause) (rest : List Char) (past : Nat) : Except Trouble α :=
  .error ⟨cause, rest, past⟩

/-- The text ends too soon. -/
def ended {α : Type} (cause : Cause) : Except Trouble α := stop cause [] 0

/-- What is left after blanks. -/
def skipBlanks (cs : List Char) : List Char := cs.dropWhile isSpace

/-- Whether a digit comes next. -/
def digitNext : List Char → Bool
  | [] => false
  | c :: _ => c.isDigit

/-- Passes the letters of a word. -/
def passWord : List Char → Pass
  | [], cs => .ok cs
  | _ :: _, [] => ended .endInValue
  | w :: ws, c :: cs => if c = w then passWord ws cs else stop .noWord (c :: cs) 1

/-! ## Texts -/

/-- Reads four hexadecimal digits, which are looked at together. -/
def readQuad : Step Nat := fun cs =>
  match cs with
  | a :: b :: c :: d :: rest =>
    match hexWord? a b c d with
    | some n => .ok (n, rest)
    | none => broken cs
  | _ => broken cs
where
  /-- Other bytes, or too few. -/
  broken (cs : List Char) : Except Trouble (Nat × List Char) :=
    if (Trouble.bytes cs).length < 4 then ended .endInText else stop .badEscape cs 4

/-- Reads the second half of a pair after its first. -/
def readSecondHalf (first : Nat) : Step Char
  | [] | ['\\'] => ended .endInText
  | '\\' :: 'u' :: cs => do
    let (second, cs) ← readQuad cs
    if isLow second then
      .ok (Char.ofNat (0x10000 + (first - 0xd800) * 0x400 + (second - 0xdc00)), cs)
    else stop .halfPair cs 0
  | '\\' :: cs => stop .pairCutShort cs 1
  | cs => stop .pairCutShort cs 1

/-- Reads what follows a backslash. -/
def readEscape : Step Char
  | [] => ended .endInText
  | 'u' :: cs => do
    let (n, cs) ← readQuad cs
    if isLow n then stop .halfPair cs 0
    else if isHigh n then readSecondHalf n cs
    else .ok (Char.ofNat n, cs)
  | c :: cs =>
    match unescape? c with
    | some d => .ok (d, cs)
    | none => stop .badEscape (c :: cs) 1

/-- Reads so many characters of a text at most, up to its closing quote. -/
def readTextWithin : Nat → Step (List Char)
  | 0, _ => ended .endInText
  | _ + 1, [] => ended .endInText
  | bound + 1, c :: cs =>
    if c = '"' then .ok ([], cs)
    else if c.toNat < 0x20 then stop .controlInText (c :: cs) 1
    else do
      let (d, cs) ← if c = '\\' then readEscape cs else .ok (c, cs)
      let (ds, cs) ← readTextWithin bound cs
      return (d :: ds, cs)

/-- Reads a text up to its closing quote. -/
def readText : Step String := fun cs => do
  let (chars, rest) ← readTextWithin (cs.length + 1) cs
  return (String.ofList chars, rest)

/-- Passes what follows a backslash, where half of a pair may stand alone. -/
def passEscape : Pass
  | [] => ended .endInText
  | 'u' :: cs => (readQuad cs).map Prod.snd
  | c :: cs => if (unescape? c).isSome then .ok cs else stop .badEscape (c :: cs) 1

/-- Passes so many characters of a text at most, up to its closing quote. -/
def passTextWithin : Nat → Pass
  | 0, _ => ended .endInText
  | _ + 1, [] => ended .endInText
  | bound + 1, c :: cs =>
    if c = '"' then .ok cs
    else if c.toNat < 0x20 then stop .controlInText (c :: cs) 0
    else do
      let cs ← if c = '\\' then passEscape cs else .ok cs
      passTextWithin bound cs

/-- Passes a text up to its closing quote. -/
def passText : Pass := fun cs => passTextWithin (cs.length + 1) cs

/-! ## Numbers -/

/-- What is left after the sign of an exponent, and whether it is negative. -/
def afterSign : List Char → Bool × List Char
  | '+' :: cs => (false, cs)
  | '-' :: cs => (true, cs)
  | cs => (false, cs)

/-- Whether an exponent comes next. -/
def exponentNext : List Char → Bool
  | c :: _ => c = 'e' || c = 'E'
  | [] => false

/-- Passes an exponent, if one comes next. -/
def passExponent : Pass := fun cs =>
  if exponentNext cs then
    match (afterSign cs.tail).2 with
    | [] => ended .badNumber
    | c :: cs =>
      if c.isDigit then .ok (cs.dropWhile Char.isDigit) else stop .badNumber (c :: cs) 1
  else .ok cs

/-- Passes a fraction and an exponent, if they come next. -/
def passFraction : Pass
  | '.' :: cs =>
    if digitNext cs then passExponent (cs.dropWhile Char.isDigit) else stop .badNumber cs 1
  | cs => passExponent cs

/-- Passes a number without its sign. -/
def passNumber : Pass
  | [] => ended .badNumber
  | c :: cs =>
    if c = '0' ∧ digitNext cs then stop .badNumber cs 1
    else if c.isDigit then passFraction (cs.dropWhile Char.isDigit)
    else stop .badNumber (c :: cs) 1

/-- After how many of its digits an exponent is beyond the signed 32-bit range. -/
def exponentEnd? (e taken : Nat) : List Char → Option Nat
  | [] => none
  | c :: cs =>
    let e := 10 * e + (c.toNat - '0'.toNat)
    if e < 0x80000000 then exponentEnd? e (taken + 1) cs else some (taken + 1)

/-- A number that is no integer, if it is in range. -/
def decimal (negative : Bool) (s : Scaled) : Step Found := fun cs =>
  if s.isVast then stop .vastNumber cs 0 else .ok (.decimal negative s, cs)

/-- Reads the exponent of a number. -/
def readExponent (negative : Bool) (whole fraction : List Char) : Step Found := fun cs =>
  let (below, cs) := afterSign cs.tail
  match cs with
  | [] => ended .endInValue
  | c :: _ =>
    if !c.isDigit then stop .badNumber cs 1
    else
      let digits := cs.takeWhile Char.isDigit
      let e : Int := Nat.ofDigitChars 10 digits 0
      let s := Scaled.ofDigits whole fraction (if below then -e else e)
      match exponentEnd? 0 0 digits with
      | some taken =>
        if s.significand ≠ 0 && !below then stop .vastNumber cs taken
        else .ok (.decimal negative ⟨0, 0⟩, cs.dropWhile Char.isDigit)
      | none => decimal negative s (cs.dropWhile Char.isDigit)

/-- A number without fraction and exponent.  One below the signed 64-bit range, or
above the unsigned one, is no integer, and neither is a negative zero. -/
def integer (negative : Bool) (whole : List Char) : Step Found := fun cs =>
  let n := Nat.ofDigitChars 10 whole 0
  if !negative && n < 0x10000000000000000 then .ok (.integer n, cs)
  else if negative && 0 < n && n ≤ 0x8000000000000000 then .ok (.integer (-(n : Int)), cs)
  else decimal negative (.ofDigits whole [] 0) cs

/-- Reads what follows the whole part of a number. -/
def readFraction (negative : Bool) (whole : List Char) : Step Found
  | '.' :: cs =>
    let fraction := cs.takeWhile Char.isDigit
    let rest := cs.dropWhile Char.isDigit
    if fraction.isEmpty then
      if cs.isEmpty then ended .endInValue else stop .badNumber cs 1
    else if exponentNext rest then readExponent negative whole fraction rest
    else decimal negative (.ofDigits whole fraction 0) rest
  | cs => if exponentNext cs then readExponent negative whole [] cs else integer negative whole cs

/-- Reads a number without its sign. -/
def readNumber (negative : Bool) : Step Found
  | [] => ended .endInValue
  | c :: cs =>
    if c = '0' ∧ digitNext cs then stop .badNumber cs 1
    else if c.isDigit then
      readFraction negative (c :: cs.takeWhile Char.isDigit) (cs.dropWhile Char.isDigit)
    else stop .badNumber (c :: cs) 1

/-! ## Any value -/

/-- Reads the start of a value, so that it can be said what it is.  A list or an
object is not gone into. -/
def readFound : Step Found := fun cs =>
  match cs with
  | [] => ended .endInValue
  | 'n' :: rest => (passWord ['u', 'l', 'l'] rest).map (fun cs => (.null, cs))
  | 't' :: rest => (passWord ['r', 'u', 'e'] rest).map (fun cs => (.bool true, cs))
  | 'f' :: rest => (passWord ['a', 'l', 's', 'e'] rest).map (fun cs => (.bool false, cs))
  | '-' :: rest => readNumber true rest
  | '"' :: rest => (readText rest).map (fun r => (.text r.1, r.2))
  | '[' :: _ => .ok (.list, cs)
  | '\x7b' :: _ => .ok (.object, cs)
  | c :: _ => if c.isDigit then readNumber false cs else stop .noValue cs 1

/-- A value of another type stands where one is wanted. -/
def refuse {α : Type} (wanted : String) (cs : List Char) : Except Trouble α := do
  let (found, cs) ← readFound cs
  stop (.wrongType found wanted) cs 0

/-- What is open where a value stands. -/
inductive Bracket where
  | list
  | object
  deriving DecidableEq, Inhabited

/-- What has been passed last. -/
inductive Passed where
  /-- What must come before a value. -/
  | before
  /-- An opening bracket. -/
  | opening
  /-- A value. -/
  | value
  deriving DecidableEq, Inhabited

/-- Passes the name of a field and the colon. -/
def passName : Pass := fun cs =>
  match skipBlanks cs with
  | [] => ended .endInObject
  | '"' :: cs => do
    match skipBlanks (← passText cs) with
    | [] => ended .endInObject
    | ':' :: cs => .ok cs
    | cs => stop .noColon cs 1
  | cs => stop .nameNotText cs 1

/-- Passes what comes before a value in a list or an object. -/
def passUpToValue : Bracket → Pass
  | .list => .ok
  | .object => passName

/-- Passes a scalar, or an opening bracket. -/
def passStart (outer : List Bracket) (cs : List Char) :
    Except Trouble (List Bracket × Passed × List Char) :=
  match cs with
  | [] => ended .endInValue
  | '[' :: rest => .ok (.list :: outer, .opening, rest)
  | '\x7b' :: rest => .ok (.object :: outer, .opening, rest)
  | 'n' :: rest => scalar (passWord ['u', 'l', 'l'] rest)
  | 't' :: rest => scalar (passWord ['r', 'u', 'e'] rest)
  | 'f' :: rest => scalar (passWord ['a', 'l', 's', 'e'] rest)
  | '-' :: rest => scalar (passNumber rest)
  | '"' :: rest => scalar (passText rest)
  | c :: _ => if c.isDigit then scalar (passNumber cs) else stop .noValue cs 1
where
  /-- A value is complete. -/
  scalar (left : Except Trouble (List Char)) :
      Except Trouble (List Bracket × Passed × List Char) :=
    left.map (fun cs => (outer, .value, cs))

/-- Passes what follows an opening bracket or a value in a list or an object: the
closing bracket, or what comes before the next value. -/
def passOn (b : Bracket) (outer : List Bracket) (afterValue : Bool) (cs : List Char) :
    Except Trouble (List Bracket × Passed × List Char) :=
  match b, skipBlanks cs with
  | .list, [] => ended .endInList
  | .object, [] => ended .endInObject
  | .list, ']' :: cs => .ok (outer, .value, cs)
  | .object, '\x7d' :: cs => .ok (outer, .value, cs)
  | b, cs =>
    if afterValue then
      match b, cs with
      | b, ',' :: cs => (passUpToValue b cs).map (fun cs => (b :: outer, .before, cs))
      | .list, cs => stop .noListComma cs 1
      | .object, cs => stop .noObjectComma cs 1
    else (passUpToValue b cs).map (fun cs => (b :: outer, .before, cs))

/-- Passes on until nothing is open, in so many steps at most. -/
def passWithin : Nat → List Bracket → Passed → Pass
  | 0, _, _, cs => stop .endInValue cs 0
  | bound + 1, outer, passed, cs => do
    match passed, outer with
    | .before, outer =>
      let (outer, passed, cs) ← passStart outer (skipBlanks cs)
      passWithin bound outer passed cs
    | _, [] => .ok cs
    | passed, b :: outer =>
      let (outer, passed, cs) ← passOn b outer (passed = .value) cs
      passWithin bound outer passed cs

/-- Passes any value, however deep. -/
def passValue : Pass := fun cs => passWithin (2 * cs.length + 2) [] .before cs

end Check

end Spellbook.Json

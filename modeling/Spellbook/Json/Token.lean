import Spellbook.Json.Basic
import Spellbook.Json.Range
set_option autoImplicit false

/-!
# JSON tokens

A JSON text is a row of tokens with blanks between them.  `Token.chars` writes a
token and `Token.scan` cuts a text into tokens.  In a text between quotes, quotes,
backslashes and control characters are written with a backslash, all else as it
is.
-/

namespace Spellbook.Json

/-- A token of a JSON text. -/
inductive Token where
  | beginList
  | endList
  | beginObject
  | endObject
  | comma
  | colon
  | null
  | bool (b : Bool)
  | integer (i : Int)
  | decimal (written : String)
  | text (s : String)
  /-- A number too large to be kept. -/
  | vastNumber
  /-- A text with half of a surrogate pair. -/
  | brokenText
  deriving DecidableEq, Inhabited

/-! ## Writing -/

/-- The lower-case hexadecimal digit of a number below 16. -/
def hexDigit (n : Nat) : Char := Nat.digitChar n

/-- A character as it is written between quotes. -/
def escapeChar (c : Char) : List Char :=
  if c = '"' then ['\\', '"']
  else if c = '\\' then ['\\', '\\']
  else if c = '\x08' then ['\\', 'b']
  else if c = '\x0c' then ['\\', 'f']
  else if c = '\n' then ['\\', 'n']
  else if c = '\r' then ['\\', 'r']
  else if c = '\t' then ['\\', 't']
  else if c.toNat < 0x20 then
    ['\\', 'u', '0', '0', hexDigit (c.toNat / 16), hexDigit (c.toNat % 16)]
  else [c]

/-- A text between quotes. -/
def quote (cs : List Char) : List Char := '"' :: (cs.flatMap escapeChar ++ ['"'])

/-- An integer in decimal digits. -/
def integerChars : Int → List Char
  | .ofNat n => Nat.toDigits 10 n
  | .negSucc n => '-' :: Nat.toDigits 10 (n + 1)

namespace Token

/-- A token as it is written. -/
def chars : Token → List Char
  | beginList => ['[']
  | endList => [']']
  | beginObject => ['\x7b']
  | endObject => ['\x7d']
  | comma => [',']
  | colon => [':']
  | null => ['n', 'u', 'l', 'l']
  | bool true => ['t', 'r', 'u', 'e']
  | bool false => ['f', 'a', 'l', 's', 'e']
  | integer i => integerChars i
  | decimal written => written.toList
  | text s => quote s.toList
  | vastNumber => ['1', 'e', '9', '9', '9']
  | brokenText => ['"', '\\', 'u', 'd', '8', '0', '0', '"']

end Token

/-! ## Reading numbers -/

/-- Whether a character can stand in a number. -/
def isNumberChar (c : Char) : Bool :=
  c.isDigit || c = '-' || c = '+' || c = '.' || c = 'e' || c = 'E'

/-- Whether these are one or more digits. -/
def areDigits (cs : List Char) : Bool := !cs.isEmpty && cs.all Char.isDigit

/-- Whether these are digits without a needless zero in front. -/
def isWhole (cs : List Char) : Bool :=
  areDigits cs && (cs.length = 1 || cs.head? ≠ some '0')

/-- The number that digits with an optional sign stand for. -/
def signed? (cs : List Char) : Option Int :=
  let (negative, digits) := match cs with
    | '+' :: digits => (false, digits)
    | '-' :: digits => (true, digits)
    | digits => (false, digits)
  let n : Int := Nat.ofDigitChars 10 digits 0
  if areDigits digits then some (if negative then -n else n) else none

/-- The exponent that is written with its letter, or zero where nothing is. -/
def exponent? : List Char → Option Int
  | [] => some 0
  | c :: rest => if c = 'e' ∨ c = 'E' then signed? rest else none

/-- The digits of the fraction, and the exponent. -/
def tail? : List Char → Option (List Char × Int)
  | '.' :: rest =>
    let digits := rest.takeWhile Char.isDigit
    if areDigits digits then
      (exponent? (rest.dropWhile Char.isDigit)).map (fun e => (digits, e))
    else none
  | rest => (exponent? rest).map (fun e => ([], e))

/-- The token of a number written with these characters, the sign apart. -/
def unsignedToken (negative : Bool) (cs : List Char) : Option Token :=
  let whole := cs.takeWhile Char.isDigit
  let tail := cs.dropWhile Char.isDigit
  let written := String.ofList (if negative then '-' :: cs else cs)
  match tail? tail with
  | none => none
  | some (fraction, exponent) =>
    if !isWhole whole then none
    else if (Scaled.ofDigits whole fraction exponent).isVast then some .vastNumber
    else if !tail.isEmpty then some (.decimal written)
    else
      let n := Nat.ofDigitChars 10 whole 0
      if negative then
        if n = 0 then some (.decimal written) else some (.integer (-(n : Int)))
      else some (.integer n)

/-- The token of a number written with these characters. -/
def numberToken : List Char → Option Token
  | '-' :: cs => unsignedToken true cs
  | cs => unsignedToken false cs

/-! ## Reading texts -/

/-- The value of a hexadecimal digit. -/
def hexValue? (c : Char) : Option Nat :=
  if c.isDigit then some (c.toNat - '0'.toNat)
  else if 'a' ≤ c ∧ c ≤ 'f' then some (c.toNat - 'a'.toNat + 10)
  else if 'A' ≤ c ∧ c ≤ 'F' then some (c.toNat - 'A'.toNat + 10)
  else none

/-- The number that four hexadecimal digits stand for. -/
def hexWord? (a b c d : Char) : Option Nat := do
  return (((← hexValue? a) * 16 + (← hexValue? b)) * 16 + (← hexValue? c)) * 16
    + (← hexValue? d)

/-- The character that a letter after a backslash stands for. -/
def unescape? (c : Char) : Option Char :=
  if c = '"' ∨ c = '\\' ∨ c = '/' then some c
  else if c = 'b' then some '\x08'
  else if c = 'f' then some '\x0c'
  else if c = 'n' then some '\n'
  else if c = 'r' then some '\r'
  else if c = 't' then some '\t'
  else none

/-- A piece of a text: a character, or a 16-bit unit given by its number. -/
inductive Unit16 where
  | char (c : Char)
  | word (n : Nat)
  deriving DecidableEq, Inhabited

/-- Cuts off a text up to its closing quote. -/
def scanUnits : List Char → Option (List Unit16 × List Char)
  | [] => none
  | '"' :: rest => some ([], rest)
  | '\\' :: 'u' :: a :: b :: c :: d :: rest =>
    match hexWord? a b c d, scanUnits rest with
    | some n, some (units, rest) => some (.word n :: units, rest)
    | _, _ => none
  | '\\' :: c :: rest =>
    match unescape? c, scanUnits rest with
    | some c, some (units, rest) => some (.char c :: units, rest)
    | _, _ => none
  | c :: rest =>
    if c = '\\' ∨ c.toNat < 0x20 then none
    else match scanUnits rest with
      | some (units, rest) => some (.char c :: units, rest)
      | none => none

/-- Whether a unit is the first of a pair. -/
def isHigh (n : Nat) : Bool := 0xd800 ≤ n && n < 0xdc00

/-- Whether a unit is the second of a pair. -/
def isLow (n : Nat) : Bool := 0xdc00 ≤ n && n < 0xe000

/-- The characters that units stand for; a unit of a pair may not stand alone. -/
def joinUnits : List Unit16 → Option (List Char)
  | [] => some []
  | .char c :: rest => (joinUnits rest).map (c :: ·)
  | [.word n] => if isHigh n || isLow n then none else some [Char.ofNat n]
  | .word n :: .word m :: rest =>
    if isHigh n then
      if isLow m then
        (joinUnits rest).map
          (Char.ofNat (0x10000 + (n - 0xd800) * 0x400 + (m - 0xdc00)) :: ·)
      else none
    else if isLow n then none
    else (joinUnits (.word m :: rest)).map (Char.ofNat n :: ·)
  | .word n :: .char c :: rest =>
    if isHigh n || isLow n then none
    else (joinUnits (.char c :: rest)).map (Char.ofNat n :: ·)

theorem length_scanUnits {cs : List Char} {units : List Unit16} {rest : List Char}
    (h : scanUnits cs = some (units, rest)) : rest.length < cs.length := by
  fun_induction scanUnits cs generalizing units rest <;> simp_all <;> grind

/-! ## Reading tokens -/

/-- Whether a character may stand between tokens. -/
def isSpace (c : Char) : Bool := c = ' ' || c = '\n' || c = '\r' || c = '\t'

/-- The token that one character alone stands for. -/
def punctuation? (c : Char) : Option Token :=
  if c = '[' then some .beginList
  else if c = ']' then some .endList
  else if c = '\x7b' then some .beginObject
  else if c = '\x7d' then some .endObject
  else if c = ',' then some .comma
  else if c = ':' then some .colon
  else none

/-- Cuts off a word that is a value, or a number. -/
def scanPlain : List Char → Option (Token × List Char)
  | 'n' :: 'u' :: 'l' :: 'l' :: rest => some (.null, rest)
  | 't' :: 'r' :: 'u' :: 'e' :: rest => some (.bool true, rest)
  | 'f' :: 'a' :: 'l' :: 's' :: 'e' :: rest => some (.bool false, rest)
  | c :: rest =>
    if isNumberChar c then
      (numberToken (c :: rest.takeWhile isNumberChar)).map
        (fun t => (t, rest.dropWhile isNumberChar))
    else none
  | [] => none

/-- Cuts off the token that begins with a character. -/
def scanToken (c : Char) (rest : List Char) : Option (Token × List Char) :=
  match punctuation? c with
  | some t => some (t, rest)
  | none =>
    if c = '"' then
      match scanUnits rest with
      | none => none
      | some (units, rest) =>
        match joinUnits units with
        | some cs => some (.text (String.ofList cs), rest)
        | none => some (.brokenText, rest)
    else scanPlain (c :: rest)

theorem length_scanToken {c : Char} {cs rest : List Char} {t : Token}
    (h : scanToken c cs = some (t, rest)) : rest.length < (c :: cs).length := by
  unfold scanToken at h
  split at h
  · cases h; simp
  · split at h
    · split at h
      · cases h
      · rename_i hu
        have := length_scanUnits hu
        simp only [List.length_cons]
        split at h <;> · cases h; omega
    · unfold scanPlain at h
      split at h
      · cases h; simp_all; omega
      · cases h; simp_all; omega
      · cases h; simp_all; omega
      · rename_i heq
        cases heq
        split at h
        · obtain ⟨_, _, h⟩ := Option.map_eq_some_iff.1 h
          cases h
          have := (List.dropWhile_sublist (l := cs) isNumberChar).length_le
          simp only [List.length_cons]
          omega
        · cases h
      · cases h

/-- Cuts a text into tokens. -/
def scan : List Char → Option (List Token)
  | [] => some []
  | c :: cs =>
    if isSpace c then scan cs
    else match _h : scanToken c cs with
      | none => none
      | some (t, rest) => (scan rest).map (t :: ·)
termination_by cs => cs.length
decreasing_by
  · simp
  · exact length_scanToken _h

end Spellbook.Json

import Spellbook.Json.Decimal
import Spellbook.Json.Token
import Spellbook.Text.Quoted
set_option autoImplicit false

/-!
# What is wrong with a JSON text

A text is read from its start until something is wrong.  The message says what is
wrong and where the reading stood, by line and by bytes in the line.
-/

namespace Spellbook.Json

/-- What stands where a value of another type is wanted. -/
inductive Found where
  | null
  | bool (b : Bool)
  | integer (i : Int)
  | decimal (negative : Bool) (s : Scaled)
  | text (s : String)
  | list
  | object
  deriving Inhabited

namespace Found

/-- The words for what was found. -/
def shown : Found → String
  | null => "null"
  | bool b => s!"boolean `{b}`"
  | integer i => s!"integer `{i}`"
  | decimal negative s => s!"floating point `{s.shown negative}`"
  | text s => "string " ++ Text.quoted s
  | list => "sequence"
  | object => "map"

end Found

/-- What is wrong. -/
inductive Cause where
  | endInList
  | endInObject
  | endInText
  | endInValue
  | noColon
  | noListComma
  | noObjectComma
  | noWord
  | noValue
  | badEscape
  | badNumber
  | vastNumber
  | controlInText
  | nameNotText
  | halfPair
  | pairCutShort
  | commaAtEnd
  | moreAtEnd
  | wrongType (found : Found) (wanted : String)
  | tooShort (length : Nat) (wanted : String)
  | missing (name : String)
  | repeated (name : String)
  deriving Inhabited

namespace Cause

/-- The words for what is wrong. -/
def message : Cause → String
  | endInList => "EOF while parsing a list"
  | endInObject => "EOF while parsing an object"
  | endInText => "EOF while parsing a string"
  | endInValue => "EOF while parsing a value"
  | noColon => "expected `:`"
  | noListComma => "expected `,` or `]`"
  | noObjectComma => "expected `,` or `\x7d`"
  | noWord => "expected ident"
  | noValue => "expected value"
  | badEscape => "invalid escape"
  | badNumber => "invalid number"
  | vastNumber => "number out of range"
  | controlInText => "control character (\\u0000-\\u001F) found while parsing a string"
  | nameNotText => "key must be a string"
  | halfPair => "lone leading surrogate in hex escape"
  | pairCutShort => "unexpected end of hex escape"
  | commaAtEnd => "trailing comma"
  | moreAtEnd => "trailing characters"
  | wrongType found wanted => s!"invalid type: {found.shown}, expected {wanted}"
  | tooShort length wanted => s!"invalid length {length}, expected {wanted}"
  | missing name => s!"missing field `{name}`"
  | repeated name => s!"duplicate field `{name}`"

end Cause

/-- What is wrong, and where. -/
structure Trouble where
  cause : Cause
  /-- What was left of the text. -/
  rest : List Char
  /-- How many bytes of the rest had been looked at. -/
  past : Nat
  deriving Inhabited

namespace Trouble

/-- The bytes of characters. -/
def bytes (cs : List Char) : List UInt8 := cs.flatMap String.utf8EncodeChar

/-- The bytes of a text that had been looked at. -/
def looked (whole : List Char) (t : Trouble) : List UInt8 :=
  let all := bytes whole
  all.take (all.length - (bytes t.rest).length + t.past)

/-- What is wrong with a text, and where. -/
def message (whole : List Char) (t : Trouble) : String :=
  let read := t.looked whole
  let lineEnd : UInt8 := 10
  let line := read.count lineEnd + 1
  let column := (read.reverse.takeWhile (· != lineEnd)).length
  s!"{t.cause.message} at line {line} column {column}"

end Trouble

end Spellbook.Json

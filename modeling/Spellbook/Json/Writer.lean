import Spellbook.Json.Token
set_option autoImplicit false

/-!
# Writing JSON

The compact form has no blanks.  The laid-out form gives every item and field a
line of its own, two blanks deeper than what holds it.  Both write the same
tokens.
-/

namespace Spellbook.Json

mutual

/-- The tokens of a value. -/
def tokens : Json → List Token
  | null => [.null]
  | bool b => [.bool b]
  | integer i => [.integer i]
  | decimal written => [.decimal written]
  | text s => [.text s]
  | list [] => [.beginList, .endList]
  | list (j :: rest) => .beginList :: tokens j ++ itemTokens rest ++ [.endList]
  | object [] => [.beginObject, .endObject]
  | object ((name, j) :: rest) =>
    .beginObject :: .text name :: .colon :: tokens j ++ fieldTokens rest ++ [.endObject]
  | unkept => [.vastNumber]

/-- The tokens of the items after the first. -/
def itemTokens : List Json → List Token
  | [] => []
  | j :: rest => .comma :: tokens j ++ itemTokens rest

/-- The tokens of the fields after the first. -/
def fieldTokens : List (String × Json) → List Token
  | [] => []
  | (name, j) :: rest => .comma :: .text name :: .colon :: tokens j ++ fieldTokens rest

end

/-- The compact form. -/
def compact (j : Json) : String := String.ofList (j.tokens.flatMap Token.chars)

/-- The beginning of a line at a depth. -/
def newLine (depth : Nat) : List Char := '\n' :: List.replicate (2 * depth) ' '

mutual

/-- The laid-out form of a value that stands at a depth. -/
def layOut (depth : Nat) : Json → List Char
  | list [] => ['[', ']']
  | list (j :: rest) =>
    '[' :: newLine (depth + 1) ++ layOut (depth + 1) j ++ layOutItems (depth + 1) rest
      ++ newLine depth ++ [']']
  | object [] => ['\x7b', '\x7d']
  | object ((name, j) :: rest) =>
    '\x7b' :: newLine (depth + 1) ++ quote name.toList ++ [':', ' '] ++ layOut (depth + 1) j
      ++ layOutFields (depth + 1) rest ++ newLine depth ++ ['\x7d']
  | null => Token.chars .null
  | bool b => Token.chars (.bool b)
  | integer i => Token.chars (.integer i)
  | decimal written => Token.chars (.decimal written)
  | text s => Token.chars (.text s)
  | unkept => Token.chars .vastNumber

/-- The laid-out form of the items after the first. -/
def layOutItems (depth : Nat) : List Json → List Char
  | [] => []
  | j :: rest => ',' :: newLine depth ++ layOut depth j ++ layOutItems depth rest

/-- The laid-out form of the fields after the first. -/
def layOutFields (depth : Nat) : List (String × Json) → List Char
  | [] => []
  | (name, j) :: rest =>
    ',' :: newLine depth ++ quote name.toList ++ [':', ' '] ++ layOut depth j
      ++ layOutFields depth rest

end

/-- The laid-out form. -/
def pretty (j : Json) : String := String.ofList (layOut 0 j)

/-- A text as it is written between quotes. -/
def quoted (s : String) : String := String.ofList (quote s.toList)

end Spellbook.Json

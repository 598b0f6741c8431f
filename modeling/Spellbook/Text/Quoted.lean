import Spellbook.Text.ClusterRanges
import Spellbook.Text.Unprintable
set_option autoImplicit false

/-!
# Texts made visible

A text between quotes in which everything can be seen: quotes and backslashes,
what cannot be printed, and marks that would join the character before them are
written with a backslash.
-/

namespace Spellbook.Text

/-- A character by its number. -/
def numbered (c : Char) : List Char :=
  ['\\', 'u', '\x7b'] ++ Nat.toDigits 16 c.toNat ++ ['\x7d']

/-- A character as it is written between quotes. -/
def visible (c : Char) : List Char :=
  if c = '\x00' then ['\\', '0']
  else if c = '\t' then ['\\', 't']
  else if c = '\r' then ['\\', 'r']
  else if c = '\n' then ['\\', 'n']
  else if c = '"' ∨ c = '\\' then ['\\', c]
  else if (joiningMarks.has c && 0x1f3fb > c.toNat) || unprintable.has c then numbered c
  else [c]

/-- A text between quotes. -/
def quoted (s : String) : String :=
  String.ofList ('"' :: s.toList.flatMap visible ++ ['"'])

end Spellbook.Text

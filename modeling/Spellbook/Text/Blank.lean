import Spellbook.Text.Pieces
import Spellbook.Text.Ranges
set_option autoImplicit false

/-!
# Blank characters and words

The blanks are the characters that Unicode calls white space.
-/

namespace Spellbook.Text

/-- The blanks. -/
def blanks : Ranges :=
  [(0x09, 0x0d), (0x20, 0x20), (0x85, 0x85), (0xa0, 0xa0), (0x1680, 0x1680),
   (0x2000, 0x200a), (0x2028, 0x2029), (0x202f, 0x202f), (0x205f, 0x205f),
   (0x3000, 0x3000)]

/-- Whether a character is white space. -/
def isBlank (c : Char) : Bool := blanks.has c

/-- The words of a text: what stands between blanks. -/
def words (s : String) : List String :=
  (pieces isBlank s).filter (fun w => !w.isEmpty)

end Spellbook.Text

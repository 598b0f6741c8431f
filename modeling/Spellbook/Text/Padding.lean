set_option autoImplicit false

/-!
# Columns

Columns are counted in characters.  A text that is already as wide as its column
is left as it is.
-/

namespace Spellbook.Text

/-- Fills a text up with blanks on its right. -/
def padRight (width : Nat) (s : String) : String :=
  s ++ String.ofList (List.replicate (width - s.length) ' ')

/-- Fills a text up with blanks on its left. -/
def padLeft (width : Nat) (s : String) : String :=
  String.ofList (List.replicate (width - s.length) ' ') ++ s

/-- The character that stands for what was cut off. -/
def ellipsis : String := "…"

/-- Cuts a text down to a width, the ellipsis included. -/
def truncate (width : Nat) (s : String) : String :=
  if width = 0 then ""
  else if s.length ≤ width then s
  else String.ofList (s.toList.take (width - 1)) ++ ellipsis

end Spellbook.Text

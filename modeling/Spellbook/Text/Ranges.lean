set_option autoImplicit false

/-!
# Runs of characters

A class of characters is given by the runs of code points in it, in rising order.
-/

namespace Spellbook.Text

/-- The first and last code point of each run. -/
abbrev Ranges := List (Nat × Nat)

/-- Whether a character is in one of the runs: only the first run that does not end
before it can hold it. -/
def Ranges.has (rs : Ranges) (c : Char) : Bool :=
  match rs.dropWhile (fun r => r.2 < c.toNat) with
  | [] => false
  | r :: _ => r.1 ≤ c.toNat

end Spellbook.Text

import Spellbook.Text.Pieces
set_option autoImplicit false

/-!
# Paths

A path is cut at its slashes.  Only some of its pieces lead on: an empty piece
stands between two slashes or at an end, and a dot means the folder that has been
reached.
-/

namespace Spellbook

/-- A path as the pieces between its slashes.  A path from the root has an empty
first piece, and the empty path has no pieces. -/
structure Route where
  pieces : List String
  deriving DecidableEq, Inhabited

namespace Route

/-- Cuts a path at its slashes. -/
def ofText (s : String) : Route := ⟨if s = "" then [] else Text.pieces (· == '/') s⟩

/-- Whether the path is empty and names nothing. -/
def isEmpty (p : Route) : Bool := p.pieces.isEmpty

/-- Whether the path starts at the root. -/
def rooted (p : Route) : Bool := p.pieces.head? = some ""

/-- Whether the path ends with a slash. -/
def trailing (p : Route) : Bool := p.pieces.getLast? = some ""

/-- The pieces that are not empty. -/
def names (p : Route) : List String := p.pieces.filter (· ≠ "")

/-- The number of bytes of the path. -/
def size (p : Route) : Nat :=
  p.pieces.foldl (fun n piece => n + piece.utf8ByteSize + 1) 0 - 1

/-- Whether a zero character stands in the path. -/
def hasNul (p : Route) : Bool := p.pieces.any (fun piece => piece.contains '\x00')

/-- How many bytes a path must stay below. -/
def sizeLimit : Nat := 4096

/-- Drops the pieces at the end that do not lead on. -/
def settled (pieces : List String) : List String :=
  (pieces.reverse.dropWhile (fun piece => piece = "" || piece = ".")).reverse

/-- The path of the folder that holds what a path names.  A single name is held by
the empty path, and neither the root nor the empty path is held by anything. -/
def parent? : Route → Option Route
  | ⟨[]⟩ => none
  | ⟨first :: rest⟩ =>
    match settled rest with
    | [] => if first = "" then none else some ⟨[]⟩
    | led => some ⟨first :: settled led.dropLast⟩

theorem length_settled_le (pieces : List String) : (settled pieces).length ≤ pieces.length := by
  unfold settled
  have := (List.dropWhile_sublist (l := pieces.reverse)
    (fun piece => piece = "" || piece = ".")).length_le
  simpa using this

theorem length_of_parent? {p q : Route} (h : p.parent? = some q) :
    q.pieces.length < p.pieces.length := by
  obtain ⟨pieces⟩ := p
  cases pieces with
  | nil => cases h
  | cons first rest =>
    simp only [parent?] at h
    have hr := length_settled_le rest
    split at h
    · split at h <;> cases h
      simp
    · rename_i hne
      cases h
      have hd := length_settled_le (settled rest).dropLast
      have hp := List.length_pos_iff.2 hne
      simp only [List.length_dropLast] at hd
      simp only [List.length_cons]
      omega

end Route

end Spellbook

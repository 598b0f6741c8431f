import Spellbook.Block
set_option autoImplicit false

/-!
# Plans

A plan cuts a program into single blocks and loops before anything runs.  A loop
runs from its header to the next end marker, or to the end of the program if no
marker follows.  A loop inside a loop makes the program unusable.
-/

namespace Spellbook

/-- A block of a program with its place, counted from 0. -/
structure Line where
  index : Nat
  placed : Placed
  deriving DecidableEq, Inhabited

namespace Line

/-- The block on this line. -/
def block (l : Line) : Block := l.placed.block

/-- The category that decides how the line runs. -/
def category (l : Line) : Category := l.placed.block.category

/-- The lines of a program. -/
def ofProgram (program : List Placed) : List Line :=
  program.zipIdx.map (fun p => ⟨p.2, p.1⟩)

end Line

/-- A loop with the lines inside it. -/
structure Loop where
  header : Line
  body : List Line
  /-- The end marker, if there is one. -/
  marker : Option Line
  deriving DecidableEq, Inhabited

/-- A loop inside a loop: the two headers. -/
structure NestedLoop where
  outer : Line
  inner : Line
  deriving DecidableEq, Inhabited

namespace Plan

/-- One part of a plan. -/
inductive Item where
  | single (line : Line)
  | loop (loop : Loop)
  deriving DecidableEq, Inhabited

namespace Item

/-- The lines of an item in their order. -/
def lines : Item → List Line
  | single line => [line]
  | loop l => l.header :: l.body ++ l.marker.toList

end Item

/-- Cuts lines into items.  `pending` is the loop that is open, if one is: its
header and the lines found inside it so far. -/
def assemble : Option (Line × List Line) → List Line → Except NestedLoop (List Item)
  | none, [] => .ok []
  | some (header, body), [] => .ok [.loop ⟨header, body, none⟩]
  | none, l :: rest =>
    if l.category = .loop then assemble (some (l, [])) rest
    else (Item.single l :: ·) <$> assemble none rest
  | some (header, body), l :: rest =>
    match l.category with
    | .marker => (Item.loop ⟨header, body, some l⟩ :: ·) <$> assemble none rest
    | .loop => .error ⟨header, l⟩
    | _ => assemble (some (header, body ++ [l])) rest

/-- The plan of a program, unless it has a loop inside a loop. -/
def ofProgram (program : List Placed) : Except NestedLoop (List Item) :=
  assemble none (Line.ofProgram program)

end Plan

end Spellbook

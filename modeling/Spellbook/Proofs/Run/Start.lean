import Spellbook.Program
import Spellbook.Proofs.Run.Place
set_option autoImplicit false

/-!
# Which programs begin to run

A program without blocks and a program with a loop inside a loop are refused before
anything runs (`isOver_start_iff`).  Every other program stands before its first block,
which its first step runs (`Made.event_of_start`).
-/

namespace Spellbook

/-- The program with these ids, of the blocks that a level offers. -/
def Program.ofIds (blocks : List Block) (ids : List String) : Program :=
  empty.appendAll (ids.filterMap (fun id => blocks.find? (fun b => b.id = id)))

namespace Plan

/-- Two loop headers without an end marker between them. -/
def Nested (program : List Placed) : Prop :=
  ∃ before outer between inner after,
    program = before ++ outer :: (between ++ inner :: after) ∧
      outer.block.category = .loop ∧ inner.block.category = .loop ∧
      ∀ placed ∈ between, placed.block.category ≠ .marker

theorem nested_iff_not_unnested {program : List Placed} :
    Nested program ↔ ¬ Unnested (program.map (fun placed => placed.block.category)) := by
  constructor
  · rintro ⟨before, outer, between, inner, after, rfl, houter, hinner, hbetween⟩ hflat
    have hmarker := hflat (before.map (fun placed => placed.block.category))
      (between.map (fun placed => placed.block.category))
      (after.map (fun placed => placed.block.category))
      (by simp [houter, hinner])
    obtain ⟨placed, hmem, hcategory⟩ := List.mem_map.1 hmarker
    exact hbetween placed hmem hcategory
  · intro hnested
    apply Classical.byContradiction
    intro hfree
    refine hnested (fun before between after heq => ?_)
    obtain ⟨before, tail, rfl, rfl, htail⟩ := List.map_eq_append_iff.1 heq
    obtain ⟨outer, behind, rfl, houter, hbehind⟩ := List.map_eq_cons_iff.1 htail
    obtain ⟨between, tail, rfl, rfl, hlast⟩ := List.map_eq_append_iff.1 hbehind
    obtain ⟨inner, after, rfl, hinner, -⟩ := List.map_eq_cons_iff.1 hlast
    apply Classical.byContradiction
    intro hmarker
    refine hfree ⟨before, outer, between, inner, after, rfl, houter, hinner, ?_⟩
    intro placed hmem hcategory
    exact hmarker (List.mem_map.2 ⟨placed, hmem, hcategory⟩)

end Plan

namespace Run

variable {program : List Placed}

theorem start_of_ofProgram {items : List Plan.Item} (hne : program ≠ [])
    (hplan : Plan.ofProgram program = .ok items) :
    start program = ⟨program, .ofItems items, none, .running, 0⟩ := by
  have hempty : program.isEmpty = false := List.isEmpty_eq_false_iff.2 hne
  simp [start, hempty, hplan]

theorem start_of_error {nested : NestedLoop} (hne : program ≠ [])
    (hplan : Plan.ofProgram program = .error nested) :
    start program = refused program (nestedLoops nested) := by
  have hempty : program.isEmpty = false := List.isEmpty_eq_false_iff.2 hne
  simp [start, hempty, hplan]

theorem isOver_start_eq_false (hne : program ≠ [])
    (hflat : Plan.Unnested (program.map (fun placed => placed.block.category))) :
    (start program).isOver = false := by
  obtain ⟨items, hplan⟩ := (Plan.exists_ofProgram_iff program).2 hflat
  rw [start_of_ofProgram hne hplan]
  rfl

/-- A program is refused exactly if it has no blocks or a loop inside a loop. -/
theorem isOver_start_iff :
    (start program).isOver = true ↔ program = [] ∨ Plan.Nested program := by
  rw [Plan.nested_iff_not_unnested]
  constructor
  · intro hover
    by_cases hne : program = []
    · exact .inl hne
    · refine .inr (fun hflat => ?_)
      rw [isOver_start_eq_false hne hflat] at hover
      cases hover
  · rintro (rfl | hnested)
    · rfl
    · by_cases hne : program = []
      · rw [hne]
        rfl
      · cases hplan : Plan.ofProgram program with
        | ok items => exact absurd ((Plan.exists_ofProgram_iff program).1 ⟨items, hplan⟩) hnested
        | error nested =>
          rw [start_of_error hne hplan]
          rfl

theorem program_start (program : List Placed) : (start program).program = program := by
  unfold start
  split
  · rfl
  · split <;> rfl

theorem executed_start (program : List Placed) : (start program).executed = 0 := by
  unfold start
  split
  · rfl
  · split <;> rfl

/-- A program that begins to run has blocks and a plan. -/
theorem exists_ofProgram_of_start (hover : (start program).isOver = false) :
    program ≠ [] ∧ ∃ items, Plan.ofProgram program = .ok items := by
  have hne : program ≠ [] := by
    rintro rfl
    cases hover
  refine ⟨hne, ?_⟩
  cases hplan : Plan.ofProgram program with
  | ok items => exact ⟨items, rfl⟩
  | error nested =>
    rw [start_of_error hne hplan] at hover
    cases hover

/-! ## The first step -/

theorem line?_ofItems_of_ofProgram {first : Placed} {rest : List Placed}
    {items : List Plan.Item} (hplan : Plan.ofProgram (first :: rest) = .ok items) :
    (Cursor.ofItems items).line? = some (⟨0, first⟩, none) := by
  have hlines := Plan.flatMap_lines_of_ofProgram hplan
  rw [show Line.ofProgram (first :: rest) =
    ⟨0, first⟩ :: (Line.ofProgram (first :: rest)).tail from rfl] at hlines
  -- No item is without lines, so the first line of the program is that of the first item.
  match items, hlines with
  | .single line :: later, hlines =>
    rw [show line = ⟨0, first⟩ from List.head_eq_of_cons_eq hlines]
    rfl
  | .loop l :: later, hlines =>
    rw [← show l.header = ⟨0, first⟩ from List.head_eq_of_cons_eq hlines]
    rfl

/-- The first step of a program runs its first block, in the scene that is there and
behind no condition. -/
theorem Made.event_of_start {rules : Rules} {s s' : Scene} {e : Event} {r' : Run}
    {line : Line} {round : Option Nat} {first : Placed} {rest : List Placed}
    (h : Made (start (first :: rest)) rules s e r' s' line round) :
    e = event ⟨0, first⟩ none (first.block.run rules none s) := by
  have hover := h.isOver_eq
  have hline := h.line?_eq
  rw [h.event_eq, performed]
  cases hplan : Plan.ofProgram (first :: rest) with
  | error nested =>
    rw [start_of_error (List.cons_ne_nil _ _) hplan] at hover
    cases hover
  | ok items =>
    rw [start_of_ofProgram (List.cons_ne_nil _ _) hplan] at hline ⊢
    rw [line?_ofItems_of_ofProgram hplan] at hline
    cases hline
    cases items <;> rfl

end Run

end Spellbook

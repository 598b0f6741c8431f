import Spellbook.Proofs.Plan.Bare
import Spellbook.Proofs.Run.Agreement
import Spellbook.Proofs.Run.Answers
set_option autoImplicit false

/-!
# How programs without loops end

`Rules.endOf` follows blocks one after the other from a scene and says how their run ends,
without events and without a plan.  A program that has no loop ends so when it is played
(`outcome_play_of_ne_loop`).  A check and the action behind it are followed together: the
check that says no leaves no trace of the action (`endOf_skipped`), and the one that says yes
leaves the action alone (`endOf_admitted`).
-/

namespace Spellbook.Rules

open Run (start)

variable {rules : Rules} {b check action : Block} {more : List Block} {s : Scene}
  {answer : Option Bool}

/-- How a run ends that has just these blocks left, one after the other. -/
def endOf (rules : Rules) : List Block → Scene → Option Bool → Outcome
  | [], s, _ => (rules.goal s).outcome
  | b :: more, s, answer =>
    let done := b.run rules answer s
    match rules.verdict done with
    | .running => rules.endOf more done.scene done.answer
    | o => o

theorem endOf_cons_of_running (h : rules.verdict (b.run rules answer s) = .running) :
    rules.endOf (b :: more) s answer =
      rules.endOf more (b.run rules answer s).scene (b.run rules answer s).answer := by
  simp only [endOf, h]

theorem endOf_cons_of_isFinal (h : (rules.verdict (b.run rules answer s)).isFinal = true) :
    rules.endOf (b :: more) s answer = rules.verdict (b.run rules answer s) := by
  rw [endOf]
  split
  · rename_i hrunning
    rw [hrunning] at h
    cases h
  · rfl

/-! ## Whole programs -/

/-- Single blocks of a plan end as the blocks do. -/
theorem outcome_tellItems (rules : Rules) (lines : List Line) (s : Scene)
    (answer : Option Bool) :
    (rules.tellItems (lines.map .single) s answer).outcome =
      rules.endOf (lines.map Line.block) s answer := by
  induction lines generalizing s answer with
  | nil => rfl
  | cons line rest ih =>
    let done := line.block.run rules answer s
    have htold : (rules.tellItem (.single line) s answer).outcome = rules.verdict done := rfl
    rw [List.map_cons, List.map_cons, tellItems]
    cases hfinal : (rules.verdict done).isFinal with
    | true => rw [Stretch.andThen_of_isFinal hfinal, endOf_cons_of_isFinal hfinal, htold]
    | false =>
      have hrunning := Run.isFinal_eq_false_iff.1 hfinal
      rw [Stretch.andThen_of_running (htold.trans hrunning), endOf_cons_of_running hrunning]
      exact ih done.scene done.answer

theorem outcome_play_of_ne_loop {program : List Placed} (hne : program ≠ [])
    (hflat : ∀ placed ∈ program, placed.block.category ≠ .loop) (rules : Rules) (s : Scene) :
    (rules.play program .never s).run.outcome =
      rules.endOf (program.map Placed.block) rules.openingScene none := by
  have hlines : ∀ l ∈ Line.ofProgram program, l.category ≠ .loop := fun l hl =>
    hflat l.placed (List.mem_of_getElem? (Line.getElem?_of_mem_ofProgram hl))
  have hplan : Plan.ofProgram program = .ok _ := Plan.assemble_of_ne_loop hlines
  have hstart := Run.start_of_ofProgram hne hplan
  have hover : (start program).isOver = false := by rw [hstart]; rfl
  have hstraight : (start program).cursor.Straight := by
    rw [hstart]
    exact Run.straight_of_ne_loop hplan hflat
  have hstretch := Run.stretch_finish rules (start program) rules.openingScene
    (by rw [hstart]) (.inr hstraight)
  obtain ⟨-, houtcome⟩ := Run.outcome_finish rules (start program) rules.openingScene
  rw [play_never hover]
  calc ((start program).finish rules rules.openingScene).run.outcome
      = ((start program).finish rules rules.openingScene).stretch.outcome := houtcome
    _ = ((start program).cursor.tell rules rules.openingScene (start program).answer).outcome := by
      rw [hstretch]
    _ = (rules.tellItems ((Line.ofProgram program).map .single) rules.openingScene
          none).outcome := by
      rw [hstart, Cursor.tell_ofItems]
    _ = rules.endOf (program.map Placed.block) rules.openingScene none := by
      rw [outcome_tellItems, Line.map_block_ofProgram]

/-! ## Checks and the actions behind them -/

/-- The run goes on behind a step that does not fail, unless it wins at once. -/
def Waits (rules : Rules) (s : Scene) : Prop :=
  rules.eager = true → ∀ message, rules.goal s ≠ .met message

/-- A check that has an answer leaves it to the action behind it. -/
theorem run_check {held : Bool} (hcategory : check.category = .condition)
    (hleaves : check.leaves? s.vars = some (some held)) (rules : Rules)
    (answer : Option Bool) : ∃ message,
      check.run rules answer s = ⟨.done message, s, some held⟩ := by
  cases hop : check.op with
  | compare name comparison value =>
    simp only [Block.leaves?, hcategory, hop, Option.some.injEq, Option.map_eq_some_iff] at hleaves
    obtain ⟨current, hcurrent, rfl⟩ := hleaves
    simp [Block.run, hcategory, Block.runCondition, hop, hcurrent]
  | _ => simp [Block.leaves?, hcategory, hop] at hleaves

theorem endOf_check {held : Bool} (hcategory : check.category = .condition)
    (hleaves : check.leaves? s.vars = some (some held)) (hwaits : rules.Waits s) :
    rules.endOf (check :: more) s answer = rules.endOf more s (some held) := by
  obtain ⟨message, hrun⟩ := run_check hcategory hleaves rules answer
  have hverdict : rules.verdict (check.run rules answer s) = .running := by
    rw [hrun]
    exact verdict_eq_running rfl hwaits
  rw [endOf_cons_of_running hverdict, hrun]

/-- Behind a check that says no an action leaves nothing. -/
theorem endOf_skipped (hcategory : check.category = .condition) (hgates : rules.Gates action)
    (hleaves : check.leaves? s.vars = some (some false)) (hwaits : rules.Waits s) :
    rules.endOf (check :: action :: more) s answer = rules.endOf more s none := by
  have hrun := Block.run_of_gates hgates (some false) s
  have hverdict : rules.verdict (action.run rules (some false) s) = .running := by
    rw [hrun]
    exact verdict_eq_running rfl hwaits
  rw [endOf_check hcategory hleaves hwaits, endOf_cons_of_running hverdict, hrun]

/-- Behind a check that says yes the level performs an action. -/
theorem endOf_admitted {message : String} {s' : Scene} (hcategory : check.category = .condition)
    (hgates : rules.Gates action) (hleaves : check.leaves? s.vars = some (some true))
    (hwaits : rules.Waits s) (hperform : rules.perform action.op s = (.done message, s')) :
    rules.endOf (check :: action :: more) s answer =
      match rules.verdict ⟨.done message, s', none⟩ with
      | .running => rules.endOf more s' none
      | o => o := by
  rw [endOf_check hcategory hleaves hwaits, endOf, Block.run_of_gates hgates (some true) s,
    hperform]

end Spellbook.Rules

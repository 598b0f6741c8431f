import Spellbook.Proofs.Run.Trace
import Spellbook.Proofs.Workbench.Playing
set_option autoImplicit false

/-!
# What a run does with the scene that it finds

A program that is refused leaves the scene as it is, and nobody is told of it.  Any other
program begins in the world of its level without variables, and what was there before
makes no difference (`refuses_or_begins`).  It is the same for a bare program and for one
on a workbench, and whether or not somebody has stopped the run before.
-/

namespace Spellbook

/-- What is seen of a program that is refused in this scene.  A program without blocks has
not reached its goal; a program with a loop inside a loop is none that can run, and the two
headers are named. -/
structure Playback.Refused (p : Playback) (program : List Placed) (s : Scene) : Prop where
  notices_eq : p.notices = []
  events_eq : p.events = []
  scene_eq : p.scene = s
  outcome_of_nil : program = [] →
    p.run.outcome =
      .failure .incompleteGoal "The program is empty. Add some blocks and run it again."
  outcome_of_nested : Plan.Nested program →
    ∃ outer inner : Line, Plan.ofProgram program = .error ⟨outer, inner⟩ ∧
      p.run.outcome = .failure .invalidProgram
        s!"Block {inner.index + 1} (\"{inner.block.label}\") starts a loop inside the loop that begins at block {outer.index + 1}. Loops inside loops are not supported."

/-- What is seen of a program that begins in the world of its level without variables: each
step is made in the scene that the step before has left, and the first one there. -/
structure Playback.Begun (p : Playback) (rules : Rules) (program : List Placed) : Prop where
  steps : ∃ last,
    Run.Trace rules (Run.start program) ⟨rules.initialWorld, .empty⟩ p.events last p.scene
  first_eq : ∀ e ∈ p.events.head?, ∃ first ∈ program.head?,
    e = Run.event ⟨0, first⟩ none
      (first.block.run rules none ⟨rules.initialWorld, .empty⟩)

namespace Run

variable {program : List Placed}

theorem outcome_start_of_nested (hnested : Plan.Nested program) :
    ∃ outer inner : Line, Plan.ofProgram program = .error ⟨outer, inner⟩ ∧
      (start program).outcome = .failure .invalidProgram
        s!"Block {inner.index + 1} (\"{inner.block.label}\") starts a loop inside the loop that begins at block {outer.index + 1}. Loops inside loops are not supported." := by
  have hne : program ≠ [] := by
    obtain ⟨before, outer, between, inner, after, rfl, -⟩ := hnested
    simp
  cases hplan : Plan.ofProgram program with
  | error nested => exact ⟨nested.outer, nested.inner, rfl, by rw [start_of_error hne hplan]; rfl⟩
  | ok items =>
    exact absurd ((Plan.exists_ofProgram_iff program).1 ⟨items, hplan⟩)
      (Plan.nested_iff_not_unnested.1 hnested)

end Run

namespace Rules

variable {σ : Type} {program : List Placed}

theorem playFor_of_isOver (h : (Run.start program).isOver = true) (o : Observer σ)
    (rules : Rules) (i : Interruption) (s : Scene) (state : σ) :
    rules.playFor o program i s state = (⟨[], [], Run.start program, s⟩, state) := by
  simp [playFor, h]

theorem refused_of_isOver (h : (Run.start program).isOver = true) (o : Observer σ)
    (rules : Rules) (i : Interruption) (s : Scene) (state : σ) :
    (rules.playFor o program i s state).1.Refused program s := by
  rw [playFor_of_isOver h]
  exact ⟨rfl, rfl, rfl, fun hnil => by rw [hnil]; rfl, Run.outcome_start_of_nested⟩

theorem begun_of_not_isOver (h : (Run.start program).isOver = false) (o : Observer σ)
    (rules : Rules) (i : Interruption) (s : Scene) (state : σ) :
    (rules.playFor o program i s state).1.Begun rules program := by
  rw [playFor_fst, play_of_not_isOver h]
  obtain ⟨last, htrace⟩ :=
    Run.exists_trace_drive rules i 0 0 (Run.start program) rules.openingScene
  refine ⟨⟨last, htrace⟩, fun e he => ?_⟩
  -- The first event is that of the first step of the trace.
  generalize (Run.start program).drive rules i 0 0 rules.openingScene = p at he htrace
  obtain ⟨later, hevents⟩ := List.head?_eq_some_iff.1 he
  rw [hevents] at htrace
  cases htrace with
  | cons hstep hrest =>
    obtain ⟨line, round, hmade⟩ := Run.made_of_step_eq hstep
    cases program with
    | nil => cases h
    | cons first rest => exact ⟨first, rfl, hmade.event_of_start⟩

/-- A program is refused exactly if it has no blocks, or two loop headers without an end
marker between them.  Then nothing is announced and nothing runs, the observer is told
nothing, and the scene stays as it was.  Else the run begins in the world of the level
without variables, and the scene that was there makes no difference.  A workbench with
this program, in this scene and under these rules, does the same with its scene. -/
theorem refuses_or_begins (rules : Rules) (program : List Placed) (o : Observer σ)
    (i : Interruption) (s : Scene) (state : σ) :
    let refused := program = [] ∨ Plan.Nested program
    let seen := rules.playFor o program i s state
    ((Run.start program).isOver = true ↔ refused) ∧
    (refused → seen.1.Refused program s ∧ seen.2 = state) ∧
    (¬ refused → seen.1.Begun rules program ∧
      ∀ s', rules.playFor o program i s' state = seen) ∧
    ∀ w : Workbench, w.isRunning = false → w.program.placed = program → w.rules = rules →
      w.scene = s →
      w.playFor o i state = (.ok (w.reportOf seen.1), w.played seen.1, seen.2) ∧
      ∃ begun, w.start = (.ok begun.upcoming, begun) ∧ begun.history = [] ∧
        (refused → begun.scene = s ∧ begun.lastOutcome = some seen.1.run.outcome) ∧
        (¬ refused → begun.scene = ⟨rules.initialWorld, .empty⟩ ∧ begun.isRunning = true) := by
  intro refused seen
  have hiff : (Run.start program).isOver = true ↔ refused := Run.isOver_start_iff
  have hnot (h : ¬ refused) : (Run.start program).isOver = false :=
    Bool.eq_false_iff.2 (fun hover => h (hiff.1 hover))
  refine ⟨hiff, fun h => ⟨refused_of_isOver (hiff.2 h) .., ?_⟩,
    fun h => ⟨begun_of_not_isOver (hnot h) .., fun s' => ?_⟩, ?_⟩
  · exact congrArg Prod.snd (playFor_of_isOver (hiff.2 h) ..)
  · simp [seen, playFor, hnot h]
  · rintro w hidle rfl rfl rfl
    refine ⟨?_, w.started, Workbench.start_eq hidle, rfl, fun h => ?_, fun h => ?_⟩
    · rw [Workbench.playFor_eq hidle, ← playFor_fst o w.rules w.program.placed i w.scene state]
    · have hover := hiff.2 h
      have hseen : seen.1 = _ := congrArg Prod.fst (playFor_of_isOver hover ..)
      rw [hseen]
      rw [Run.isOver] at hover
      simp [Workbench.started, Workbench.lastOutcome, Run.isOver, hover]
    · simp [Workbench.started, Workbench.isRunning, hnot h, openingScene, Scene.opening]

/-- A loop of the bridge inside a loop. -/
def nestedSteps : List Placed :=
  (Program.ofIds Bridge.blocks ["repeat-10", "step-forward", "repeat-10"]).placed

/-- On a bridge where a crossing was stopped, a loop inside a loop is refused and the wizard
stays on the second plank, while the crossing begins at the first. -/
theorem refuses_nestedSteps_and_begins_crossing :
    let s := Workbench.stoppedCrossing.scene
    let stopped : Interruption := ⟨true, none, none⟩
    (Bridge.rules.play nestedSteps stopped s).Refused nestedSteps s ∧
      Plan.Nested nestedSteps ∧
      ∃ begun, Workbench.stoppedCrossing.start = (.ok begun.upcoming, begun) ∧
        (s.world.position, begun.scene.world.position) = (1, 0) ∧ begun.isRunning = true := by
  intro s stopped
  let silent : Observer Unit := ⟨fun _ _ => (), fun _ _ => ()⟩
  have hnested : Plan.Nested nestedSteps :=
    (Run.isOver_start_iff.1 (by decide +kernel)).resolve_left (by decide +kernel)
  have haccepted : ¬ (Run.crossing = [] ∨ Plan.Nested Run.crossing) :=
    fun h => absurd (Run.isOver_start_iff.2 h) (by decide +kernel)
  obtain ⟨-, hrefused, -, -⟩ := refuses_or_begins Bridge.rules nestedSteps silent stopped s ()
  obtain ⟨-, -, -, hbench⟩ :=
    refuses_or_begins Bridge.rules Run.crossing silent stopped s ()
  obtain ⟨-, begun, hstart, -, -, hbegun⟩ :=
    hbench Workbench.stoppedCrossing (by decide +kernel) rfl rfl rfl
  obtain ⟨hscene, hrunning⟩ := hbegun haccepted
  have hseen := (hrefused (.inr hnested)).1
  rw [playFor_fst] at hseen
  refine ⟨hseen, hnested, begun, hstart, ?_, hrunning⟩
  rw [hscene]
  decide +kernel

end Rules

end Spellbook

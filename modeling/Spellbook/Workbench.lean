import Spellbook.Catalog
import Spellbook.Level.Rules
import Spellbook.Playback
import Spellbook.Program
set_option autoImplicit false

/-!
# The workbench

A workbench holds one level with the learner's program, the scene, and the last
run with its events.  It keeps the policy that was made of its setup, and makes it
anew when the seed changes.  While a run is going on the program is locked and no
other run can start.  An operation that can be refused also gives the workbench that
it leaves then.
-/

namespace Spellbook

/-- One level with the learner's work on it. -/
structure Workbench where
  setup : Setup
  /-- The policy that was made of the setup. -/
  policy : Policy
  catalog : Catalog
  program : Program
  scene : Scene
  /-- The pause before each step in milliseconds. -/
  stepDelay : Nat
  /-- The last run, going on or over. -/
  run? : Option Run
  /-- The events of the last run. -/
  history : List Event
  deriving DecidableEq, Inhabited

namespace Workbench

/-- Whether the monsters of a setup, if it lists any, fill the gauntlet. -/
def monstersFit (s : Setup) : Except Fault Unit :=
  match s.monsters? with
  | none => .ok ()
  | some kinds =>
    if kinds.length = Thing.Kind.monsters.length ∧ kinds.all Thing.Kind.isMonster then .ok ()
    else .error (.monstersInvalid kinds)

/-- A workbench with an empty program. -/
def create (s : Setup) : Except Fault Workbench :=
  match monstersFit s with
  | .error fault => .error fault
  | .ok () =>
    let policy := s.policy
    match Catalog.ofBlocks policy.rules policy.rules.blocks with
    | .error fault => .error fault
    | .ok catalog => .ok {
        setup := s
        policy := policy
        catalog := catalog
        program := .empty
        scene := policy.rules.openingScene
        stepDelay := s.stepDelay?.getD policy.rules.stepDelay
        run? := none
        history := [] }

/-- The rules in effect. -/
def rules (w : Workbench) : Rules := w.policy.rules

/-- The level on the workbench. -/
def level (w : Workbench) : Level := w.setup.level

/-- Whether a run is going on. -/
def isRunning (w : Workbench) : Bool := w.run?.any (fun r => !r.isOver)

/-- The outcome of the last run, if it is over. -/
def lastOutcome (w : Workbench) : Option Outcome :=
  (w.run?.map Run.outcome).filter Outcome.isFinal

/-- The block that the next step will run. -/
def upcoming (w : Workbench) : Option Notice := w.run?.bind Run.upcoming

/-- The report of the last run, if it is over. -/
def report (w : Workbench) : Option Report :=
  w.lastOutcome.map (fun o => ⟨w.level, o, w.history, w.scene⟩)

/-! ## Editing the program -/

/-- Adds the block with this id and gives its number. -/
def append (w : Workbench) (id : String) : Except Fault Nat × Workbench :=
  if w.isRunning then (.error .programLocked, w)
  else match w.catalog.get id with
    | .error fault => (.error fault, w)
    | .ok b => (.ok w.program.nextNumber, { w with program := w.program.append b })

/-- Drops the block with this number and tells whether there was one. -/
def remove (w : Workbench) (number : Nat) : Except Fault Bool × Workbench :=
  if w.isRunning then (.error .programLocked, w)
  else (.ok (w.program.has number), { w with program := w.program.remove number })

/-- Drops every block. -/
def clear (w : Workbench) : Except Fault Unit × Workbench :=
  if w.isRunning then (.error .programLocked, w)
  else (.ok (), { w with program := w.program.clear })

/-- Replaces the program by the blocks with these ids, all of them or none, and gives
their numbers. -/
def load (w : Workbench) (ids : List String) : Except Fault (List Nat) × Workbench :=
  if w.isRunning then (.error .programLocked, w)
  else match w.catalog.getAll ids with
    | .error fault => (.error fault, w)
    | .ok blocks =>
      let program := w.program.clear.appendAll blocks
      (.ok program.numbers, { w with program := program })

/-! ## Runs -/

/-- Stops the run that is going on; also gives its outcome if there was one. -/
def abandon (w : Workbench) : Option Outcome × Workbench :=
  match w.run? with
  | none => (none, w)
  | some r =>
    if r.isOver then (none, w)
    else (some r.cancel.outcome, { w with run? := some r.cancel })

/-- Forgets the last run and restores the opening scene. -/
def reset (w : Workbench) : Workbench :=
  { w with scene := w.rules.openingScene, run? := none, history := [] }

/-- Forgets the last run, restores the opening scene and drops every block. -/
def resetAll (w : Workbench) : Workbench :=
  { w.reset with program := w.program.clear }

/-- Draws the level anew from a seed. -/
def reseed (w : Workbench) (seed : UInt32) : Except Fault Unit × Workbench :=
  if w.isRunning then (.error .runInProgress, w)
  else
    let setup := { w.setup with seed? := some seed }
    (.ok (), { w with setup := setup, policy := setup.policy }.reset)

/-- Begins a run and announces its first block.  A program that is refused leaves the
scene as it is. -/
def start (w : Workbench) : Except Fault (Option Notice) × Workbench :=
  if w.isRunning then (.error .runInProgress, w)
  else
    let run := Run.start w.program.placed
    (.ok run.upcoming, { w with
      run? := some run
      history := []
      scene := if run.isOver then w.scene else w.rules.openingScene })

/-- Runs the next block of the run. -/
def advance (w : Workbench) : Except Fault Advance × Workbench :=
  match w.run? with
  | none => (.error .noActiveRun, w)
  | some r =>
    let (result, r, s) := r.step w.rules w.scene
    let events := match result with
      | .step e => [e]
      | .finished _ => []
    (.ok result, { w with run? := some r, scene := s, history := w.history ++ events })

/-- The report of a run that was played to its end. -/
def reportOf (w : Workbench) (p : Playback) : Report :=
  ⟨w.level, p.run.outcome, p.events, p.scene⟩

/-- Begins a run and plays it to its end; gives what was seen of it. -/
def play (w : Workbench) (i : Interruption) : Except Fault Playback × Workbench :=
  match w.start with
  | (.error fault, w) => (.error fault, w)
  | (.ok _, w) =>
    match w.run? with
    | none => (.error .runInProgress, w)
    | some r =>
      let p := r.drive w.rules i 0 0 w.scene
      (.ok p, { w with run? := some p.run, scene := p.scene, history := w.history ++ p.events })

end Workbench

end Spellbook

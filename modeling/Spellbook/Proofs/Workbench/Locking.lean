import Spellbook.Proofs.Run.Interrupted
import Spellbook.Proofs.Workbench.Calls
set_option autoImplicit false

/-!
# What is locked while a run is going on

A run that is going on is a run of the program on the workbench, as no call but `start` can
begin one and none can edit the program meanwhile (`Reachable.runs_program`).  Every edit is
then refused for the program, and every other run and every draw for the run, and both are
free again as soon as the run is over (`reachable_locked`).
-/

namespace Spellbook.Workbench

variable {w w' : Workbench} {c : Call}

/-- A run that is going on runs the program on the workbench. -/
def RunsProgram (w : Workbench) : Prop :=
  ∀ r, w.run? = some r → r.isOver = false → r.program = w.program.placed

theorem Served.runs_program (h : w.Served c w') (hw : w.RunsProgram) : w'.RunsProgram := by
  intro r' hrun' hgoing
  cases h with
  | kept => exact hw r' hrun' hgoing
  | edited hidle hoffered =>
    -- Nothing was going on, so nothing is going on now.
    have hover := isRunning_eq_false_iff.1 hidle r' hrun'
    rw [hover] at hgoing
    cases hgoing
  | restored hrenews hoffered => cases hrun'
  | redrawn hidle => cases hrun'
  | begun hidle =>
    cases hrun'
    exact Run.program_start w.program.placed
  | stepped hrun hstep =>
    cases hrun'
    obtain ⟨line, round, hmade⟩ := Run.made_of_step_eq hstep
    rw [hmade.program_eq]
    exact hw _ hrun hmade.isOver_eq
  | found hrun hstep =>
    cases hrun'
    obtain ⟨-, rfl, -, hfinal⟩ := Run.of_step_eq_finished hstep
    rw [Run.isOver, hfinal] at hgoing
    cases hgoing
  | stopped hrun =>
    cases hrun'
    rw [Run.isOver_cancel] at hgoing
    cases hgoing
  | ended hidle =>
    cases hrun'
    rw [Rules.isOver_play] at hgoing
    cases hgoing

theorem Reachable.runs_program (h : w.Reachable) : w.RunsProgram := by
  induction h with
  | create hcreate =>
    obtain ⟨-, rfl⟩ := create_eq_ok_iff.1 hcreate
    intro r hrun
    cases hrun
  | call h c ih => exact (served_call _ c).runs_program ih

/-! ## How a run in progress ends -/

theorem isRunning_abandon (w : Workbench) : w.abandon.2.isRunning = false := by
  cases hrunning : w.isRunning with
  | true =>
    obtain ⟨r, hrun, hover⟩ := isRunning_eq_true_iff.1 hrunning
    rw [abandon_of_isRunning hrun hover, isRunning_eq_false_iff]
    intro r' hrun'
    cases hrun'
    exact Run.isOver_cancel r
  | false =>
    rw [abandon_of_not_isRunning hrunning]
    exact hrunning

theorem abandon_fst (h : w.isRunning = true) : w.abandon.1 = some Run.stopped := by
  obtain ⟨r, hrun, hover⟩ := isRunning_eq_true_iff.1 h
  rw [abandon_of_isRunning hrun hover, Run.outcome_cancel hover]

/-- The code of the fault with which a call is refused while a run is going on, if it is. -/
def Call.lockCode? : Call → Option String
  | .append _ | .remove _ | .clear | .load _ => some "LEVEL_PROGRAM_LOCKED"
  | .reseed _ | .start | .play _ => some "LEVEL_RUN_IN_PROGRESS"
  | .reset | .resetAll | .advance | .abandon => none

theorem code_of_lock? {fault : Fault} (h : c.lock? = some fault) :
    c.lockCode? = some fault.code := by
  cases c <;> cases h <;> rfl

/-- The calls that have a code are those that have a fault. -/
theorem exists_lock?_of_lockCode? {code : String} (h : c.lockCode? = some code) :
    ∃ fault, c.lock? = some fault ∧ fault.code = code := by
  cases hlock : c.lock? with
  | some fault =>
    rw [code_of_lock? hlock] at h
    exact ⟨fault, rfl, Option.some.inj h⟩
  | none => cases c <;> cases hlock <;> cases h

/-- While a run is going on it is one of the program on the workbench, and every edit, every
other run, before whatever observer, and every draw is refused, whatever the blocks that are
asked for: the call answers a fault with the code that it has, and the workbench that it leaves
is the one before it, in the program and its numbers, the scene, the run and its history, the
setup and the policy.  If none is going on, nothing is refused in these two ways.  To reset the
workbench or to abandon its run always ends the run. -/
theorem reachable_locked (h : w.Reachable) :
    (w.isRunning = true →
      (∃ r, w.run? = some r ∧ r.program = w.program.placed) ∧
      (∀ c code, c.lockCode? = some code →
        ∃ fault, c.lock? = some fault ∧ fault.code = code ∧
          w.attempt c = (.error fault, w) ∧ w.call c = w) ∧
      (∀ (σ : Type) (o : Observer σ) i state,
        w.playFor o i state = (.error .runInProgress, w, state) ∧
        Fault.runInProgress.code = "LEVEL_RUN_IN_PROGRESS") ∧
      w.abandon.1 = some Run.stopped) ∧
    (w.isRunning = false →
      (∀ c fault, (w.attempt c).1 = .error fault →
        fault.code ≠ "LEVEL_PROGRAM_LOCKED" ∧ fault.code ≠ "LEVEL_RUN_IN_PROGRESS") ∧
      ∀ (σ : Type) (o : Observer σ) i state, ∃ report, (w.playFor o i state).1 = .ok report) ∧
    w.reset.isRunning = false ∧ w.resetAll.isRunning = false ∧
      w.abandon.2.isRunning = false := by
  refine ⟨?_, ?_, rfl, rfl, isRunning_abandon w⟩
  · intro hrunning
    obtain ⟨r, hrun, hover⟩ := isRunning_eq_true_iff.1 hrunning
    refine ⟨⟨r, hrun, h.runs_program r hrun hover⟩, ?_, ?_, abandon_fst hrunning⟩
    · intro c code hcode
      obtain ⟨fault, hlock, rfl⟩ := exists_lock?_of_lockCode? hcode
      have hrefused := attempt_of_isRunning hrunning hlock
      exact ⟨fault, hlock, rfl, hrefused, call_of_attempt hrefused⟩
    · intro σ o i state
      exact ⟨playFor_of_isRunning hrunning o i state, rfl⟩
  · intro hidle
    refine ⟨?_, fun σ o i state => ⟨_, by rw [playFor_eq hidle]⟩⟩
    intro c fault hfault
    obtain ⟨-, ⟨id, rfl⟩ | rfl⟩ := refused_of_not_isRunning hidle hfault
    · simp [Fault.code]
    · simp [Fault.code]

/-- The bridge before anything is done on it. -/
def bridge : Workbench := fresh (.ofLevel .bridge)

theorem create_bridge : create (.ofLevel .bridge) = .ok bridge := create_eq_ok_iff.2 ⟨rfl, rfl⟩

/-- The wizard in the middle of a walk of two steps. -/
def walking : Workbench :=
  bridge.after [.load ["step-forward", "step-forward"], .start, .advance]

/-- During the walk neither a known nor an unknown block is added, and no seed is drawn; when
the walk is abandoned the block is added. -/
theorem reachable_locked_walking :
    walking.Reachable ∧ walking.isRunning = true ∧ walking.scene.world.position = 1 ∧
      (∃ fault, fault.code = "LEVEL_PROGRAM_LOCKED" ∧
        walking.attempt (.append "celebrate") = (.error fault, walking)) ∧
      (∃ fault, fault.code = "LEVEL_PROGRAM_LOCKED" ∧
        walking.attempt (.append "jump") = (.error fault, walking)) ∧
      walking.call (.reseed 3) = walking ∧
      (walking.call .abandon).isRunning = false ∧
      ((walking.call .abandon).call (.append "celebrate")).program.length = 3 := by
  have hreach : walking.Reachable := (Reachable.create create_bridge).after _
  have hrunning : walking.isRunning = true := by decide +kernel
  obtain ⟨hlocked, -, -, -, habandoned⟩ := reachable_locked hreach
  obtain ⟨-, hrefused, -, -⟩ := hlocked hrunning
  obtain ⟨known, -, hknown, hkept, -⟩ := hrefused (.append "celebrate") _ rfl
  obtain ⟨unknown, -, hunknown, hkept', -⟩ := hrefused (.append "jump") _ rfl
  obtain ⟨-, -, -, -, hseed⟩ := hrefused (.reseed 3) _ rfl
  exact ⟨hreach, hrunning, by decide +kernel, ⟨known, hknown, hkept⟩,
    ⟨unknown, hunknown, hkept'⟩, hseed, habandoned, by decide +kernel⟩

end Spellbook.Workbench

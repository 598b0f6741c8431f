import Spellbook.Proofs.Catalog.Admission
import Spellbook.Proofs.Run.Agreement
import Spellbook.Proofs.Run.Observed
import Spellbook.Workbench
set_option autoImplicit false

/-!
# The ways of running a program

A workbench can play its program to the end before an observer, or begin a run and be
asked for one block after another.  Both come to the same workbench, and both have the
events, the outcome and the scene of the bare program under the rules of the level
(`ways_agree`).  A program that is refused is no exception: its run is over at once.
-/

namespace Spellbook

/-- Every program, refused or not, is played from the scene in which its run begins. -/
theorem Rules.play_eq_drive (rules : Rules) (program : List Placed) (i : Interruption)
    (s : Scene) :
    rules.play program i s =
      (Run.start program).drive rules i 0 0
        (if (Run.start program).isOver then s else rules.openingScene) := by
  cases hover : (Run.start program).isOver with
  | true => rw [play_of_isOver hover, Run.drive_of_isOver hover]; rfl
  | false => exact play_of_not_isOver hover rules i s

namespace Workbench

variable {σ : Type}

/-- Begins a run and plays it to its end before an observer, keeping the history of its
events; gives the report, the workbench then, and what the observer makes of it. -/
def playFor (o : Observer σ) (i : Interruption) (w : Workbench) (state : σ) :
    Except Fault Report × Workbench × σ :=
  match w.start with
  | (.error fault, w) => (.error fault, w, state)
  | (.ok _, w) =>
    match w.run? with
    | none => (.error .runInProgress, w, state)
    | some r =>
      let seen := r.driveFor o.recording w.rules i 0 0 w.scene (w.history, state)
      let p := seen.1
      let w := { w with run? := some p.run, scene := p.scene, history := seen.2.1 }
      (.ok ⟨w.level, p.run.outcome, w.history, w.scene⟩, w, seen.2.2)

/-! ## Asking for one block after another -/

variable {w w' : Workbench} {r r' : Run} {s' : Scene} {e : Event}

theorem advance_of_step (hrun : w.run? = some r)
    (h : r.step w.rules w.scene = (.step e, r', s')) :
    w.advance =
      (.ok (.step e), { w with run? := some r', scene := s', history := w.history ++ [e] }) := by
  simp [advance, hrun, h]

theorem advance_of_finished {o : Outcome} (hrun : w.run? = some r)
    (h : r.step w.rules w.scene = (.finished o, r', s')) :
    w.advance = (.ok (.finished o), { w with run? := some r', scene := s' }) := by
  simp [advance, hrun, h]

/-- The most answers that the run can still give, the one that it is over included. -/
def remaining (w : Workbench) : Nat := (w.run?.map Run.remaining).getD 0

theorem remaining_lt_of_advance (h : w.advance = (.ok (.step e), w')) :
    w'.remaining < w.remaining := by
  cases hrun : w.run? with
  | none => simp [advance, hrun] at h
  | some r =>
    rcases hstep : r.step w.rules w.scene with ⟨a, r', s'⟩
    cases a with
    | finished o =>
      rw [advance_of_finished hrun hstep] at h
      cases h
    | step e' =>
      have hlt := Run.step_remaining_lt (show (r.step w.rules w.scene).1 = .step e' by rw [hstep])
      rw [hstep] at hlt
      rw [advance_of_step hrun hstep] at h
      cases h
      simpa [remaining, hrun] using hlt

/-- Advances the run up to the first answer that it is over: the outcome, the events
before it, and the workbench then. -/
def finish (w : Workbench) : Except Fault (Outcome × List Event) × Workbench :=
  match _h : w.advance with
  | (.error fault, w') => (.error fault, w')
  | (.ok (.finished o), w') => (.ok (o, []), w')
  | (.ok (.step e), w') =>
    match w'.finish with
    | (.error fault, w'') => (.error fault, w'')
    | (.ok (o, events), w'') => (.ok (o, e :: events), w'')
termination_by w.remaining
decreasing_by exact remaining_lt_of_advance _h

theorem finish_of_finished {o : Outcome} (h : w.advance = (.ok (.finished o), w')) :
    w.finish = (.ok (o, []), w') := by
  rw [finish]
  split
  · rename_i h'
    rw [h] at h'
    cases h'
  · rename_i h'
    rw [h] at h'
    cases h'
    rfl
  · rename_i h'
    rw [h] at h'
    cases h'

theorem finish_of_step {o : Outcome} {events : List Event} {w'' : Workbench}
    (h : w.advance = (.ok (.step e), w')) (hrest : w'.finish = (.ok (o, events), w'')) :
    w.finish = (.ok (o, e :: events), w'') := by
  rw [finish]
  split
  · rename_i h'
    rw [h] at h'
    cases h'
  · rename_i h'
    rw [h] at h'
    cases h'
  · rename_i h'
    rw [h] at h'
    cases h'
    rw [hrest]

/-- Advancing a workbench plays its run to the end, with all events in the history. -/
theorem finish_eq (hrun : w.run? = some r) :
    w.finish =
      let ending := r.finish w.rules w.scene
      (.ok (ending.outcome, ending.events),
        { w with
          run? := some ending.run
          scene := ending.scene
          history := w.history ++ ending.events }) := by
  -- The induction is on the run and its scene; the workbench goes along with them.
  generalize hrules : w.rules = rules
  generalize hscene : w.scene = s
  induction r, s using Run.finish_induction rules generalizing w with
  | hfinished r s o r' s' h =>
    have hstep : r.step w.rules w.scene = (.finished o, r', s') := by rw [hrules, hscene, h]
    rw [finish_of_finished (advance_of_finished hrun hstep), Run.finish_of_finished h]
    simp
  | hstep r s e r' s' h ih =>
    have hstep : r.step w.rules w.scene = (.step e, r', s') := by rw [hrules, hscene, h]
    have hrest := ih (w := { w with run? := some r', scene := s', history := w.history ++ [e] })
      rfl hrules rfl
    rw [finish_of_step (advance_of_step hrun hstep) hrest, Run.finish_of_step h]
    simp [Ending.cons]

/-! ## Both ways against the bare program -/

/-- The workbench when a run has come to its end so. -/
def played (w : Workbench) (p : Playback) : Workbench :=
  { w with run? := some p.run, scene := p.scene, history := p.events }

/-- The workbench when its program has begun to run, or was refused. -/
def started (w : Workbench) : Workbench :=
  { w with
    run? := some (Run.start w.program.placed)
    history := []
    scene := if (Run.start w.program.placed).isOver then w.scene else w.rules.openingScene }

theorem start_eq (h : w.isRunning = false) :
    w.start = (.ok (Run.start w.program.placed).upcoming, w.started) := by
  simp [start, h, started]

theorem play_eq (h : w.isRunning = false) (i : Interruption) :
    w.play i =
      let p := w.rules.play w.program.placed i w.scene
      (.ok p, w.played p) := by
  rw [Rules.play_eq_drive]
  simp only [play, start_eq h]
  rfl

/-- Played before an observer, a workbench keeps and tells what the bare program does. -/
theorem playFor_eq (h : w.isRunning = false) (o : Observer σ) (i : Interruption) (state : σ) :
    let p := w.rules.play w.program.placed i w.scene
    w.playFor o i state =
      (.ok (w.reportOf p), w.played p,
        (w.rules.playFor o w.program.placed i w.scene state).2) := by
  rw [Rules.playFor_eq_driveFor, Rules.play_eq_drive]
  have hrun : w.started.run? = some (Run.start w.program.placed) := rfl
  -- The recording observer starts from the history of `started`, which is empty.
  have hseen : (Run.start w.program.placed).driveFor o.recording w.started.rules i 0 0
      w.started.scene (w.started.history, state) = (_, _) :=
    Prod.ext (Run.driveFor_fst ..) (Run.driveFor_recording ..)
  simp only [playFor, start_eq h, hrun, hseen]
  rfl

/-- A program that nobody stops, as stepped from the workbench on which it begins. -/
theorem play_never_eq (w : Workbench) :
    let ending := (Run.start w.program.placed).finish w.rules w.started.scene
    w.rules.play w.program.placed .never w.scene =
      ⟨ending.events.map Event.notice, ending.events, ending.run, ending.scene⟩ := by
  rw [Rules.play_eq_drive, Run.drive_never]
  rfl

theorem finish_started (w : Workbench) :
    let p := w.rules.play w.program.placed .never w.scene
    w.started.finish = (.ok (p.run.outcome, p.events), w.played p) := by
  intro p
  have hp : p = _ := play_never_eq w
  rw [finish_eq (w := w.started) rfl, hp]
  simp only [(Run.outcome_finish _ _ _).2]
  rfl

/-- A workbench without a run going on, whatever is left on it and whatever its program:
to play it before an observer, to play it, and to begin a run and advance it to the end
give the events, the outcome and the scene that the program has under the rules of the
level, and leave the same workbench.  The observer is told of each event of the history
in order, right behind its announcement. -/
theorem ways_agree (h : w.isRunning = false) (o : Observer σ) (state : σ) :
    let p := w.rules.play w.program.placed .never w.scene
    ∃ begun w',
      w.playFor o .never state = (.ok (w.reportOf p), w', o.follow w'.history state) ∧
      w.play .never = (.ok p, w') ∧
      w.start = (.ok begun.upcoming, begun) ∧
      begun.finish = (.ok (p.run.outcome, p.events), w') ∧
      w'.history = p.events ∧ w'.scene = p.scene ∧
      w'.lastOutcome = some p.run.outcome ∧ w'.report = some (w.reportOf p) ∧
      w'.isRunning = false ∧ w'.upcoming = none := by
  intro p
  have hover : p.run.isOver = true := by
    have hp : p = _ := play_never_eq w
    obtain ⟨hfinal, houtcome⟩ :=
      Run.outcome_finish w.rules (Run.start w.program.placed) w.started.scene
    rw [hp, Run.isOver, houtcome]
    exact hfinal
  have houtcome : (w.played p).lastOutcome = some p.run.outcome := by
    rw [Run.isOver] at hover
    simp [lastOutcome, played, hover]
  refine ⟨w.started, w.played p, ?_, play_eq h .never, start_eq h,
    finish_started w, rfl, rfl, houtcome, ?_, ?_, ?_⟩
  · rw [playFor_eq h, Rules.playFor_never_snd]
    rfl
  · rw [report, houtcome]
    rfl
  · simp [isRunning, played, hover]
  · simp [upcoming, played, Run.upcoming, hover]

/-- The workbench of a setup before anything is done on it: there are no blocks in the
program and nothing has run. -/
def fresh (setup : Setup) : Workbench where
  setup := setup
  policy := setup.policy
  catalog := setup.level.catalog
  program := .empty
  scene := setup.rules.openingScene
  stepDelay := setup.stepDelay?.getD setup.rules.stepDelay
  run? := none
  history := []

/-- The bridge with a crossing that was stopped behind its fourth announcement. -/
def stoppedCrossing : Workbench :=
  let w := { fresh (.ofLevel .bridge) with program := ⟨Run.crossing, 6⟩, scene := default }
  w.played (w.rules.play w.program.placed ⟨false, some 4, none⟩ w.scene)

/-- The crossing runs anew to its success, whatever was left of the one before, and an
observer that counts is told of 23 blocks twice each. -/
theorem ways_agree_stoppedCrossing :
    stoppedCrossing.isRunning = false ∧ stoppedCrossing.history.length = 3 ∧
      let counting : Observer Nat := ⟨fun _ n => n + 1, fun _ n => n + 1⟩
      ∃ report begun w',
        stoppedCrossing.playFor counting .never 0 = (.ok report, w', 46) ∧
        stoppedCrossing.start = (.ok begun.upcoming, begun) ∧
        begun.finish = (.ok (report.outcome, report.events), w') ∧ w'.history.length = 23 ∧
        w'.lastOutcome =
          some (.success "The wizard crossed all 10 planks and counted every step!") := by
  have hidle : stoppedCrossing.isRunning = false := by decide +kernel
  refine ⟨hidle, by decide +kernel, ?_⟩
  intro counting
  obtain ⟨begun, w', hfor, -, hstart, hfinish, hhistory, -, houtcome, -⟩ :=
    ways_agree hidle counting 0
  let report := stoppedCrossing.reportOf
    (stoppedCrossing.rules.play stoppedCrossing.program.placed .never stoppedCrossing.scene)
  refine ⟨report, begun, w', hfor.trans ?_, hstart, hfinish, ?_, ?_⟩
  · have htold : counting.follow w'.history 0 = 46 := by
      rw [hhistory]
      decide +kernel
    rw [htold]
  · rw [hhistory]
    decide +kernel
  · rw [houtcome]
    decide +kernel

end Workbench

end Spellbook

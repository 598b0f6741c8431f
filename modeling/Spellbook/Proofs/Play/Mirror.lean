import Spellbook.Proofs.Play.Inputs
import Spellbook.Proofs.Workbench.Locking
set_option autoImplicit false

/-!
# The screen mirrors its workbench

The screen keeps a mode, a log and a banner of its own beside the run, the history and the
outcome of the workbench.  They agree whatever the inputs are (`Turns.mirrors`), also between
the last step of a run and the tick that finds it over, when the program can be edited and
another run begun.  So no tick fails, and while the screen shows no run, no key is refused for
one (`after_mirrors`).
-/

namespace Spellbook

namespace Workbench

variable {w : Workbench} {r : Run}

theorem lastOutcome_of_isOver (hrun : w.run? = some r) (hover : r.isOver = true) :
    w.lastOutcome = some r.outcome := by
  have hfinal : r.outcome.isFinal = true := hover
  simp [lastOutcome, hrun, hfinal]

theorem lastOutcome_of_isRunning (h : w.isRunning = true) : w.lastOutcome = none := by
  obtain ⟨r, hrun, hover⟩ := isRunning_eq_true_iff.1 h
  have hfinal : r.outcome.isFinal = false := hover
  simp [lastOutcome, hrun, hfinal]

end Workbench

/-- A fault for which a run is the reason. -/
def Fault.TellsOfRun (f : Fault) : Prop :=
  f.code = programLocked.code ∨ f.code = runInProgress.code

namespace SavedProgram

/-- Where a program cannot be saved, its file is the reason, and no run. -/
theorem code_of_save {p : SavedProgram} {path : String} {files : FileSystem} {fault : Fault}
    (h : (p.save path files).1 = .error fault) :
    ¬ fault.TellsOfRun := by
  unfold save at h
  split at h
  · cases h
  · cases h
    simp [Fault.TellsOfRun, Fault.code]

/-- Where a program cannot be loaded, its file is the reason, and no run. -/
theorem code_of_loadFor {level path : String} {files : FileSystem} {fault : Fault}
    (h : loadFor level path files = .error fault) :
    ¬ fault.TellsOfRun := by
  unfold loadFor at h
  split at h
  · rename_i fault' hload
    cases h
    unfold load at hload
    split at hload
    · cases hload
      simp [Fault.TellsOfRun, Fault.code]
    · split at hload
      · cases hload
        simp [Fault.TellsOfRun, Fault.code]
      · split at hload
        · cases hload
          simp [Fault.TellsOfRun, Fault.code]
        · split at hload
          · cases hload
          · cases hload
            simp [Fault.TellsOfRun, Fault.code]
  · split at h
    · cases h
    · cases h
      simp [Fault.TellsOfRun, Fault.code]

end SavedProgram

namespace Play.Screen

variable {s s' : Screen} {i : Input} {fault : Fault}

/-- What the screen shows is what its workbench has. -/
structure Mirrors (s : Screen) : Prop where
  log_eq : s.log = s.workbench.history.map (fun e => (e.severity, e.description))
  banner_eq : ∀ shown ∈ s.banner, ∃ o, s.workbench.lastOutcome = some o ∧
    shown = (o.isSuccess, o.description)
  running_of_isRunning : s.workbench.isRunning = true → s.running = true
  exists_run : s.running = true → ∃ r, s.workbench.run? = some r

/-- No outcome is shown while a run is going on. -/
theorem Mirrors.banner_of_isRunning (h : s.Mirrors) (hrunning : s.workbench.isRunning = true) :
    s.banner = none := by
  cases hbanner : s.banner with
  | none => rfl
  | some shown =>
    obtain ⟨o, houtcome, -⟩ := h.banner_eq shown hbanner
    rw [Workbench.lastOutcome_of_isRunning hrunning] at houtcome
    cases houtcome

theorem Mirrors.of_progress (h : s.Mirrors) (hkeeps : s'.progress = s.progress) :
    s'.Mirrors := by
  obtain ⟨hrun, hhistory, hlog, hrunning, -, hbanner⟩ := Progress.mk.inj hkeeps
  have hisRunning : s'.workbench.isRunning = s.workbench.isRunning := by
    rw [Workbench.isRunning, hrun, Workbench.isRunning]
  have houtcome : s'.workbench.lastOutcome = s.workbench.lastOutcome := by
    rw [Workbench.lastOutcome, hrun, Workbench.lastOutcome]
  constructor
  · rw [hlog, hhistory]
    exact h.log_eq
  · rw [hbanner, houtcome]
    exact h.banner_eq
  · rw [hisRunning, hrunning]
    exact h.running_of_isRunning
  · rw [hrun, hrunning]
    exact h.exists_run

/-- Where the run is over and its outcome is shown, there is nothing else to show. -/
theorem mirrors_of_isOver {r : Run} (hrun : s.workbench.run? = some r) (hover : r.isOver = true)
    (hlog : s.log = s.workbench.history.map (fun e => (e.severity, e.description)))
    (hbanner : s.banner = some (r.outcome.isSuccess, r.outcome.description)) : s.Mirrors := by
  constructor
  · exact hlog
  · rw [hbanner]
    rintro shown ⟨⟩
    exact ⟨_, Workbench.lastOutcome_of_isOver hrun hover, rfl⟩
  · intro hgoing
    obtain ⟨r', hrun', hover'⟩ := Workbench.isRunning_eq_true_iff.1 hgoing
    rw [hrun] at hrun'
    cases hrun'
    rw [hover] at hover'
    cases hover'
  · exact fun _ => ⟨r, hrun⟩

/-- To stop a run tells that it was stopped; where none is going on, what was told stays. -/
theorem Mirrors.stop (h : s.Mirrors) : s.stop.Mirrors := by
  cases hrunning : s.workbench.isRunning with
  | true =>
    obtain ⟨r, hrun, hover⟩ := Workbench.isRunning_eq_true_iff.1 hrunning
    have hstopped : r.cancel.outcome = Run.stopped := Run.outcome_cancel hover
    rw [Screen.stop, Workbench.abandon_of_isRunning hrun hover, hstopped]
    refine mirrors_of_isOver (r := r.cancel) rfl (Run.isOver_cancel r) h.log_eq ?_
    rw [hstopped]
    rfl
  | false =>
    rw [Screen.stop, Workbench.abandon_of_not_isRunning hrunning]
    constructor
    · exact h.log_eq
    · exact h.banner_eq
    · intro hgoing
      exact absurd hgoing (by simp [hrunning])
    · nofun

/-- Where the mode ends, its run is stopped like that, but nothing is told of it. -/
theorem Mirrors.leave (h : s.Mirrors) : s.leave.Mirrors := by
  cases hrunning : s.workbench.isRunning with
  | true =>
    have hended := s.workbench.isRunning_abandon
    obtain ⟨r, hrun, hover⟩ := Workbench.isRunning_eq_true_iff.1 hrunning
    rw [Workbench.abandon_of_isRunning hrun hover] at hended
    rw [Screen.leave, Workbench.abandon_of_isRunning hrun hover]
    constructor
    · exact h.log_eq
    · rw [h.banner_of_isRunning hrunning]
      nofun
    · exact fun hgoing => absurd (hended.symm.trans hgoing) Bool.false_ne_true
    · exact fun _ => ⟨r.cancel, rfl⟩
  | false =>
    rw [Screen.leave, Workbench.abandon_of_not_isRunning hrunning]
    exact h

/-- Every input keeps the screen and its workbench alike. -/
theorem Turns.mirrors (h : s.Turns i s') (hs : s.Mirrors) : s'.Mirrors := by
  cases h with
  | kept hfault hkeeps htells hquiet => exact hs.of_progress hkeeps
  | refused hfault => exact hs.of_progress rfl
  | begun hidle => exact ⟨rfl, nofun, fun _ => rfl, fun _ => ⟨_, rfl⟩⟩
  | stopped => exact hs.stop
  | reset => exact ⟨rfl, nofun, nofun, nofun⟩
  | @stepped r r' e scene hrunning hrun hstep =>
    obtain ⟨line, round, hmade⟩ := Run.made_of_step_eq hstep
    have hgoing := Workbench.isRunning_eq_true_iff.2 ⟨r, hrun, hmade.isOver_eq⟩
    constructor
    · dsimp only
      rw [hs.log_eq, List.map_append, List.map_singleton]
    · -- A run that can take a step is not over, so there is no banner yet.
      rw [hs.banner_of_isRunning hgoing]
      nofun
    · exact fun _ => hrunning
    · exact fun _ => ⟨r', rfl⟩
  | @finished r r' o hrunning hrun hstep =>
    obtain ⟨-, rfl, -, hfinal⟩ := Run.of_step_eq_finished hstep
    exact mirrors_of_isOver (r := { r with outcome := o }) rfl hfinal hs.log_eq rfl
  | lost hrunning hnone =>
    obtain ⟨r, hrun⟩ := hs.exists_run hrunning
    rw [hnone] at hrun
    cases hrun

theorem Mirrors.after (h : s.Mirrors) (inputs : List Input) : (s.after inputs).Mirrors := by
  induction inputs generalizing s with
  | nil => exact h
  | cons i rest ih => exact ih ((s.turns_take i).mirrors h)

theorem mirrors_start {setup : Setup} {w : Workbench} (h : Workbench.create setup = .ok w)
    (files : FileSystem) (path : String) : (start w files path).Mirrors := by
  obtain ⟨-, rfl⟩ := Workbench.create_eq_ok_iff.1 h
  exact ⟨rfl, nofun, nofun, nofun⟩

/-! ## What is refused -/

theorem code_of_fileFault (h : s.fileFault? i = some fault) :
    ¬ fault.TellsOfRun := by
  unfold fileFault? at h
  split at h
  · split at h
    · cases h
    · rename_i hsave
      cases h
      exact SavedProgram.code_of_save hsave
  · split at h
    · cases h
    · rename_i hload
      cases h
      exact SavedProgram.code_of_loadFor hload
  · cases h

/-- While the workbench has no run going on, no input is refused for one. -/
theorem code_of_fault (hidle : s.workbench.isRunning = false) (h : s.fault? i = some fault) :
    ¬ fault.TellsOfRun := by
  rcases Option.or_eq_some_iff.1 h with hcalled | ⟨-, hfile⟩
  · obtain ⟨c, -, hrefused⟩ := Option.bind_eq_some_iff.1 hcalled
    have hfault := Workbench.fault?_eq_some_iff.1 hrefused
    rcases (Workbench.refused_of_not_isRunning hidle hfault).2 with ⟨id, rfl⟩ | rfl
    · simp [Fault.TellsOfRun, Fault.code]
    · simp [Fault.TellsOfRun, Fault.code]
  · exact code_of_fileFault hfile

/-- Whatever keys are pressed and whenever a step is due, and whatever the files are, the
screen over a new workbench shows its events, its outcome and whether its run is going on, also
when the mode has ended.  The run that is shown can be advanced.  A key that is refused shows
why, and any other does not; and while the screen shows no run, no key is refused for one. -/
theorem after_mirrors {setup : Setup} {w : Workbench} (h : Workbench.create setup = .ok w)
    (files : FileSystem) (path : String) (inputs : List Input) :
    let s := (start w files path).after inputs
    s.Mirrors ∧ s.leave.Mirrors ∧
    (s.running = true → ∃ answer w', s.workbench.advance = (.ok answer, w')) ∧
    (∀ k, s.fault? (.key k) = none → s.Tells (s.press k).status) ∧
    ∀ k fault, s.fault? (.key k) = some fault →
      (s.press k).status = fault.message ∧ (s.running = false → ¬ fault.TellsOfRun) := by
  intro s
  have hmirrors : s.Mirrors := (mirrors_start h files path).after inputs
  refine ⟨hmirrors, hmirrors.leave, ?_, fun k => (s.turns_press k).tells, ?_⟩
  · intro hrunning
    obtain ⟨r, hrun⟩ := hmirrors.exists_run hrunning
    simp [Workbench.advance, hrun]
  · intro k fault hfault
    refine ⟨(s.turns_press k).status_of_fault hfault, ?_⟩
    intro hrunning
    have hidle : s.workbench.isRunning = false := by
      rw [← Bool.not_eq_true]
      intro hgoing
      rw [hmirrors.running_of_isRunning hgoing] at hrunning
      cases hrunning
    exact code_of_fault hidle hfault

/-- In the middle of a run of one block its event is shown, the next step can be taken, and the
program is not cleared. -/
theorem after_mirrors_counting :
    Workbench.create (.ofLevel .bridge) = .ok .bridge ∧
      let s := (start .bridge (.ofFolder [] .empty) "steps.json").after
        [.key .enter, .key (.char 'r'), .tick true]
      s.log.length = 1 ∧
        s.log = s.workbench.history.map (fun e => (e.severity, e.description)) ∧
        (∃ answer w', s.workbench.advance = (.ok answer, w')) ∧
        (s.press (.char 'c')).status = "The program cannot change while it is running." := by
  refine ⟨Workbench.create_bridge, ?_⟩
  intro s
  obtain ⟨hmirrors, -, hadvances, -, hrefused⟩ := after_mirrors Workbench.create_bridge
    (.ofFolder [] .empty) "steps.json" [.key .enter, .key (.char 'r'), .tick true]
  have hlocked : s.fault? (.key (.char 'c')) = some .programLocked := by decide +kernel
  exact ⟨by decide +kernel, hmirrors.log_eq, hadvances (by decide +kernel),
    (hrefused _ _ hlocked).1⟩

end Play.Screen

end Spellbook

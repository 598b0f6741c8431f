import Spellbook.Proofs.Workbench.Locking
set_option autoImplicit false

/-!
# What a workbench keeps of its last run

The scene of a workbench is the one that the events in its history have left, and there are
as many of them as its last run has made steps (`Booked`), whatever was called on it.  So
the report of a run that is over can be read off the workbench, and it stays the same until
the run is put away or another one begins (`reachable_booked`).
-/

namespace Spellbook.Workbench

variable {w w' : Workbench} {c : Call} {report : Report}

/-- The history of a workbench belongs to its last run and has led to its scene. -/
structure Booked (w : Workbench) : Prop where
  scene_eq : w.history ≠ [] ∨ w.isRunning = true →
    w.scene = w.rules.openingScene.behind w.history
  history_eq_nil : w.run? = none → w.history = []
  length_eq : ∀ r, w.run? = some r → w.history.length = r.executed

/-! ## What a call keeps -/

/-- A workbench without a run stands at its opening scene. -/
theorem booked_of_none (hrun : w.run? = none) (hhistory : w.history = [])
    (hscene : w.scene = w.rules.openingScene) : w.Booked where
  scene_eq _ := by
    rw [hhistory, hscene]
    rfl
  history_eq_nil _ := hhistory
  length_eq r hrun' := by
    rw [hrun] at hrun'
    cases hrun'

theorem booked_started (w : Workbench) : w.started.Booked where
  scene_eq hgoing := by
    rcases hgoing with hne | hrunning
    · exact absurd rfl hne
    · obtain ⟨r, hrun, hover⟩ := isRunning_eq_true_iff.1 hrunning
      cases hrun
      simp [started, hover, rules]
  history_eq_nil hnone := by cases hnone
  length_eq r hrun := by
    cases hrun
    exact (Run.executed_start w.program.placed).symm

theorem booked_played (w : Workbench) (i : Interruption) :
    (w.played (w.rules.play w.program.placed i w.scene)).Booked where
  scene_eq hgoing := by
    cases hover : (Run.start w.program.placed).isOver with
    | false => exact Rules.scene_play hover w.rules i w.scene
    | true =>
      -- A refused program has no events, and its run is over.
      rw [Rules.play_of_isOver hover] at hgoing
      rcases hgoing with hne | hrunning
      · exact absurd rfl hne
      · simp [isRunning, played, hover] at hrunning
  history_eq_nil hnone := by cases hnone
  length_eq r hrun := by
    cases hrun
    exact (Rules.executed_play w.rules w.program.placed i w.scene).symm

/-- A run that ends without another step leaves the history as it was. -/
theorem booked_of_isOver {r r' : Run} (hw : w.Booked) (hrun : w.run? = some r)
    (hover : r'.isOver = true) (hexecuted : r'.executed = r.executed) :
    Booked { w with run? := some r' } where
  scene_eq hgoing := by
    rcases hgoing with hne | hrunning
    · exact hw.scene_eq (.inl hne)
    · simp [isRunning, hover] at hrunning
  history_eq_nil hnone := by cases hnone
  length_eq r'' hrun' := by
    cases hrun'
    rw [hexecuted]
    exact hw.length_eq r hrun

theorem Served.booked (h : w.Served c w') (hw : w.Booked) : w'.Booked := by
  cases h with
  | kept => exact hw
  | edited hidle hoffered => exact ⟨hw.scene_eq, hw.history_eq_nil, hw.length_eq⟩
  | restored hrenews hoffered => exact booked_of_none rfl rfl rfl
  | redrawn hidle => exact booked_of_none rfl rfl rfl
  | begun hidle => exact booked_started w
  | ended hidle => exact booked_played w _
  | stepped hrun hstep =>
    obtain ⟨line, round, hmade⟩ := Run.made_of_step_eq hstep
    constructor
    · intro _
      rw [← hmade.scene_event]
      simp [Scene.behind]
    · intro hnone
      cases hnone
    · intro r' hrun'
      cases hrun'
      rw [hmade.executed_eq, ← hw.length_eq _ hrun, List.length_append, List.length_singleton]
  | found hrun hstep =>
    obtain ⟨-, rfl, -, hfinal⟩ := Run.of_step_eq_finished hstep
    exact booked_of_isOver hw hrun hfinal rfl
  | stopped hrun =>
    exact booked_of_isOver hw hrun (Run.isOver_cancel _) (Run.executed_cancel _)

theorem Reachable.booked (h : w.Reachable) : w.Booked := by
  induction h with
  | create hcreate =>
    obtain ⟨-, rfl⟩ := create_eq_ok_iff.1 hcreate
    exact booked_of_none rfl rfl rfl
  | call h c ih => exact (served_call _ c).booked ih

/-! ## The report of the last run -/

theorem report_eq_some_iff :
    w.report = some report ↔ ∃ r, w.run? = some r ∧ r.isOver = true ∧
      report = ⟨w.level, r.outcome, w.history, w.scene⟩ := by
  unfold Workbench.report lastOutcome
  cases hrun : w.run? with
  | none => simp
  | some r =>
    cases hover : r.isOver with
    | true =>
      have hfinal : r.outcome.isFinal = true := hover
      constructor
      · intro h
        simp only [Option.map_some, Option.filter_some, hfinal, if_true] at h
        exact ⟨r, rfl, hover, (Option.some.inj h).symm⟩
      · rintro ⟨r', hrun', -, rfl⟩
        cases hrun'
        simp [hfinal]
    | false =>
      have hfinal : r.outcome.isFinal = false := hover
      simp [hfinal, hover]

theorem Served.report_eq (h : w.Served c w') (hkeeps : c.renews = false)
    (hreport : w.report = some report) : w'.report = some report := by
  obtain ⟨r, hrun, hover, hread⟩ := report_eq_some_iff.1 hreport
  cases h with
  | kept => exact hreport
  | edited hidle hoffered => exact hreport
  | restored hrenews hoffered =>
    rw [hkeeps] at hrenews
    cases hrenews
  | redrawn hidle => cases hkeeps
  | begun hidle => cases hkeeps
  | ended hidle => cases hkeeps
  | stepped hrun' hstep =>
    obtain rfl : r = _ := Option.some.inj (hrun.symm.trans hrun')
    rw [Run.step_of_isOver hover] at hstep
    cases hstep
  | found hrun' hstep =>
    obtain rfl : r = _ := Option.some.inj (hrun.symm.trans hrun')
    rw [Run.step_of_isOver hover] at hstep
    cases hstep
    exact report_eq_some_iff.2 ⟨r, rfl, hover, hread⟩
  | stopped hrun' =>
    obtain rfl : r = _ := Option.some.inj (hrun.symm.trans hrun')
    rw [Run.cancel_of_isOver hover]
    exact report_eq_some_iff.2 ⟨r, rfl, hover, hread⟩

theorem report_after {later : List Call} (hreport : w.report = some report)
    (hkeeps : ∀ c ∈ later, c.renews = false) : (w.after later).report = some report := by
  induction later generalizing w with
  | nil => exact hreport
  | cons c rest ih =>
    rw [after_cons]
    apply ih
    · exact (served_call w c).report_eq (hkeeps c List.mem_cons_self) hreport
    · intro c' hmem
      exact hkeeps c' (List.mem_cons_of_mem c hmem)

theorem report_played (w : Workbench) (i : Interruption) :
    let p := w.rules.play w.program.placed i w.scene
    (w.played p).report = some (w.reportOf p) := by
  intro p
  exact report_eq_some_iff.2 ⟨p.run, rfl, Rules.isOver_play _ _ _ _, rfl⟩

/-- However a workbench was come by, its last event has left its scene, and a run that is
going on without any event yet has the opening scene; without any run there is no history,
and else the history has one event for each step of the run.  There is a report exactly of
a run that is over, and it has the outcome, the history and the scene.  To abandon a run
changes neither history nor scene.  What a run that is played has reported, before whatever
observer and however it is stopped, stays the report until the run is put away or another
one begins. -/
theorem reachable_booked (h : w.Reachable) :
    (∀ e, w.history.getLast? = some e → w.scene = e.scene) ∧
    (w.history = [] → w.isRunning = true → w.scene = ⟨w.rules.initialWorld, .empty⟩) ∧
    (w.run? = none → w.history = []) ∧
    (∀ r, w.run? = some r → w.history.length = r.executed) ∧
    (∀ report, w.report = some report ↔ ∃ r, w.run? = some r ∧ r.isOver = true ∧
      report = ⟨w.level, r.outcome, w.history, w.scene⟩) ∧
    (w.abandon.2.history = w.history ∧ w.abandon.2.scene = w.scene) ∧
    ∀ (σ : Type) (o : Observer σ) i state report w' state',
      w.playFor o i state = (.ok report, w', state') →
      ∀ later, (∀ c ∈ later, Call.renews c = false) → (w'.after later).report = some report := by
  have hbooked := h.booked
  refine ⟨?_, ?_, hbooked.history_eq_nil, hbooked.length_eq, fun _ => report_eq_some_iff,
    ?_, ?_⟩
  · intro e hlast
    have hne : w.history ≠ [] := by
      intro hnil
      rw [hnil] at hlast
      cases hlast
    rw [hbooked.scene_eq (.inl hne)]
    simp [Scene.behind, hlast]
  · intro hnil hrunning
    rw [hbooked.scene_eq (.inr hrunning), hnil]
    rfl
  · unfold abandon
    split
    · exact ⟨rfl, rfl⟩
    · split
      · exact ⟨rfl, rfl⟩
      · exact ⟨rfl, rfl⟩
  · intro σ o i state report w' state' hplay later hkeeps
    have hidle : w.isRunning = false := by
      cases hrunning : w.isRunning with
      | false => rfl
      | true =>
        rw [playFor_of_isRunning hrunning] at hplay
        cases hplay
    rw [playFor_eq hidle] at hplay
    cases hplay
    exact report_after (report_played w i) hkeeps

/-- The bridge with a program of two steps. -/
def strolling : Workbench := bridge.after [.load ["step-forward", "step-forward"]]

/-- The two steps are told twice each and reported as a stroll that did not reach the end.
That is still the report when the program has another block, when the run has been advanced
and abandoned though it is over, and when the program is gone. -/
theorem reachable_booked_strolling :
    strolling.Reachable ∧
      let counting : Observer Nat := ⟨fun _ n => n + 1, fun _ n => n + 1⟩
      ∃ report w', strolling.playFor counting .never 0 = (.ok report, w', 4) ∧
        report.outcome.failureKind? = some .incompleteGoal ∧ report.events.length = 2 ∧
        report.final.world.position = 2 ∧
        (∀ c ∈ [.append "celebrate", .advance, .abandon, .clear], Call.renews c = false) ∧
        (w'.after [.append "celebrate", .advance, .abandon, .clear]).report = some report := by
  have hreach : strolling.Reachable := (Reachable.create create_bridge).after _
  refine ⟨hreach, ?_⟩
  intro counting
  obtain ⟨-, -, -, -, -, -, hstays⟩ := reachable_booked hreach
  have hidle : strolling.isRunning = false := by decide +kernel
  let p := strolling.rules.play strolling.program.placed .never strolling.scene
  have hplay : strolling.playFor counting .never 0 =
      (.ok (strolling.reportOf p), strolling.played p, 4) := by
    have htold : (strolling.rules.playFor counting strolling.program.placed .never
        strolling.scene 0).2 = 4 := by
      rw [Rules.playFor_never_snd]
      decide +kernel
    rw [playFor_eq hidle, htold]
  have hkeeps : ∀ c ∈ [.append "celebrate", .advance, .abandon, .clear],
      Call.renews c = false := by
    decide
  exact ⟨strolling.reportOf p, strolling.played p, hplay, by decide +kernel,
    by decide +kernel, by decide +kernel, hkeeps, hstays _ _ _ _ _ _ _ hplay _ hkeeps⟩

end Spellbook.Workbench

import Spellbook.Proofs.Run.Journey
set_option autoImplicit false

/-!
# Runs that succeed

However a run is stopped, if it has succeeded then its goal is met in the scene that it has
left (`Rules.goal_of_success`).  `Run.Trace.exists_made` has all that there is to know of one
event of a run: the run before it, its step, its block and the answer that was pending.
-/

namespace Spellbook

open Run (start Trace Made Left)

namespace Run

variable {program : List Placed} {rules : Rules} {r r' last : Run} {s s' : Scene} {e : Event}
  {events before after : List Event} {line : Line} {round : Option Nat}

/-! ## One event of a run -/

/-- The answer that a run keeps is the one that its events have left. -/
theorem Trace.answer_eq_pendingAnswer (h : Trace rules (start program) s events r s')
    (hgoing : r.isOver = false) : r.answer = pendingAnswer program events := by
  obtain ⟨calls, rfl, rfl⟩ := h.exists_calls
  exact Run.answer_eq_pendingAnswer hgoing

theorem Trace.exists_made (h : Trace rules (start program) s (before ++ e :: after) last s') :
    ∃ r r' line round, Trace rules (start program) s before r (s.behind before) ∧
      Made r rules (s.behind before) e r' e.scene line round ∧
      Trace rules r' e.scene after last s' ∧
      program[e.index]? = some line.placed ∧ r.answer = pendingAnswer program before := by
  obtain ⟨r, s₁, r', hbefore, hstep, hafter⟩ := h.step_of_eq_append
  obtain ⟨line, round, hmade⟩ := made_of_step_eq hstep
  obtain rfl := hbefore.scene_eq
  exact ⟨r, r', line, round, hbefore, hmade, hafter, hmade.getElem?_index hbefore.wellFormed,
    hbefore.answer_eq_pendingAnswer hmade.isOver_eq⟩

/-- A run has not begun, or it has come to where it stands by its last step. -/
theorem Trace.eq_start_or_made (h : Trace rules (start program) s events last s') :
    last = start program ∨ ∃ before r e line round,
      Trace rules (start program) s before r (s.behind before) ∧
        Made r rules (s.behind before) e last s' line round := by
  obtain rfl | ⟨before, e, rfl⟩ := List.eq_nil_or_concat events
  · cases h
    exact .inl rfl
  · rw [List.concat_eq_append] at h
    obtain ⟨r, r', line, round, hbefore, hmade, hafter, -⟩ := h.exists_made
    cases hafter
    exact .inr ⟨before, r, e, line, round, hbefore, hmade⟩

/-! ## The end of a run -/

theorem isSuccess_start (program : List Placed) :
    (start program).outcome.isSuccess = false := by
  unfold start
  split
  · rfl
  · split <;> rfl

theorem Made.goal_of_success (h : Made r rules s e r' s' line round)
    (hwon : r'.outcome.isSuccess = true) : ∃ message, rules.goal s' = .met message := by
  have hsettles := h.settles
  rw [h.scene_eq]
  generalize r'.cursor = c' at *
  generalize r'.outcome = o at *
  cases hsettles with
  | failed heffect => cases hwon
  | halted hgood hnext => cases hwon
  | won hgood hnext heager hmet => exact ⟨_, hmet⟩
  | onward hgood hnext hgoal => cases hwon

theorem Trace.goal_of_success (h : Trace rules (start program) s events last s')
    (hwon : last.outcome.isSuccess = true) : ∃ message, rules.goal s' = .met message := by
  obtain rfl | ⟨before, r, e, line, round, -, hmade⟩ := h.eq_start_or_made
  · rw [isSuccess_start] at hwon
    cases hwon
  · exact hmade.goal_of_success hwon

theorem Left.goal_of_success (h : Left rules last s r')
    (htrace : Trace rules (start program) s' events last s)
    (hwon : r'.outcome.isSuccess = true) : ∃ message, rules.goal s = .met message := by
  cases hover : last.isOver with
  | true =>
    rw [h.eq_of_isOver hover] at hwon
    exact htrace.goal_of_success hwon
  | false =>
    obtain hstopped | ⟨-, houtcome⟩ := h.of_not_isOver hover
    · cases ho : r'.outcome <;> rw [ho] at hwon hstopped
      · cases hstopped
      · cases hwon
      · cases hwon
    · rw [houtcome] at hwon
      cases hgoal : rules.goal s with
      | met message => exact ⟨message, rfl⟩
      | unmet reason =>
        rw [hgoal] at hwon
        cases hwon

end Run

namespace Rules

/-- However a run is stopped, it is a trace from the opening scene up to where it is left. -/
theorem exists_trace_left {program : List Placed} (hover : (start program).isOver = false)
    (rules : Rules) (i : Interruption) (s : Scene) :
    let p := rules.play program i s
    ∃ last, Trace rules (start program) rules.openingScene p.events last p.scene ∧
      Left rules last p.scene p.run := by
  rw [play_of_not_isOver hover]
  exact Run.exists_trace_drive_left rules i 0 0 (start program) rules.openingScene

/-- A run that has succeeded was accepted, and it has left a scene that meets the goal. -/
theorem goal_of_success {rules : Rules} {program : List Placed} {i : Interruption} {s : Scene}
    (hwon : (rules.play program i s).run.outcome.isSuccess = true) :
    (start program).isOver = false ∧
      ∃ message, rules.goal (rules.play program i s).scene = .met message := by
  cases hover : (start program).isOver with
  | true =>
    rw [play_of_isOver hover, Run.isSuccess_start] at hwon
    cases hwon
  | false =>
    obtain ⟨last, htrace, hleft⟩ := exists_trace_left hover rules i s
    exact ⟨rfl, hleft.goal_of_success htrace hwon⟩

/-- A run with an event in it was accepted. -/
theorem isOver_start_of_events {rules : Rules} {program : List Placed} {i : Interruption}
    {s : Scene} {before after : List Event} {e : Event}
    (hevents : (rules.play program i s).events = before ++ e :: after) :
    (start program).isOver = false := by
  cases hover : (start program).isOver with
  | false => rfl
  | true =>
    rw [play_of_isOver hover] at hevents
    exact absurd hevents (by simp)

/-- In a run that has succeeded no step failed. -/
theorem severity_of_success {rules : Rules} {program : List Placed} {i : Interruption}
    {s : Scene} (hwon : (rules.play program i s).run.outcome.isSuccess = true) :
    ∀ e ∈ (rules.play program i s).events, e.severity ≠ .failure := by
  intro e hmem hfailed
  obtain ⟨before, after, hevents⟩ := List.append_of_mem hmem
  obtain ⟨last, htrace, hleft⟩ :=
    exists_trace_left (isOver_start_of_events hevents) rules i s
  rw [hevents] at htrace
  obtain ⟨-, kind, houtcome⟩ := htrace.failed_last hfailed
  rw [hleft.outcome_of_failure houtcome] at hwon
  cases hwon

end Rules

end Spellbook

import Spellbook.Proofs.Run.Eager
import Spellbook.Proofs.Run.Start
set_option autoImplicit false

/-!
# Traces

A `Run.Trace` is a part of a run step by step: the events between two states of it.  A
run to its end is such a trace up to a call that finds it over (`exists_trace_finish`),
and a trace can be cut at each of its events (`Trace.split`), where the scene is that of
the event.  `Cursor.Ends` says by an event alone whether it was the last.
-/

namespace Spellbook

/-- The scene that events leave which begin in this one. -/
def Scene.behind (s : Scene) (events : List Event) : Scene :=
  (events.getLast?.map Event.scene).getD s

@[simp] theorem Scene.behind_nil (s : Scene) : s.behind [] = s := rfl

@[simp] theorem Scene.behind_cons (s : Scene) (e : Event) (rest : List Event) :
    s.behind (e :: rest) = e.scene.behind rest := by
  cases hlast : rest.getLast? <;> simp [behind, List.getLast?_cons, hlast]

theorem Scene.behind_append_cons (s : Scene) (before : List Event) (e : Event)
    (after : List Event) : s.behind (before ++ e :: after) = e.scene.behind after := by
  cases hlast : after.getLast? <;>
    simp [behind, List.getLast?_append, List.getLast?_cons, hlast]

/-- The event with which a run at this cursor ends: its step failed, a loop stops the run
right after it, or it meets the goal of a level that does not wait. -/
def Cursor.Ends (c : Cursor) (rules : Rules) (e : Event) : Prop :=
  e.severity = .failure ∨ (∃ fault, c.StoppedBy e.scene.vars fault) ∨
    (rules.eager = true ∧ ∃ message, rules.goal e.scene = .met message)

/-- What is seen of a run that has had these events before, each of them announced. -/
def Playback.precededBy (p : Playback) (events : List Event) : Playback :=
  { p with notices := events.map Event.notice ++ p.notices, events := events ++ p.events }

namespace Run

/-- Steps from one run in its scene to another, with their events. -/
inductive Trace (rules : Rules) : Run → Scene → List Event → Run → Scene → Prop
  | nil (r : Run) (s : Scene) : Trace rules r s [] r s
  | cons {r r' r'' : Run} {s s' s'' : Scene} {e : Event} {events : List Event}
      (hstep : r.step rules s = (.step e, r', s'))
      (hrest : Trace rules r' s' events r'' s'') : Trace rules r s (e :: events) r'' s''

variable {rules : Rules} {r r' : Run} {s s' : Scene} {e : Event} {events : List Event}

/-! ## One step -/

theorem Made.scene_event {line : Line} {round : Option Nat}
    (h : Made r rules s e r' s' line round) : e.scene = s' := by
  rw [h.event_eq, h.scene_eq]
  rfl

theorem Made.severity_eq {line : Line} {round : Option Nat}
    (h : Made r rules s e r' s' line round) :
    e.severity = (r.performed line rules s).effect.severity := by
  rw [h.event_eq]
  rfl

theorem Made.outcome_of_failure {line : Line} {round : Option Nat}
    (h : Made r rules s e r' s' line round) (hfailed : e.severity = .failure) :
    ∃ kind, r'.outcome = .failure kind e.message := by
  have hsettles := h.settles
  have hgood : (r.performed line rules s).effect.outcome ≠ .running := by
    rw [h.severity_eq] at hfailed
    exact fun hrunning => Effect.outcome_eq_running_iff.1 hrunning hfailed
  have hmessage : e.message = (r.performed line rules s).effect.message := by
    rw [h.event_eq]
    rfl
  generalize r'.cursor = c' at *
  generalize r'.outcome = o at *
  cases hsettles with
  | @failed kind reason heffect =>
    rw [heffect] at hmessage
    rw [hmessage]
    exact ⟨kind, rfl⟩
  | halted hrunning hnext => exact absurd hrunning hgood
  | won hrunning hnext heager hmet => exact absurd hrunning hgood
  | onward hrunning hnext hgoal => exact absurd hrunning hgood

theorem Made.next_eq_ok {line : Line} {round : Option Nat}
    (h : Made r rules s e r' s' line round) (hrunning : r'.outcome = .running) :
    r.cursor.next s'.vars = .ok r'.cursor := by
  have hsettles := h.settles
  rw [hrunning] at hsettles
  rw [h.scene_eq]
  generalize r'.cursor = c' at *
  cases hsettles with
  | onward hgood hnext hgoal => exact hnext

theorem Made.isOver_iff {line : Line} {round : Option Nat}
    (h : Made r rules s e r' s' line round) :
    r'.isOver = true ↔ r.cursor.Ends rules e := by
  have hseverity := h.severity_eq
  have hscene : (r.performed line rules s).scene = e.scene := by
    rw [h.scene_event, h.scene_eq]
  have hsettles := h.settles
  simp only [isOver, Cursor.Ends]
  generalize r.performed line rules s = done at *
  generalize r'.cursor = c' at *
  generalize r'.outcome = o at *
  rw [← hscene]
  cases hsettles with
  | failed heffect =>
    rw [heffect] at hseverity
    exact ⟨fun _ => .inl hseverity, fun _ => rfl⟩
  | halted hgood hnext =>
    exact ⟨fun _ => .inr (.inl ⟨_, Cursor.next_eq_error_iff.1 hnext⟩), fun _ => rfl⟩
  | won hgood hnext heager hmet =>
    exact ⟨fun _ => .inr (.inr ⟨heager, _, hmet⟩), fun _ => rfl⟩
  | onward hgood hnext hgoal =>
    constructor
    · intro hover
      cases hover
    · rintro (hfailed | ⟨fault, hstopped⟩ | ⟨heager, message, hmet⟩)
      · rw [hseverity] at hfailed
        exact absurd hfailed (Effect.outcome_eq_running_iff.1 hgood)
      · rw [Cursor.next_eq_error_iff.2 hstopped] at hnext
        cases hnext
      · exact absurd hmet (hgoal heager message)

/-! ## Cutting and joining -/

theorem Trace.scene_eq (h : Trace rules r s events r' s') : s' = s.behind events := by
  induction h with
  | nil r s => rfl
  | cons hstep hrest ih =>
    obtain ⟨line, round, hmade⟩ := made_of_step_eq hstep
    rw [ih, Scene.behind_cons, hmade.scene_event]

theorem Trace.split {before after : List Event}
    (h : Trace rules r s (before ++ after) r' s') :
    ∃ middle scene, Trace rules r s before middle scene ∧
      Trace rules middle scene after r' s' := by
  induction before generalizing r s with
  | nil => exact ⟨r, s, .nil r s, h⟩
  | cons e rest ih =>
    rw [List.cons_append] at h
    cases h with
    | cons hstep hrest =>
      obtain ⟨middle, scene, hbefore, hafter⟩ := ih hrest
      exact ⟨middle, scene, .cons hstep hbefore, hafter⟩

theorem Trace.append {later : List Event} {r'' : Run} {s'' : Scene}
    (h : Trace rules r s events r' s') (hlater : Trace rules r' s' later r'' s'') :
    Trace rules r s (events ++ later) r'' s'' := by
  induction h with
  | nil r s => exact hlater
  | cons hstep hrest ih => exact .cons hstep (ih hlater)

/-- Each event of a trace is that of a step which the events before it lead to. -/
theorem Trace.step_of_eq_append {before after : List Event}
    (h : Trace rules r s (before ++ e :: after) r' s') :
    ∃ r₁ s₁ r₂, Trace rules r s before r₁ s₁ ∧ r₁.step rules s₁ = (.step e, r₂, e.scene) ∧
      Trace rules r₂ e.scene after r' s' := by
  obtain ⟨r₁, s₁, hbefore, hlater⟩ := h.split
  cases hlater with
  | cons hstep hrest =>
    obtain ⟨line, round, hmade⟩ := made_of_step_eq hstep
    obtain rfl := hmade.scene_event
    exact ⟨r₁, s₁, _, hbefore, hstep, hrest⟩

theorem Trace.step_of_lt (h : Trace rules r s events r' s') {k : Nat}
    (hk : k < events.length) :
    ∃ r₁ s₁ r₂, Trace rules r s (events.take k) r₁ s₁ ∧
      r₁.step rules s₁ = (.step events[k], r₂, events[k].scene) ∧
      Trace rules r₂ events[k].scene (events.drop (k + 1)) r' s' := by
  have hcut : events.take k ++ events[k] :: events.drop (k + 1) = events := by
    rw [← List.drop_eq_getElem_cons hk, List.take_append_drop]
  rw [← hcut] at h
  exact h.step_of_eq_append

/-- From a run that is over no step leads on. -/
theorem Trace.of_isOver (hover : r.isOver = true) (h : Trace rules r s events r' s') :
    events = [] ∧ r' = r ∧ s' = s := by
  cases h with
  | nil => exact ⟨rfl, rfl, rfl⟩
  | cons hstep hrest =>
    rw [step_of_isOver hover] at hstep
    cases hstep

/-- A run that goes on behind a trace has gone on before it. -/
theorem Trace.isOver_eq_false (h : Trace rules r s events r' s') (hgoing : r'.isOver = false) :
    r.isOver = false := by
  cases hover : r.isOver with
  | false => rfl
  | true =>
    obtain ⟨-, rfl, -⟩ := h.of_isOver hover
    rw [hover] at hgoing
    cases hgoing

/-- A failed step is the last of its trace, and the run ends with its message. -/
theorem Trace.failed_last {before after : List Event}
    (h : Trace rules r s (before ++ e :: after) r' s') (hfailed : e.severity = .failure) :
    after = [] ∧ ∃ kind, r'.outcome = .failure kind e.message := by
  obtain ⟨r₁, s₁, r₂, -, hstep, hafter⟩ := h.step_of_eq_append
  obtain ⟨line, round, hmade⟩ := made_of_step_eq hstep
  have hover : r₂.isOver = true := hmade.isOver_iff.2 (.inl hfailed)
  obtain ⟨hnil, rfl, -⟩ := hafter.of_isOver hover
  exact ⟨hnil, hmade.outcome_of_failure hfailed⟩

/-- On a level that does not wait, a step into a scene that meets the goal is the last of
its trace. -/
theorem Trace.met_last {before after : List Event} {message : String}
    (h : Trace rules r s (before ++ e :: after) r' s') (heager : rules.eager = true)
    (hmet : rules.goal e.scene = .met message) : after = [] := by
  obtain ⟨r₁, s₁, r₂, -, hstep, hafter⟩ := h.step_of_eq_append
  obtain ⟨line, round, hmade⟩ := made_of_step_eq hstep
  have hover : r₂.isOver = true := hmade.isOver_iff.2 (.inr (.inr ⟨heager, message, hmet⟩))
  exact (hafter.of_isOver hover).1

/-- The calls that make the steps of a trace. -/
theorem Trace.exists_calls (h : Trace rules r s events r' s') :
    ∃ calls, r.after calls = r' ∧ r.events calls = events := by
  induction h with
  | nil r s => exact ⟨[], rfl, rfl⟩
  | @cons r r₁ r' s s₁ s' e events hstep hrest ih =>
    obtain ⟨calls, rfl, rfl⟩ := ih
    have hcall : r.call (.step rules s) = r₁ := by
      rw [call, hstep]
    refine ⟨.step rules s :: calls, ?_, events_cons_of_step hstep calls⟩
    rw [after_cons, hcall]

/-- A run counts its steps. -/
theorem Trace.executed_eq (h : Trace rules r s events r' s') :
    r'.executed = r.executed + events.length := by
  induction h with
  | nil r s => rfl
  | cons hstep hrest ih =>
    obtain ⟨line, round, hmade⟩ := made_of_step_eq hstep
    rw [ih, hmade.executed_eq, List.length_cons]
    omega

theorem Trace.wellFormed {program : List Placed}
    (h : Trace rules (start program) s events r' s') : r'.cursor.WellFormed program := by
  obtain ⟨calls, rfl, -⟩ := h.exists_calls
  exact wellFormed_after program calls

/-! ## Runs to their end -/

/-- A run to its end is a trace up to a call that finds it over. -/
theorem exists_trace_finish (rules : Rules) (r : Run) (s : Scene) :
    ∃ last, Trace rules r s (r.finish rules s).events last (r.finish rules s).scene ∧
      last.step rules (r.finish rules s).scene =
        (.finished (r.finish rules s).outcome, (r.finish rules s).run,
          (r.finish rules s).scene) := by
  induction r, s using finish_induction rules with
  | hfinished r s o r' s' h =>
    rw [finish_of_finished h]
    obtain ⟨-, -, rfl, -⟩ := of_step_eq_finished h
    exact ⟨r, .nil r s', h⟩
  | hstep r s e r' s' h ih =>
    obtain ⟨last, htrace, hlast⟩ := ih
    rw [finish_of_step h]
    exact ⟨last, .cons h htrace, hlast⟩

/-- How a whole run leaves a run that it has come to: stopped from outside, or found over. -/
inductive Left (rules : Rules) (last : Run) (s : Scene) : Run → Prop
  | stopped : Left rules last s last.cancel
  | found {r' : Run} (hfound : last.step rules s = (.finished r'.outcome, r', s)) :
      Left rules last s r'

theorem Left.isOver_eq {last : Run} (h : Left rules last s r') : r'.isOver = true := by
  cases h with
  | stopped => exact isOver_cancel last
  | found hfound =>
    obtain ⟨-, -, -, hfinal⟩ := of_step_eq_finished hfound
    exact hfinal

theorem Left.executed_eq {last : Run} (h : Left rules last s r') :
    r'.executed = last.executed := by
  cases h with
  | stopped => exact executed_cancel last
  | found hfound =>
    obtain ⟨-, hrun, -, -⟩ := of_step_eq_finished hfound
    rw [hrun]

/-- A run that is over is left as it is. -/
theorem Left.eq_of_isOver {last : Run} (h : Left rules last s r') (hover : last.isOver = true) :
    r' = last := by
  cases h with
  | stopped => exact cancel_of_isOver hover
  | found hfound =>
    rw [step_of_isOver hover] at hfound
    exact (congrArg (fun answer => answer.2.1) hfound).symm

theorem Left.outcome_of_failure {last : Run} {kind : FailureKind} {reason : String}
    (h : Left rules last s r') (hfailed : last.outcome = .failure kind reason) :
    r'.outcome = .failure kind reason := by
  rw [h.eq_of_isOver (isOver_of_failure hfailed), hfailed]

/-- A run that is not over is left stopped, or behind its last block with what the goal
says. -/
theorem Left.of_not_isOver {last : Run} (h : Left rules last s r') (hgoing : last.isOver = false) :
    r'.outcome.failureKind? = some .cancelled ∨
      (last.cursor = .done ∧ r'.outcome = (rules.goal s).outcome) := by
  cases h with
  | stopped =>
    left
    rw [cancel, hgoing]
    rfl
  | found hfound =>
    obtain ⟨hend, -⟩ := of_step_eq_finished hfound
    have hdone : last.cursor = .done := hend.resolve_left (by simp [hgoing])
    rw [step_of_done hgoing hdone] at hfound
    exact .inr ⟨hdone, (congrArg (fun answer => answer.2.1.outcome) hfound).symm⟩

/-- A whole run is a trace up to where it is left, also if it is stopped. -/
theorem exists_trace_drive_left (rules : Rules) (i : Interruption) (notices events : Nat)
    (r : Run) (s : Scene) :
    let p := r.drive rules i notices events s
    ∃ last, Trace rules r s p.events last p.scene ∧ Left rules last p.scene p.run := by
  induction r, s using finish_induction rules generalizing notices events with
  | hfinished r s o r' s' h =>
    cases hstruck : i.struck notices events with
    | true => rw [drive_of_struck hstruck]; exact ⟨r, .nil r s, .stopped⟩
    | false =>
      rw [drive_of_finished hstruck h]
      obtain ⟨-, rfl, rfl, -⟩ := of_step_eq_finished h
      exact ⟨r, .nil r s', .found h⟩
  | hstep r s e r' s' h ih =>
    cases hbefore : i.struck notices events with
    | true => rw [drive_of_struck hbefore]; exact ⟨r, .nil r s, .stopped⟩
    | false =>
      cases hbetween : i.struck (notices + 1) events with
      | true =>
        rw [drive_of_struck_between hbefore (upcoming_of_step_eq h) hbetween]
        exact ⟨r, .nil r s, .stopped⟩
      | false =>
        obtain ⟨last, htrace, hleft⟩ := ih (notices + 1) (events + 1)
        rw [drive_of_step hbefore hbetween h]
        exact ⟨last, .cons h htrace, hleft⟩

/-- A whole run is a trace, also if it is stopped. -/
theorem exists_trace_drive (rules : Rules) (i : Interruption) (notices events : Nat) (r : Run)
    (s : Scene) :
    ∃ last, Trace rules r s (r.drive rules i notices events s).events last
      (r.drive rules i notices events s).scene := by
  obtain ⟨last, htrace, -⟩ := exists_trace_drive_left rules i notices events r s
  exact ⟨last, htrace⟩

/-- A whole run that is not stopped during a part of it: this part, and the rest. -/
theorem drive_of_trace {i : Interruption} {n : Nat} (h : Trace rules r s events r' s')
    (hquiet : ∀ k, n ≤ k → k < n + events.length →
      i.struck k k = false ∧ i.struck (k + 1) k = false) :
    r.drive rules i n n s =
      (r'.drive rules i (n + events.length) (n + events.length) s').precededBy events := by
  -- Each step is announced and told once, so both counts grow by one with it.
  induction h generalizing n with
  | nil r s => rfl
  | @cons r r₁ r' s s₁ s' e events hstep hrest ih =>
    obtain ⟨hbefore, hbetween⟩ := hquiet n (Nat.le_refl n)
      (Nat.lt_add_of_pos_right (Nat.succ_pos _))
    have hlength : n + 1 + events.length = n + (e :: events).length := by
      rw [List.length_cons]
      omega
    have hlater := ih (n := n + 1) (fun k hfirst hlast => hquiet k (by omega) (by omega))
    rw [drive_of_step hbefore hbetween hstep, hlater, hlength]
    rfl

end Run

namespace Rules

/-- A run that nobody stops, as a trace from its start. -/
theorem exists_trace_play {program : List Placed}
    (hover : (Run.start program).isOver = false) (rules : Rules) (s : Scene) :
    ∃ events last r' s', Run.Trace rules (Run.start program) rules.openingScene events last s' ∧
      last.step rules s' = (.finished r'.outcome, r', s') ∧
      rules.play program .never s = ⟨events.map Event.notice, events, r', s'⟩ := by
  obtain ⟨last, htrace, hlast⟩ :=
    Run.exists_trace_finish rules (Run.start program) rules.openingScene
  rw [← (Run.outcome_finish rules (Run.start program) rules.openingScene).2] at hlast
  exact ⟨_, last, _, _, htrace, hlast, play_never hover rules s⟩

/-- However a run is stopped, its last event has left the scene. -/
theorem scene_play {program : List Placed} (hover : (Run.start program).isOver = false)
    (rules : Rules) (i : Interruption) (s : Scene) :
    (rules.play program i s).scene =
      rules.openingScene.behind (rules.play program i s).events := by
  rw [play_of_not_isOver hover]
  obtain ⟨last, htrace, -⟩ :=
    Run.exists_trace_drive_left rules i 0 0 (Run.start program) rules.openingScene
  exact htrace.scene_eq

/-- However a run is stopped, it comes to an end. -/
theorem isOver_play (rules : Rules) (program : List Placed) (i : Interruption) (s : Scene) :
    (rules.play program i s).run.isOver = true := by
  cases hover : (Run.start program).isOver with
  | true =>
    rw [play_of_isOver hover]
    exact hover
  | false =>
    rw [play_of_not_isOver hover]
    obtain ⟨last, -, hleft⟩ :=
      Run.exists_trace_drive_left rules i 0 0 (Run.start program) rules.openingScene
    exact hleft.isOver_eq

/-- However a run is stopped, it has counted its events. -/
theorem executed_play (rules : Rules) (program : List Placed) (i : Interruption) (s : Scene) :
    (rules.play program i s).run.executed = (rules.play program i s).events.length := by
  cases hover : (Run.start program).isOver with
  | true =>
    rw [play_of_isOver hover]
    exact Run.executed_start program
  | false =>
    rw [play_of_not_isOver hover]
    obtain ⟨last, htrace, hleft⟩ :=
      Run.exists_trace_drive_left rules i 0 0 (Run.start program) rules.openingScene
    rw [hleft.executed_eq, htrace.executed_eq, Run.executed_start, Nat.zero_add]

end Rules

end Spellbook

import Spellbook.Run
set_option autoImplicit false

/-!
# Calls on a run

`Settles` lists all the ways in which a step leaves its run, and
`made_of_step_eq` reads them off a step, so no other proof has to open `Run.step`.
Whoever holds a run may ask for its next step under any rules and in any scene, or
cancel it; `Run.after` and `Run.replies` follow a run through such calls.
-/

namespace Spellbook

/-! ## Effects and outcomes -/

theorem Effect.outcome_eq_running_iff {f : Effect} :
    f.outcome = .running ↔ f.severity ≠ .failure := by
  cases f <;> simp [Effect.outcome, Effect.severity]

theorem Effect.outcome_of_isFinal {f : Effect} (h : f.outcome.isFinal = true) :
    ∃ kind reason, f = .fail kind reason := by
  cases f with
  | done message => cases h
  | noEffect message => cases h
  | fail kind reason => exact ⟨kind, reason, rfl⟩

@[simp] theorem LoopFault.isFinal_outcome (f : LoopFault) : f.outcome.isFinal = true := rfl

theorem Goal.of_outcome_failure {g : Goal} {kind : FailureKind} {reason : String}
    (h : g.outcome = .failure kind reason) : kind = .incompleteGoal ∧ g = .unmet reason := by
  cases g with
  | met message => cases h
  | unmet reason' =>
    cases h
    exact ⟨rfl, rfl⟩

@[simp] theorem Goal.isFinal_outcome (g : Goal) : g.outcome.isFinal = true := by
  cases g <;> rfl

theorem Cursor.line?_eq_none_iff {c : Cursor} : c.line? = none ↔ c = .done := by
  cases c with
  | item item rest => cases item <;> simp [Cursor.line?]
  | body loop round line left rest => simp [Cursor.line?]
  | close marker rounds rest => simp [Cursor.line?]
  | done => simp [Cursor.line?]

/-- A loop that is asked for round `k` and does not stop the run begins that round, or is
left behind. -/
theorem Loop.of_enter_eq_ok {l : Loop} {k : Nat} {vars : Bindings} {rest : List Plan.Item}
    {c : Cursor} (h : l.enter k vars rest = .ok c) :
    (∃ first left, l.body = first :: left ∧ k ≤ maxRounds ∧ c = .body l k first left rest) ∨
      (∃ rounds, rounds ≤ k - 1 ∧ c = l.close rounds rest) ∨ c = .ofItems rest := by
  unfold enter at h
  split at h
  · split at h
    · exact .inr (.inl ⟨0, Nat.zero_le _, (Except.ok.inj h).symm⟩)
    · rename_i hbody
      split at h
      · exact .inr (.inl ⟨_, by omega, (Except.ok.inj h).symm⟩)
      · split at h
        · cases h
        · exact .inl ⟨_, _, hbody, Nat.le_of_not_lt ‹_›, (Except.ok.inj h).symm⟩
  · split at h
    · cases h
    · split at h
      · exact .inr (.inl ⟨k - 1, Nat.le_refl _, (Except.ok.inj h).symm⟩)
      · split at h
        · cases h
        · rename_i hbody
          split at h
          · cases h
          · exact .inl ⟨_, _, hbody, Nat.le_of_not_lt ‹_›, (Except.ok.inj h).symm⟩
  · exact .inr (.inr (Except.ok.inj h).symm)

/-- The event of a call, if it has one. -/
def Advance.event? : Advance → Option Event
  | step e => some e
  | finished _ => none

theorem Outcome.failureKind?_eq_some_iff {o : Outcome} {kind : FailureKind} :
    o.failureKind? = some kind ↔ ∃ reason, o = .failure kind reason := by
  cases o <;> simp [failureKind?]

namespace Run

/-! ## What a step leaves -/

/-- How a run stands after the step `done` at the cursor `c`. -/
inductive Settles (c : Cursor) (rules : Rules) (done : Step) : Cursor → Outcome → Prop
  /-- The step failed. -/
  | failed {kind : FailureKind} {reason : String} (heffect : done.effect = .fail kind reason) :
      Settles c rules done .done (.failure kind reason)
  /-- A loop stops the run right after the step. -/
  | halted {fault : LoopFault} (hgood : done.effect.outcome = .running)
      (hnext : c.next done.scene.vars = .error fault) :
      Settles c rules done .done fault.outcome
  /-- The goal is met, and the level does not wait for the end of the program. -/
  | won {next : Cursor} {message : String} (hgood : done.effect.outcome = .running)
      (hnext : c.next done.scene.vars = .ok next) (heager : rules.eager = true)
      (hmet : rules.goal done.scene = .met message) :
      Settles c rules done .done (.success message)
  /-- The run goes on. -/
  | onward {next : Cursor} (hgood : done.effect.outcome = .running)
      (hnext : c.next done.scene.vars = .ok next)
      (hgoal : rules.eager = true → ∀ message, rules.goal done.scene ≠ .met message) :
      Settles c rules done next .running

theorem settles_settle (c : Cursor) (rules : Rules) (done : Step) :
    Settles c rules done (settle c rules done).1 (settle c rules done).2 := by
  unfold settle
  by_cases hfinal : done.effect.outcome.isFinal = true
  · obtain ⟨kind, reason, heffect⟩ := Effect.outcome_of_isFinal hfinal
    rw [if_pos hfinal, heffect]
    exact .failed heffect
  · have hgood : done.effect.outcome = .running :=
      isFinal_eq_false_iff.1 (Bool.eq_false_iff.2 hfinal)
    rw [if_neg hfinal]
    cases hnext : c.next done.scene.vars with
    | error fault => exact .halted hgood hnext
    | ok next =>
      cases heager : rules.eager with
      | false => exact .onward hgood hnext (by simp [heager])
      | true =>
        cases hgoal : rules.goal done.scene with
        | met message => exact .won hgood hnext heager hgoal
        | unmet reason => exact .onward hgood hnext (by simp [hgoal])

theorem Settles.outcome_of_fail {c c' : Cursor} {rules : Rules} {done : Step} {o : Outcome}
    {kind : FailureKind} {reason : String} (h : Settles c rules done c' o)
    (heffect : done.effect = .fail kind reason) : o = .failure kind reason := by
  have hbad : done.effect.outcome ≠ .running := by
    rw [heffect]
    exact Outcome.noConfusion
  cases h with
  | failed heffect' =>
    rw [heffect] at heffect'
    cases heffect'
    rfl
  | halted hgood hnext => exact absurd hgood hbad
  | won hgood hnext heager hmet => exact absurd hgood hbad
  | onward hgood hnext hgoal => exact absurd hgood hbad

theorem Settles.good_of_running {c c' : Cursor} {rules : Rules} {done : Step}
    (h : Settles c rules done c' .running) : done.effect.outcome = .running := by
  cases h with
  | onward hgood hnext hgoal => exact hgood

/-- A run that fails with a step has failed in it, or a loop stops it right after. -/
theorem Settles.of_failure {c c' : Cursor} {rules : Rules} {done : Step} {kind : FailureKind}
    {reason : String} (h : Settles c rules done c' (.failure kind reason)) :
    done.effect = .fail kind reason ∨ ∃ fault : LoopFault, fault.kind = kind := by
  generalize houtcome : Outcome.failure kind reason = o at h
  cases h with
  | failed heffect =>
    cases houtcome
    exact .inl heffect
  | @halted fault hgood hnext =>
    cases houtcome
    exact .inr ⟨fault, rfl⟩
  | won hgood hnext heager hmet => cases houtcome
  | onward hgood hnext hgoal => cases houtcome

/-- The step that a run makes next, if its cursor shows a line. -/
def performed (r : Run) (line : Line) (rules : Rules) (s : Scene) : Step :=
  r.cursor.perform line rules r.answer s

theorem isOver_of_failure {r : Run} {kind : FailureKind} {reason : String}
    (h : r.outcome = .failure kind reason) : r.isOver = true := by
  rw [isOver, h]
  rfl

theorem step_of_isOver {r : Run} (h : r.isOver = true) (rules : Rules) (s : Scene) :
    r.step rules s = (.finished r.outcome, r, s) := by
  simp [step, h]

theorem step_of_done {r : Run} (h : r.isOver = false) (hdone : r.cursor = .done)
    (rules : Rules) (s : Scene) :
    r.step rules s =
      (.finished (rules.goal s).outcome, { r with outcome := (rules.goal s).outcome }, s) := by
  simp [step, h, hdone, Cursor.line?]

theorem step_of_line {r : Run} (h : r.isOver = false) {line : Line} {round : Option Nat}
    (hline : r.cursor.line? = some (line, round)) (rules : Rules) (s : Scene) :
    r.step rules s =
      (.step (event line round (r.performed line rules s)),
        { r with
          cursor := (settle r.cursor rules (r.performed line rules s)).1
          answer := (r.performed line rules s).answer
          outcome := (settle r.cursor rules (r.performed line rules s)).2
          executed := r.executed + 1 },
        (r.performed line rules s).scene) := by
  simp [step, h, hline, performed]

/-- What there is to know of a step with an event. -/
structure Made (r : Run) (rules : Rules) (s : Scene) (e : Event) (r' : Run) (s' : Scene)
    (line : Line) (round : Option Nat) : Prop where
  isOver_eq : r.isOver = false
  line?_eq : r.cursor.line? = some (line, round)
  event_eq : e = event line round (r.performed line rules s)
  program_eq : r'.program = r.program
  answer_eq : r'.answer = (r.performed line rules s).answer
  executed_eq : r'.executed = r.executed + 1
  scene_eq : s' = (r.performed line rules s).scene
  settles : Settles r.cursor rules (r.performed line rules s) r'.cursor r'.outcome

theorem Made.of_failure {r r' : Run} {rules : Rules} {s s' : Scene} {e : Event} {line : Line}
    {round : Option Nat} {kind : FailureKind} {reason : String}
    (h : Made r rules s e r' s' line round) (houtcome : r'.outcome = .failure kind reason) :
    (r.performed line rules s).effect = .fail kind reason ∨
      ∃ fault : LoopFault, fault.kind = kind := by
  have hsettles := h.settles
  rw [houtcome] at hsettles
  exact hsettles.of_failure

theorem made_of_step_eq {r r' : Run} {rules : Rules} {s s' : Scene} {e : Event}
    (h : r.step rules s = (.step e, r', s')) :
    ∃ line round, Made r rules s e r' s' line round := by
  cases hover : r.isOver with
  | true => rw [step_of_isOver hover] at h; cases h
  | false =>
    cases hline : r.cursor.line? with
    | none => rw [step_of_done hover (Cursor.line?_eq_none_iff.1 hline)] at h; cases h
    | some shown =>
      obtain ⟨line, round⟩ := shown
      rw [step_of_line hover hline] at h
      cases h
      exact ⟨line, round, hover, hline, rfl, rfl, rfl, rfl, rfl, settles_settle ..⟩

/-- A call that finds the run over leaves all but the outcome. -/
theorem of_step_eq_finished {r r' : Run} {rules : Rules} {s s' : Scene} {o : Outcome}
    (h : r.step rules s = (.finished o, r', s')) :
    (r.isOver = true ∨ r.cursor = .done) ∧ r' = { r with outcome := o } ∧ s' = s ∧
      o.isFinal = true := by
  cases hover : r.isOver with
  | true =>
    rw [step_of_isOver hover] at h
    cases h
    exact ⟨.inl rfl, rfl, rfl, hover⟩
  | false =>
    cases hline : r.cursor.line? with
    | none =>
      have hdone := Cursor.line?_eq_none_iff.1 hline
      rw [step_of_done hover hdone] at h
      cases h
      exact ⟨.inr hdone, rfl, rfl, Goal.isFinal_outcome _⟩
    | some shown => rw [step_of_line hover hline] at h; cases h

theorem cancel_of_isOver {r : Run} (h : r.isOver = true) : r.cancel = r := by
  simp [cancel, h]

theorem isOver_cancel (r : Run) : r.cancel.isOver = true := by
  cases h : r.isOver with
  | true => rw [cancel_of_isOver h, h]
  | false =>
    rw [cancel, h]
    rfl

theorem executed_cancel (r : Run) : r.cancel.executed = r.executed := by
  unfold cancel
  split <;> rfl

/-! ## One call after another -/

/-- A call on a run: for its next step under these rules in this scene, or to stop it. -/
inductive Call where
  | step (rules : Rules) (scene : Scene)
  | cancel

/-- The run after a call. -/
def call (r : Run) : Call → Run
  | .step rules s => (r.step rules s).2.1
  | .cancel => r.cancel

/-- What a call answers.  Stopping a run answers nothing. -/
def reply? (r : Run) : Call → Option Advance
  | .step rules s => some (r.step rules s).1
  | .cancel => none

/-- The run after some calls. -/
def after (r : Run) (calls : List Call) : Run := calls.foldl call r

/-- What some calls answer, in their order. -/
def replies : Run → List Call → List Advance
  | _, [] => []
  | r, c :: rest => (r.reply? c).toList ++ replies (r.call c) rest

@[simp] theorem after_nil (r : Run) : r.after [] = r := rfl

@[simp] theorem after_cons (r : Run) (c : Call) (rest : List Call) :
    r.after (c :: rest) = (r.call c).after rest := rfl

@[simp] theorem replies_nil (r : Run) : r.replies [] = [] := rfl

@[simp] theorem replies_cons (r : Run) (c : Call) (rest : List Call) :
    r.replies (c :: rest) = (r.reply? c).toList ++ (r.call c).replies rest := rfl

/-- The events of some calls, in their order. -/
def events (r : Run) (calls : List Call) : List Event :=
  (r.replies calls).filterMap Advance.event?

@[simp] theorem events_nil (r : Run) : r.events [] = [] := rfl

theorem after_append (r : Run) (calls later : List Call) :
    r.after (calls ++ later) = (r.after calls).after later :=
  List.foldl_append

theorem events_append (r : Run) (calls later : List Call) :
    r.events (calls ++ later) = r.events calls ++ (r.after calls).events later := by
  induction calls generalizing r with
  | nil => rfl
  | cons c rest ih =>
    have hrest := ih (r.call c)
    simp only [events] at hrest
    simp only [events, List.cons_append, replies_cons, after_cons, List.filterMap_append, hrest,
      List.append_assoc]

/-- What every call keeps holds after any number of them. -/
theorem after_induction {P : Run → Prop} (hcall : ∀ r c, P r → P (r.call c)) {r : Run}
    (h : P r) (calls : List Call) : P (r.after calls) := by
  induction calls generalizing r with
  | nil => exact h
  | cons c rest ih => exact ih (hcall r c h)

/-! ## A run that is over -/

theorem call_of_isOver {r : Run} (h : r.isOver = true) (c : Call) : r.call c = r := by
  cases c with
  | step rules s => rw [call, step_of_isOver h]
  | cancel => exact cancel_of_isOver h

theorem after_of_isOver {r : Run} (h : r.isOver = true) (calls : List Call) :
    r.after calls = r := by
  induction calls with
  | nil => rfl
  | cons c rest ih => rw [after_cons, call_of_isOver h, ih]

theorem replies_of_isOver {r : Run} (h : r.isOver = true) (calls : List Call) :
    ∀ a ∈ r.replies calls, a = .finished r.outcome := by
  induction calls with
  | nil => simp
  | cons c rest ih =>
    intro a ha
    rw [replies_cons, call_of_isOver h, List.mem_append] at ha
    cases ha with
    | inl hfirst =>
      cases c with
      | step rules s =>
        rw [reply?, step_of_isOver h] at hfirst
        simpa using hfirst
      | cancel => simp [reply?] at hfirst
    | inr hrest => exact ih a hrest

/-- Once a call has found the run over, it stays over with that outcome. -/
theorem after_of_finished_mem {r : Run} {calls : List Call} {o : Outcome}
    (h : .finished o ∈ r.replies calls) :
    (r.after calls).isOver = true ∧ (r.after calls).outcome = o := by
  induction calls generalizing r with
  | nil => simp at h
  | cons c rest ih =>
    rw [replies_cons, List.mem_append] at h
    cases h with
    | inr hrest => exact ih hrest
    | inl hfirst =>
      cases c with
      | cancel => simp [reply?] at hfirst
      | step rules s =>
        have hstep : (r.step rules s).1 = .finished o := by simpa [reply?, eq_comm] using hfirst
        obtain ⟨-, hrun, -, hfinal⟩ :=
          of_step_eq_finished (show r.step rules s = (.finished o, _, _) by rw [← hstep])
        have hover : (r.call (.step rules s)).isOver = true := by
          rw [call, hrun]
          exact hfinal
        rw [after_cons, after_of_isOver hover]
        refine ⟨hover, ?_⟩
        rw [call, hrun]

theorem events_of_isOver {r : Run} (h : r.isOver = true) (calls : List Call) :
    r.events calls = [] := by
  refine List.filterMap_eq_nil_iff.2 fun a ha => ?_
  rw [replies_of_isOver h calls a ha]
  rfl

theorem events_cons_of_cancel (r : Run) (rest : List Call) :
    r.events (.cancel :: rest) = [] :=
  events_of_isOver (isOver_cancel r) rest

theorem events_cons_of_finished {r r' : Run} {rules : Rules} {s s' : Scene} {o : Outcome}
    (h : r.step rules s = (.finished o, r', s')) (rest : List Call) :
    r.events (.step rules s :: rest) = [] := by
  obtain ⟨-, rfl, -, hfinal⟩ := of_step_eq_finished h
  have hover : (r.call (.step rules s)).isOver = true := by
    rw [call, h]
    exact hfinal
  simpa [events, reply?, h, Advance.event?] using events_of_isOver hover rest

theorem events_cons_of_step {r r' : Run} {rules : Rules} {s s' : Scene} {e : Event}
    (h : r.step rules s = (.step e, r', s')) (rest : List Call) :
    r.events (.step rules s :: rest) = e :: r'.events rest := by
  simp [events, reply?, call, h, Advance.event?]

end Run

end Spellbook

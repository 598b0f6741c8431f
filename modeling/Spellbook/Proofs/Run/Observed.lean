import Spellbook.Proofs.Run.Finish
set_option autoImplicit false

/-!
# Runs before an observer

An observer is told of each block before it runs and of each event after it.
`Run.driveFor` plays a run before one, and `Rules.playFor` a program.  The run is the same
before any observer (`driveFor_fst`), an observer can keep the events without telling
anybody (`driveFor_recording`), and if nobody stops the run, each event is told right
behind its own announcement (`driveFor_never`).
-/

namespace Spellbook

/-- Somebody who is told of a run, and what it makes of it. -/
structure Observer (σ : Type) where
  announced : Notice → σ → σ
  happened : Event → σ → σ

namespace Observer

variable {σ : Type}

/-- Announcements and events, told one after another. -/
def follow (o : Observer σ) (events : List Event) (state : σ) : σ :=
  events.foldl (fun state e => o.happened e (o.announced e.notice state)) state

/-- An observer that also keeps a list of the events. -/
def recording (o : Observer σ) : Observer (List Event × σ) where
  announced notice state := (state.1, o.announced notice state.2)
  happened e state := (state.1 ++ [e], o.happened e state.2)

end Observer

namespace Run

variable {σ : Type}

/-- Goes on with a run to its end before an observer, after so many announcements and
events. -/
def driveFor (o : Observer σ) (rules : Rules) (i : Interruption) (notices events : Nat)
    (r : Run) (s : Scene) (state : σ) : Playback × σ :=
  if i.struck notices events then (⟨[], [], r.cancel, s⟩, state)
  else
    let announced := r.upcoming.toList
    let state := announced.foldl (fun state notice => o.announced notice state) state
    if i.struck (notices + announced.length) events then
      (⟨announced, [], r.cancel, s⟩, state)
    else match _h : r.step rules s with
      | (.finished _, r', s') => (⟨announced, [], r', s'⟩, state)
      | (.step e, r', s') =>
        let rest := driveFor o rules i (notices + announced.length) (events + 1) r' s'
          (o.happened e state)
        (⟨announced ++ rest.1.notices, e :: rest.1.events, rest.1.run, rest.1.scene⟩, rest.2)
termination_by r.remaining
decreasing_by
  have := @step_remaining_lt r rules s e (by rw [_h])
  rw [_h] at this
  exact this

variable {o : Observer σ} {rules : Rules} {i : Interruption} {notices events : Nat}
  {r r' : Run} {s s' : Scene}

theorem driveFor_of_struck (h : i.struck notices events = true) (state : σ) :
    r.driveFor o rules i notices events s state = (⟨[], [], r.cancel, s⟩, state) := by
  rw [driveFor, if_pos h]

theorem driveFor_of_struck_between {u : Notice} (hbefore : i.struck notices events = false)
    (hupcoming : r.upcoming = some u) (hbetween : i.struck (notices + 1) events = true)
    (state : σ) :
    r.driveFor o rules i notices events s state =
      (⟨[u], [], r.cancel, s⟩, o.announced u state) := by
  rw [driveFor]
  simp [hbefore, hupcoming, hbetween]

theorem driveFor_of_finished {end_ : Outcome} (hquiet : i.struck notices events = false)
    (h : r.step rules s = (.finished end_, r', s')) (state : σ) :
    r.driveFor o rules i notices events s state = (⟨[], [], r', s'⟩, state) := by
  rw [driveFor]
  simp only [hquiet, upcoming_of_finished h, Option.toList_none, List.length_nil, Nat.add_zero,
    List.foldl_nil, Bool.false_eq_true, if_false]
  split
  · rename_i h'
    rw [h] at h'
    cases h'
    rfl
  · rename_i h'
    rw [h] at h'
    cases h'

theorem driveFor_of_step {e : Event} (hbefore : i.struck notices events = false)
    (hbetween : i.struck (notices + 1) events = false)
    (h : r.step rules s = (.step e, r', s')) (state : σ) :
    r.driveFor o rules i notices events s state =
      let rest := r'.driveFor o rules i (notices + 1) (events + 1) s'
        (o.happened e (o.announced e.notice state))
      (⟨e.notice :: rest.1.notices, e :: rest.1.events, rest.1.run, rest.1.scene⟩, rest.2) := by
  rw [driveFor]
  simp only [hbefore, hbetween, upcoming_of_step_eq h, Option.toList_some,
    List.length_singleton, List.singleton_append, List.foldl_cons, List.foldl_nil,
    Bool.false_eq_true, if_false]
  split
  · rename_i h'
    rw [h] at h'
    cases h'
  · rename_i h'
    rw [h] at h'
    cases h'
    rfl

/-- Nobody is told of a run that is over. -/
theorem driveFor_of_isOver (h : r.isOver = true) (o : Observer σ) (rules : Rules)
    (i : Interruption) (notices events : Nat) (s : Scene) (state : σ) :
    r.driveFor o rules i notices events s state = (⟨[], [], r, s⟩, state) := by
  cases hstruck : i.struck notices events with
  | true => rw [driveFor_of_struck hstruck, cancel_of_isOver h]
  | false => exact driveFor_of_finished hstruck (step_of_isOver h rules s) state

/-- A run takes no notice of its observer. -/
theorem driveFor_fst (o : Observer σ) (rules : Rules) (i : Interruption)
    (notices events : Nat) (r : Run) (s : Scene) (state : σ) :
    (r.driveFor o rules i notices events s state).1 = r.drive rules i notices events s := by
  induction r, s using finish_induction rules generalizing notices events state with
  | hfinished r s end_ r' s' h =>
    cases hstruck : i.struck notices events with
    | true => rw [driveFor_of_struck hstruck, drive_of_struck hstruck]
    | false => rw [driveFor_of_finished hstruck h, drive_of_finished hstruck h]
  | hstep r s e r' s' h ih =>
    cases hbefore : i.struck notices events with
    | true => rw [driveFor_of_struck hbefore, drive_of_struck hbefore]
    | false =>
      have hupcoming := upcoming_of_step_eq h
      cases hbetween : i.struck (notices + 1) events with
      | true =>
        rw [driveFor_of_struck_between hbefore hupcoming hbetween,
          drive_of_struck_between hbefore hupcoming hbetween]
      | false =>
        rw [driveFor_of_step hbefore hbetween h, drive_of_step hbefore hbetween h]
        simp only [ih]

/-- To keep the events takes nothing from what the observer is told, and all of them are
kept, also of a run that is stopped. -/
theorem driveFor_recording (o : Observer σ) (rules : Rules) (i : Interruption)
    (notices events : Nat) (r : Run) (s : Scene) (history : List Event) (state : σ) :
    (r.driveFor o.recording rules i notices events s (history, state)).2 =
      (history ++ (r.drive rules i notices events s).events,
        (r.driveFor o rules i notices events s state).2) := by
  induction r, s using finish_induction rules generalizing notices events history state with
  | hfinished r s end_ r' s' h =>
    cases hstruck : i.struck notices events with
    | true =>
      rw [driveFor_of_struck hstruck, driveFor_of_struck hstruck, drive_of_struck hstruck]
      simp
    | false =>
      rw [driveFor_of_finished hstruck h, driveFor_of_finished hstruck h,
        drive_of_finished hstruck h]
      simp
  | hstep r s e r' s' h ih =>
    cases hbefore : i.struck notices events with
    | true =>
      rw [driveFor_of_struck hbefore, driveFor_of_struck hbefore, drive_of_struck hbefore]
      simp
    | false =>
      have hupcoming := upcoming_of_step_eq h
      cases hbetween : i.struck (notices + 1) events with
      | true =>
        rw [driveFor_of_struck_between hbefore hupcoming hbetween,
          driveFor_of_struck_between hbefore hupcoming hbetween,
          drive_of_struck_between hbefore hupcoming hbetween]
        simp [Observer.recording]
      | false =>
        rw [driveFor_of_step hbefore hbetween h, driveFor_of_step hbefore hbetween h,
          drive_of_step hbefore hbetween h]
        exact (ih _ _ (history ++ [e]) (o.happened e (o.announced e.notice state))).trans
          (by rw [List.append_assoc, List.singleton_append])

/-- The observer of a run that nobody stops is told of each event right behind its
announcement. -/
theorem driveFor_never (o : Observer σ) (rules : Rules) (notices events : Nat) (r : Run)
    (s : Scene) (state : σ) :
    (r.driveFor o rules .never notices events s state).2 =
      o.follow (r.drive rules .never notices events s).events state := by
  induction r, s using finish_induction rules generalizing notices events state with
  | hfinished r s end_ r' s' h =>
    rw [driveFor_of_finished rfl h, drive_of_finished rfl h]
    rfl
  | hstep r s e r' s' h ih =>
    rw [driveFor_of_step rfl rfl h, drive_of_step rfl rfl h]
    exact ih _ _ _

end Run

namespace Rules

variable {σ : Type}

/-- Runs a program from a level's opening scene before an observer.  Nobody is told of a
program that is refused. -/
def playFor (o : Observer σ) (rules : Rules) (program : List Placed) (i : Interruption)
    (s : Scene) (state : σ) : Playback × σ :=
  let run := Run.start program
  if run.isOver then (⟨[], [], run, s⟩, state)
  else run.driveFor o rules i 0 0 rules.openingScene state

/-- Every program, refused or not, is played from the scene in which its run begins. -/
theorem playFor_eq_driveFor (o : Observer σ) (rules : Rules) (program : List Placed)
    (i : Interruption) (s : Scene) (state : σ) :
    rules.playFor o program i s state =
      (Run.start program).driveFor o rules i 0 0
        (if (Run.start program).isOver then s else rules.openingScene) state := by
  cases hover : (Run.start program).isOver with
  | true => rw [Run.driveFor_of_isOver hover]; simp [playFor, hover]
  | false => simp [playFor, hover]

theorem playFor_fst (o : Observer σ) (rules : Rules) (program : List Placed)
    (i : Interruption) (s : Scene) (state : σ) :
    (rules.playFor o program i s state).1 = rules.play program i s := by
  cases hover : (Run.start program).isOver with
  | true => simp [playFor, play, hover]
  | false => simp [playFor, play, hover, Run.driveFor_fst]

theorem playFor_never_snd (o : Observer σ) (rules : Rules) (program : List Placed)
    (s : Scene) (state : σ) :
    (rules.playFor o program .never s state).2 =
      o.follow (rules.play program .never s).events state := by
  rw [← playFor_fst o rules program .never s state, playFor_eq_driveFor, Run.driveFor_fst]
  exact Run.driveFor_never ..

end Rules

end Spellbook

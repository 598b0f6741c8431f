import Spellbook.Playback
import Spellbook.Proofs.Run.Place
set_option autoImplicit false

/-!
# Runs to their end

`Run.finish` asks a run for one step after another, under the same rules and each in the
scene that the step before has left, until a call finds the run over.  A whole run that
nobody stops is the same with each block announced (`drive_never`).
-/

namespace Spellbook

/-- How a run ends: its events, the outcome that the last call finds, and the run and the
scene as they are then. -/
structure Ending where
  events : List Event
  outcome : Outcome
  run : Run
  scene : Scene
  deriving DecidableEq, Inhabited

/-- The ending of a run that makes one more step before. -/
def Ending.cons (e : Event) (rest : Ending) : Ending :=
  { rest with events := e :: rest.events }

namespace Run

/-- Steps up to the first call that finds the run over. -/
def finish (rules : Rules) (r : Run) (s : Scene) : Ending :=
  match _h : r.step rules s with
  | (.finished o, r', s') => ⟨[], o, r', s'⟩
  | (.step e, r', s') => (finish rules r' s').cons e
termination_by r.remaining
decreasing_by
  have := @step_remaining_lt r rules s e (by rw [_h])
  rw [_h] at this
  exact this

variable {rules : Rules} {r r' : Run} {s s' : Scene}

theorem finish_of_finished {o : Outcome} (h : r.step rules s = (.finished o, r', s')) :
    r.finish rules s = ⟨[], o, r', s'⟩ := by
  rw [finish]
  split
  · rename_i h'
    rw [h] at h'
    cases h'
    rfl
  · rename_i h'
    rw [h] at h'
    cases h'

theorem finish_of_step {e : Event} (h : r.step rules s = (.step e, r', s')) :
    r.finish rules s = (r'.finish rules s').cons e := by
  rw [finish]
  split
  · rename_i h'
    rw [h] at h'
    cases h'
  · rename_i h'
    rw [h] at h'
    cases h'
    rfl

theorem finish_of_isOver (h : r.isOver = true) (rules : Rules) (s : Scene) :
    r.finish rules s = ⟨[], r.outcome, r, s⟩ :=
  finish_of_finished (step_of_isOver h rules s)

/-- What holds of a run that is found over, and of a run before a step if it holds after
it, holds of every run. -/
theorem finish_induction (rules : Rules) {P : Run → Scene → Prop}
    (hfinished : ∀ r s o r' s', r.step rules s = (.finished o, r', s') → P r s)
    (hstep : ∀ r s e r' s', r.step rules s = (.step e, r', s') → P r' s' → P r s)
    (r : Run) (s : Scene) : P r s := by
  fun_induction finish rules r s with
  | case1 r s o r' s' h => exact hfinished r s o r' s' h
  | case2 r s e r' s' h ih => exact hstep r s e r' s' h ih

theorem outcome_finish (rules : Rules) (r : Run) (s : Scene) :
    (r.finish rules s).outcome.isFinal = true ∧
      (r.finish rules s).run.outcome = (r.finish rules s).outcome := by
  induction r, s using finish_induction rules with
  | hfinished r s o r' s' h =>
    obtain ⟨-, rfl, -, hfinal⟩ := of_step_eq_finished h
    rw [finish_of_finished h]
    exact ⟨hfinal, rfl⟩
  | hstep r s e r' s' h ih =>
    rw [finish_of_step h]
    exact ih

/-! ## Whole runs -/

variable {i : Interruption} {notices events : Nat}

/-- A run that is stopped before its next announcement. -/
theorem drive_of_struck (h : i.struck notices events = true) (rules : Rules) (r : Run)
    (s : Scene) : r.drive rules i notices events s = ⟨[], [], r.cancel, s⟩ := by
  rw [drive, if_pos h]

/-- A run that is stopped between an announcement and its event. -/
theorem drive_of_struck_between {u : Notice} (hbefore : i.struck notices events = false)
    (hupcoming : r.upcoming = some u) (hbetween : i.struck (notices + 1) events = true)
    (rules : Rules) (s : Scene) :
    r.drive rules i notices events s = ⟨[u], [], r.cancel, s⟩ := by
  rw [drive]
  simp [hbefore, hupcoming, hbetween]

theorem drive_of_finished {o : Outcome} (hquiet : i.struck notices events = false)
    (h : r.step rules s = (.finished o, r', s')) :
    r.drive rules i notices events s = ⟨[], [], r', s'⟩ := by
  rw [drive]
  simp only [hquiet, upcoming_of_finished h, Option.toList_none, List.length_nil, Nat.add_zero,
    Bool.false_eq_true, if_false]
  split
  · rename_i h'
    rw [h] at h'
    cases h'
    rfl
  · rename_i h'
    rw [h] at h'
    cases h'

theorem drive_of_step {e : Event} (hbefore : i.struck notices events = false)
    (hbetween : i.struck (notices + 1) events = false)
    (h : r.step rules s = (.step e, r', s')) :
    r.drive rules i notices events s =
      let rest := r'.drive rules i (notices + 1) (events + 1) s'
      ⟨e.notice :: rest.notices, e :: rest.events, rest.run, rest.scene⟩ := by
  rw [drive]
  simp only [hbefore, hbetween, upcoming_of_step_eq h, Option.toList_some,
    List.length_singleton, List.singleton_append, Bool.false_eq_true, if_false]
  split
  · rename_i h'
    rw [h] at h'
    cases h'
  · rename_i h'
    rw [h] at h'
    cases h'
    rfl

/-- A run that is over has nothing to announce. -/
theorem drive_of_isOver (h : r.isOver = true) (rules : Rules) (i : Interruption)
    (notices events : Nat) (s : Scene) :
    r.drive rules i notices events s = ⟨[], [], r, s⟩ := by
  cases hstruck : i.struck notices events with
  | true => rw [drive_of_struck hstruck, cancel_of_isOver h]
  | false => exact drive_of_finished hstruck (step_of_isOver h rules s)

/-- A run that nobody stops is announced block by block and played to its end. -/
theorem drive_never (rules : Rules) (notices events : Nat) (r : Run) (s : Scene) :
    r.drive rules .never notices events s =
      ⟨(r.finish rules s).events.map Event.notice, (r.finish rules s).events,
        (r.finish rules s).run, (r.finish rules s).scene⟩ := by
  induction r, s using finish_induction rules generalizing notices events with
  | hfinished r s o r' s' h => rw [drive_of_finished rfl h, finish_of_finished h]; rfl
  | hstep r s e r' s' h ih => rw [drive_of_step rfl rfl h, finish_of_step h, ih]; rfl

end Run

namespace Rules

theorem play_of_isOver {program : List Placed} (h : (Run.start program).isOver = true)
    (rules : Rules) (i : Interruption) (s : Scene) :
    rules.play program i s = ⟨[], [], Run.start program, s⟩ := by
  simp [play, h]

theorem play_of_not_isOver {program : List Placed} (h : (Run.start program).isOver = false)
    (rules : Rules) (i : Interruption) (s : Scene) :
    rules.play program i s = (Run.start program).drive rules i 0 0 rules.openingScene := by
  simp [play, h]

/-- A program that is accepted and not stopped is played to its end from the opening
scene of the level. -/
theorem play_never {program : List Placed} (h : (Run.start program).isOver = false)
    (rules : Rules) (s : Scene) :
    rules.play program .never s =
      let ending := (Run.start program).finish rules rules.openingScene
      ⟨ending.events.map Event.notice, ending.events, ending.run, ending.scene⟩ := by
  rw [play_of_not_isOver h, Run.drive_never]

end Rules

end Spellbook

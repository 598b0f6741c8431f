import Spellbook.Run
set_option autoImplicit false

/-!
# Whole runs

A whole run announces each block before it runs.  It can be stopped from outside:
before it, after an announcement, or after an event.  A `Playback` is all that
could be seen of it.
-/

namespace Spellbook

/-- When a run is stopped from outside, if ever.  Announcements and events are
counted from 1. -/
structure Interruption where
  beforeRun : Bool
  atNotice : Option Nat
  atEvent : Option Nat
  deriving DecidableEq, Inhabited

namespace Interruption

/-- The run is left alone. -/
def never : Interruption := ⟨false, none, none⟩

/-- Whether the run has been stopped after so many announcements and events. -/
def struck (i : Interruption) (notices events : Nat) : Bool :=
  i.beforeRun || i.atNotice.any (fun n => 0 < n && n ≤ notices)
    || i.atEvent.any (fun n => 0 < n && n ≤ events)

@[simp] theorem struck_never (notices events : Nat) : never.struck notices events = false := rfl

end Interruption

/-- What was seen of a run, and how it was left. -/
structure Playback where
  notices : List Notice
  events : List Event
  run : Run
  scene : Scene
  deriving DecidableEq, Inhabited

namespace Run

/-- Goes on with a run to its end, after so many announcements and events. -/
def drive (rules : Rules) (i : Interruption) (notices events : Nat) (r : Run) (s : Scene) :
    Playback :=
  if i.struck notices events then ⟨[], [], r.cancel, s⟩
  else
    let announced := r.upcoming.toList
    if i.struck (notices + announced.length) events then ⟨announced, [], r.cancel, s⟩
    else match _h : r.step rules s with
      | (.finished _, r', s') => ⟨announced, [], r', s'⟩
      | (.step e, r', s') =>
        let rest := drive rules i (notices + announced.length) (events + 1) r' s'
        ⟨announced ++ rest.notices, e :: rest.events, rest.run, rest.scene⟩
termination_by r.remaining
decreasing_by
  have := @step_remaining_lt r rules s e (by rw [_h])
  rw [_h] at this
  exact this

end Run

/-- Runs a program from a level's opening scene.  A program that is refused leaves
the scene as it was. -/
def Rules.play (rules : Rules) (program : List Placed) (i : Interruption) (s : Scene) :
    Playback :=
  let run := Run.start program
  if run.isOver then ⟨[], [], run, s⟩
  else run.drive rules i 0 0 rules.openingScene

end Spellbook

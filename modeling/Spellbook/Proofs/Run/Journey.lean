import Spellbook.Proofs.Execution.Changes
import Spellbook.Proofs.Run.Agreement
import Spellbook.Proofs.Run.Answers
import Spellbook.Proofs.Run.Trace
set_option autoImplicit false

/-!
# What a run makes of its world

Step by step a world changes only as `Block.Changes` allows, and from one state of a run to
any later one it keeps its track and its things, with the wizard never going back and no
thing unresolved again (`World.LeadsTo`).  `Rules.play_world` says both of whole runs, on
all levels and in any world that has the wizard on its track.
-/

namespace Spellbook

open Run (start Trace)

/-- What a thing is and where it stands, whether it is resolved or not. -/
def Thing.identity (t : Thing) : String × Thing.Kind × Nat := (t.id, t.kind, t.position)

namespace World

/-- A later state of this world: the track and the things on it are the same, resolved
things are still resolved, and the wizard has not gone back. -/
structure LeadsTo (w w' : World) : Prop where
  trackLength_eq : w'.trackLength = w.trackLength
  things_eq : w'.things.map Thing.identity = w.things.map Thing.identity
  still_resolved : ∀ i : Nat, w.things[i]?.any Thing.resolved = true →
    w'.things[i]?.any Thing.resolved = true
  position_le : w.position ≤ w'.position
  position_lt : w.position < w.trackLength → w'.position < w'.trackLength

theorem LeadsTo.refl (w : World) : w.LeadsTo w :=
  ⟨rfl, rfl, fun _ h => h, Nat.le_refl _, fun h => h⟩

theorem LeadsTo.trans {w w' w'' : World} (h : w.LeadsTo w') (h' : w'.LeadsTo w'') :
    w.LeadsTo w'' where
  trackLength_eq := h'.trackLength_eq.trans h.trackLength_eq
  things_eq := h'.things_eq.trans h.things_eq
  still_resolved i hi := h'.still_resolved i (h.still_resolved i hi)
  position_le := Nat.le_trans h.position_le h'.position_le
  position_lt hlt := h'.position_lt (h.position_lt hlt)

theorem OneResolved.map_identity {things things' : List Thing}
    (h : OneResolved things things') :
    things'.map Thing.identity = things.map Thing.identity := by
  rcases h with rfl | ⟨front, t, back, rfl, rfl⟩
  · rfl
  · rw [List.map_append, List.map_append]
    rfl

theorem OneResolved.still_resolved {things things' : List Thing}
    (h : OneResolved things things') {i : Nat}
    (hi : things[i]?.any Thing.resolved = true) : things'[i]?.any Thing.resolved = true := by
  rcases h with rfl | ⟨front, t, back, rfl, rfl⟩
  · exact hi
  · rcases Nat.lt_trichotomy i front.length with hlt | rfl | hgt
    · rw [List.getElem?_append_left hlt] at hi ⊢
      exact hi
    · rw [List.getElem?_append_right (Nat.le_refl _), Nat.sub_self]
      rfl
    · obtain ⟨k, rfl⟩ := Nat.exists_eq_add_of_lt hgt
      rw [Nat.add_assoc, List.getElem?_append_right (Nat.le_add_right _ _),
        Nat.add_sub_cancel_left] at hi ⊢
      exact hi

theorem leadsTo_of_changes {b : Block} {severity : Severity} {w w' : World}
    (h : b.Changes severity w w') : w.LeadsTo w' where
  trackLength_eq := h.trackLength_eq
  things_eq := h.things.map_identity
  still_resolved _ hi := h.things.still_resolved hi
  position_le := by
    rw [h.position_eq]
    exact Nat.le_add_right _ _
  position_lt := h.position_lt

end World

namespace Run

variable {program : List Placed} {rules : Rules} {r r' : Run} {s s' : Scene} {e : Event}

/-- A step changes the world as its block does; an end marker leaves it. -/
theorem Made.changes {line : Line} {round : Option Nat}
    (h : Made r rules s e r' s' line round) (hcursor : r.cursor.WellFormed program)
    (hperform : ∀ op (s : Scene), s.world.Acted (rules.perform op s).2.world) :
    line.block.Changes e.severity s.world s'.world := by
  rw [h.severity_eq, h.scene_eq, performed]
  rcases hcursor.perform_cases h.line?_eq rules r.answer s with
    hrun | ⟨hmarker, rounds, hclose⟩
  · rw [hrun]
    exact Block.changes_run hperform line.block r.answer s
  · rw [hclose]
    have hcategory : line.block.category ≠ .movement := by
      rw [show line.block.category = .marker from hmarker]
      decide
    exact Block.changes_of_acted hcategory (.refl _) _

theorem Trace.leadsTo {events : List Event} (h : Trace rules r s events r' s')
    (hcursor : r.cursor.WellFormed program)
    (hperform : ∀ op (s : Scene), s.world.Acted (rules.perform op s).2.world) :
    s.world.LeadsTo s'.world := by
  induction h with
  | nil r s => exact .refl _
  | @cons r r₁ r' s s₁ s' e events hstep hrest ih =>
    obtain ⟨line, round, hmade⟩ := made_of_step_eq hstep
    have hnext := wellFormed_call hcursor (.step rules s)
    rw [call, hstep] at hnext
    exact (World.leadsTo_of_changes (hmade.changes hcursor hperform)).trans (ih hnext)

variable {before between after : List Event}

/-- Each state of a run leads to all later ones. -/
theorem Trace.leadsTo_between
    (h : Trace rules (start program) s (before ++ (between ++ after)) r' s')
    (hperform : ∀ op (s : Scene), s.world.Acted (rules.perform op s).2.world) :
    (s.behind before).world.LeadsTo (s.behind (before ++ between)).world := by
  obtain ⟨middle, scene, hbefore, hlater⟩ := h.split
  obtain ⟨later, scene', hbetween, -⟩ := hlater.split
  have hleads := hbetween.leadsTo hbefore.wellFormed hperform
  rw [hbefore.scene_eq, (hbefore.append hbetween).scene_eq] at hleads
  exact hleads

/-- The block of each event changes the world in which the events before have left it. -/
theorem Trace.changes (h : Trace rules (start program) s (before ++ e :: after) r' s')
    (hperform : ∀ op (s : Scene), s.world.Acted (rules.perform op s).2.world) :
    ∃ placed, program[e.index]? = some placed ∧
      placed.block.Changes e.severity (s.behind before).world
        (s.behind (before ++ [e])).world := by
  obtain ⟨r, scene, next, hbefore, hstep, -⟩ := h.step_of_eq_append
  obtain ⟨line, round, hmade⟩ := made_of_step_eq hstep
  have hupto := hbefore.append (.cons hstep (.nil next e.scene))
  have hchanges := hmade.changes hbefore.wellFormed hperform
  rw [hbefore.scene_eq, hupto.scene_eq] at hchanges
  exact ⟨line.placed, hmade.getElem?_index hbefore.wellFormed, hchanges⟩

end Run

namespace Rules

/-- What can be seen of a run is a trace from the opening scene, also if it is stopped or
refused. -/
theorem exists_trace_events (rules : Rules) (program : List Placed) (i : Interruption)
    (s : Scene) :
    ∃ last s', Trace rules (start program) rules.openingScene
        (rules.play program i s).events last s' ∧
      ((start program).isOver = false → s' = (rules.play program i s).scene) := by
  cases hover : (start program).isOver with
  | true =>
    rw [play_of_isOver hover]
    exact ⟨start program, rules.openingScene, .nil _ _, fun h => by cases h⟩
  | false =>
    rw [play_of_not_isOver hover]
    obtain ⟨last, htrace⟩ :=
      Run.exists_trace_drive rules i 0 0 (start program) rules.openingScene
    exact ⟨last, _, htrace, fun _ => rfl⟩

/-- Whatever the program, and however long it runs: with the actions of a level, and in any
world with the wizard on its track, each step changes the world as its block may, and each
state of the run leads to all later ones.  So the track and the things stay those of the
initial world, and the wizard stays on the track. -/
theorem play_world {rules : Rules} {setup : Setup}
    (hlevel : rules.perform = setup.rules.perform)
    (hwizard : rules.initialWorld.position < rules.initialWorld.trackLength)
    (program : List Placed) (i : Interruption) (s : Scene) :
    let p := rules.play program i s
    let world := fun events => (rules.openingScene.behind events).world
    (∀ before between after, p.events = before ++ (between ++ after) →
      (world before).LeadsTo (world (before ++ between)) ∧
        (world before).position < rules.initialWorld.trackLength) ∧
    (∀ before e after, p.events = before ++ e :: after →
      ∃ placed, program[e.index]? = some placed ∧
        placed.block.Changes e.severity (world before) (world (before ++ [e]))) ∧
    ((start program).isOver = false → p.scene.world = world p.events) := by
  have hperform : ∀ op (s : Scene), s.world.Acted (rules.perform op s).2.world := by
    rw [hlevel]
    exact setup.acted_perform
  obtain ⟨last, s', htrace, hfinal⟩ := exists_trace_events rules program i s
  intro p world
  refine ⟨?_, ?_, ?_⟩
  · intro before between after hevents
    rw [show (rules.play program i s).events = _ from hevents] at htrace
    have hopening : Trace rules (start program) rules.openingScene
        ([] ++ (before ++ (between ++ after))) last s' := htrace
    have hfirst : rules.initialWorld.LeadsTo (world before) :=
      hopening.leadsTo_between hperform
    refine ⟨htrace.leadsTo_between hperform, ?_⟩
    rw [← hfirst.trackLength_eq]
    exact hfirst.position_lt hwizard
  · intro before e after hevents
    rw [show (rules.play program i s).events = _ from hevents] at htrace
    exact htrace.changes hperform
  · intro haccepted
    rw [← hfinal haccepted, htrace.scene_eq]

/-- The crossing of the bridge with the wizard in the middle of it at the start: there is
not enough track for all ten steps, and the wizard ends on its last square. -/
theorem play_world_crossing :
    let rules := { Bridge.rules with initialWorld := { Bridge.world with position := 3 } }
    let p := rules.play Run.crossing .never rules.openingScene
    rules.initialWorld.position < rules.initialWorld.trackLength ∧
      rules.initialWorld.LeadsTo p.scene.world ∧ p.scene.world.position = 10 := by
  intro rules p
  have hlevel : rules.perform = (⟨.bridge, none, none, none, none⟩ : Setup).rules.perform := rfl
  have hwizard : rules.initialWorld.position < rules.initialWorld.trackLength := by
    decide +kernel
  have haccepted : (start Run.crossing).isOver = false := by decide +kernel
  obtain ⟨hstates, -, hscene⟩ :=
    play_world hlevel hwizard Run.crossing .never rules.openingScene
  obtain ⟨hleads, -⟩ := hstates [] p.events [] (by rw [List.append_nil]; rfl)
  refine ⟨hwizard, ?_, by decide +kernel⟩
  rw [show p.scene.world = _ from hscene haccepted]
  exact hleads

end Rules

end Spellbook

import Spellbook.Level.Rules
import Spellbook.Execution
set_option autoImplicit false

/-!
# How a step can change the world

An action of a level resolves at most one thing and may forget the target
(`Setup.acted_perform`).  A block of any category does that, scans the wizard's square, or
moves the wizard one square on (`Block.changes_run`).
-/

namespace Spellbook

namespace World

/-! ## At most one thing is resolved -/

/-- The same things, of which at most one may newly be resolved. -/
def OneResolved (things things' : List Thing) : Prop :=
  things' = things ∨ ∃ front t back, things = front ++ t :: back ∧
    things' = front ++ { t with resolved := true } :: back

theorem oneResolved_markResolved (id : String) (things : List Thing) :
    OneResolved things (markResolved id things) := by
  induction things with
  | nil => exact .inl rfl
  | cons t rest ih =>
    rw [markResolved]
    split
    · exact .inr ⟨[], t, rest, rfl, rfl⟩
    · rcases ih with hsame | ⟨front, u, back, hrest, hresolved⟩
      · exact .inl (by rw [hsame])
      · exact .inr ⟨t :: front, u, back, by rw [hrest]; rfl, by rw [hresolved]; rfl⟩

/-! ## What an action may do -/

/-- The wizard has stayed on the square, at most one thing was resolved, and nothing was
scanned. -/
structure Acted (w w' : World) : Prop where
  position_eq : w'.position = w.position
  trackLength_eq : w'.trackLength = w.trackLength
  things : OneResolved w.things w'.things
  target : w'.target = w.target ∨ w'.target = none

theorem Acted.refl (w : World) : w.Acted w := ⟨rfl, rfl, .inl rfl, .inl rfl⟩

theorem acted_resolve (w : World) (id : String) : w.Acted (w.resolve id) :=
  ⟨rfl, rfl, oneResolved_markResolved id w.things, .inl rfl⟩

theorem Acted.setFlag {w w' : World} (h : w.Acted w') (name : String) (value : Value) :
    w.Acted (w'.setFlag name value) :=
  ⟨h.position_eq, h.trackLength_eq, h.things, h.target⟩

theorem Acted.forget {w w' : World} (h : w.Acted w') : w.Acted { w' with target := none } :=
  ⟨h.position_eq, h.trackLength_eq, h.things, .inr rfl⟩

/-! ## Where the wizard stands -/

theorem of_unresolvedHere? {w : World} {p : Thing → Bool} {t : Thing}
    (h : w.unresolvedHere? p = some t) :
    t ∈ w.things ∧ t.resolved = false ∧ t.position = w.position := by
  have hmem := List.mem_of_find?_eq_some h
  have hhere := List.find?_some h
  simp only [Bool.and_eq_true, beq_iff_eq, Bool.not_eq_true'] at hhere
  obtain ⟨⟨hposition, hunresolved⟩, -⟩ := hhere
  exact ⟨hmem, hunresolved, hposition⟩

/-- Before the end of the track there is a next square. -/
theorem succ_position_lt {w : World} (hend : ¬ w.atTrackEnd = true)
    (hlt : w.position < w.trackLength) : w.position + 1 < w.trackLength := by
  have hlast : w.trackEnd = w.trackLength - 1 := if_neg (by omega)
  rw [atTrackEnd, decide_eq_true_eq, hlast] at hend
  omega

end World

open World (Acted)

theorem Potion.acted_perform (op : Op) (s : Scene) :
    s.world.Acted (Potion.perform op s).2.world := by
  unfold perform
  split
  · unfold collect
    split
    · split
      · exact .refl _
      · dsimp only
        split
        · exact .refl _
        · exact World.acted_resolve s.world _
    · exact .refl _
  · unfold brew
    split
    · exact .refl _
    · split
      · exact .refl _
      · exact ((Acted.refl s.world).setFlag _ _).setFlag _ _
  · exact .refl _

theorem Crossroads.acted_perform (weather : Weather) (op : Op) (s : Scene) :
    s.world.Acted (Crossroads.perform weather op s).2.world := by
  unfold perform
  split
  · unfold takePath
    split
    · exact .refl _
    · split
      · exact .refl _
      · -- The choice is marked whether the path is safe or not.
        dsimp only
        split <;> exact (Acted.refl s.world).setFlag _ _
  · exact .refl _

theorem Gauntlet.acted_perform (op : Op) (s : Scene) :
    s.world.Acted (Gauntlet.perform op s).2.world := by
  unfold perform
  split
  · unfold cast
    split
    · exact .refl _
    · dsimp only
      split
      · exact .refl _
      · split
        · exact (World.acted_resolve s.world _).forget
        · exact .refl _
  · exact .refl _

theorem Bridge.acted_perform (op : Op) (s : Scene) :
    s.world.Acted (Bridge.perform op s).2.world := by
  unfold perform
  split
  · unfold repair
    split
    · exact .refl _
    · exact (World.acted_resolve s.world _).setFlag _ _
  · exact .refl _

theorem Setup.acted_perform (setup : Setup) (op : Op) (s : Scene) :
    s.world.Acted (setup.rules.perform op s).2.world := by
  rw [Setup.rules_eq]
  cases setup.level with
  | collection => exact Potion.acted_perform op s
  | crossroads => exact Crossroads.acted_perform _ op s
  | combat => exact Gauntlet.acted_perform op s
  | bridge => exact Bridge.acted_perform op s

namespace Block

variable {rules : Rules} {b : Block} {severity : Severity} {w w' : World}

/-! ## What any block may do -/

/-- This block is scanning, and the thing is what it finds unresolved where the wizard
stands. -/
def Finds (b : Block) (w : World) (t : Thing) : Prop :=
  b.category = .binding ∧ (∃ into, b.op = .scan into) ∧
    t ∈ w.things ∧ t.resolved = false ∧ t.position = w.position

/-- What a step of this block may make of a world, if it goes this well. -/
structure Changes (b : Block) (severity : Severity) (w w' : World) : Prop where
  trackLength_eq : w'.trackLength = w.trackLength
  things : World.OneResolved w.things w'.things
  /-- Just a movement that succeeds leads on, by one square. -/
  position_eq : w'.position =
    w.position + if b.category = .movement ∧ severity = .info then 1 else 0
  position_lt : w.position < w.trackLength → w'.position < w'.trackLength
  target : w'.target = w.target ∨ w'.target = none ∨
    ∃ t, b.Finds w t ∧ w'.target = some t.id
  /-- Behind a movement that succeeds nothing is scanned yet. -/
  target_of_move : b.category = .movement → severity = .info → w'.target = none

theorem changes_of_acted (hcategory : b.category ≠ .movement) (h : w.Acted w')
    (severity : Severity) : b.Changes severity w w' where
  trackLength_eq := h.trackLength_eq
  things := h.things
  position_eq := by simp [h.position_eq, hcategory]
  position_lt := by
    rw [h.position_eq, h.trackLength_eq]
    exact fun hlt => hlt
  target := h.target.imp (fun hsame => hsame) .inl
  target_of_move hmovement := absurd hmovement hcategory

theorem acted_runAction (hperform : ∀ op (s : Scene), s.world.Acted (rules.perform op s).2.world)
    (b : Block) (answer : Option Bool) (s : Scene) :
    s.world.Acted (b.runAction rules answer s).2.world := by
  unfold runAction
  split
  · exact .refl _
  · split
    · split
      · exact .refl _
      · exact .refl _
      · exact hperform b.op s
    · exact hperform b.op s

/-- An action that its check admits is performed by the level. -/
theorem run_of_admitted {answer : Option Bool} {s : Scene}
    (hacts : b.category = .action ∧ b.op ≠ .celebrate)
    (hadmitted : rules.needsCheck b.op = true → answer = some true) :
    b.run rules answer s = ⟨(rules.perform b.op s).1, (rules.perform b.op s).2, none⟩ := by
  simp only [run, hacts.1, runAction, if_neg hacts.2]
  split
  · rename_i hcheck
    rw [hadmitted hcheck]
  · rfl

theorem changes_runScan {into : String} (hcategory : b.category = .binding)
    (hop : b.op = .scan into) (rules : Rules) (severity : Severity) (s : Scene) :
    b.Changes severity s.world (runScan rules into s).2.world := by
  have hother : b.category ≠ .movement := by simp [hcategory]
  unfold runScan
  split
  · rename_i t hfound
    exact {
      trackLength_eq := rfl
      things := .inl rfl
      position_eq := by simp [hother, Scene.mapWorld, Scene.setVariable]
      position_lt := fun hlt => hlt
      target := .inr (.inr
        ⟨t, ⟨hcategory, ⟨into, hop⟩, World.of_unresolvedHere? hfound⟩, rfl⟩)
      target_of_move := fun hmovement => absurd hmovement hother }
  · exact changes_of_acted hother (.refl _) severity

theorem changes_runBinding (hcategory : b.category = .binding) (rules : Rules)
    (severity : Severity) (s : Scene) :
    b.Changes severity s.world (b.runBinding rules s).2.world := by
  have hother : b.category ≠ .movement := by simp [hcategory]
  unfold runBinding
  split
  · exact changes_of_acted hother (.refl _) severity
  · exact changes_runScan hcategory ‹_› rules severity s
  · split <;> exact changes_of_acted hother (.refl _) severity
  · exact changes_of_acted hother (.refl _) severity

theorem changes_runMovement (hcategory : b.category = .movement) (s : Scene) :
    b.Changes (runMovement s).1.severity s.world (runMovement s).2.world := by
  unfold runMovement
  split
  · exact {
      trackLength_eq := rfl
      things := .inl rfl
      position_eq := by simp [Effect.severity]
      position_lt := fun hlt => hlt
      target := .inl rfl
      target_of_move := fun _ hinfo => by cases hinfo }
  · rename_i hend
    exact {
      trackLength_eq := rfl
      things := .inl rfl
      position_eq := by simp [hcategory, Effect.severity, Scene.mapWorld, World.stepForward]
      position_lt := World.succ_position_lt hend
      target := .inr (.inl rfl)
      target_of_move := fun _ _ => rfl }

theorem world_store (name shown : String) (result : Option Number) (s : Scene) :
    (store name shown result s).2.world = s.world := by
  cases result <;> rfl

theorem world_runMath (b : Block) (s : Scene) : (b.runMath s).2.world = s.world := by
  unfold runMath
  dsimp only
  split
  · split
    · rfl
    · exact world_store _ _ _ s
  · split
    · rfl
    · exact world_store _ _ _ s
  · split
    · rfl
    · exact world_store _ _ _ s
  · split
    · rfl
    · split
      · rfl
      · split
        · rfl
        · exact world_store _ _ _ s
  · rfl

/-- Just an action can change the things or the flags of a world. -/
theorem things_flags_run_of_ne_action (h : b.category ≠ .action) (rules : Rules)
    (answer : Option Bool) (s : Scene) :
    (b.run rules answer s).scene.world.things = s.world.things ∧
      (b.run rules answer s).scene.world.flags = s.world.flags := by
  unfold run
  cases hcategory : b.category with
  | action => exact absurd hcategory h
  | binding =>
    dsimp only
    unfold runBinding
    split
    · exact ⟨rfl, rfl⟩
    · unfold runScan
      split <;> exact ⟨rfl, rfl⟩
    · split <;> exact ⟨rfl, rfl⟩
    · exact ⟨rfl, rfl⟩
  | movement =>
    dsimp only
    unfold runMovement
    split <;> exact ⟨rfl, rfl⟩
  | math =>
    dsimp only
    rw [world_runMath]
    exact ⟨rfl, rfl⟩
  | condition => exact ⟨rfl, rfl⟩
  | loop => exact ⟨rfl, rfl⟩
  | marker => exact ⟨rfl, rfl⟩

/-- What a block makes of a world, if the actions of the level keep to theirs. -/
theorem changes_run
    (hperform : ∀ op (s : Scene), s.world.Acted (rules.perform op s).2.world) (b : Block)
    (answer : Option Bool) (s : Scene) :
    b.Changes (b.run rules answer s).effect.severity s.world
      (b.run rules answer s).scene.world := by
  unfold run
  cases hcategory : b.category with
  | action =>
    exact changes_of_acted (by simp [hcategory]) (acted_runAction hperform b answer s) _
  | binding => exact changes_runBinding hcategory rules _ s
  | movement => exact changes_runMovement hcategory s
  | math =>
    dsimp only
    rw [world_runMath]
    exact changes_of_acted (by simp [hcategory]) (.refl _) _
  | condition => exact changes_of_acted (by simp [hcategory]) (.refl _) _
  | loop => exact changes_of_acted (by simp [hcategory]) (.refl _) _
  | marker => exact changes_of_acted (by simp [hcategory]) (.refl _) _

end Block

end Spellbook

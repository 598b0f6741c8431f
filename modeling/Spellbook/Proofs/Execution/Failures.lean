import Spellbook.Level.Rules
import Spellbook.Run
set_option autoImplicit false

/-!
# How a step can fail

A failing step is never called a refused program or a run that was stopped: no block of
any category fails so by itself (`Block.ordinary_run`), and neither does an action of any
level (`Setup.ordinary_perform`).
-/

namespace Spellbook

/-- Not a failure, or one of a kind that steps have. -/
def Effect.Ordinary (f : Effect) : Prop :=
  ∀ kind reason, f = .fail kind reason → kind ≠ .invalidProgram ∧ kind ≠ .cancelled

namespace Effect

@[simp] theorem ordinary_done (message : String) : (done message).Ordinary := by
  intro kind reason h
  cases h

@[simp] theorem ordinary_noEffect (message : String) : (noEffect message).Ordinary := by
  intro kind reason h
  cases h

@[simp] theorem ordinary_fail {kind : FailureKind} {reason : String} :
    (fail kind reason).Ordinary ↔ kind ≠ .invalidProgram ∧ kind ≠ .cancelled := by
  constructor
  · intro h
    exact h kind reason rfl
  · intro h kind' reason' heq
    cases heq
    exact h

end Effect

/-! ## The actions of the levels -/

theorem Potion.ordinary_perform (op : Op) (s : Scene) : (Potion.perform op s).1.Ordinary := by
  unfold perform
  split
  · unfold collect
    split
    · split
      · simp
      · dsimp only
        split <;> simp
    · simp
  · unfold brew
    split
    · simp
    · split <;> simp
  · simp

theorem Crossroads.ordinary_perform (weather : Weather) (op : Op) (s : Scene) :
    (Crossroads.perform weather op s).1.Ordinary := by
  unfold perform
  split
  · unfold takePath
    split
    · simp
    · split
      · simp
      · dsimp only
        split <;> simp
  · simp

theorem Gauntlet.ordinary_perform (op : Op) (s : Scene) :
    (Gauntlet.perform op s).1.Ordinary := by
  unfold perform
  split
  · unfold cast
    split
    · simp
    · dsimp only
      split
      · simp
      · split <;> simp
  · simp

theorem Bridge.ordinary_perform (op : Op) (s : Scene) : (Bridge.perform op s).1.Ordinary := by
  unfold perform
  split
  · unfold repair
    split <;> simp
  · simp

theorem Setup.ordinary_perform (setup : Setup) (op : Op) (s : Scene) :
    (setup.rules.perform op s).1.Ordinary := by
  rw [Setup.rules_eq]
  cases setup.level with
  | collection => exact Potion.ordinary_perform op s
  | crossroads => exact Crossroads.ordinary_perform _ op s
  | combat => exact Gauntlet.ordinary_perform op s
  | bridge => exact Bridge.ordinary_perform op s

/-! ## Blocks -/

/-- Not a failure, or one of a block that finds no value to go on with. -/
def Effect.Plain (f : Effect) : Prop :=
  ∀ kind reason, f = .fail kind reason → kind = .missingPrecondition ∨ kind = .invalidArithmetic

namespace Effect

@[simp] theorem plain_done (message : String) : (done message).Plain := by
  intro kind reason h
  cases h

@[simp] theorem plain_noEffect (message : String) : (noEffect message).Plain := by
  intro kind reason h
  cases h

@[simp] theorem plain_fail {kind : FailureKind} {reason : String} :
    (fail kind reason).Plain ↔ kind = .missingPrecondition ∨ kind = .invalidArithmetic := by
  constructor
  · intro h
    exact h kind reason rfl
  · intro h kind' reason' heq
    cases heq
    exact h

theorem Plain.ordinary {f : Effect} (h : f.Plain) : f.Ordinary := by
  intro kind reason heq
  rcases h kind reason heq with rfl | rfl
  · exact ⟨nofun, nofun⟩
  · exact ⟨nofun, nofun⟩

end Effect

namespace Block

variable {rules : Rules}

theorem plain_missingVariable (label name : String) : (missingVariable label name).Plain := by
  simp [missingVariable]

theorem plain_of_numberOf {label : String} {vars : Bindings} {name : String} {f : Effect}
    (h : numberOf label vars name = .error f) : f.Plain := by
  unfold numberOf at h
  split at h
  · cases h
  · cases h
    simp
  · cases h
    exact plain_missingVariable label name

theorem plain_store (name shown : String) (result : Option Number) (s : Scene) :
    (store name shown result s).1.Plain := by
  unfold store
  split <;> simp

theorem plain_runCondition (b : Block) (vars : Bindings) : (b.runCondition vars).1.Plain := by
  unfold runCondition
  split
  · split
    · exact plain_missingVariable _ _
    · simp
  · simp

theorem plain_runBinding (b : Block) (rules : Rules) (s : Scene) :
    (b.runBinding rules s).1.Plain := by
  unfold runBinding
  split
  · simp
  · unfold runScan
    split
    · simp
    · dsimp only
      split <;> simp
  · split <;> simp
  · simp

theorem plain_runMovement (s : Scene) : (runMovement s).1.Plain := by
  unfold runMovement
  split <;> simp

theorem plain_runMath (b : Block) (s : Scene) : (b.runMath s).1.Plain := by
  unfold runMath
  dsimp only
  split
  · split
    · exact plain_of_numberOf ‹_›
    · exact plain_store _ _ _ s
  · split
    · exact plain_of_numberOf ‹_›
    · exact plain_store _ _ _ s
  · split
    · exact plain_of_numberOf ‹_›
    · exact plain_store _ _ _ s
  · split
    · exact plain_of_numberOf ‹_›
    · split
      · exact plain_of_numberOf ‹_›
      · split
        · simp
        · exact plain_store _ _ _ s
  · simp

theorem plain_runHeader (b : Block) (vars : Bindings) : (b.runHeader vars).Plain := by
  unfold runHeader
  split
  · simp
  · split
    · simp
    · exact plain_missingVariable _ _
  · simp

/-- A block that is no action can only fail for a value that it does not find. -/
theorem plain_run {b : Block} (h : b.category ≠ .action) (rules : Rules)
    (answer : Option Bool) (s : Scene) : (b.run rules answer s).effect.Plain := by
  unfold run
  cases hcategory : b.category with
  | action => exact absurd hcategory h
  | condition => exact plain_runCondition b s.vars
  | binding => exact plain_runBinding b rules s
  | movement => exact plain_runMovement s
  | math => exact plain_runMath b s
  | loop => exact plain_runHeader b s.vars
  | marker => simp [strayMarker]

theorem ordinary_runAction (hperform : ∀ op s, (rules.perform op s).1.Ordinary) (b : Block)
    (answer : Option Bool) (s : Scene) : (b.runAction rules answer s).1.Ordinary := by
  unfold runAction
  split
  · simp
  · split
    · split
      · simp
      · simp
      · exact hperform b.op s
    · exact hperform b.op s

theorem ordinary_run (hperform : ∀ op s, (rules.perform op s).1.Ordinary) (b : Block)
    (answer : Option Bool) (s : Scene) : (b.run rules answer s).effect.Ordinary := by
  by_cases haction : b.category = .action
  · simp only [run, haction]
    exact ordinary_runAction hperform b answer s
  · exact (plain_run haction rules answer s).ordinary

end Block

theorem Cursor.ordinary_perform {rules : Rules}
    (hperform : ∀ op s, (rules.perform op s).1.Ordinary) (c : Cursor) (line : Line)
    (answer : Option Bool) (s : Scene) : (c.perform line rules answer s).effect.Ordinary := by
  unfold perform
  split
  · simp
  · exact Block.ordinary_run hperform line.block answer s

end Spellbook

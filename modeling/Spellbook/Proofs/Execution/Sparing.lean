import Spellbook.Proofs.Execution.Changes
import Spellbook.Proofs.Run.Calls
set_option autoImplicit false

/-!
# Steps without effect

A step that warns or fails leaves the world and the variables as they were
(`Run.step_without_effect`).  There is one exception: a wrong path at the fork is taken
although the step fails (`Setup.Strays`), and then nothing else has changed.
`Effect.Sparing` is what each part of a step keeps to.
-/

namespace Spellbook

/-- Unless it is done, it has changed nothing. -/
def Effect.Sparing (f : Effect) (s s' : Scene) : Prop := f.severity ≠ .info → s' = s

namespace Effect

variable {s s' : Scene}

@[simp] theorem sparing_done (message : String) : (done message).Sparing s s' :=
  fun h => absurd rfl h

@[simp] theorem sparing_self (f : Effect) : f.Sparing s s := fun _ => rfl

end Effect

/-! ## The actions of the levels -/

theorem Potion.sparing_perform (op : Op) (s : Scene) :
    (Potion.perform op s).1.Sparing s (Potion.perform op s).2 := by
  unfold perform
  split
  · unfold collect
    split
    · split
      · simp
      · -- The sum is made out before anything is collected.
        dsimp only
        split <;> simp
    · simp
  · unfold brew
    split
    · simp
    · split <;> simp
  · simp

theorem Gauntlet.sparing_perform (op : Op) (s : Scene) :
    (Gauntlet.perform op s).1.Sparing s (Gauntlet.perform op s).2 := by
  unfold perform
  split
  · unfold cast
    split
    · simp
    · dsimp only
      split
      · simp
      · split <;> simp
  · simp

theorem Bridge.sparing_perform (op : Op) (s : Scene) :
    (Bridge.perform op s).1.Sparing s (Bridge.perform op s).2 := by
  unfold perform
  split
  · unfold repair
    split <;> simp
  · simp

/-- The same scene, in which this path has been taken. -/
def Scene.taking (s : Scene) (path : Path) : Scene :=
  s.mapWorld (·.setFlag "chosenPath" (.text path.name))

namespace Crossroads

/-- The wizard stands at the fork and has not taken a path. -/
structure Undecided (w : World) : Prop where
  position_eq : w.position = fork
  flag?_eq : w.flag? "chosenPath" = none

variable {weather : Weather} {path : Path} {s : Scene}

theorem takePath_of_not_undecided (h : ¬ Undecided s.world) (weather : Weather) (path : Path) :
    ∃ message, takePath weather path s = (.noEffect message, s) := by
  unfold takePath
  split
  · exact ⟨_, rfl⟩
  · rename_i hchosen
    split
    · exact ⟨_, rfl⟩
    · rename_i hfork
      exact absurd ⟨Decidable.not_not.1 hfork, by simpa using hchosen⟩ h

theorem takePath_of_undecided (h : Undecided s.world) (weather : Weather) (path : Path) :
    (path = safePath weather ∧
      ∃ message, takePath weather path s = (.done message, s.taking path)) ∨
    (path ≠ safePath weather ∧
      ∃ message, takePath weather path s = (.fail .wrongChoice message, s.taking path)) := by
  unfold takePath
  rw [h.flag?_eq, if_neg (by simp), if_neg (by simp [h.position_eq])]
  dsimp only
  by_cases hsafe : path = safePath weather
  · rw [if_neg (by simp [hsafe])]
    exact .inl ⟨hsafe, _, rfl⟩
  · rw [if_pos hsafe]
    exact .inr ⟨hsafe, _, rfl⟩

theorem sparing_perform {op : Op}
    (h : ∀ path, op = .takePath path → Undecided s.world → path = safePath weather) :
    (perform weather op s).1.Sparing s (perform weather op s).2 := by
  unfold perform
  split
  · rename_i path
    by_cases hopen : Undecided s.world
    · obtain ⟨-, message, htaken⟩ | ⟨hwrong, -⟩ := takePath_of_undecided hopen weather path
      · simp [htaken]
      · exact absurd (h path rfl hopen) hwrong
    · obtain ⟨message, hkept⟩ := takePath_of_not_undecided hopen weather path
      simp [hkept]
  · simp

/-- The action of this block takes a path at the fork, behind a check that said yes. -/
structure Chooses (b : Block) (answer : Option Bool) (w : World) (path : Path) : Prop where
  category_eq : b.category = .action
  op_eq : b.op = .takePath path
  answer_eq : answer = some true
  undecided : Undecided w

end Crossroads

/-- The level is the crossroads, and this block chooses a wrong path there. -/
structure Setup.Strays (setup : Setup) (b : Block) (answer : Option Bool) (w : World)
    (path : Path) : Prop extends Crossroads.Chooses b answer w path where
  level_eq : setup.level = .crossroads
  ne : path ≠ Crossroads.safePath setup.weather

theorem Setup.sparing_perform {setup : Setup} {op : Op} {s : Scene}
    (h : setup.level = .crossroads → ∀ path, op = .takePath path →
      Crossroads.Undecided s.world → path = Crossroads.safePath setup.weather) :
    (setup.rules.perform op s).1.Sparing s (setup.rules.perform op s).2 := by
  rw [Setup.rules_eq]
  cases hlevel : setup.level with
  | collection => exact Potion.sparing_perform op s
  | crossroads => exact Crossroads.sparing_perform (h hlevel)
  | combat => exact Gauntlet.sparing_perform op s
  | bridge => exact Bridge.sparing_perform op s

/-! ## Blocks -/

namespace Block

variable {rules : Rules} {setup : Setup} {b : Block} {answer : Option Bool} {s : Scene}
  {path : Path}

theorem sparing_runBinding (b : Block) (rules : Rules) (s : Scene) :
    (b.runBinding rules s).1.Sparing s (b.runBinding rules s).2 := by
  unfold runBinding
  split
  · simp
  · unfold runScan
    split <;> simp
  · split <;> simp
  · simp

theorem sparing_runMovement (s : Scene) :
    (runMovement s).1.Sparing s (runMovement s).2 := by
  unfold runMovement
  split <;> simp

theorem sparing_store (name shown : String) (result : Option Number) (s : Scene) :
    (store name shown result s).1.Sparing s (store name shown result s).2 := by
  unfold store
  split <;> simp

theorem sparing_runMath (b : Block) (s : Scene) :
    (b.runMath s).1.Sparing s (b.runMath s).2 := by
  unfold runMath
  dsimp only
  split
  · split
    · simp
    · exact sparing_store _ _ _ s
  · split
    · simp
    · exact sparing_store _ _ _ s
  · split
    · simp
    · exact sparing_store _ _ _ s
  · split
    · simp
    · split
      · simp
      · split
        · simp
        · exact sparing_store _ _ _ s
  · simp

/-- An action spares the scene if the level does, whenever it is the level that performs it. -/
theorem sparing_runAction
    (hperform : (rules.needsCheck b.op = true → answer = some true) →
      (rules.perform b.op s).1.Sparing s (rules.perform b.op s).2) :
    (b.runAction rules answer s).1.Sparing s (b.runAction rules answer s).2 := by
  unfold runAction
  split
  · simp
  · split
    · split
      · simp
      · simp
      · exact hperform fun _ => rfl
    · rename_i hcheck
      exact hperform fun hneeds => absurd hneeds hcheck

theorem sparing_run
    (hperform : b.category = .action → (rules.needsCheck b.op = true → answer = some true) →
      (rules.perform b.op s).1.Sparing s (rules.perform b.op s).2) :
    (b.run rules answer s).effect.Sparing s (b.run rules answer s).scene := by
  unfold run
  cases hcategory : b.category with
  | action => exact sparing_runAction (hperform hcategory)
  | binding => exact sparing_runBinding b rules s
  | movement => exact sparing_runMovement s
  | math => exact sparing_runMath b s
  | condition => exact Effect.sparing_self _
  | loop => exact Effect.sparing_self _
  | marker => exact Effect.sparing_self _

/-- On a level, all blocks spare the scene but those that stray. -/
theorem sparing_run_of_not_strays (hperform : rules.perform = setup.rules.perform)
    (hchecks : rules.needsCheck = setup.rules.needsCheck)
    (h : ∀ path, ¬ setup.Strays b answer s.world path) :
    (b.run rules answer s).effect.Sparing s (b.run rules answer s).scene := by
  apply sparing_run
  intro hcategory hadmitted
  rw [hperform]
  apply Setup.sparing_perform
  intro hlevel path hop hopen
  have hanswer : answer = some true := by
    apply hadmitted
    rw [hchecks, hop, Setup.rules_eq, hlevel]
    rfl
  exact Decidable.not_not.1 fun hne =>
    h path ⟨⟨hcategory, hop, hanswer, hopen⟩, hlevel, hne⟩

/-- Who chooses a path takes it, and fails if it is a wrong one. -/
theorem run_of_chooses {weather : Weather} (hperform : rules.perform = Crossroads.perform weather)
    (h : Crossroads.Chooses b answer s.world path) :
    (path = Crossroads.safePath weather ∧
      ∃ message, b.run rules answer s = ⟨.done message, s.taking path, none⟩) ∨
    (path ≠ Crossroads.safePath weather ∧
      ∃ message, b.run rules answer s = ⟨.fail .wrongChoice message, s.taking path, none⟩) := by
  have hop : b.op ≠ .celebrate := by
    rw [h.op_eq]
    exact nofun
  have hrun : b.run rules answer s = ⟨(Crossroads.takePath weather path s).1,
      (Crossroads.takePath weather path s).2, none⟩ := by
    rw [run_of_admitted ⟨h.category_eq, hop⟩ fun _ => h.answer_eq, hperform, h.op_eq]
    rfl
  obtain ⟨hsafe, message, htaken⟩ | ⟨hwrong, message, hfailed⟩ :=
    Crossroads.takePath_of_undecided h.undecided weather path
  · exact .inl ⟨hsafe, message, by rw [hrun, htaken]⟩
  · exact .inr ⟨hwrong, message, by rw [hrun, hfailed]⟩

/-- Who strays takes the path and fails. -/
theorem run_of_strays (hperform : rules.perform = setup.rules.perform)
    (h : setup.Strays b answer s.world path) :
    ∃ message, b.run rules answer s = ⟨.fail .wrongChoice message, s.taking path, none⟩ := by
  have hcrossroads : rules.perform = Crossroads.perform setup.weather := by
    rw [hperform, Setup.rules_eq, h.level_eq]
    rfl
  obtain ⟨hsafe, -⟩ | ⟨-, hfailed⟩ := run_of_chooses hcrossroads h.toChooses
  · exact absurd hsafe h.ne
  · exact hfailed

end Block

/-- An end marker that closes a loop has gone well, so any other step ran its block. -/
theorem Cursor.perform_eq_run {c : Cursor} {line : Line} {rules : Rules}
    {answer : Option Bool} {s : Scene}
    (h : (c.perform line rules answer s).effect.severity ≠ .info) :
    c.perform line rules answer s = line.block.run rules answer s := by
  cases c with
  | close marker rounds rest => exact absurd rfl h
  | _ => rfl

namespace Run

variable {rules : Rules} {setup : Setup} {r r' : Run} {s s' : Scene} {e : Event}

/-- With the actions of a level, and however else its rules are changed: a step of any run,
in any scene and with any answer pending, that warns or fails has left the world and the
variables as they were, unless it has strayed.  Then it has failed for a wrong choice, and
just the path has been taken. -/
theorem step_without_effect (hperform : rules.perform = setup.rules.perform)
    (hchecks : rules.needsCheck = setup.rules.needsCheck)
    (hstep : r.step rules s = (.step e, r', s')) (hbad : e.severity ≠ .info) :
    ∃ line round, r.cursor.line? = some (line, round) ∧
      ((∀ path, ¬ setup.Strays line.block r.answer s.world path) → s' = s) ∧
      ∀ path, setup.Strays line.block r.answer s.world path →
        e.severity = .failure ∧ r'.outcome = .failure .wrongChoice e.message ∧
          s' = s.taking path := by
  obtain ⟨line, round, hmade⟩ := made_of_step_eq hstep
  have hevent := hmade.event_eq
  have hscene := hmade.scene_eq
  have hsettles := hmade.settles
  have hseverity : (r.performed line rules s).effect.severity ≠ .info := by
    rw [hevent] at hbad
    exact hbad
  rw [performed, Cursor.perform_eq_run hseverity] at hevent hscene hsettles
  refine ⟨line, round, hmade.line?_eq, ?_, ?_⟩
  · intro hsteady
    rw [hscene]
    apply Block.sparing_run_of_not_strays hperform hchecks hsteady
    rw [hevent] at hbad
    exact hbad
  · intro path hstrays
    obtain ⟨message, hrun⟩ := Block.run_of_strays hperform hstrays
    rw [hrun] at hevent hscene hsettles
    have houtcome := hsettles.outcome_of_fail rfl
    rw [houtcome, hevent, hscene]
    exact ⟨rfl, rfl, rfl⟩

/-- On a sunny day the path through the forest is the wrong one.  At the fork it is taken
all the same, and before the fork nothing comes of it. -/
theorem step_through_forest :
    let rules := Crossroads.rules .sunny
    let r : Run :=
      ⟨[], .item (.single ⟨0, 1, Crossroads.pathBlock .forest⟩) [], some true, .running, 0⟩
    let before := rules.openingScene
    let fork := before.mapWorld fun w => { w with position := 2 }
    (∃ e r' s', r.step rules fork = (.step e, r', s') ∧ e.severity = .failure ∧
      s' = fork.taking .forest) ∧
    ∃ e r' s', r.step rules before = (.step e, r', s') ∧ e.severity = .warning ∧ s' = before := by
  intro rules r before fork
  have hlevel : rules = (⟨.crossroads, none, none, some .sunny, none⟩ : Setup).rules := rfl
  constructor
  · obtain ⟨e, r', s', hstep, hbad⟩ : ∃ e r' s',
        r.step rules fork = (.step e, r', s') ∧ e.severity ≠ .info :=
      ⟨_, _, _, rfl, by decide⟩
    obtain ⟨line, round, hline, -, hstrays⟩ :=
      step_without_effect (congrArg Rules.perform hlevel) (congrArg Rules.needsCheck hlevel)
        hstep hbad
    cases hline
    obtain ⟨hfailed, -, htaken⟩ :=
      hstrays .forest ⟨⟨rfl, rfl, rfl, ⟨rfl, by decide +kernel⟩⟩, rfl, by decide⟩
    exact ⟨e, r', s', hstep, hfailed, htaken⟩
  · obtain ⟨e, r', s', hstep, hwarning⟩ : ∃ e r' s',
        r.step rules before = (.step e, r', s') ∧ e.severity = .warning :=
      ⟨_, _, _, rfl, by decide +kernel⟩
    obtain ⟨line, round, hline, hsteady, -⟩ :=
      step_without_effect (congrArg Rules.perform hlevel) (congrArg Rules.needsCheck hlevel)
        hstep (by simp [hwarning])
    refine ⟨e, r', s', hstep, hwarning, hsteady ?_⟩
    intro path hstrays
    have hposition : before.world.position = Crossroads.fork := hstrays.undecided.position_eq
    exact absurd hposition (by decide)

end Run

end Spellbook

import Spellbook.Catalog
import Spellbook.Proofs.Execution.Failures
set_option autoImplicit false

/-!
# Blocks that a level speaks of

A catalog takes in a block only if it runs by the category of its operation and the level
can perform it (`Catalog.speaks_of_ofBlocks`).  `Effect.Arises` lists how a step can turn out
on a level (`Setup.arises_run`), and two things are read off it: a block that the level speaks
of gives none of the warnings that are kept for blocks out of place (`Setup.not_lost_run`), and
only some levels have wrong choices, or numbers that are out of range
(`Setup.kind_of_fail_run`).
-/

namespace Spellbook

/-- A level speaks of a block that runs by the category of its operation and that the level
can perform. -/
structure Rules.Speaks (rules : Rules) (b : Block) : Prop where
  category_eq : b.category = b.op.category
  performs : b.category = .action → b.op = .celebrate ∨ rules.supports b.op = true
  loops : rules.allowsLoops = false → b.category ≠ .loop ∧ b.category ≠ .marker

namespace Catalog

variable {rules : Rules} {b : Block} {blocks : List Block} {c c' : Catalog}

theorem speaks_of_objection? (h : objection? rules c b = none) : rules.Speaks b := by
  unfold objection? at h
  split at h
  · cases h
  · split at h
    · cases h
    · rename_i hcategory
      have hsame : b.category = b.op.category := Decidable.not_not.1 hcategory
      split at h
      · cases h
      · rename_i hloop
        split at h
        · cases h
        · rename_i hperforms
          refine ⟨hsame, fun haction => ?_, fun hallows => ?_⟩
          · rw [hsame] at haction
            simpa [canPerform, haction, Decidable.or_iff_not_imp_left] using hperforms
          · rw [hsame]
            simpa [isLoopPart, hallows] using hloop

theorem speaks_of_addAll (h : addAll rules c blocks = .ok c') : ∀ b ∈ blocks, rules.Speaks b := by
  induction blocks generalizing c with
  | nil => exact fun b hmem => absurd hmem List.not_mem_nil
  | cons b rest ih =>
    unfold addAll at h
    split at h
    · cases h
    · rename_i hfirst
      rintro b' (_ | ⟨_, hmem⟩)
      · exact speaks_of_objection? hfirst
      · exact ih h b' hmem

/-- Blocks are taken in behind those that are there, in their order. -/
theorem blocks_of_addAll (h : addAll rules c blocks = .ok c') :
    c'.level = c.level ∧ c'.blocks = c.blocks ++ blocks := by
  induction blocks generalizing c with
  | nil =>
    cases h
    exact ⟨rfl, (List.append_nil _).symm⟩
  | cons b rest ih =>
    unfold addAll at h
    split at h
    · cases h
    · obtain ⟨hlevel, hblocks⟩ := ih h
      exact ⟨hlevel, by rw [hblocks]; simp [add]⟩

/-- A level speaks of all blocks of its catalog. -/
theorem speaks_of_ofBlocks (h : ofBlocks rules blocks = .ok c) :
    ∀ b ∈ c.blocks, rules.Speaks b := by
  obtain ⟨-, hblocks⟩ := blocks_of_addAll h
  rw [hblocks]
  exact speaks_of_addAll h

end Catalog

/-! ## How steps turn out -/

namespace Effect

/-- What steps say of a block whose operation means nothing to them: to the category that
the block states, or to the level. -/
def lostMessages (label : String) : List String :=
  [s!"\"{label}\" has nothing to check.", s!"\"{label}\" does not set anything.",
    s!"\"{label}\" does no math.", s!"\"{label}\" is not a loop.",
    "Nothing happens in the workshop.", "Nothing happens at the crossroads.",
    "Nothing happens in the gauntlet.", "Nothing happens on the bridge."]

/-- How the step of a block can turn out: whether the block can be out of place, whether the
step can calculate, and whether it can choose. -/
inductive Arises (stray reckons chooses : Prop) (label : String) : Effect → Prop
  | done (message : String) : Arises stray reckons chooses label (done message)
  /-- Something is missing that the block needs. -/
  | lacks (reason : String) :
      Arises stray reckons chooses label (fail .missingPrecondition reason)
  | outOfRange (h : reckons) (reason : String) :
      Arises stray reckons chooses label (fail .invalidArithmetic reason)
  | wrong (h : chooses) (reason : String) :
      Arises stray reckons chooses label (fail .wrongChoice reason)
  /-- All other warnings begin with this letter. -/
  | warns {message : String} (hfirst : message.toList.head? = some 'T') :
      Arises stray reckons chooses label (noEffect message)
  | lost {message : String} (h : stray) (hlost : message ∈ lostMessages label) :
      Arises stray reckons chooses label (noEffect message)

variable {stray stray' reckons reckons' chooses chooses' : Prop} {label message : String}
  {f : Effect}

theorem Arises.mono (h : f.Arises stray reckons chooses label) (hstray : stray → stray')
    (hreckons : reckons → reckons') (hchooses : chooses → chooses') :
    f.Arises stray' reckons' chooses' label := by
  cases h with
  | done message => exact .done message
  | lacks reason => exact .lacks reason
  | outOfRange h reason => exact .outOfRange (hreckons h) reason
  | wrong h reason => exact .wrong (hchooses h) reason
  | warns hfirst => exact .warns hfirst
  | lost h hlost => exact .lost (hstray h) hlost

theorem eq_noEffect_of_severity (h : f.severity = .warning) : f = .noEffect f.message := by
  cases f with
  | noEffect message => rfl
  | done message => cases h
  | fail kind message => cases h

theorem head?_of_lost (h : message ∈ lostMessages label) :
    message.toList.head? ≠ some 'T' := by
  simp only [lostMessages, List.mem_cons, List.not_mem_nil, or_false] at h
  rcases h with rfl | rfl | rfl | rfl | rfl | rfl | rfl | rfl <;> simp [toString]

/-- Only of a block out of place a step says that it means nothing to it. -/
theorem Arises.stray_of_lost (h : (noEffect message).Arises stray reckons chooses label)
    (hlost : message ∈ lostMessages label) : stray := by
  cases h with
  | warns hfirst => exact absurd hfirst (head?_of_lost hlost)
  | lost h hlost => exact h

theorem Arises.kind_of_fail {kind : FailureKind} {reason : String}
    (h : (fail kind reason).Arises stray reckons chooses label) :
    kind = .missingPrecondition ∨ (kind = .invalidArithmetic ∧ reckons) ∨
      (kind = .wrongChoice ∧ chooses) := by
  cases h with
  | lacks reason => exact .inl rfl
  | outOfRange h reason => exact .inr (.inl ⟨rfl, h⟩)
  | wrong h reason => exact .inr (.inr ⟨rfl, h⟩)

end Effect

/-! ### The actions of the levels -/

theorem Potion.arises_perform (op : Op) (s : Scene) (label : String) :
    (perform op s).1.Arises (supports op = false) True False label := by
  cases op with
  | collect item =>
    show (collect item s).1.Arises _ _ _ _
    unfold collect
    split
    · split
      · have hfirst : (absent item s.world).toList.head? = some 'T' := by
          unfold absent
          split <;> simp [toString]
        exact .warns hfirst
      · dsimp only
        split
        · exact .outOfRange trivial _
        · exact .done _
    · exact .lacks _
  | brewPotion =>
    show (brew s).1.Arises _ _ _ _
    unfold brew
    split
    · exact .warns (by simp [toString])
    · split
      · exact .lacks _
      · exact .done _
  | _ => exact .lost rfl (by simp [Effect.lostMessages])

theorem Crossroads.arises_perform (weather : Weather) (op : Op) (s : Scene) (label : String) :
    (perform weather op s).1.Arises (supports op = false) False True label := by
  cases op with
  | takePath path =>
    show (takePath weather path s).1.Arises _ _ _ _
    unfold takePath
    split
    · exact .warns (by simp)
    · split
      · exact .warns (by simp [toString])
      · dsimp only
        split
        · exact .wrong trivial _
        · exact .done _
  | _ => exact .lost rfl (by simp [Effect.lostMessages])

theorem Gauntlet.arises_perform (op : Op) (s : Scene) (label : String) :
    (perform op s).1.Arises (supports op = false) False True label := by
  cases op with
  | castSpell spell =>
    show (cast spell s).1.Arises _ _ _ _
    unfold cast
    split
    · exact .lacks _
    · dsimp only
      split
      · exact .warns (by simp [toString])
      · split
        · exact .done _
        · exact .wrong trivial _
  | _ => exact .lost rfl (by simp [Effect.lostMessages])

theorem Bridge.arises_perform (op : Op) (s : Scene) (label : String) :
    (perform op s).1.Arises (supports op = false) False False label := by
  cases op with
  | repairPlank =>
    show (repair s).1.Arises _ _ _ _
    unfold repair
    split
    · exact .warns (by simp [toString])
    · exact .done _
  | _ => exact .lost rfl (by simp [Effect.lostMessages])

theorem Setup.arises_perform (setup : Setup) (op : Op) (s : Scene) (label : String) :
    (setup.rules.perform op s).1.Arises (setup.rules.supports op = false)
      (setup.level = .collection) (setup.level = .crossroads ∨ setup.level = .combat) label := by
  rw [Setup.rules_eq]
  cases hlevel : setup.level with
  | collection => exact (Potion.arises_perform op s label).mono id (fun _ => rfl) False.elim
  | crossroads =>
    exact (Crossroads.arises_perform _ op s label).mono id False.elim (fun _ => .inl rfl)
  | combat => exact (Gauntlet.arises_perform op s label).mono id False.elim (fun _ => .inr rfl)
  | bridge => exact (Bridge.arises_perform op s label).mono id False.elim False.elim

/-! ### Blocks -/

namespace Block

variable {rules : Rules} {b : Block} {stray reckons chooses : Prop}

theorem arises_of_numberOf {label name shown : String} {vars : Bindings} {f : Effect}
    (h : numberOf label vars name = .error f) : f.Arises stray reckons chooses shown := by
  unfold numberOf at h
  split at h
  · cases h
  · cases h
    exact .lacks _
  · cases h
    exact .lacks _

theorem arises_store (h : reckons) (name shown : String) (result : Option Number) (s : Scene)
    (label : String) : (store name shown result s).1.Arises stray reckons chooses label := by
  unfold store
  split
  · exact .done _
  · exact .outOfRange h _

theorem arises_runCondition (b : Block) (vars : Bindings) :
    (b.runCondition vars).1.Arises (b.op.category ≠ .condition) reckons chooses b.label := by
  unfold runCondition
  split
  · split
    · exact .lacks _
    · exact .done _
  · rename_i hother
    refine .lost ?_ (by simp [Effect.lostMessages])
    cases hop : b.op with
    | compare name comparison value => exact absurd hop (hother name comparison value)
    | _ => exact nofun

theorem arises_runBinding (b : Block) (rules : Rules) (s : Scene) :
    (b.runBinding rules s).1.Arises (b.op.category ≠ .binding) reckons chooses b.label := by
  unfold runBinding
  split
  · exact .done _
  · unfold runScan
    split
    · exact .done _
    · dsimp only
      split
      · exact .lacks _
      · exact .warns (by simp [toString])
  · split
    · exact .done _
    · exact .lacks _
  · rename_i hset hscan hread
    refine .lost ?_ (by simp [Effect.lostMessages])
    cases hop : b.op with
    | setNumber name value => exact absurd hop (hset name value)
    | scan into => exact absurd hop (hscan into)
    | readFlag flag into => exact absurd hop (hread flag into)
    | _ => exact nofun

theorem arises_runMovement (s : Scene) (label : String) :
    (runMovement s).1.Arises stray reckons chooses label := by
  unfold runMovement
  split
  · exact .warns (by simp [toString])
  · exact .done _

theorem arises_runMath (h : reckons) (b : Block) (s : Scene) :
    (b.runMath s).1.Arises (b.op.category ≠ .math) reckons chooses b.label := by
  unfold runMath
  dsimp only
  split
  · split
    · exact arises_of_numberOf ‹_›
    · exact arises_store h _ _ _ s _
  · split
    · exact arises_of_numberOf ‹_›
    · exact arises_store h _ _ _ s _
  · split
    · exact arises_of_numberOf ‹_›
    · exact arises_store h _ _ _ s _
  · split
    · exact arises_of_numberOf ‹_›
    · split
      · exact arises_of_numberOf ‹_›
      · split
        · exact .outOfRange h _
        · exact arises_store h _ _ _ s _
  · rename_i hdouble hadd hsubtract hdivide
    refine .lost ?_ (by simp [Effect.lostMessages])
    cases hop : b.op with
    | double name => exact absurd hop (hdouble name)
    | add name amount => exact absurd hop (hadd name amount)
    | subtract name amount => exact absurd hop (hsubtract name amount)
    | divideBy name divisor => exact absurd hop (hdivide name divisor)
    | _ => exact nofun

theorem arises_runHeader (b : Block) (vars : Bindings) :
    (b.runHeader vars).Arises (b.op.category ≠ .loop) reckons chooses b.label := by
  unfold runHeader
  split
  · exact .done _
  · split
    · exact .done _
    · exact .lacks _
  · rename_i htimes hwhile
    refine .lost ?_ (by simp [Effect.lostMessages])
    cases hop : b.op with
    | repeatTimes times => exact absurd hop (htimes times)
    | repeatWhile name below => exact absurd hop (hwhile name below)
    | _ => exact nofun

theorem arises_runAction {label : String}
    (hperform : ∀ s, b.op ≠ .celebrate →
      (rules.perform b.op s).1.Arises stray reckons chooses label)
    (answer : Option Bool) (s : Scene) :
    (b.runAction rules answer s).1.Arises stray reckons chooses label := by
  unfold runAction
  split
  · exact .done _
  · rename_i hop
    split
    · split
      · exact .lacks _
      · exact .done _
      · exact hperform s hop
    · exact hperform s hop

end Block

namespace Setup

variable {setup : Setup} {b : Block}

/-- How the step of any block can turn out on a level. -/
theorem arises_run (setup : Setup) (b : Block) (answer : Option Bool) (s : Scene) :
    (b.run setup.rules answer s).effect.Arises (¬ setup.rules.Speaks b)
      (b.category = .math ∨ setup.level = .collection)
      (setup.level = .crossroads ∨ setup.level = .combat) b.label := by
  have hstray {category : Category} (hcategory : b.category = category) :
      b.op.category ≠ category → ¬ setup.rules.Speaks b :=
    fun hother hspeaks => hother (by rw [← hspeaks.category_eq, hcategory])
  unfold Block.run
  cases hcategory : b.category with
  | action =>
    refine Block.arises_runAction (fun s hop => ?_) answer s
    refine (setup.arises_perform b.op s b.label).mono (fun hsupports hspeaks => ?_) .inr id
    have hsupported := (hspeaks.performs hcategory).resolve_left hop
    rw [hsupports] at hsupported
    cases hsupported
  | condition => exact (b.arises_runCondition s.vars).mono (hstray hcategory) id id
  | binding => exact (b.arises_runBinding setup.rules s).mono (hstray hcategory) id id
  | movement => exact Block.arises_runMovement s b.label
  | math => exact (Block.arises_runMath (.inl rfl) b s).mono (hstray hcategory) id id
  | loop => exact (b.arises_runHeader s.vars).mono (hstray hcategory) id id
  | marker => exact .warns (by simp)

/-- No step finds a block out of place that the level speaks of. -/
theorem not_lost_run (h : setup.rules.Speaks b) (answer : Option Bool) (s : Scene)
    {message : String} (hlost : message ∈ Effect.lostMessages b.label) :
    (b.run setup.rules answer s).effect ≠ .noEffect message := by
  intro heffect
  have harises := setup.arises_run b answer s
  rw [heffect] at harises
  exact harises.stray_of_lost hlost h

/-- A step can fail for a number only where something calculates, and for a wrong choice
only where there is one. -/
theorem kind_of_fail_run {answer : Option Bool} {s : Scene} {kind : FailureKind}
    {reason : String} (h : (b.run setup.rules answer s).effect = .fail kind reason) :
    kind = .missingPrecondition ∨
      (kind = .invalidArithmetic ∧ (b.category = .math ∨ setup.level = .collection)) ∨
      (kind = .wrongChoice ∧ (setup.level = .crossroads ∨ setup.level = .combat)) := by
  have harises := setup.arises_run b answer s
  rw [h] at harises
  exact harises.kind_of_fail

/-- A step forward that states another category is out of place. -/
example :
    ({ Block.stepForward with category := .math }.run Bridge.rules none
      Bridge.rules.openingScene).effect = .noEffect "\"Step forward\" does no math." :=
  rfl

end Setup

end Spellbook

import Spellbook.Proofs.Execution.Vocabulary
import Spellbook.Proofs.Run.Choices
import Spellbook.Proofs.Workbench.Residue
set_option autoImplicit false

/-!
# Workbenches speak the language of their level

Whatever is called on a workbench, its program has blocks of the level's catalog alone, and
the level speaks of them all.  So none of its runs meets a block out of place, only the bridge
has rounds and faults of loops, and only some levels have wrong choices or bad arithmetic
(`reachable_speaks`).  `Run.Fluent` is what one step of such a run keeps.
-/

namespace Spellbook

/-! ## What is told on a level -/

/-- Whether runs on a level can fail so. -/
def Level.CanFail (level : Level) : FailureKind → Prop
  | .invalidProgram | .runawayLoop => level = .bridge
  | .wrongChoice => level = .crossroads ∨ level = .combat
  | .invalidArithmetic => level = .collection ∨ level = .bridge
  | .missingPrecondition | .incompleteGoal | .cancelled => True

/-- What runs on a level tell: no block was out of place, only the bridge has rounds, and a
failure is one that the level has. -/
structure Level.Tells (level : Level) (events : List Event) (o : Outcome) : Prop where
  not_lost : ∀ e ∈ events, e.severity = .warning → e.message ∉ Effect.lostMessages e.label
  round_eq_none : level ≠ .bridge → ∀ e ∈ events, e.round = none
  canFail : ∀ kind, o.failureKind? = some kind → level.CanFail kind

theorem Level.Tells.of_outcome {level : Level} {events : List Event} {o o' : Outcome}
    (h : level.Tells events o) (ho : ∀ kind, o'.failureKind? = some kind → level.CanFail kind) :
    level.Tells events o' :=
  ⟨h.not_lost, h.round_eq_none, ho⟩

/-! ## The blocks of a level -/

namespace Setup

variable {setup : Setup} {b : Block}

theorem speaks_of_mem (h : b ∈ setup.level.blocks) : setup.rules.Speaks b :=
  Catalog.speaks_of_ofBlocks setup.ofBlocks_rules b h

/-- Just the bridge has loops. -/
theorem category_ne_loop (hlevel : setup.level ≠ .bridge) (h : b ∈ setup.level.blocks) :
    b.category ≠ .loop := by
  have hallows : setup.rules.allowsLoops = false := by
    rw [Setup.rules_eq]
    cases hname : setup.level with
    | bridge => exact absurd hname hlevel
    | _ => rfl
  exact ((speaks_of_mem h).loops hallows).1

/-- Just the workshop and the bridge have blocks that calculate. -/
theorem category_ne_math (hlevel : setup.level = .crossroads ∨ setup.level = .combat)
    (h : b ∈ setup.level.blocks) : b.category ≠ .math := by
  rcases hlevel with hlevel | hlevel
  · rw [hlevel] at h
    exact (by decide +kernel : ∀ b ∈ Crossroads.blocks, b.category ≠ .math) b h
  · rw [hlevel] at h
    exact (by decide +kernel : ∀ b ∈ Gauntlet.blocks, b.category ≠ .math) b h

/-- The step of a block of the level fails as runs on the level can. -/
theorem canFail_of_fail_run (h : b ∈ setup.level.blocks) {answer : Option Bool} {s : Scene}
    {kind : FailureKind} {reason : String}
    (hfail : (b.run setup.rules answer s).effect = .fail kind reason) :
    setup.level.CanFail kind := by
  obtain rfl | ⟨rfl, hmath⟩ | ⟨rfl, hchooses⟩ := setup.kind_of_fail_run hfail
  · trivial
  · rcases hmath with hmath | hcollection
    · have hother : ¬ (setup.level = .crossroads ∨ setup.level = .combat) :=
        fun hlevel => category_ne_math hlevel h hmath
      show setup.level = .collection ∨ setup.level = .bridge
      cases hlevel : setup.level <;> simp [hlevel] at hother ⊢
    · exact .inl hcollection
  · exact hchooses

end Setup

/-! ## Runs -/

namespace Run

variable {setup : Setup} {program : List Placed} {events : List Event} {r r' : Run}
  {s s' : Scene} {e : Event} {line : Line} {round : Option Nat}

theorem line?_of_straight {c : Cursor} (h : c.Straight) (hline : c.line? = some (line, round)) :
    round = none := by
  cases c with
  | item i rest =>
    obtain ⟨single, rfl⟩ := h i List.mem_cons_self
    cases hline
    rfl
  | done => cases hline
  | body loop k first left rest => cases h
  | close marker rounds rest => cases h

/-- Where no loop is left, a run fails only as its step does. -/
theorem Settles.fail_of_straight {c c' : Cursor} {rules : Rules} {done : Step}
    {kind : FailureKind} {reason : String} (h : Settles c rules done c' (.failure kind reason))
    (hstraight : c.Straight) : done.effect = .fail kind reason := by
  generalize houtcome : Outcome.failure kind reason = o at h
  cases h with
  | failed heffect =>
    cases houtcome
    exact heffect
  | halted hgood hnext =>
    obtain ⟨next, hok, -⟩ := hstraight.next done.scene.vars
    rw [hok] at hnext
    cases hnext
  | won hgood hnext heager hmet => cases houtcome
  | onward hgood hnext hgoal => cases houtcome

theorem Settles.straight {c c' : Cursor} {rules : Rules} {done : Step} {o : Outcome}
    (h : Settles c rules done c' o) (hstraight : c.Straight) : c'.Straight := by
  cases h with
  | failed heffect => trivial
  | halted hgood hnext => trivial
  | won hgood hnext heager hmet => trivial
  | onward hgood hnext hgoal =>
    obtain ⟨next, hok, hlater⟩ := hstraight.next done.scene.vars
    rw [hok] at hnext
    cases hnext
    exact hlater

/-- A run of a program on a level, with the events so far. -/
structure Fluent (level : Level) (program : List Placed) (events : List Event) (r : Run) :
    Prop where
  wellFormed : r.cursor.WellFormed program
  straight : level ≠ .bridge → r.cursor.Straight
  tells : level.Tells events r.outcome

/-! ### One step -/

/-- Where the level speaks of all blocks, a step does not find one of them out of place. -/
theorem not_lost_of_made (hoffered : ∀ placed ∈ program, placed.block ∈ setup.level.blocks)
    (hcursor : r.cursor.WellFormed program) (h : Made r setup.rules s e r' s' line round)
    (hwarning : e.severity = .warning) : e.message ∉ Effect.lostMessages e.label := by
  intro hlost
  obtain rfl := h.event_eq
  have hplaced := List.mem_of_getElem? (hcursor.getElem?_of_line h.line?_eq)
  have hspeaks : setup.rules.Speaks line.block := Setup.speaks_of_mem (hoffered _ hplaced)
  have heffect : (r.performed line setup.rules s).effect =
      .noEffect (r.performed line setup.rules s).effect.message :=
    Effect.eq_noEffect_of_severity hwarning
  generalize hdone : r.performed line setup.rules s = done at *
  rw [performed] at hdone
  rcases hcursor.perform_cases h.line?_eq setup.rules r.answer s with hrun | ⟨-, rounds, hclose⟩
  · rw [hrun] at hdone
    subst hdone
    exact Setup.not_lost_run hspeaks r.answer s hlost heffect
  · rw [hclose] at hdone
    subst hdone
    cases heffect

/-- The step of a run fails as runs on the level can, and so does a loop that stops it. -/
theorem canFail_of_made (hoffered : ∀ placed ∈ program, placed.block ∈ setup.level.blocks)
    (hrun : Fluent setup.level program events r)
    (h : Made r setup.rules s e r' s' line round) {kind : FailureKind}
    (hkind : r'.outcome.failureKind? = some kind) : setup.level.CanFail kind := by
  obtain ⟨reason, houtcome⟩ := Outcome.failureKind?_eq_some_iff.1 hkind
  have hstep : (r.performed line setup.rules s).effect = .fail kind reason →
      setup.level.CanFail kind := by
    intro heffect
    rw [performed] at heffect
    rcases hrun.wellFormed.perform_cases h.line?_eq setup.rules r.answer s with
      hperform | ⟨-, rounds, hclose⟩
    · rw [hperform] at heffect
      have hplaced := List.mem_of_getElem? (hrun.wellFormed.getElem?_of_line h.line?_eq)
      exact Setup.canFail_of_fail_run (hoffered _ hplaced) heffect
    · rw [hclose] at heffect
      cases heffect
  by_cases hlevel : setup.level = .bridge
  · obtain heffect | ⟨fault, rfl⟩ := h.of_failure houtcome
    · exact hstep heffect
    · rcases fault.kind_eq with hfault | hfault
      · rw [hfault]
        exact hlevel
      · rw [hfault]
        trivial
  · have hsettles := h.settles
    rw [houtcome] at hsettles
    exact hstep (hsettles.fail_of_straight (hrun.straight hlevel))

theorem Fluent.step (hoffered : ∀ placed ∈ program, placed.block ∈ setup.level.blocks)
    (h : Fluent setup.level program events r)
    (hstep : r.step setup.rules s = (.step e, r', s')) :
    Fluent setup.level program (events ++ [e]) r' := by
  obtain ⟨line, round, hmade⟩ := made_of_step_eq hstep
  have hnext := wellFormed_call h.wellFormed (.step setup.rules s)
  rw [call, hstep] at hnext
  refine ⟨hnext, fun hlevel => hmade.settles.straight (h.straight hlevel), ?_, ?_, ?_⟩
  · intro e' hmem
    rcases List.mem_append.1 hmem with hold | hnew
    · exact h.tells.not_lost e' hold
    · obtain rfl := List.mem_singleton.1 hnew
      exact not_lost_of_made hoffered h.wellFormed hmade
  · intro hlevel e' hmem
    rcases List.mem_append.1 hmem with hold | hnew
    · exact h.tells.round_eq_none hlevel e' hold
    · obtain rfl := List.mem_singleton.1 hnew
      rw [hmade.event_eq]
      exact line?_of_straight (h.straight hlevel) hmade.line?_eq
  · intro kind hkind
    exact canFail_of_made hoffered h hmade hkind

/-! ### Whole runs -/

theorem Fluent.finished (h : Fluent setup.level program events r) {o : Outcome}
    (hstep : r.step setup.rules s = (.finished o, r', s')) :
    Fluent setup.level program events r' := by
  cases hover : r.isOver with
  | true =>
    rw [step_of_isOver hover] at hstep
    cases hstep
    exact h
  | false =>
    obtain ⟨hend, -⟩ := of_step_eq_finished hstep
    rw [step_of_done hover (hend.resolve_left (by simp [hover]))] at hstep
    cases hstep
    refine ⟨h.wellFormed, h.straight, h.tells.of_outcome fun kind hkind => ?_⟩
    obtain ⟨reason, houtcome⟩ := Outcome.failureKind?_eq_some_iff.1 hkind
    obtain ⟨rfl, -⟩ := Goal.of_outcome_failure houtcome
    trivial

theorem Fluent.cancel {level : Level} (h : Fluent level program events r) :
    Fluent level program events r.cancel := by
  cases hover : r.isOver with
  | true =>
    rw [cancel_of_isOver hover]
    exact h
  | false =>
    rw [Run.cancel, hover]
    refine ⟨.done, fun _ => trivial, h.tells.of_outcome fun kind hkind => ?_⟩
    cases hkind
    trivial

theorem fluent_start (hoffered : ∀ placed ∈ program, placed.block ∈ setup.level.blocks) :
    Fluent setup.level program [] (start program) := by
  have hstraight : setup.level ≠ .bridge → (start program).cursor.Straight ∧
      (start program).outcome.failureKind? ≠ some .invalidProgram := by
    intro hlevel
    by_cases hne : program = []
    · subst hne
      exact ⟨trivial, nofun⟩
    · have hflat : ∀ placed ∈ program, placed.block.category ≠ .loop := fun placed hmem =>
        Setup.category_ne_loop hlevel (hoffered placed hmem)
      have hplan : Plan.ofProgram program = .ok _ := Plan.assemble_of_ne_loop fun l hl =>
        hflat l.placed (List.mem_of_getElem? (Line.getElem?_of_mem_ofProgram hl))
      rw [start_of_ofProgram hne hplan]
      exact ⟨straight_of_ne_loop hplan hflat, nofun⟩
  refine ⟨wellFormed_start program, fun hlevel => (hstraight hlevel).1, nofun,
    fun _ => nofun, ?_⟩
  intro kind hkind
  by_cases hgoal : kind = .incompleteGoal
  · rw [hgoal]
    trivial
  · by_cases hplan : kind = .invalidProgram
    · subst hplan
      show setup.level = .bridge
      exact Decidable.byContradiction fun hlevel => (hstraight hlevel).2 hkind
    · exact absurd hkind (failureKind?_start_ne program hgoal hplan)

theorem Fluent.trace (hoffered : ∀ placed ∈ program, placed.block ∈ setup.level.blocks)
    {later : List Event} (htrace : Trace setup.rules r s later r' s')
    (h : Fluent setup.level program events r) :
    Fluent setup.level program (events ++ later) r' := by
  induction htrace generalizing events with
  | nil r s =>
    rw [List.append_nil]
    exact h
  | @cons r r₁ r' s s₁ s' e later hstep hrest ih =>
    rw [List.append_cons]
    exact ih (h.step hoffered hstep)

theorem fluent_play (hoffered : ∀ placed ∈ program, placed.block ∈ setup.level.blocks)
    (i : Interruption) (s : Scene) :
    let p := setup.rules.play program i s
    Fluent setup.level program p.events p.run := by
  intro p
  have hstart : Fluent setup.level program [] (start program) := fluent_start hoffered
  cases hover : (start program).isOver with
  | true =>
    have hp : p = ⟨[], [], start program, s⟩ := Rules.play_of_isOver hover setup.rules i s
    rw [hp]
    exact hstart
  | false =>
    obtain ⟨last, htrace, hleft⟩ := Rules.exists_trace_left hover setup.rules i s
    have hlast : Fluent setup.level program p.events last := hstart.trace hoffered htrace
    generalize p.run = r at hleft ⊢
    cases hleft with
    | stopped => exact hlast.cancel
    | found hfound => exact hlast.finished hfound

end Run

/-! ## Workbenches -/

namespace Workbench

variable {w w' : Workbench} {c : Call}

theorem mem_blocks_of_stocked (hw : w.Stocked) :
    ∀ placed ∈ w.program.placed, placed.block ∈ w.setup.level.blocks := by
  intro placed hmem
  have hfound := hw.find?_eq placed hmem
  rw [hw.catalog_eq] at hfound
  exact Catalog.mem_of_find? hfound

/-- The last run was one of blocks of the level. -/
def Fluent (w : Workbench) : Prop :=
  ∀ r, w.run? = some r → ∃ program, (∀ placed ∈ program, placed.block ∈ w.setup.level.blocks) ∧
    Run.Fluent w.setup.level program w.history r

theorem Served.fluent (h : w.Served c w') (hstocked : w.Stocked) (hw : w.Fluent) :
    w'.Fluent := by
  cases h with
  | kept => exact hw
  | edited hidle hoffered => exact hw
  | restored hrenews hoffered =>
    intro r hrun
    cases hrun
  | redrawn hidle =>
    intro r hrun
    cases hrun
  | begun hidle =>
    intro r hrun
    cases hrun
    have hoffered := mem_blocks_of_stocked hstocked
    exact ⟨_, hoffered, Run.fluent_start hoffered⟩
  | stepped hrun hstep =>
    intro r hrun'
    cases hrun'
    rw [hstocked.rules_eq] at hstep
    obtain ⟨program, hoffered, hfluent⟩ := hw _ hrun
    exact ⟨program, hoffered, hfluent.step hoffered hstep⟩
  | found hrun hstep =>
    intro r hrun'
    cases hrun'
    rw [hstocked.rules_eq] at hstep
    obtain ⟨program, hoffered, hfluent⟩ := hw _ hrun
    exact ⟨program, hoffered, hfluent.finished hstep⟩
  | stopped hrun =>
    intro r hrun'
    cases hrun'
    obtain ⟨program, hoffered, hfluent⟩ := hw _ hrun
    exact ⟨program, hoffered, hfluent.cancel⟩
  | ended hidle =>
    intro r hrun
    cases hrun
    have hoffered := mem_blocks_of_stocked hstocked
    rw [hstocked.rules_eq]
    exact ⟨_, hoffered, Run.fluent_play hoffered _ w.scene⟩

theorem Reachable.fluent (h : w.Reachable) : w.Fluent := by
  induction h with
  | create hcreate =>
    obtain ⟨-, rfl⟩ := create_eq_ok_iff.1 hcreate
    intro r hrun
    cases hrun
  | call h c ih => exact (served_call _ c).fluent h.stocked ih

/-- However a workbench was come by, also with another seed than its program was put together
for: its level speaks of each block of the program, and so what is told of a run of it,
played whole or until it is stopped, and of the last run on the workbench, going on or over,
is what runs on the level tell. -/
theorem reachable_speaks (h : w.Reachable) :
    (∀ placed ∈ w.program.placed, w.rules.Speaks placed.block) ∧
    (∀ i s, w.level.Tells (w.rules.play w.program.placed i s).events
      (w.rules.play w.program.placed i s).run.outcome) ∧
    ∀ r, w.run? = some r → w.level.Tells w.history r.outcome := by
  have hoffered := mem_blocks_of_stocked h.stocked
  rw [h.stocked.rules_eq]
  refine ⟨fun placed hmem => Setup.speaks_of_mem (hoffered placed hmem),
    fun i s => (Run.fluent_play hoffered i s).tells, fun r hrun => ?_⟩
  obtain ⟨program, -, hfluent⟩ := h.fluent r hrun
  exact hfluent.tells

/-- The gauntlet drawn anew around a program that walks on past its end. -/
def strayed : Workbench :=
  (fresh (gauntlet none)).after
    [.load (List.replicate 8 "step-forward" ++ ["scan-monster", "if-troll"]), .reseed 7, .start,
      .advance, .advance, .advance, .advance, .advance, .advance, .advance, .advance, .advance,
      .advance, .advance]

/-- The wizard is told of the end of the path and of nothing to scan there, and then a check
finds nothing to read; no block was out of place. -/
theorem reachable_speaks_strayed :
    strayed.Reachable ∧ (strayed.history.filter (·.severity = .warning)).length = 2 ∧
      (∀ e ∈ strayed.history, e.severity = .warning →
        e.message ∉ Effect.lostMessages e.label) ∧
      ∃ r, strayed.run? = some r ∧ r.outcome.failureKind? = some .missingPrecondition ∧
        r.outcome.failureKind? ≠ some .invalidArithmetic := by
  have hreach : strayed.Reachable :=
    (Reachable.create (create_eq_ok_iff.2 ⟨rfl, rfl⟩)).after _
  obtain ⟨-, -, htold⟩ := reachable_speaks hreach
  obtain ⟨r, hrun, hkind⟩ : ∃ r, strayed.run? = some r ∧
      r.outcome.failureKind? = some .missingPrecondition := by
    have hfailed : strayed.run?.any
        (fun r => r.outcome.failureKind? = some .missingPrecondition) = true := by
      decide +kernel
    simpa [Option.any_eq_true] using hfailed
  refine ⟨hreach, by decide +kernel, (htold r hrun).not_lost, r, hrun, hkind, fun hbad => ?_⟩
  rcases (htold r hrun).canFail _ hbad with hlevel | hlevel
  · exact absurd hlevel (by decide +kernel)
  · exact absurd hlevel (by decide +kernel)

end Workbench

end Spellbook

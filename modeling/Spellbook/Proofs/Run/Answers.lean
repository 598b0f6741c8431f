import Spellbook.Level.Rules
import Spellbook.Program
import Spellbook.Proofs.Run.Start
set_option autoImplicit false

/-!
# Answers that wait for an action

A run keeps the answer of its last check until an action takes it.  `pendingAnswer` reads
the answer that is pending off the events alone: the latest of them whose block checks or
acts decides.  What a run keeps is this answer (`answer_eq_pendingAnswer`), through rounds,
loop markers and blocks of any other kind, and an action that needs a check goes by it
(`step_by_pendingAnswer`).
-/

namespace Spellbook

/-! ## What a block leaves pending -/

/-- The answer that a block leaves to the next action, if it decides about it at all: a
condition that compares leaves what holds of its variable, and an action leaves none. -/
def Block.leaves? (b : Block) (vars : Bindings) : Option (Option Bool) :=
  match b.category, b.op with
  | .action, _ => some none
  | .condition, .compare name comparison value =>
    some ((vars.get? name).map (fun current => comparison.holds current value))
  | _, _ => none

/-- What the block of an event leaves pending. -/
def Event.leaves? (program : List Placed) (e : Event) : Option (Option Bool) :=
  program[e.index]?.bind (fun placed => placed.block.leaves? e.scene.vars)

/-- The answer that is pending behind some events: the one that the latest of them has left
which decides about it, and none if there is no such event. -/
def pendingAnswer (program : List Placed) (events : List Event) : Option Bool :=
  (events.filterMap (Event.leaves? program)).getLast?.join

/-- An action that runs only behind a check that held.  A celebration waits for nothing. -/
def Rules.Gates (rules : Rules) (b : Block) : Prop :=
  b.category = .action ∧ b.op ≠ .celebrate ∧ rules.needsCheck b.op = true

@[simp] theorem pendingAnswer_nil (program : List Placed) : pendingAnswer program [] = none :=
  rfl

theorem pendingAnswer_append_singleton (program : List Placed) (events : List Event)
    (e : Event) :
    pendingAnswer program (events ++ [e]) =
      (e.leaves? program).getD (pendingAnswer program events) := by
  cases hleaves : e.leaves? program <;> simp [pendingAnswer, hleaves]

/-- Just the paths at the crossroads and the spells of the gauntlet need a check. -/
theorem Setup.gates_iff {setup : Setup} {rules : Rules}
    (hchecks : rules.needsCheck = setup.rules.needsCheck) (b : Block) :
    rules.Gates b ↔ b.category = .action ∧
      ((setup.level = .crossroads ∧ ∃ path, b.op = .takePath path) ∨
        (setup.level = .combat ∧ ∃ spell, b.op = .castSpell spell)) := by
  unfold Rules.Gates
  rw [hchecks]
  rw [Setup.rules_eq]
  cases setup.level with
  | collection => simp [Potion.rules]
  | bridge => simp [Bridge.rules]
  | crossroads => cases b.op <;> simp [Crossroads.rules, Crossroads.supports]
  | combat => cases b.op <;> simp [Gauntlet.rules, Gauntlet.supports]

namespace Block

variable {rules : Rules} {b : Block} {answer : Option Bool} {s : Scene}

/-! ## What a block does with the answer -/

theorem answer_run_of_action (h : b.category = .action) (rules : Rules)
    (answer : Option Bool) (s : Scene) : (b.run rules answer s).answer = none := by
  simp [run, h]

theorem answer_run_of_leaves_none {vars : Bindings} (h : b.leaves? vars = none)
    (rules : Rules) (answer : Option Bool) (s : Scene) :
    (b.run rules answer s).answer = answer := by
  unfold leaves? at h
  unfold run
  cases hcategory : b.category with
  | condition =>
    cases hop : b.op <;> simp [hcategory, hop] at h <;> simp [runCondition, hop]
  | action => simp [hcategory] at h
  | binding => rfl
  | movement => rfl
  | math => rfl
  | loop => rfl
  | marker => rfl

/-- A block that does not fail passes on what it leaves, or the answer from before. -/
theorem answer_run (hgood : (b.run rules answer s).effect.outcome = .running) :
    (b.run rules answer s).answer =
      (b.leaves? (b.run rules answer s).scene.vars).getD answer := by
  cases hcategory : b.category with
  | action =>
    rw [answer_run_of_action hcategory]
    simp [leaves?, hcategory]
  | condition =>
    cases hop : b.op with
    | compare name comparison value =>
      simp only [run, hcategory, runCondition, leaves?, hop] at hgood ⊢
      cases hvalue : s.vars.get? name with
      | none =>
        -- Without its variable the condition fails.
        simp [hvalue, missingVariable, Effect.outcome] at hgood
      | some current => rfl
    | _ =>
      have hnone : ∀ vars, b.leaves? vars = none := by simp [leaves?, hcategory, hop]
      rw [answer_run_of_leaves_none (hnone s.vars), hnone]
      rfl
  | _ =>
    have hnone : ∀ vars, b.leaves? vars = none := by simp [leaves?, hcategory]
    rw [answer_run_of_leaves_none (hnone s.vars), hnone]
    rfl

/-! ## Actions that need a check -/

theorem run_of_gates (h : rules.Gates b) (answer : Option Bool) (s : Scene) :
    b.run rules answer s =
      match answer with
      | none => ⟨.fail .missingPrecondition
          s!"\"{b.label}\" needs a check right before it. Add an \"if\" block first.", s, none⟩
      | some false => ⟨.done s!"The check said no, so \"{b.label}\" is skipped.", s, none⟩
      | some true => ⟨(rules.perform b.op s).1, (rules.perform b.op s).2, none⟩ := by
  obtain ⟨hcategory, hop, hcheck⟩ := h
  unfold run runAction
  simp only [hcategory, if_neg hop, if_pos hcheck]
  cases answer with
  | none => rfl
  | some held => cases held <;> rfl

end Block

namespace Run

/-! ## What a run keeps -/

variable {program : List Placed} {rules : Rules} {r r' : Run} {s s' : Scene} {e : Event}
  {line : Line} {round : Option Nat}

/-- The program has the block of an event where the event says. -/
theorem Made.getElem?_index (h : Made r rules s e r' s' line round)
    (hcursor : r.cursor.WellFormed program) : program[e.index]? = some line.placed := by
  rw [h.event_eq]
  exact hcursor.getElem?_of_line h.line?_eq

/-- A step that is not made on an end marker runs a block, whatever the rules are. -/
theorem Made.performed_eq_run (h : Made r rules s e r' s' line round)
    (hcursor : r.cursor.WellFormed program) (hcategory : line.category ≠ .marker)
    (rules' : Rules) : r.performed line rules' s = line.block.run rules' r.answer s := by
  rcases hcursor.perform_cases h.line?_eq rules' r.answer s with hrun | ⟨hmarker, -⟩
  · exact hrun
  · exact absurd hmarker hcategory

/-- An action is never an end marker. -/
theorem Made.performed_eq_run_of_action (h : Made r rules s e r' s' line round)
    (hcursor : r.cursor.WellFormed program) (hcategory : line.block.category = .action) :
    r.performed line rules s = line.block.run rules r.answer s := by
  have hother : line.category ≠ .marker := by
    rw [Line.category, show line.placed.block.category = .action from hcategory]
    decide
  exact h.performed_eq_run hcursor hother rules

theorem Made.answer_eq_of_leaves_none (h : Made r rules s e r' s' line round)
    (hcursor : r.cursor.WellFormed program) {vars : Bindings}
    (hleaves : line.block.leaves? vars = none) : r'.answer = r.answer := by
  rw [h.answer_eq, performed]
  rcases hcursor.perform_cases h.line?_eq rules r.answer s with hrun | ⟨-, rounds, hclose⟩
  · rw [hrun, Block.answer_run_of_leaves_none hleaves]
  · rw [hclose]

/-- A step that its run survives decides about the answer as its event says. -/
theorem Made.answer_eq_getD (h : Made r rules s e r' s' line round)
    (hcursor : r.cursor.WellFormed program) (hrunning : r'.isOver = false) :
    r'.answer = (e.leaves? program).getD r.answer := by
  have hleaves : e.leaves? program = line.block.leaves? e.scene.vars := by
    rw [Event.leaves?, h.getElem?_index hcursor]
    rfl
  by_cases hcategory : line.category = .marker
  · have hnone : line.block.leaves? e.scene.vars = none := by
      simp [Block.leaves?, show line.block.category = .marker from hcategory]
    rw [hleaves, hnone, h.answer_eq_of_leaves_none hcursor hnone]
    rfl
  · have hrun := h.performed_eq_run hcursor hcategory rules
    have hscene : e.scene = (r.performed line rules s).scene := by
      rw [h.event_eq]
      rfl
    have hsettles := h.settles
    rw [isFinal_eq_false_iff.1 hrunning] at hsettles
    have hgood := hsettles.good_of_running
    rw [hrun] at hgood
    rw [hleaves, h.answer_eq, hscene, hrun, Block.answer_run hgood]

/-- A run that keeps what some earlier events have left goes on to keep what these and its
own events leave, as long as it is not over. -/
theorem answer_after (calls : List Call) {r : Run} {before : List Event}
    (hcursor : r.cursor.WellFormed program) (hanswer : r.answer = pendingAnswer program before)
    (hrunning : (r.after calls).isOver = false) :
    (r.after calls).answer = pendingAnswer program (before ++ r.events calls) := by
  induction calls generalizing r before with
  | nil => rw [after_nil, events_nil, List.append_nil, hanswer]
  | cons c rest ih =>
    rw [after_cons] at hrunning ⊢
    -- What is over stays over, so the run was not over behind this call either.
    have hgoing : (r.call c).isOver = false := by
      cases hover : (r.call c).isOver with
      | false => rfl
      | true => rw [after_of_isOver hover, hover] at hrunning; cases hrunning
    cases c with
    | cancel =>
      rw [call, isOver_cancel] at hgoing
      cases hgoing
    | step rules s =>
      rcases hstep : r.step rules s with ⟨a, r', s'⟩
      have hcall : r.call (.step rules s) = r' := by
        rw [call, hstep]
      have hcursor' := wellFormed_call hcursor (.step rules s)
      rw [hcall] at hgoing hcursor' hrunning ⊢
      cases a with
      | finished o =>
        obtain ⟨-, rfl, -, hfinal⟩ := of_step_eq_finished hstep
        rw [isOver, hfinal] at hgoing
        cases hgoing
      | step e =>
        obtain ⟨line, round, hmade⟩ := made_of_step_eq hstep
        have hkept : r'.answer = pendingAnswer program (before ++ [e]) := by
          rw [hmade.answer_eq_getD hcursor hgoing, pendingAnswer_append_singleton, hanswer]
        rw [events_cons_of_step hstep, ih hcursor' hkept hrunning, List.append_assoc,
          List.singleton_append]

/-- As long as a run is not over, it keeps the answer that its events have left, whatever
was called on it in whatever scenes and under whatever rules. -/
theorem answer_eq_pendingAnswer {calls : List Call}
    (hrunning : ((start program).after calls).isOver = false) :
    ((start program).after calls).answer = pendingAnswer program ((start program).events calls) := by
  have hnone : (start program).answer = pendingAnswer program [] := by
    rw [pendingAnswer_nil]
    unfold start
    split
    · rfl
    · split <;> rfl
  exact answer_after calls (wellFormed_start program) hnone hrunning

/-! ## Steps of actions that need a check -/

/-- How the step `e` of the action `b` goes that needs a check, if `pending` is the answer
before it. -/
structure Gated (rules : Rules) (b : Block) (pending : Option Bool) (r : Run) (s : Scene)
    (e : Event) (r' : Run) (s' : Scene) : Prop where
  /-- Without a check the run fails there. -/
  unchecked : pending = none →
    e.severity = .failure ∧ s' = s ∧ r'.outcome = .failure .missingPrecondition e.message
  /-- Behind a check that said no, nothing happens. -/
  skipped : pending = some false → e.severity = .info ∧ s' = s
  /-- Behind a check that said yes, the level performs the action. -/
  performed : pending = some true →
    (e.message, e.severity, s') =
      let done := rules.perform b.op s
      (done.1.message, done.1.severity, done.2)
  /-- Else it is all the same what the level would have done. -/
  aloof : pending ≠ some true → ∀ perform,
    r.step { rules with perform := perform } s = r.step rules s

theorem Made.gated {b : Block} (h : Made r rules s e r' s' line round)
    (hgates : rules.Gates b)
    (hperform : ∀ rules : Rules, r.performed line rules s = b.run rules r.answer s) :
    Gated rules b r.answer r s e r' s' := by
  have hrun := Block.run_of_gates hgates r.answer s
  have hevent := h.event_eq
  have hscene := h.scene_eq
  have hsettles := h.settles
  rw [hperform] at hevent hscene hsettles
  refine ⟨?_, ?_, ?_, ?_⟩
  · intro hnone
    rw [hrun, hnone] at hevent hscene hsettles
    have houtcome := hsettles.outcome_of_fail rfl
    rw [houtcome, hevent, hscene]
    exact ⟨rfl, rfl, rfl⟩
  · intro hno
    rw [hrun, hno] at hevent hscene
    rw [hevent, hscene]
    exact ⟨rfl, rfl⟩
  · intro hyes
    rw [hrun, hyes] at hevent hscene
    rw [hevent, hscene]
    rfl
  · intro hother perform
    have hgates' : ({ rules with perform := perform } : Rules).Gates b := hgates
    have hsame : b.run { rules with perform := perform } r.answer s = b.run rules r.answer s := by
      rw [hrun, Block.run_of_gates hgates']
      cases hanswer : r.answer with
      | none => rfl
      | some held =>
        cases held with
        | false => rfl
        | true => exact absurd hanswer hother
    rw [step_of_line h.isOver_eq h.line?_eq, step_of_line h.isOver_eq h.line?_eq, hperform,
      hperform, hsame]
    rfl

/-- Before each step of a run, whatever was called on it, the answer that it keeps is the
one that its events have left.  An action takes it, performed or not; all other blocks but
comparing conditions, and the markers of loops, pass it on.  By this answer an action goes
that needs a check, and on the four levels these are the paths and the spells. -/
theorem step_by_pendingAnswer {calls : List Call}
    (hstep : ((start program).after calls).step rules s = (.step e, r', s')) :
    let r := (start program).after calls
    let pending := pendingAnswer program ((start program).events calls)
    r.answer = pending ∧
      ∃ placed, program[e.index]? = some placed ∧
        (placed.block.category = .action → r'.answer = none) ∧
        (placed.block.leaves? e.scene.vars = none → r'.answer = pending) ∧
        (rules.Gates placed.block → Gated rules placed.block pending r s e r' s') ∧
        ∀ setup : Setup, rules.needsCheck = setup.rules.needsCheck →
          (rules.Gates placed.block ↔ placed.block.category = .action ∧
            ((setup.level = .crossroads ∧ ∃ path, placed.block.op = .takePath path) ∨
              (setup.level = .combat ∧ ∃ spell, placed.block.op = .castSpell spell))) := by
  intro r pending
  obtain ⟨line, round, hmade⟩ := made_of_step_eq hstep
  have hcursor := wellFormed_after program calls
  have hpending : r.answer = pending := answer_eq_pendingAnswer hmade.isOver_eq
  have hplaced := hmade.getElem?_index hcursor
  have hacts : line.block.category = .action → line.category ≠ .marker := by
    intro haction hmarker
    rw [show line.block.category = .marker from hmarker] at haction
    cases haction
  refine ⟨hpending, line.placed, hplaced, ?_, ?_, ?_, ?_⟩
  · intro haction
    rw [hmade.answer_eq, hmade.performed_eq_run hcursor (hacts haction)]
    exact Block.answer_run_of_action haction _ _ _
  · intro hleaves
    rw [← hpending]
    exact hmade.answer_eq_of_leaves_none hcursor hleaves
  · intro hgates
    rw [← hpending]
    exact hmade.gated hgates (hmade.performed_eq_run hcursor (hacts hgates.1))
  · intro setup hchecks
    exact Setup.gates_iff hchecks line.block

/-- The wizard asks for rain and walks on before taking the path through the forest. -/
def askingForRain : List Placed :=
  (Program.ofIds (Crossroads.rules .sunny).blocks
    ["check-weather", "if-rainy", "step-forward", "take-forest-path"]).placed

/-- On a sunny day the answer is no, it outlasts the walk, and the path is not taken. -/
theorem step_askingForRain :
    let rules := Crossroads.rules .sunny
    let s := rules.openingScene.setVariable "weather" (.text "sunny")
    let calls := [Call.step rules s, Call.step rules s, Call.step rules s]
    ∃ e r' s', ((start askingForRain).after calls).step rules s = (.step e, r', s') ∧
      e.blockId = "take-forest-path" ∧
      pendingAnswer askingForRain ((start askingForRain).events calls) = some false ∧
      e.severity = .info ∧ s' = s ∧ r'.answer = none := by
  intro rules s calls
  have hshown : (((start askingForRain).after calls).step rules s).1.event?.map
      (fun e => (e.blockId, e.index)) = some ("take-forest-path", 3) := by
    decide +kernel
  obtain ⟨e, r', s', hstep, hid, hindex⟩ : ∃ e r' s',
      ((start askingForRain).after calls).step rules s = (.step e, r', s') ∧
        e.blockId = "take-forest-path" ∧ e.index = 3 := by
    rcases hstep : ((start askingForRain).after calls).step rules s with ⟨a, r', s'⟩
    rw [hstep] at hshown
    cases a with
    | finished o => cases hshown
    | step e =>
      obtain ⟨hid, hindex⟩ := Prod.mk.inj (Option.some.inj hshown)
      exact ⟨e, r', s', rfl, hid, hindex⟩
  obtain ⟨hanswer, placed, hplaced, htaken, -, hgated, hlevels⟩ := step_by_pendingAnswer hstep
  have hpending : pendingAnswer askingForRain ((start askingForRain).events calls) =
      some false := by
    rw [← hanswer]
    decide +kernel
  have hblock : placed.block.category = .action ∧ placed.block.op = .takePath .forest := by
    have hthird : askingForRain[3]? = some placed := by rw [← hindex, hplaced]
    have hop : (askingForRain[3]?.map (fun placed => placed.block.category),
        askingForRain[3]?.map (fun placed => placed.block.op)) =
          (some .action, some (.takePath .forest)) := by
      decide +kernel
    rw [hthird] at hop
    simpa using hop
  have hgates : rules.Gates placed.block :=
    (hlevels ⟨.crossroads, none, none, some .sunny, none⟩ rfl).2
      ⟨hblock.1, .inl ⟨rfl, .forest, hblock.2⟩⟩
  obtain ⟨hseverity, hscene⟩ := (hgated hgates).skipped hpending
  exact ⟨e, r', s', hstep, hid, hpending, hseverity, hscene, htaken hblock.1⟩

end Run

end Spellbook

import Spellbook.Proofs.Run.Explained
import Spellbook.Proofs.Run.Success
set_option autoImplicit false

/-!
# Where a wrong choice is made

A run that ends with a wrong choice has made it in its last step, which is an action that
the level has performed (`Block.of_wrong_run`).  In a program without loops the blocks run
one after the other, so an action that needs a check goes by the block right before it, if
that one is a check (`Trace.exists_wrongAt`).
-/

namespace Spellbook

open Run (start Trace)

namespace Block

variable {rules : Rules} {b : Block} {answer : Option Bool} {s : Scene} {reason : String}

/-- Just an action makes a wrong choice, when the level performs it: if it needs a check,
then behind one that said yes. -/
theorem of_wrong_run (h : (b.run rules answer s).effect = .fail .wrongChoice reason) :
    (b.category = .action ∧ b.op ≠ .celebrate) ∧
      (rules.perform b.op s).1 = .fail .wrongChoice reason ∧
      (rules.needsCheck b.op = true → answer = some true) := by
  have hcategory : b.category = .action := by
    apply Classical.byContradiction
    intro hother
    rcases plain_run hother rules answer s _ _ h with hkind | hkind <;> cases hkind
  simp only [run, hcategory, runAction] at h
  split at h
  · cases h
  · rename_i hop
    refine ⟨⟨hcategory, hop⟩, ?_⟩
    split at h
    · split at h
      · cases h
      · cases h
      · exact ⟨h, fun _ => rfl⟩
    · rename_i hcheck
      exact ⟨h, fun hneeds => absurd hneeds hcheck⟩

end Block

namespace Run

variable {program : List Placed} {rules : Rules} {r r' : Run} {s s' : Scene} {e : Event}
  {line : Line} {round : Option Nat} {events : List Event} {last : Run}

/-! ## The last step -/

/-- A run that is left with a wrong choice has stood so before. -/
theorem Left.outcome_of_wrong (h : Left rules last s r')
    (hwrong : r'.outcome.failureKind? = some .wrongChoice) :
    last.outcome.failureKind? = some .wrongChoice := by
  cases hover : last.isOver with
  | true =>
    rw [h.eq_of_isOver hover] at hwrong
    exact hwrong
  | false =>
    -- The goal is never a wrong choice.
    obtain hstopped | ⟨-, houtcome⟩ := h.of_not_isOver hover
    · rw [hwrong] at hstopped
      cases hstopped
    · rw [houtcome] at hwrong
      obtain ⟨reason, hgoal⟩ := Outcome.failureKind?_eq_some_iff.1 hwrong
      cases (Goal.of_outcome_failure hgoal).1

/-- A refused program has no goal to reach, or no plan. -/
theorem failureKind?_start_ne (program : List Placed) {kind : FailureKind}
    (hgoal : kind ≠ .incompleteGoal) (hplan : kind ≠ .invalidProgram) :
    (start program).outcome.failureKind? ≠ some kind := by
  unfold start
  split
  · simpa [refused, emptyProgram, Outcome.failureKind?] using hgoal.symm
  · split
    · simp [Outcome.failureKind?]
    · simpa [refused, nestedLoops, Outcome.failureKind?] using hplan.symm

/-- A step that ends its run with a wrong choice is an action that the level performs. -/
theorem Made.of_wrong (h : Made r rules s e r' s' line round)
    (hcursor : r.cursor.WellFormed program)
    (hwrong : r'.outcome.failureKind? = some .wrongChoice) :
    ∃ reason, (line.block.category = .action ∧ line.block.op ≠ .celebrate) ∧
      (rules.perform line.block.op s).1 = .fail .wrongChoice reason ∧
      (rules.needsCheck line.block.op = true → r.answer = some true) := by
  obtain ⟨reason, houtcome⟩ := Outcome.failureKind?_eq_some_iff.1 hwrong
  refine ⟨reason, ?_⟩
  obtain heffect | ⟨fault, hkind⟩ := h.of_failure houtcome
  · rw [performed] at heffect
    rcases hcursor.perform_cases h.line?_eq rules r.answer s with hrun | ⟨-, rounds, hclose⟩
    · rw [hrun] at heffect
      exact Block.of_wrong_run heffect
    · rw [hclose] at heffect
      cases heffect
  · rcases fault.kind_eq with heq | heq <;> rw [heq] at hkind <;> cases hkind

/-- The step with which a trace has come to a wrong choice. -/
theorem Trace.exists_wrong_step (h : Trace rules (start program) s events last s')
    (hwrong : last.outcome.failureKind? = some .wrongChoice) :
    ∃ before r s₁ e line round, Trace rules (start program) s before r s₁ ∧
      Made r rules s₁ e last s' line round := by
  obtain rfl | ⟨before, r, e, line, round, hbefore, hmade⟩ := h.eq_start_or_made
  · exact absurd hwrong (failureKind?_start_ne program nofun nofun)
  · exact ⟨before, r, _, e, line, round, hbefore, hmade⟩

/-! ## What every block keeps -/

theorem Made.keeps {P : Scene → Prop} (h : Made r rules s e r' s' line round)
    (hcursor : r.cursor.WellFormed program)
    (hkeeps : ∀ placed ∈ program, ∀ answer s, P s → P (placed.block.run rules answer s).scene)
    (hs : P s) : P s' := by
  rw [h.scene_eq, performed]
  rcases hcursor.perform_cases h.line?_eq rules r.answer s with hrun | ⟨-, rounds, hclose⟩
  · rw [hrun]
    exact hkeeps line.placed (List.mem_of_getElem? (hcursor.getElem?_of_line h.line?_eq)) _ s hs
  · rw [hclose]
    exact hs

/-- What every block of a program keeps holds all along its runs. -/
theorem Trace.keeps {P : Scene → Prop} (h : Trace rules r s events r' s')
    (hcursor : r.cursor.WellFormed program)
    (hkeeps : ∀ placed ∈ program, ∀ answer s, P s → P (placed.block.run rules answer s).scene)
    (hs : P s) : P s' := by
  induction h with
  | nil r s => exact hs
  | @cons r r₁ r' s s₁ s' e events hstep hrest ih =>
    obtain ⟨line, round, hmade⟩ := made_of_step_eq hstep
    have hnext := wellFormed_call hcursor (.step rules s)
    rw [call, hstep] at hnext
    exact ih hnext (hmade.keeps hcursor hkeeps hs)

/-! ## Programs without loops -/

/-- A run of single blocks has run as many of them as it has events. -/
theorem Trace.cursor_of_singles {lines : List Line} (h : Trace rules r s events r' s')
    (hcursor : r.cursor = .ofItems (lines.map .single)) (hgoing : r'.isOver = false) :
    r'.cursor = .ofItems ((lines.drop events.length).map .single) := by
  induction h generalizing lines with
  | nil r s => exact hcursor
  | @cons r r₁ r' s s₁ s' e events hstep hrest ih =>
    obtain ⟨line, round, hmade⟩ := made_of_step_eq hstep
    have hrunning : r₁.outcome = .running :=
      isFinal_eq_false_iff.1 (hrest.isOver_eq_false hgoing)
    cases lines with
    | nil =>
      have hline := hmade.line?_eq
      rw [hcursor] at hline
      cases hline
    | cons first rest =>
      have hnext := hmade.next_eq_ok hrunning
      rw [hcursor] at hnext
      exact ih (Except.ok.inj hnext).symm hgoing

theorem cursor_start_of_ne_loop (hflat : ∀ placed ∈ program, placed.block.category ≠ .loop)
    (hover : (start program).isOver = false) :
    (start program).cursor = .ofItems ((Line.ofProgram program).map .single) := by
  obtain ⟨hne, items, hplan⟩ := exists_ofProgram_of_start hover
  have hlines : ∀ l ∈ Line.ofProgram program, l.category ≠ .loop := by
    intro l hl
    exact hflat l.placed (List.mem_of_getElem? (Line.getElem?_of_mem_ofProgram hl))
  have hsingles := Plan.assemble_of_ne_loop hlines
  rw [← Plan.ofProgram, hplan] at hsingles
  rw [start_of_ofProgram hne hplan, Except.ok.inj hsingles]

/-- Without loops the blocks run one after the other. -/
theorem Trace.line_of_ne_loop (hflat : ∀ placed ∈ program, placed.block.category ≠ .loop)
    (h : Trace rules (start program) s events r s') {r'' : Run} {s'' : Scene}
    (hmade : Made r rules s' e r'' s'' line round) :
    line.index = events.length ∧ program[events.length]? = some line.placed := by
  have hover : (start program).isOver = false := h.isOver_eq_false hmade.isOver_eq
  have hline := hmade.line?_eq
  rw [h.cursor_of_singles (cursor_start_of_ne_loop hflat hover) hmade.isOver_eq] at hline
  have hshown : (Line.ofProgram program)[events.length]? = some line := by
    rw [← List.head?_drop]
    cases hleft : (Line.ofProgram program).drop events.length with
    | nil =>
      rw [hleft] at hline
      cases hline
    | cons first rest =>
      rw [hleft] at hline
      cases hline
      rfl
  rw [Line.getElem?_ofProgram] at hshown
  obtain ⟨placed, hplaced, rfl⟩ := Option.map_eq_some_iff.1 hshown
  exact ⟨rfl, hplaced⟩

/-- Without loops a run that goes on keeps the answer that the block right before has left,
if that one decides about it. -/
theorem Trace.answer_of_ne_loop (hflat : ∀ placed ∈ program, placed.block.category ≠ .loop)
    (h : Trace rules (start program) s events r s') (hgoing : r.isOver = false) {k : Nat}
    (hlength : events.length = k + 1) {asked : Placed} (hasked : program[k]? = some asked)
    {left : Option Bool} (hleaves : asked.block.leaves? s'.vars = some left) :
    r.answer = left := by
  obtain rfl | ⟨before, e, rfl⟩ := List.eq_nil_or_concat events
  · cases hlength
  · rw [List.concat_eq_append] at h hlength
    have hk : before.length = k := by simpa using hlength
    obtain ⟨r₁, s₁, next, hbefore, hstep, hafter⟩ := h.step_of_eq_append
    cases hafter
    obtain ⟨line, round, hmade⟩ := made_of_step_eq hstep
    obtain ⟨hindex, -⟩ := hbefore.line_of_ne_loop hflat hmade
    have hevent : e.leaves? program = some left := by
      have hplace : e.index = k := by
        rw [hmade.event_eq, ← hk]
        exact hindex
      rw [Event.leaves?, hplace, hasked]
      exact hleaves
    rw [h.answer_eq_pendingAnswer hgoing, pendingAnswer_append_singleton, hevent]
    rfl

/-- A program makes its wrong choice with this block in this scene: the level performs it,
and if it needs a check, then the one right before has said yes. -/
structure WrongAt (rules : Rules) (before : List Placed) (placed : Placed) (s : Scene) :
    Prop where
  acts : placed.block.category = .action ∧ placed.block.op ≠ .celebrate
  wrong : ∃ reason, (rules.perform placed.block.op s).1 = .fail .wrongChoice reason
  leaves : rules.needsCheck placed.block.op = true → ∀ asked ∈ before.getLast?, ∀ left,
    asked.block.leaves? s.vars = some left → left = some true

/-- Without loops a wrong choice is made by some block of the program, in a scene to which
the blocks before it have led. -/
theorem Trace.exists_wrongAt (hflat : ∀ placed ∈ program, placed.block.category ≠ .loop)
    (h : Trace rules (start program) s events last s')
    (hwrong : last.outcome.failureKind? = some .wrongChoice) :
    ∃ before placed after told r s₁, program = before ++ placed :: after ∧
      Trace rules (start program) s told r s₁ ∧ WrongAt rules before placed s₁ := by
  obtain ⟨told, r, s₁, e, line, round, htold, hmade⟩ := h.exists_wrong_step hwrong
  obtain ⟨reason, hacts, hperform, hanswer⟩ := hmade.of_wrong htold.wellFormed hwrong
  obtain ⟨-, hplaced⟩ := htold.line_of_ne_loop hflat hmade
  obtain ⟨hlt, hget⟩ := List.getElem?_eq_some_iff.1 hplaced
  have hprogram : program =
      program.take told.length ++ line.placed :: program.drop (told.length + 1) := by
    rw [← hget, ← List.drop_eq_getElem_cons hlt, List.take_append_drop]
  refine ⟨_, _, _, told, r, s₁, hprogram, htold, hacts, ⟨reason, hperform⟩, ?_⟩
  intro hneeds asked hasked left hleaves
  rw [← hanswer hneeds]
  cases hlength : told.length with
  | zero =>
    rw [hlength] at hasked
    cases hasked
  | succ k =>
    rw [hlength] at hasked hlt
    have hbefore : program[k]? = some asked := by
      have hk : k < program.length := Nat.lt_of_succ_lt hlt
      simpa [List.getLast?_take, hk] using hasked
    exact (htold.answer_of_ne_loop hflat hmade.isOver_eq hlength hbefore hleaves).symm

end Run

namespace Rules

/-- No run of the program ends with a wrong choice, neither whole, whenever it is stopped,
nor step by step. -/
def NeverWrong (rules : Rules) (program : List Placed) : Prop :=
  (∀ i s, (rules.play program i s).run.outcome.failureKind? ≠ some .wrongChoice) ∧
    ∀ events last s', Trace rules (start program) rules.openingScene events last s' →
      last.outcome.failureKind? ≠ some .wrongChoice

theorem neverWrong_of_trace {rules : Rules} {program : List Placed}
    (h : ∀ events last s', Trace rules (start program) rules.openingScene events last s' →
      last.outcome.failureKind? ≠ some .wrongChoice) : rules.NeverWrong program := by
  refine ⟨?_, h⟩
  intro i s hwrong
  cases hover : (start program).isOver with
  | true =>
    rw [play_of_isOver hover] at hwrong
    exact absurd hwrong (Run.failureKind?_start_ne program nofun nofun)
  | false =>
    rw [play_of_not_isOver hover] at hwrong
    obtain ⟨last, htrace, hleft⟩ :=
      Run.exists_trace_drive_left rules i 0 0 (start program) rules.openingScene
    exact h _ last _ htrace (hleft.outcome_of_wrong hwrong)

end Rules

end Spellbook

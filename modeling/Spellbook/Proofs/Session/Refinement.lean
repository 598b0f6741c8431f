import Spellbook.Proofs.Plan.Partition
import Spellbook.Proofs.Session.Moves
set_option autoImplicit false

/-!
# Sessions follow runs

A session and a run of the same program do the same, the one by number and the other with the
blocks at hand.  `Session.Follows` is kept by a step (`Follows.keeps`) and by stopping
(`Follows.cancel`), so it holds after any calls (`Follows.after`); and a session that follows a
run finds all that it looks up.
-/

namespace Spellbook

open Plan (Item)

namespace Session

variable {items : List Item} {t t' : Session} {r : Run} {i round : Nat} {line : Line} {done : Step}

/-! ## A session follows a run -/

/-- The session is what the run is by number.  It stands where the cursor of the run does, and
when a block has ended the run, perhaps behind it. -/
structure Follows (items : List Item) (t : Session) (r : Run) : Prop where
  laid : t.Laid items
  program_eq : t.program = r.program
  answer_eq : t.answer = r.answer
  outcome_eq : t.outcome = r.outcome
  executed_eq : t.executed = r.executed
  stands : t.pointer.Holds items r.cursor ∨ r.isOver = true ∧ t.pointer.Behind items

theorem Follows.isOver_eq (h : Follows items t r) : t.isOver = r.isOver := by
  rw [isOver, h.outcome_eq, Run.isOver]

theorem judge_of_isOver (h : t.isOver = true) (rules : Rules) (s : Scene) :
    t.judge rules s = t := by
  simp [judge, h]

theorem judge_of_met {rules : Rules} {s : Scene} {message : String} (h : t.outcome = .running)
    (heager : rules.eager = true) (hmet : rules.goal s = .met message) :
    t.judge rules s = { t with pointer := .done, outcome := .success message } := by
  have hover : t.isOver = false := congrArg Outcome.isFinal h
  simp [judge, hover, heager, hmet]

theorem judge_of_unmet {rules : Rules} {s : Scene}
    (h : rules.eager = true → ∀ message, rules.goal s ≠ .met message) (t : Session) :
    t.judge rules s = t := by
  unfold judge
  split
  · rename_i heager
    split
    · rename_i message hmet
      exact absurd hmet (h (Bool.and_eq_true_iff.1 heager).2 message)
    · rfl
  · rfl

/-- A step that a session leaves as a cursor does comes to what the step of the run comes to. -/
theorem Left.follows (hleft : Left items r.cursor done t t') (h : Follows items t r)
    (hrunning : r.outcome = .running) (rules : Rules) :
    Follows items (t'.judge rules done.scene)
      { r with
        cursor := (Run.settle r.cursor rules done).1
        answer := done.answer
        outcome := (Run.settle r.cursor rules done).2
        executed := r.executed + 1 } := by
  have hsettles := Run.settles_settle r.cursor rules done
  generalize (Run.settle r.cursor rules done).1 = c, (Run.settle r.cursor rules done).2 = o
    at hsettles ⊢
  have houtcome := outcome_ran (h.outcome_eq.trans hrunning) done
  have hexecuted : (t.ran done).executed = r.executed + 1 := by
    rw [executed_ran, h.executed_eq]
  have hprogram : (t.ran done).program = r.program := (program_ran t done).trans h.program_eq
  have hlaid := h.laid.ran done
  cases hleft with
  | @failed kind reason p heffect hp =>
    have hfail : (t.ran done).outcome = .failure kind reason := by rw [houtcome, heffect]; rfl
    have hover : ((t.ran done).goTo p).isOver = true := by rw [isOver, goTo, hfail]; rfl
    obtain rfl := hsettles.outcome_of_fail heffect
    rw [judge_of_isOver hover]
    exact ⟨hlaid.of_eq rfl rfl, hprogram, answer_ran t done, hfail, hexecuted, .inr ⟨rfl, hp⟩⟩
  | moved hgood hmoved =>
    rw [hgood] at houtcome
    generalize hnext : r.cursor.next done.scene.vars = next at hmoved
    cases hsettles with
    | failed heffect =>
      rw [heffect] at hgood
      cases hgood
    | halted _ hfault =>
      cases hnext.symm.trans hfault
      cases hmoved
      rw [judge_of_isOver rfl]
      exact ⟨hlaid.of_eq rfl rfl, hprogram, answer_ran t done, rfl, hexecuted, .inl .done⟩
    | won _ hok heager hmet =>
      cases hnext.symm.trans hok
      cases hmoved with
      | @onward p _ hholds =>
        have hgoing : ((t.ran done).goTo p).outcome = .running := houtcome
        rw [judge_of_met hgoing heager hmet]
        exact ⟨hlaid.of_eq rfl rfl, hprogram, answer_ran t done, rfl, hexecuted, .inl .done⟩
    | onward _ hok hgoal =>
      cases hnext.symm.trans hok
      cases hmoved with
      | onward hholds =>
        rw [judge_of_unmet hgoal]
        exact ⟨hlaid.of_eq rfl rfl, hprogram, answer_ran t done, houtcome, hexecuted,
          .inl hholds⟩

/-! ### One call -/

variable {rules : Rules} {s : Scene}

theorem advance_of_isOver (h : t.isOver = true) (rules : Rules) (s : Scene) :
    t.advance rules s = some (.finished t.outcome, t, s) := by
  rw [advance, if_pos h]

theorem advance_of_done (h : t.isOver = false) (hpointer : t.pointer = .done) :
    t.advance rules s = some (.finished (rules.goal s).outcome,
      { t with outcome := (rules.goal s).outcome }, s) := by
  cases t
  cases hpointer
  rw [advance, if_neg (by simp [h])]

theorem advance_of_item (h : t.isOver = false) (hpointer : t.pointer = .item i) :
    t.advance rules s = (t.runItem i rules s).map (judged rules) := by
  cases t
  cases hpointer
  rw [advance, if_neg (by simp [h])]

/-- A session at a place that the loop has is not sent on behind the loop. -/
theorem advance_of_body {offset index length : Nat} (h : t.isOver = false)
    (hpointer : t.pointer = .body i round offset)
    (hstep : t.bodyStep i offset = some (some (index, length))) :
    t.advance rules s =
      (t.runBody i round offset index length rules s).map (judged rules) := by
  cases t
  cases hpointer
  rw [advance, if_neg (by simp [h])]
  simp only [hstep]

theorem advance_of_close {marker rounds : Nat} (h : t.isOver = false)
    (hpointer : t.pointer = .close i marker rounds) :
    t.advance rules s = (t.runClose i marker rounds s).map (judged rules) := by
  cases t
  cases hpointer
  rw [advance, if_neg (by simp [h])]

/-- The session is asked for its next step with the answer that the run gives, and still follows
the run behind it. -/
def Keeps (items : List Item) (t : Session) (r : Run) (rules : Rules) (s : Scene) : Prop :=
  ∃ t', t.advance rules s = some ((r.step rules s).1, t', (r.step rules s).2.2) ∧
    Follows items t' (r.step rules s).2.1

/-- A session that goes on runs the block that the cursor shows, and leaves it as the cursor
does. -/
theorem Laid.exists_advance_eq (h : t.Laid items) (hrunning : t.outcome = .running) {c : Cursor}
    (hholds : t.pointer.Holds items c) {shown : Option Nat} (hline : c.line? = some (line, shown))
    (rules : Rules) (s : Scene) :
    let done := c.perform line rules t.answer s
    ∃ t', t.advance rules s =
        some (.step (Run.event line shown done), t'.judge rules done.scene, done.scene) ∧
      Left items c done t t' := by
  have hgoing : t.isOver = false := Run.isFinal_eq_false_iff.2 hrunning
  generalize hpointer : t.pointer = p at hholds
  cases hholds with
  | item hitem =>
    obtain ⟨t', hrun, hleft⟩ := h.left_runItem hrunning hitem hline rules s
    refine ⟨t', ?_, hleft⟩
    rw [advance_of_item hgoing hpointer, hrun]
    rfl
  | body hitem hbody hfirst hlast =>
    cases hline
    obtain ⟨t', hrun, hleft⟩ := h.left_runBody hrunning hitem hbody hfirst hlast rules s
    refine ⟨t', ?_, hleft⟩
    rw [advance_of_body hgoing hpointer (h.bodyStep_eq hitem hbody), hrun]
    rfl
  | @close i rounds l line hitem hmarker =>
    cases hline
    obtain ⟨t', hrun, hleft⟩ := h.left_runClose hitem hmarker rounds s
    refine ⟨t', ?_, hleft⟩
    rw [advance_of_close hgoing hpointer, hrun]
    rfl
  | done => cases hline

/-- A session that follows a run answers just what the run answers, and follows it on. -/
theorem Follows.keeps (h : Follows items t r) (rules : Rules) (s : Scene) :
    Keeps items t r rules s := by
  cases hover : r.isOver with
  | true =>
    refine ⟨t, ?_, ?_⟩
    · rw [advance_of_isOver (h.isOver_eq.trans hover), Run.step_of_isOver hover, h.outcome_eq]
    · rw [Run.step_of_isOver hover]
      exact h
  | false =>
    have hgoing : t.isOver = false := h.isOver_eq.trans hover
    have hholds : t.pointer.Holds items r.cursor := h.stands.resolve_right (by simp [hover])
    cases hshown : r.cursor.line? with
    | none =>
      have hcursor : r.cursor = .done := Cursor.line?_eq_none_iff.1 hshown
      have hpointer : t.pointer = .done := by
        rw [hcursor] at hholds
        generalize t.pointer = p at hholds ⊢
        cases hholds
        rfl
      refine ⟨{ t with outcome := (rules.goal s).outcome }, ?_, ?_⟩
      · rw [advance_of_done hgoing hpointer, Run.step_of_done hover hcursor]
      · rw [Run.step_of_done hover hcursor]
        exact ⟨h.laid.of_eq rfl rfl, h.program_eq, h.answer_eq, rfl, h.executed_eq, .inl hholds⟩
    | some shown =>
      obtain ⟨line, round⟩ := shown
      have hrunning : r.outcome = .running := Run.isFinal_eq_false_iff.1 hover
      obtain ⟨t', hadvance, hleft⟩ :=
        h.laid.exists_advance_eq (h.outcome_eq.trans hrunning) hholds hshown rules s
      rw [h.answer_eq] at hadvance hleft
      refine ⟨t'.judge rules (r.performed line rules s).scene, ?_, ?_⟩
      · rw [hadvance, Run.step_of_line hover hshown]
        rfl
      · rw [Run.step_of_line hover hshown]
        exact hleft.follows h hrunning rules

theorem Follows.cancel (h : Follows items t r) : Follows items t.cancel r.cancel := by
  unfold Session.cancel Run.cancel
  rw [h.isOver_eq]
  cases hover : r.isOver with
  | true => exact h
  | false =>
    exact ⟨h.laid.of_eq rfl rfl, h.program_eq, h.answer_eq, rfl, h.executed_eq, .inl .done⟩

theorem Follows.upcoming_eq (h : Follows items t r) : t.upcoming = some r.upcoming := by
  unfold upcoming Run.upcoming
  rw [h.isOver_eq]
  cases hover : r.isOver with
  | true => rfl
  | false =>
    have hholds : t.pointer.Holds items r.cursor := h.stands.resolve_right (by simp [hover])
    generalize t.pointer = p, r.cursor = c at hholds
    have hline : ∀ line shown, c.line? = some (line, shown) →
        t.program[line.index]? = some line.placed := fun _ _ => h.laid.getElem?_line hholds
    cases hholds with
    | done => rfl
    | @item i item hitem =>
      cases item with
      | single line =>
        simp [h.laid.plan_getElem? hitem, Item.part, noticeAt, hline _ _ rfl, Cursor.line?,
          Line.block]
      | loop l =>
        simp [h.laid.plan_getElem? hitem, Item.part, noticeAt, hline _ _ rfl, Cursor.line?,
          Line.block]
    | body hitem hbody =>
      simp [h.laid.plan_getElem? hitem, Item.part, hbody, noticeAt, hline _ _ rfl, Cursor.line?,
        Line.block]
    | close hitem hmarker =>
      simp [noticeAt, hline _ _ rfl, Cursor.line?, Line.block]

/-! ### Any calls -/

/-- The session after a call. -/
def call (t : Session) : Run.Call → Option Session
  | .step rules s => (t.advance rules s).map (fun answer => answer.2.1)
  | .cancel => some t.cancel

/-- The session after some calls. -/
def after (t : Session) : List Run.Call → Option Session
  | [] => some t
  | c :: rest => do (← t.call c).after rest

theorem Follows.call (h : Follows items t r) (c : Run.Call) :
    ∃ t', t.call c = some t' ∧ Follows items t' (r.call c) := by
  cases c with
  | step rules s =>
    obtain ⟨t', hadvance, hfollows⟩ := h.keeps rules s
    exact ⟨t', by rw [Session.call, hadvance]; rfl, hfollows⟩
  | cancel => exact ⟨t.cancel, rfl, h.cancel⟩

theorem Follows.after (h : Follows items t r) (calls : List Run.Call) :
    ∃ t', t.after calls = some t' ∧ Follows items t' (r.after calls) := by
  induction calls generalizing t r with
  | nil => exact ⟨t, rfl, h⟩
  | cons c rest ih =>
    obtain ⟨t₁, hcall, hfollows⟩ := h.call c
    obtain ⟨t', hafter, hfollows⟩ := ih hfollows
    exact ⟨t', by rw [Session.after, hcall]; exact hafter, hfollows⟩

/-! ### The first state -/

theorem follows_refused (program : List Placed) (o : Outcome) :
    Follows [] (refused program o) (Run.refused program o) where
  laid := ⟨rfl, fun _ hitem => absurd hitem List.not_mem_nil⟩
  program_eq := rfl
  answer_eq := rfl
  outcome_eq := rfl
  executed_eq := rfl
  stands := .inl .done

theorem follows_ofProgram {program : List Placed} (hne : program ≠ [])
    (hplan : Plan.ofProgram program = .ok items) :
    Follows items ⟨program, items.map Item.part, .item 0, none, .running, 0⟩
      ⟨program, .ofItems items, none, .running, 0⟩ := by
  have hlaid : Laid ⟨program, items.map Item.part, .item 0, none, .running, 0⟩ items :=
    ⟨rfl, fun _ hitem _ => Plan.getElem?_of_mem_lines hplan hitem⟩
  refine ⟨hlaid, rfl, rfl, rfl, rfl, .inl ?_⟩
  cases items with
  | nil =>
    -- A program with blocks has a plan with items.
    have hlines := congrArg List.length (Plan.flatMap_lines_of_ofProgram hplan)
    rw [Line.length_ofProgram] at hlines
    exact absurd (List.eq_nil_of_length_eq_zero hlines.symm) hne
  | cons item rest => exact .item (i := 0) rfl

/-- The header that is told of a loop inside a loop stands in the program where it says. -/
theorem getElem?_inner {program : List Placed} {nested : NestedLoop}
    (h : Plan.ofProgram program = .error nested) :
    program[nested.inner.index]? = some nested.inner.placed := by
  obtain ⟨front, after, -, -, hlines, -⟩ := Plan.exists_open_of_assemble_error h
  apply Line.getElem?_of_mem_ofProgram
  rw [hlines]
  exact List.mem_append_right front List.mem_cons_self

/-- The session of a program follows its run. -/
theorem exists_follows_start (program : List Placed) :
    ∃ t items, start program = some t ∧ Follows items t (Run.start program) := by
  unfold start Run.start
  by_cases hempty : program.isEmpty = true
  · rw [if_pos hempty, if_pos hempty]
    exact ⟨_, [], rfl, follows_refused program Run.emptyProgram⟩
  · rw [if_neg hempty, if_neg hempty]
    cases hplan : Plan.ofProgram program with
    | ok items =>
      have hne : program ≠ [] := fun hnil => hempty (by rw [hnil]; rfl)
      exact ⟨_, items, rfl, follows_ofProgram hne hplan⟩
    | error nested =>
      refine ⟨_, [], ?_, follows_refused program (Run.nestedLoops nested)⟩
      simp only [getElem?_inner hplan, Option.bind_eq_bind, Option.bind_some]
      rfl

end Session

end Spellbook

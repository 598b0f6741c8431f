import Spellbook.Proofs.Plan.Append
import Spellbook.Proofs.Run.Answers
import Spellbook.Proofs.Run.Explained
import Spellbook.Proofs.Run.Interrupted
set_option autoImplicit false

/-!
# Runs of longer programs

Blocks added behind a program whose loops are closed do not change what its run does
(`play_append`).  A run of the longer program makes the same steps with more items left
behind them (`Cursor.extend`), up to a step that ends both runs, or up to the first of the
added blocks.
-/

namespace Spellbook

open Plan (Item)
open Run (start Trace)

/-! ## Cursors with more behind them -/

/-- What is left to run if these items follow. -/
def Cursor.extend (more : List Item) : Cursor → Cursor
  | item i rest => item i (rest ++ more)
  | body l round line left rest => body l round line left (rest ++ more)
  | close marker rounds rest => close marker rounds (rest ++ more)
  | done => ofItems more

@[simp] theorem Cursor.extend_ofItems (more items : List Item) :
    (ofItems items).extend more = ofItems (items ++ more) := by
  cases items <;> rfl

theorem Loop.close_append (l : Loop) (rounds : Nat) (rest more : List Item) :
    l.close rounds (rest ++ more) = (l.close rounds rest).extend more := by
  unfold close
  cases l.marker with
  | some marker => rfl
  | none => exact (Cursor.extend_ofItems more rest).symm

/-- What follows a loop does not matter to it. -/
theorem Loop.enter_append (l : Loop) (k : Nat) (vars : Bindings) (rest more : List Item) :
    l.enter k vars (rest ++ more) = (l.enter k vars rest).map (Cursor.extend more) := by
  cases hop : l.header.block.op with
  | repeatTimes times =>
    cases hbody : l.body with
    | nil => simp [enter, hop, hbody, Except.map, close_append]
    | cons first left =>
      by_cases hleft : times < k
      · simp [enter, hop, hbody, hleft, Except.map, close_append]
      · by_cases hmany : maxRounds < k <;>
          simp [enter, hop, hbody, hleft, hmany, Except.map, Cursor.extend]
  | repeatWhile name below =>
    cases hvalue : vars.number? name with
    | none => simp [enter, hop, hvalue, Except.map]
    | some value =>
      by_cases hlow : below.val ≤ value.val
      · simp [enter, hop, hvalue, hlow, Except.map, close_append]
      · cases hbody : l.body with
        | nil => simp [enter, hop, hvalue, hlow, hbody, Except.map]
        | cons first left =>
          by_cases hmany : maxRounds < k <;>
            simp [enter, hop, hvalue, hlow, hbody, hmany, Except.map, Cursor.extend]
  | _ => simp [enter, hop, Except.map]

namespace Cursor

variable {c : Cursor} {line : Line} {round : Option Nat}

theorem line?_extend (h : c.line? = some (line, round)) (more : List Item) :
    (c.extend more).line? = some (line, round) := by
  cases c with
  | item i rest => cases i <;> exact h
  | body l k next left rest => exact h
  | close marker rounds rest => exact h
  | done => cases h

theorem perform_extend (h : c.line? = some (line, round)) (more : List Item) (rules : Rules)
    (answer : Option Bool) (s : Scene) :
    (c.extend more).perform line rules answer s = c.perform line rules answer s := by
  cases c with
  | item i rest => rfl
  | body l k next left rest => rfl
  | close marker rounds rest => rfl
  | done => cases h

theorem next_extend (h : c.line? = some (line, round)) (more : List Item) (vars : Bindings) :
    (c.extend more).next vars = (c.next vars).map (extend more) := by
  cases c with
  | item i rest =>
    cases i with
    | single other => exact congrArg Except.ok (extend_ofItems more rest).symm
    | loop l => exact l.enter_append 1 vars rest more
  | body l k next left rest =>
    cases left with
    | nil => exact l.enter_append (k + 1) vars rest more
    | cons first left => rfl
  | close marker rounds rest => exact congrArg Except.ok (extend_ofItems more rest).symm
  | done => cases h

end Cursor

namespace Run

variable {rules : Rules} {r r' t : Run} {s s' : Scene} {e : Event} {more : List Item}

/-! ## Runs with more behind them -/

/-- The second run stands where the first does, with more items to follow. -/
structure Extends (more : List Item) (r t : Run) : Prop where
  answer_eq : t.answer = r.answer
  outcome_eq : t.outcome = r.outcome
  cursor_eq : r.isOver = false → t.cursor = r.cursor.extend more

theorem Extends.isOver_eq (h : Extends more r t) : t.isOver = r.isOver := by
  rw [isOver, isOver, h.outcome_eq]

/-- Where a run goes after a step, and how it stands then, with more behind it. -/
theorem settle_extend {c : Cursor} {line : Line} {round : Option Nat}
    (h : c.line? = some (line, round)) (more : List Item) (rules : Rules) (done : Step) :
    (settle (c.extend more) rules done).2 = (settle c rules done).2 ∧
      ((settle c rules done).2 = .running →
        (settle (c.extend more) rules done).1 = (settle c rules done).1.extend more) := by
  unfold settle
  rw [Cursor.next_extend h]
  by_cases hfinal : done.effect.outcome.isFinal = true
  · rw [if_pos hfinal, if_pos hfinal]
    refine ⟨rfl, ?_⟩
    intro hrunning
    rw [show done.effect.outcome = .running from hrunning] at hfinal
    cases hfinal
  · rw [if_neg hfinal, if_neg hfinal]
    cases hnext : c.next done.scene.vars with
    | error fault => exact ⟨rfl, fun hrunning => by cases hrunning⟩
    | ok next =>
      cases heager : rules.eager with
      | false => simp [Except.map]
      | true =>
        cases hgoal : rules.goal done.scene with
        | met message => simp [Except.map]
        | unmet reason => simp [Except.map]

theorem Extends.step (h : Extends more r t) (hstep : r.step rules s = (.step e, r', s')) :
    ∃ t', t.step rules s = (.step e, t', s') ∧ Extends more r' t' := by
  obtain ⟨line, round, hmade⟩ := made_of_step_eq hstep
  have hcursor := h.cursor_eq hmade.isOver_eq
  have hover : t.isOver = false := h.isOver_eq.trans hmade.isOver_eq
  have hline : t.cursor.line? = some (line, round) := by
    rw [hcursor, Cursor.line?_extend hmade.line?_eq]
  have hperformed : t.performed line rules s = r.performed line rules s := by
    rw [performed, performed, hcursor, h.answer_eq, Cursor.perform_extend hmade.line?_eq]
  have hsettle := settle_extend hmade.line?_eq more rules (r.performed line rules s)
  rw [step_of_line hmade.isOver_eq hmade.line?_eq] at hstep
  obtain ⟨hevent, hrest⟩ := Prod.mk.inj hstep
  obtain ⟨hrun, hscene⟩ := Prod.mk.inj hrest
  subst hrun
  rw [step_of_line hover hline, hperformed, hevent, hscene]
  refine ⟨_, rfl, rfl, ?_, ?_⟩
  · rw [hcursor]
    exact hsettle.1
  · intro hgoing
    rw [hcursor]
    exact hsettle.2 (isFinal_eq_false_iff.1 hgoing)

theorem Trace.extend {events : List Event} (h : Trace rules r s events r' s')
    (hextends : Extends more r t) :
    ∃ t', Trace rules t s events t' s' ∧ Extends more r' t' := by
  induction h generalizing t with
  | nil r s => exact ⟨t, .nil t s, hextends⟩
  | cons hstep hrest ih =>
    obtain ⟨t₁, ht₁, hextends₁⟩ := hextends.step hstep
    obtain ⟨t', htrace, hextends'⟩ := ih hextends₁
    exact ⟨t', .cons ht₁ htrace, hextends'⟩

/-- The same events lead from a run in its scene to one run only. -/
theorem Trace.unique {events : List Event} {r'' : Run} {s'' : Scene}
    (h : Trace rules r s events r' s') (h' : Trace rules r s events r'' s'') :
    r' = r'' ∧ s' = s'' := by
  induction h with
  | nil r s =>
    cases h'
    exact ⟨rfl, rfl⟩
  | cons hstep hrest ih =>
    cases h' with
    | cons hstep' hrest' =>
      rw [hstep] at hstep'
      cases hstep'
      exact ih hrest'

/-! ## From the start -/

theorem extends_start {p q : List Placed} {items later : List Item} (hne : p ≠ [])
    (hplan : Plan.ofProgram p = .ok items)
    (hwhole : Plan.ofProgram (p ++ q) = .ok (items ++ later)) :
    Extends later (start p) (start (p ++ q)) := by
  rw [start_of_ofProgram hne hplan,
    start_of_ofProgram (List.append_ne_nil_of_left_ne_nil hne q) hwhole]
  exact ⟨rfl, rfl, fun _ => (Cursor.extend_ofItems later items).symm⟩

end Run

/-! ## Whole runs -/

namespace Playback

/-- The run has ended with its last event: this step failed, a loop stopped the run, or
the goal was met at once. -/
def CutShort (p : Playback) (rules : Rules) (program : List Placed) : Prop :=
  ∃ before e r s, p.events = before ++ [e] ∧
    Trace rules (start program) rules.openingScene before r s ∧
    (r.step rules s).1 = .step e ∧ r.cursor.Ends rules e

/-- The longer run has all events of the shorter one, which has come behind its whole plan,
and goes on with the items behind it: in the scene that the shorter run has left and with
its answer. -/
structure ContinuedBy (short long : Playback) (rules : Rules) (p q : List Placed)
    (items later : List Item) : Prop where
  completed : ∀ i, i < items.length → short.Completed rules p items i
  goes_on : ∃ next, Trace rules (start (p ++ q)) rules.openingScene short.events next
      short.scene ∧
    next.outcome = .running ∧ next.cursor = .ofItems later ∧ next.answer = short.run.answer ∧
    long.events = short.events ++ (next.finish rules short.scene).events ∧
    long.run = (next.finish rules short.scene).run ∧
    long.scene = (next.finish rules short.scene).scene

/-- A run that ends behind its plan was not cut short. -/
theorem not_cutShort {p : Playback} {rules : Rules} {program : List Placed} {last : Run}
    {s : Scene} (htrace : Trace rules (start program) rules.openingScene p.events last s)
    (hrunning : last.outcome = .running) : ¬ p.CutShort rules program := by
  rintro ⟨before, e, r, scene, hevents, hbefore, hstep, hends⟩
  rw [hevents] at htrace
  obtain ⟨r', scene', next, hbefore', hstep', hafter⟩ := htrace.step_of_eq_append
  obtain ⟨rfl, rfl⟩ := hbefore.unique hbefore'
  obtain ⟨line, round, hmade⟩ := Run.made_of_step_eq hstep'
  obtain ⟨-, rfl, -⟩ := hafter.of_isOver (hmade.isOver_iff.2 hends)
  have hover := hmade.isOver_iff.2 hends
  rw [Run.isOver, hrunning] at hover
  cases hover

end Playback

namespace Rules

variable {rules : Rules} {p q : List Placed} {items later : List Item}

/-- A run that nobody stops goes on from any state that it comes to. -/
theorem play_never_of_trace {program : List Placed} {events : List Event} {r : Run}
    {s' : Scene} (hover : (start program).isOver = false)
    (h : Trace rules (start program) rules.openingScene events r s') (s : Scene) :
    rules.play program .never s =
      let rest := r.finish rules s'
      ⟨(events ++ rest.events).map Event.notice, events ++ rest.events, rest.run,
        rest.scene⟩ := by
  rw [play_of_trace hover h (fun n _ => ⟨rfl, rfl⟩), Run.drive_never]
  simp [Playback.precededBy]

/-- What ends a run with its last event ends the longer one there too. -/
theorem play_append_of_isOver {events : List Event} {r : Run} {s' : Scene}
    (hover : (start (p ++ q)).isOver = false)
    (hextends : Run.Extends later (start p) (start (p ++ q)))
    (h : Trace rules (start p) rules.openingScene events r s') (hended : r.isOver = true)
    (s : Scene) :
    let long := rules.play (p ++ q) .never s
    long.events = events ∧ long.run.outcome = r.outcome ∧ long.scene = s' := by
  obtain ⟨t, htrace, ht⟩ := h.extend hextends
  have htended : t.isOver = true := ht.isOver_eq.trans hended
  intro long
  have hlong : long = _ := play_never_of_trace hover htrace s
  rw [Run.finish_of_isOver htended] at hlong
  rw [hlong]
  exact ⟨List.append_nil events, ht.outcome_eq, rfl⟩

/-- Behind the whole plan the longer run goes on. -/
theorem continuedBy_of_done {notices : List Notice} {events : List Event} {last r' : Run}
    {s' : Scene} (hne : p ≠ []) (hplan : Plan.ofProgram p = .ok items)
    (hover : (start (p ++ q)).isOver = false)
    (hextends : Run.Extends later (start p) (start (p ++ q)))
    (h : Trace rules (start p) rules.openingScene events last s')
    (hlast : last.step rules s' = (.finished r'.outcome, r', s'))
    (hrunning : last.outcome = .running) (hdone : last.cursor = .done) (s : Scene) :
    (⟨notices, events, r', s'⟩ : Playback).ContinuedBy (rules.play (p ++ q) .never s) rules
      p q items later where
  completed := Playback.completed_of_done hplan hne h hdone hrunning
  goes_on := by
    obtain ⟨next, htrace, hnext⟩ := h.extend hextends
    have hcursor : next.cursor = .ofItems later := by
      rw [hnext.cursor_eq (Run.isFinal_eq_false_iff.2 hrunning), hdone]
      rfl
    have hanswer : next.answer = r'.answer := by
      obtain ⟨-, hrun, -⟩ := Run.of_step_eq_finished hlast
      rw [hnext.answer_eq, hrun]
    rw [play_never_of_trace hover htrace s]
    exact ⟨next, htrace, hnext.outcome_eq.trans hrunning, hcursor, hanswer, rfl, rfl, rfl⟩

/-- Blocks behind a program whose loops are closed do not change what its run does.  If it
ends with its last event, the longer program has the very same run.  Else it has come
behind its plan, and the longer run goes on from there with the blocks that were added. -/
theorem play_append (hshort : (start p).isOver = false)
    (hclosed : Plan.Closed (p.map (fun placed => placed.block.category)))
    (hlong : (start (p ++ q)).isOver = false) (rules : Rules) (s : Scene) :
    let short := rules.play p .never s
    let long := rules.play (p ++ q) .never s
    (short.CutShort rules p → long.events = short.events ∧
      long.run.outcome = short.run.outcome ∧ long.scene = short.scene) ∧
    (¬ short.CutShort rules p → ∃ items later, Plan.ofProgram p = .ok items ∧
      Plan.ofProgram (p ++ q) = .ok (items ++ later) ∧
      short.ContinuedBy long rules p q items later) := by
  obtain ⟨hne, items, hplan⟩ := Run.exists_ofProgram_of_start hshort
  obtain ⟨-, whole, hwhole⟩ := Run.exists_ofProgram_of_start hlong
  obtain ⟨later, rfl⟩ := Plan.exists_append_of_ofProgram hclosed hplan hwhole
  have hextends := Run.extends_start hne hplan hwhole
  obtain ⟨events, last, r', s', htrace, hlast, hplayed⟩ := exists_trace_play hshort rules s
  intro short long
  have heq : short = ⟨events.map Event.notice, events, r', s'⟩ := hplayed
  rw [heq]
  -- The shorter run is over with its last step, or has come behind its plan.
  cases htrace.endsBy hshort hlast with
  | @step before e r scene hevents hbefore hstep hended =>
    obtain ⟨line, round, hmade⟩ := Run.made_of_step_eq hstep
    have hupto : Trace rules (start p) rules.openingScene events r' s' := by
      rw [hevents]
      exact hbefore.append (.cons hstep (.nil r' s'))
    constructor
    · intro _
      exact play_append_of_isOver hlong hextends hupto hended s
    · intro hnot
      have hcall : (r.step rules scene).1 = .step e := by rw [hstep]
      exact absurd ⟨before, e, r, scene, hevents, hbefore, hcall, hmade.isOver_iff.1 hended⟩ hnot
  | @goal done hdoneTrace hdone hrunning houtcome =>
    obtain ⟨rfl, -⟩ := htrace.unique hdoneTrace
    constructor
    · intro hcut
      exact absurd hcut (Playback.not_cutShort hdoneTrace hrunning)
    · intro _
      exact ⟨items, later, hplan, hwhole,
        continuedBy_of_done hne hplan hlong hextends htrace hlast hrunning hdone s⟩

/-- The question for rain and the walk behind it, and then the path through the forest: the
answer is no, and the longer run goes on with it. -/
theorem play_append_askingForRain :
    let rules := Crossroads.rules .sunny
    let p := Run.askingForRain.take 3
    let q := Run.askingForRain.drop 3
    let short := rules.play p .never rules.openingScene
    let long := rules.play (p ++ q) .never rules.openingScene
    (start p).isOver = false ∧ Plan.Closed (p.map (fun placed => placed.block.category)) ∧
      (start (p ++ q)).isOver = false ∧ short.run.answer = some false ∧
      ∃ items later, short.ContinuedBy long rules p q items later := by
  intro rules p q short long
  have hshort : (start p).isOver = false := by decide +kernel
  have hlong : (start (p ++ q)).isOver = false := by decide +kernel
  have hclosed : Plan.Closed (p.map (fun placed => placed.block.category)) := by
    have hcategories : p.map (fun placed => placed.block.category) =
        [.binding, .condition, .movement] := by
      decide +kernel
    simp [hcategories, Plan.closed_cons_iff, Plan.closed_nil]
  obtain ⟨hcut, hgoes⟩ := play_append hshort hclosed hlong rules rules.openingScene
  have hnot : ¬ short.CutShort rules p := by
    intro h
    obtain ⟨hevents, -, -⟩ := hcut h
    have hlength : long.events.length ≠ short.events.length := by decide +kernel
    exact hlength (congrArg List.length hevents)
  obtain ⟨items, later, -, -, hcontinued⟩ := hgoes hnot
  exact ⟨hshort, hclosed, hlong, by decide +kernel, items, later, hcontinued⟩

end Rules

end Spellbook

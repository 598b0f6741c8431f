import Spellbook.Proofs.Execution.Failures
import Spellbook.Proofs.Run.Bound
import Spellbook.Proofs.Run.Trace
set_option autoImplicit false

/-!
# What the trace of a run says about its end

The outcome of a run that nobody stops can be read off its events and its last scene
(`play_explained`): a failed step is the last one and gives the reason, and without one
the goal decides behind the whole plan, or at once, or a loop has stopped the run at its
header or behind the last line of its body.  `Settles` has these ends of a step, and
`Cursor.At` tells where it was made.
-/

namespace Spellbook

open Plan (Item)
open Run (start Trace)

/-! ## What there is to explain -/

/-- The event tells of the block that the program has at its index. -/
def Event.Names (e : Event) (program : List Placed) : Prop :=
  ∃ placed, program[e.index]? = some placed ∧ e.number = placed.number ∧
    e.blockId = placed.block.id ∧ e.label = placed.block.label

/-- Just one of three holds. -/
def ExactlyOne (a b c : Prop) : Prop :=
  (a ∧ ¬ b ∧ ¬ c) ∨ (¬ a ∧ b ∧ ¬ c) ∨ (¬ a ∧ ¬ b ∧ c)

namespace Playback

/-- The run has succeeded, with its goal met where it ended. -/
def Won (p : Playback) (rules : Rules) : Prop :=
  ∃ message, p.run.outcome = .success message ∧ rules.goal p.scene = .met message

/-- Behind some of its events the run stood, not over yet, behind item `i` of the plan. -/
def Completed (p : Playback) (rules : Rules) (program : List Placed) (items : List Item)
    (i : Nat) : Prop :=
  ∃ before after r s, p.events = before ++ after ∧
    Trace rules (start program) rules.openingScene before r s ∧
    r.outcome = .running ∧ r.cursor = .ofItems (items.drop (i + 1))

/-- The run has come behind every item of the plan, and its goal is not met there. -/
def FellShort (p : Playback) (rules : Rules) (program : List Placed) (items : List Item) :
    Prop :=
  ∃ reason, p.run.outcome = .failure .incompleteGoal reason ∧
    rules.goal p.scene = .unmet reason ∧ ∀ i, i < items.length → p.Completed rules program items i

/-- A loop has stopped the run behind its header or behind the last line of its body. -/
def Halted (p : Playback) (items : List Item) : Prop :=
  ∃ l k fault e, .loop l ∈ items ∧ l.Stops k p.scene.vars fault ∧
    p.run.outcome = fault.outcome ∧
    (fault.kind = .runawayLoop ∨ fault.kind = .missingPrecondition) ∧
    p.events.getLast? = some e ∧
    ((k = 1 ∧ e.index = l.header.index ∧ e.round = none) ∨
      ∃ line, l.body.getLast? = some line ∧ e.index = line.index ∧ e.round = some (k - 1))

/-- The outcome of a run and its last scene follow from its events, and these are what
the steps of the run say. -/
structure Explained (p : Playback) (rules : Rules) (program : List Placed)
    (items : List Item) : Prop where
  isFinal_outcome : p.run.outcome.isFinal = true
  /-- A failed step is the last, and its message is the reason. -/
  failed_last : ∀ before e after, p.events = before ++ e :: after → e.severity = .failure →
    after = [] ∧ ∃ kind, p.run.outcome = .failure kind e.message
  ends_once : (∀ e ∈ p.events, e.severity ≠ .failure) →
    ExactlyOne (p.Won rules) (p.FellShort rules program items) (p.Halted items)
  /-- Every other kind of failure comes with a failed last step. -/
  failed_of_kind : ∀ kind reason, p.run.outcome = .failure kind reason →
    kind ≠ .incompleteGoal → kind ≠ .runawayLoop → kind ≠ .missingPrecondition →
    ∃ e, p.events.getLast? = some e ∧ e.severity = .failure
  /-- Each event has the scene that its step leaves. -/
  step_of_event : ∀ before e after, p.events = before ++ e :: after →
    ∃ r s r', Trace rules (start program) rules.openingScene before r s ∧
      r.step rules s = (.step e, r', e.scene)
  scene_eq : p.scene = rules.openingScene.behind p.events
  names : ∀ e ∈ p.events, e.Names program
  round_isSome_iff : ∀ e ∈ p.events,
    e.round.isSome = true ↔ ∃ l, .loop l ∈ items ∧ ∃ line ∈ l.body, line.index = e.index
  round_le : ∀ e ∈ p.events, ∀ k, e.round = some k → 1 ≤ k ∧ k ≤ maxRounds

variable {p : Playback} {rules : Rules} {program : List Placed} {items : List Item}

theorem Won.failureKind? (h : p.Won rules) : p.run.outcome.failureKind? = none := by
  obtain ⟨message, houtcome, -⟩ := h
  rw [houtcome]
  rfl

theorem FellShort.failureKind? (h : p.FellShort rules program items) :
    p.run.outcome.failureKind? = some .incompleteGoal := by
  obtain ⟨reason, houtcome, -⟩ := h
  rw [houtcome]
  rfl

theorem Halted.failureKind? (h : p.Halted items) :
    p.run.outcome.failureKind? = some .runawayLoop ∨
      p.run.outcome.failureKind? = some .missingPrecondition := by
  obtain ⟨l, k, fault, e, -, -, houtcome, hkind, -⟩ := h
  rw [houtcome]
  exact hkind.imp (congrArg some) (congrArg some)

/-- The three ends have different kinds of outcome. -/
theorem exactlyOne_of_or
    (h : p.Won rules ∨ p.FellShort rules program items ∨ p.Halted items) :
    ExactlyOne (p.Won rules) (p.FellShort rules program items) (p.Halted items) := by
  have hwon := @Won.failureKind? p rules
  have hshort := @FellShort.failureKind? p rules program items
  have hhalted := @Halted.failureKind? p items
  unfold ExactlyOne
  obtain h | h | h := h
  · refine .inl ⟨h, fun h' => ?_, fun h' => ?_⟩
    · simpa [hwon h] using hshort h'
    · simpa [hwon h] using hhalted h'
  · refine .inr (.inl ⟨fun h' => ?_, h, fun h' => ?_⟩)
    · simpa [hshort h] using hwon h'
    · simpa [hshort h] using hhalted h'
  · refine .inr (.inr ⟨fun h' => ?_, fun h' => ?_, h⟩)
    · simpa [hwon h'] using hhalted h
    · simpa [hshort h'] using hhalted h

end Playback

variable {rules : Rules} {program : List Placed} {items : List Item}

/-! ## What an event says of its step -/

theorem Run.Made.names {r r' : Run} {s s' : Scene} {e : Event} {line : Line}
    {round : Option Nat} (h : Made r rules s e r' s' line round)
    (hcursor : r.cursor.WellFormed program) : e.Names program := by
  rw [h.event_eq]
  exact ⟨line.placed, hcursor.getElem?_of_line h.line?_eq, rfl, rfl, rfl⟩

/-- Just the lines inside loops have rounds. -/
theorem Event.StandsAt.round_isSome_iff {e : Event} {p : Place}
    (hasc : (items.flatMap Item.lines).Pairwise (fun a b => a.index < b.index))
    (h : e.StandsAt items p) :
    e.round.isSome = true ↔ ∃ l, .loop l ∈ items ∧ ∃ line ∈ l.body, line.index = e.index := by
  obtain ⟨line, hshows, hindex⟩ := h
  constructor
  · intro hround
    obtain ⟨item, hitem, ⟨-, hnone⟩ | ⟨hinner, -⟩⟩ := hshows.outer_or_inner
    · rw [hnone] at hround
      cases hround
    · cases item with
      | single other => exact absurd hinner List.not_mem_nil
      | loop l => exact ⟨l, List.mem_of_getElem? hitem, line, hinner, hindex⟩
  · rintro ⟨l, hitem, other, hother, hsame⟩
    have hround := (hshows.round_of_mem hasc hitem (hindex.trans hsame.symm)).2 hother
    obtain ⟨round, -, heq⟩ := List.mem_map.1 hround
    rw [← heq]
    rfl

theorem Event.StandsAt.round_le {e : Event} {p : Place} (h : e.StandsAt items p) {k : Nat}
    (hround : e.round = some k) : 1 ≤ k ∧ k ≤ maxRounds := by
  obtain ⟨line, hshows, -⟩ := h
  rw [hround] at hshows
  cases hshows with
  | body hitem hline hfirst hlast => exact ⟨hfirst, hlast⟩

namespace Run

theorem Trace.names {r' : Run} {s s' : Scene} {events : List Event}
    (h : Trace rules (start program) s events r' s') {e : Event} (hmem : e ∈ events) :
    e.Names program := by
  obtain ⟨before, after, rfl⟩ := List.append_of_mem hmem
  obtain ⟨r, s₁, next, hbefore, hstep, -⟩ := h.step_of_eq_append
  obtain ⟨line, round, hmade⟩ := made_of_step_eq hstep
  exact hmade.names hbefore.wellFormed

theorem Trace.exists_standsAt {r' : Run} {s s' : Scene} {events : List Event}
    (hplan : Plan.ofProgram program = .ok items)
    (h : Trace rules (start program) s events r' s') {e : Event} (hmem : e ∈ events) :
    ∃ p, e.StandsAt items p := by
  obtain ⟨calls, -, rfl⟩ := h.exists_calls
  exact (ordered_events hplan calls).standsAt e hmem

end Run

/-! ## Where a run ends -/

/-- A loop decides behind its header, or behind the last line of its body. -/
theorem Cursor.At.of_boundary {c : Cursor} {p : Place} {l : Loop} {k : Nat}
    (h : c.At items p) (hboundary : c.boundary = some (l, k)) :
    .loop l ∈ items ∧ ∃ line round, c.line? = some (line, round) ∧
      ((k = 1 ∧ line = l.header ∧ round = none) ∨
        (l.body.getLast? = some line ∧ round = some (k - 1))) := by
  cases h with
  | @item i item hitem =>
    cases item with
    | single line => cases hboundary
    | loop l =>
      cases hboundary
      exact ⟨List.mem_of_getElem? hitem, l.header, none, rfl, .inl ⟨rfl, rfl, rfl⟩⟩
  | @body i round offset l line hitem hline hfirst hlast =>
    obtain ⟨hleft, rfl, rfl⟩ := of_boundary_body hboundary
    have hend : l.body.length - 1 = offset := by
      have hle := List.drop_eq_nil_iff.1 hleft
      have hlt := (List.getElem?_eq_some_iff.1 hline).1
      omega
    refine ⟨List.mem_of_getElem? hitem, line, some round, rfl, .inr ⟨?_, rfl⟩⟩
    rw [List.getLast?_eq_getElem?, hend, hline]
  | close hitem hmarker hrounds => cases hboundary

theorem LoopFault.kind_eq (fault : LoopFault) :
    fault.kind = .runawayLoop ∨ fault.kind = .missingPrecondition := by
  cases fault with
  | unbound name => exact .inr rfl
  | _ => exact .inl rfl

namespace Run

/-- A run that goes on behind the last item has come behind every item on its way. -/
theorem Trace.exists_completed {r r' : Run} {s s' : Scene} {events : List Event}
    (h : Trace rules r s events r' s') {p : Place} (hat : r.cursor.At items p)
    (hdone : r'.cursor = .done) (hrunning : r'.outcome = .running) {i : Nat}
    (hfirst : p.item ≤ i) (hlast : i < items.length) :
    ∃ before after m t, events = before ++ after ∧ Trace rules r s before m t ∧
      m.outcome = .running ∧ m.cursor = .ofItems (items.drop (i + 1)) := by
  -- The place of the run goes along: a step stays within its item or comes behind it, so
  -- item `i` cannot be passed by without standing behind it.
  induction h generalizing p with
  | nil r s =>
    rw [hdone] at hat
    cases hat
  | @cons r r₁ r' s s₁ s' e events hstep hrest ih =>
    obtain ⟨line, round, hmade⟩ := made_of_step_eq hstep
    have hgoing : r₁.outcome = .running :=
      isFinal_eq_false_iff.1 (hrest.isOver_eq_false (isFinal_eq_false_iff.2 hrunning))
    obtain ⟨q, hq, hsame, -⟩ | hbehind :=
      Cursor.within_or_behind_of_next hat (hmade.next_eq_ok hgoing)
    · obtain ⟨before, after, m, t, rfl, hbefore, hm⟩ :=
        ih hq hdone hrunning (hsame.symm ▸ hfirst)
      exact ⟨e :: before, after, m, t, rfl, .cons hstep hbefore, hm⟩
    · by_cases hi : i = p.item
      · subst hi
        exact ⟨[e], events, r₁, s₁, rfl, .cons hstep (.nil r₁ s₁), hgoing, hbehind⟩
      · have hat₁ : r₁.cursor.At items ⟨p.item + 1, 0, 0⟩ := by
          rw [hbehind]
          exact Cursor.at_ofItems_drop_of_lt (by omega)
        obtain ⟨before, after, m, t, rfl, hbefore, hm⟩ :=
          ih hat₁ hdone hrunning (show p.item + 1 ≤ i by omega)
        exact ⟨e :: before, after, m, t, rfl, .cons hstep hbefore, hm⟩

/-- Where a step that did not fail ends its run, the goal is met or a loop stops it. -/
theorem Made.won_or_stopped {r r' : Run} {s s' : Scene} {e : Event} {line : Line}
    {round : Option Nat} (h : Made r rules s e r' s' line round)
    (hgood : e.severity ≠ .failure) (hover : r'.isOver = true) :
    (∃ message, r'.outcome = .success message ∧ rules.goal s' = .met message) ∨
      ∃ fault, r.cursor.StoppedBy s'.vars fault ∧ r'.outcome = fault.outcome := by
  have hsettles := h.settles
  have hscene := h.scene_eq
  rw [h.severity_eq] at hgood
  rw [isOver] at hover
  generalize r'.cursor = c' at *
  generalize r'.outcome = o at *
  subst hscene
  cases hsettles with
  | failed heffect =>
    rw [heffect] at hgood
    exact absurd rfl hgood
  | halted hrunning hnext => exact .inr ⟨_, Cursor.next_eq_error_iff.1 hnext, rfl⟩
  | won hrunning hnext heager hmet => exact .inl ⟨_, rfl, hmet⟩
  | onward hrunning hnext hgoal => cases hover

/-- A step fails in the way that its block does, or a loop stops the run. -/
theorem Made.kind_of_failure {r r' : Run} {s s' : Scene} {e : Event} {line : Line}
    {round : Option Nat} (h : Made r rules s e r' s' line round)
    (hperform : ∀ op s, (rules.perform op s).1.Ordinary) {kind : FailureKind}
    {reason : String} (houtcome : r'.outcome = .failure kind reason) :
    kind ≠ .invalidProgram ∧ kind ≠ .cancelled := by
  obtain heffect | ⟨fault, rfl⟩ := h.of_failure houtcome
  · exact r.cursor.ordinary_perform hperform line r.answer s kind reason heffect
  · obtain hkind | hkind := fault.kind_eq <;> simp [hkind]

/-- A step stands at a place of the plan. -/
theorem Trace.exists_at {r r' : Run} {s s₁ s' : Scene} {events : List Event} {e : Event}
    {line : Line} {round : Option Nat} (hplan : Plan.ofProgram program = .ok items)
    (h : Trace rules (start program) s events r s₁) (hmade : Made r rules s₁ e r' s' line round) :
    ∃ p, r.cursor.At items p := by
  obtain hdone | ⟨items', p, hplan', hat⟩ := h.wellFormed.at_or_done
  · have hline := hmade.line?_eq
    rw [hdone] at hline
    cases hline
  · cases hplan.symm.trans hplan'
    exact ⟨p, hat⟩

/-- How a run comes to its end: by its last step, or by its goal behind the last item. -/
inductive EndsBy (rules : Rules) (program : List Placed) (events : List Event) (r' : Run)
    (s' : Scene) : Prop
  | step {before : List Event} {e : Event} {r : Run} {s : Scene}
      (hevents : events = before ++ [e])
      (htrace : Trace rules (start program) rules.openingScene before r s)
      (hstep : r.step rules s = (.step e, r', s')) (hover : r'.isOver = true)
  | goal {last : Run}
      (htrace : Trace rules (start program) rules.openingScene events last s')
      (hdone : last.cursor = .done) (hrunning : last.outcome = .running)
      (houtcome : r'.outcome = (rules.goal s').outcome)

theorem Trace.endsBy {events : List Event} {last r' : Run} {s' : Scene}
    (hover : (start program).isOver = false)
    (h : Trace rules (start program) rules.openingScene events last s')
    (hlast : last.step rules s' = (.finished r'.outcome, r', s')) :
    EndsBy rules program events r' s' := by
  cases hended : last.isOver with
  | false =>
    obtain ⟨hend, -⟩ := of_step_eq_finished hlast
    have hdone : last.cursor = .done := hend.resolve_left (by simp [hended])
    rw [step_of_done hended hdone] at hlast
    exact .goal h hdone (isFinal_eq_false_iff.1 hended)
      (congrArg (fun answer => answer.2.1.outcome) hlast).symm
  | true =>
    rw [step_of_isOver hended] at hlast
    obtain rfl : last = r' := congrArg (fun answer => answer.2.1) hlast
    -- It was not over at its start, so there is a last step, and this one ended it.
    obtain rfl | ⟨before, e, rfl⟩ := List.eq_nil_or_concat events
    · cases h
      rw [hover] at hended
      cases hended
    · rw [List.concat_eq_append] at *
      obtain ⟨r, s, next, hbefore, hstep, hafter⟩ := h.step_of_eq_append
      cases hafter
      exact .step rfl hbefore hstep hended

/-- A run that is not stopped comes to its end. -/
theorem Left.endsBy {events : List Event} {last r' : Run} {s' : Scene}
    (h : Left rules last s' r') (hover : (start program).isOver = false)
    (htrace : Trace rules (start program) rules.openingScene events last s') :
    r'.outcome.failureKind? = some .cancelled ∨ EndsBy rules program events r' s' := by
  cases hended : last.isOver with
  | true =>
    obtain rfl := h.eq_of_isOver hended
    exact .inr (htrace.endsBy hover (step_of_isOver hended rules s'))
  | false =>
    obtain hstopped | ⟨hdone, houtcome⟩ := h.of_not_isOver hended
    · exact .inl hstopped
    · exact .inr (.goal htrace hdone (isFinal_eq_false_iff.1 hended) houtcome)

end Run

namespace Playback

variable {notices : List Notice} {events : List Event} {last r' : Run} {s' : Scene}

/-- A run that its last step ends without failing has succeeded, or a loop stops it. -/
theorem won_or_halted {before : List Event} {e : Event} {r : Run} {s : Scene}
    (hplan : Plan.ofProgram program = .ok items)
    (htrace : Trace rules (start program) rules.openingScene before r s)
    (hstep : r.step rules s = (.step e, r', s')) (hover : r'.isOver = true)
    (hgood : e.severity ≠ .failure) :
    (⟨notices, before ++ [e], r', s'⟩ : Playback).Won rules ∨
      (⟨notices, before ++ [e], r', s'⟩ : Playback).Halted items := by
  obtain ⟨line, round, hmade⟩ := Run.made_of_step_eq hstep
  obtain ⟨p, hat⟩ := htrace.exists_at hplan hmade
  obtain hwon | ⟨fault, ⟨l, k, hboundary, hstops⟩, houtcome⟩ :=
    hmade.won_or_stopped hgood hover
  · exact .inl hwon
  · obtain ⟨hitem, line', round', hline, hplace⟩ := hat.of_boundary hboundary
    rw [hmade.line?_eq] at hline
    cases hline
    refine .inr ⟨l, k, fault, e, hitem, hstops, houtcome, fault.kind_eq, by simp, ?_⟩
    rw [hmade.event_eq]
    obtain ⟨hk, rfl, rfl⟩ | ⟨hbody, rfl⟩ := hplace
    · exact .inl ⟨hk, rfl, rfl⟩
    · exact .inr ⟨line, hbody, rfl, rfl⟩

/-- A run behind its last item has come behind all of them. -/
theorem completed_of_done (hplan : Plan.ofProgram program = .ok items) (hne : program ≠ [])
    (htrace : Trace rules (start program) rules.openingScene events last s')
    (hdone : last.cursor = .done) (hrunning : last.outcome = .running) (i : Nat)
    (hi : i < items.length) :
    (⟨notices, events, r', s'⟩ : Playback).Completed rules program items i := by
  have hat : (start program).cursor.At items ⟨0, 0, 0⟩ := by
    rw [Run.start_of_ofProgram hne hplan]
    exact Cursor.at_ofItems_drop_of_lt (Nat.zero_lt_of_lt hi)
  exact htrace.exists_completed hat hdone hrunning (Nat.zero_le i) hi

/-- Behind the last item the goal decides. -/
theorem won_or_fellShort (hplan : Plan.ofProgram program = .ok items) (hne : program ≠ [])
    (htrace : Trace rules (start program) rules.openingScene events last s')
    (hdone : last.cursor = .done) (hrunning : last.outcome = .running)
    (houtcome : r'.outcome = (rules.goal s').outcome) :
    (⟨notices, events, r', s'⟩ : Playback).Won rules ∨
      (⟨notices, events, r', s'⟩ : Playback).FellShort rules program items := by
  cases hgoal : rules.goal s' with
  | met message =>
    rw [hgoal] at houtcome
    exact .inl ⟨message, houtcome, hgoal⟩
  | unmet reason =>
    rw [hgoal] at houtcome
    exact .inr ⟨reason, houtcome, hgoal, completed_of_done hplan hne htrace hdone hrunning⟩

/-- A run without a failed step ends in one of three ways. -/
theorem ends_of_trace (hplan : Plan.ofProgram program = .ok items) (hne : program ≠ [])
    (htrace : Trace rules (start program) rules.openingScene events last s')
    (hlast : last.step rules s' = (.finished r'.outcome, r', s'))
    (hgood : ∀ e ∈ events, e.severity ≠ .failure) :
    (⟨notices, events, r', s'⟩ : Playback).Won rules ∨
      (⟨notices, events, r', s'⟩ : Playback).FellShort rules program items ∨
      (⟨notices, events, r', s'⟩ : Playback).Halted items := by
  have hover : (start program).isOver = false := by
    rw [Run.start_of_ofProgram hne hplan]
    rfl
  cases htrace.endsBy hover hlast with
  | step hevents hbefore hstep hended =>
    subst hevents
    exact (won_or_halted hplan hbefore hstep hended (hgood _ (by simp))).imp id .inr
  | goal hwhole hdone hrunning houtcome =>
    exact (won_or_fellShort hplan hne hwhole hdone hrunning houtcome).imp id .inl

/-- A failed step is the last of its run, and gives the outcome its reason. -/
theorem failed_last_of_trace
    (htrace : Trace rules (start program) rules.openingScene events last s')
    (hlast : last.step rules s' = (.finished r'.outcome, r', s')) {before after : List Event}
    {e : Event} (hevents : events = before ++ e :: after) (hfailed : e.severity = .failure) :
    after = [] ∧ ∃ kind, r'.outcome = .failure kind e.message := by
  rw [hevents] at htrace
  obtain ⟨hnil, kind, houtcome⟩ := htrace.failed_last hfailed
  rw [Run.step_of_isOver (Run.isOver_of_failure houtcome)] at hlast
  exact ⟨hnil, kind, (congrArg (fun answer => answer.2.1.outcome) hlast).symm.trans houtcome⟩

/-- A kind of failure that neither the goal nor a loop has comes from the last step. -/
theorem failed_of_kind {p : Playback}
    (hends : (∀ e ∈ p.events, e.severity ≠ .failure) →
      p.Won rules ∨ p.FellShort rules program items ∨ p.Halted items)
    (hlast : ∀ before e after, p.events = before ++ e :: after → e.severity = .failure →
      after = [])
    {kind : FailureKind} {reason : String} (houtcome : p.run.outcome = .failure kind reason)
    (hgoal : kind ≠ .incompleteGoal) (hloop : kind ≠ .runawayLoop)
    (hvariable : kind ≠ .missingPrecondition) :
    ∃ e, p.events.getLast? = some e ∧ e.severity = .failure := by
  apply Classical.byContradiction
  intro hnone
  have hkind : p.run.outcome.failureKind? = some kind := by
    rw [houtcome]
    rfl
  have hgood : ∀ e ∈ p.events, e.severity ≠ .failure := by
    intro e hmem hfailed
    obtain ⟨before, after, hevents⟩ := List.append_of_mem hmem
    obtain rfl := hlast before e after hevents hfailed
    exact hnone ⟨e, by simp [hevents], hfailed⟩
  obtain hwon | hshort | hhalted := hends hgood
  · simpa [hkind] using hwon.failureKind?
  · simpa [hkind, hgoal] using hshort.failureKind?
  · simpa [hkind, hloop, hvariable] using hhalted.failureKind?

/-- What `Explained` says of a run from its start to a call that finds it over. -/
theorem explained_of_trace (hplan : Plan.ofProgram program = .ok items) (hne : program ≠ [])
    (htrace : Trace rules (start program) rules.openingScene events last s')
    (hlast : last.step rules s' = (.finished r'.outcome, r', s')) :
    (⟨notices, events, r', s'⟩ : Playback).Explained rules program items where
  isFinal_outcome := by
    obtain ⟨-, -, -, hfinal⟩ := Run.of_step_eq_finished hlast
    exact hfinal
  failed_last before e after hevents hfailed :=
    failed_last_of_trace htrace hlast hevents hfailed
  ends_once hgood := exactlyOne_of_or (ends_of_trace hplan hne htrace hlast hgood)
  failed_of_kind kind reason houtcome hgoal hloop hvariable :=
    failed_of_kind (ends_of_trace hplan hne htrace hlast)
      (fun _ _ _ hevents hfailed => (failed_last_of_trace htrace hlast hevents hfailed).1)
      houtcome hgoal hloop hvariable
  step_of_event before e after hevents := by
    change events = _ at hevents
    rw [hevents] at htrace
    obtain ⟨r, s, next, hbefore, hstep, -⟩ := htrace.step_of_eq_append
    exact ⟨r, s, next, hbefore, hstep⟩
  scene_eq := htrace.scene_eq
  names e hmem := htrace.names hmem
  round_isSome_iff e hmem := by
    obtain ⟨p, hp⟩ := htrace.exists_standsAt hplan hmem
    exact hp.round_isSome_iff (Plan.flatMap_lines_ascending hplan)
  round_le e hmem k hround := by
    obtain ⟨p, hp⟩ := htrace.exists_standsAt hplan hmem
    exact hp.round_le hround

end Playback

namespace Rules

/-- Whatever the rules, the outcome of a program that is run to its end without being
stopped is explained by its events and its last scene.  If the actions are those of a
level, whatever else of its rules is replaced, the outcome is never that of a refused
program or of a run that was stopped. -/
theorem play_explained (hne : program ≠ [])
    (hflat : Plan.Unnested (program.map (fun placed => placed.block.category)))
    (rules : Rules) (s : Scene) :
    ∃ items, Plan.ofProgram program = .ok items ∧
      (rules.play program .never s).Explained rules program items ∧
      ∀ setup : Setup, rules.perform = setup.rules.perform → ∀ kind reason,
        (rules.play program .never s).run.outcome = .failure kind reason →
          kind ≠ .invalidProgram ∧ kind ≠ .cancelled := by
  obtain ⟨items, hplan⟩ := (Plan.exists_ofProgram_iff program).2 hflat
  have hover := Run.isOver_start_eq_false hne hflat
  obtain ⟨events, last, r', s', htrace, hlast, hwhole⟩ := exists_trace_play hover rules s
  rw [hwhole]
  refine ⟨items, hplan, Playback.explained_of_trace hplan hne htrace hlast, ?_⟩
  intro setup hactions kind reason houtcome
  have hperform : ∀ op s, (rules.perform op s).1.Ordinary := by
    rw [hactions]
    exact setup.ordinary_perform
  cases htrace.endsBy hover hlast with
  | step hevents hbefore hstep hended =>
    obtain ⟨line, round, hmade⟩ := Run.made_of_step_eq hstep
    exact hmade.kind_of_failure hperform houtcome
  | goal hwhole hdone hrunning hgoal =>
    rw [hgoal] at houtcome
    cases h : rules.goal s' with
    | met message =>
      rw [h] at houtcome
      cases houtcome
    | unmet unmetReason =>
      rw [h] at houtcome
      cases houtcome
      decide

/-- A loop of the bridge with nothing inside it. -/
def idling : List Placed :=
  (Program.ofIds Bridge.blocks
    ["create-steps", "repeat-while-steps-below-10", "end-loop"]).placed

/-- No step of it fails, and its loop stops it behind the header. -/
theorem play_idling_explained :
    idling ≠ [] ∧ Plan.Unnested (idling.map (fun placed => placed.block.category)) ∧
      ∃ items, Plan.ofProgram idling = .ok items ∧
        (Bridge.rules.play idling .never Bridge.rules.openingScene).Explained Bridge.rules
          idling items ∧
        (Bridge.rules.play idling .never Bridge.rules.openingScene).Halted items := by
  have hne : idling ≠ [] := by decide +kernel
  have hflat : Plan.Unnested (idling.map (fun placed => placed.block.category)) :=
    (Plan.exists_ofProgram_iff idling).1 ⟨_, rfl⟩
  obtain ⟨items, hplan, hexplained, -⟩ :=
    play_explained hne hflat Bridge.rules Bridge.rules.openingScene
  have hkind : (Bridge.rules.play idling .never
      Bridge.rules.openingScene).run.outcome.failureKind? = some .runawayLoop := by
    decide +kernel
  refine ⟨hne, hflat, items, hplan, hexplained, ?_⟩
  obtain ⟨hwon, -⟩ | ⟨-, hshort, -⟩ | ⟨-, -, hhalted⟩ :=
    hexplained.ends_once (by decide +kernel)
  · rw [hwon.failureKind?] at hkind
    cases hkind
  · rw [hshort.failureKind?] at hkind
    cases hkind
  · exact hhalted

end Rules

end Spellbook

import Spellbook.Level.Rules
import Spellbook.Program
import Spellbook.Proofs.Run.Finish
set_option autoImplicit false

/-!
# Goals that end a run

On a level that does not wait for the end of the program, a step into a scene that meets
the goal is the last one (`met_step_is_last`).  The run succeeds unless a loop stops it
right after that step: behind a header or the last line of a round the loop is asked
first.
-/

namespace Spellbook

open Plan (Item)

/-! ## Loops that stop a run -/

/-- Why a loop stops the run when round `k` is due. -/
inductive Loop.Stops (l : Loop) (k : Nat) (vars : Bindings) : LoopFault → Prop
  | tooManyRounds {times : Nat} (hop : l.header.block.op = .repeatTimes times)
      (hbody : l.body ≠ []) (hdue : k ≤ times) (hround : maxRounds < k) :
      Stops l k vars .tooManyRounds
  | unbound {name : String} {below : Number}
      (hop : l.header.block.op = .repeatWhile name below)
      (hvalue : vars.number? name = none) : Stops l k vars (.unbound name)
  | emptyBody {name : String} {below value : Number}
      (hop : l.header.block.op = .repeatWhile name below)
      (hvalue : vars.number? name = some value) (hlow : value.val < below.val)
      (hbody : l.body = []) : Stops l k vars (.emptyBody name)
  | endless {name : String} {below value : Number}
      (hop : l.header.block.op = .repeatWhile name below)
      (hvalue : vars.number? name = some value) (hlow : value.val < below.val)
      (hbody : l.body ≠ []) (hround : maxRounds < k) : Stops l k vars (.endless name below)

theorem Loop.stops_of_enter_eq_error {l : Loop} {k : Nat} {vars : Bindings}
    {rest : List Item} {fault : LoopFault} (h : l.enter k vars rest = .error fault) :
    l.Stops k vars fault := by
  unfold enter at h
  split at h
  · rename_i times hop
    split at h
    · cases h
    · rename_i first left hbody
      have hne : l.body ≠ [] := by simp [hbody]
      split at h
      · cases h
      · rename_i hdue
        split at h
        · rename_i hround
          cases h
          exact .tooManyRounds hop hne (Nat.not_lt.1 hdue) hround
        · cases h
  · rename_i name below hop
    split at h
    · rename_i hvalue
      cases h
      exact .unbound hop hvalue
    · rename_i value hvalue
      split at h
      · cases h
      · rename_i hlow
        split at h
        · rename_i hbody
          cases h
          exact .emptyBody hop hvalue (Int.not_le.1 hlow) hbody
        · rename_i first left hbody
          have hne : l.body ≠ [] := by simp [hbody]
          split at h
          · rename_i hround
            cases h
            exact .endless hop hvalue (Int.not_le.1 hlow) hne hround
          · cases h
  · cases h

theorem Loop.Stops.enter_eq {l : Loop} {k : Nat} {vars : Bindings} {fault : LoopFault}
    (h : l.Stops k vars fault) (rest : List Item) : l.enter k vars rest = .error fault := by
  cases h with
  | tooManyRounds hop hbody hdue hround =>
    obtain ⟨first, left, hcons⟩ := List.exists_cons_of_ne_nil hbody
    simp only [enter, hop, hcons, if_neg (Nat.not_lt.2 hdue), if_pos hround]
  | unbound hop hvalue => simp only [enter, hop, hvalue]
  | emptyBody hop hvalue hlow hbody =>
    simp only [enter, hop, hvalue, if_neg (Int.not_le.2 hlow), hbody]
  | endless hop hvalue hlow hbody hround =>
    obtain ⟨first, left, hcons⟩ := List.exists_cons_of_ne_nil hbody
    simp only [enter, hop, hvalue, if_neg (Int.not_le.2 hlow), hcons, if_pos hround]

/-- A loop stops the run right after the block that comes next, if this leaves the
variables so: the block is the header or the last line of a round. -/
def Cursor.StoppedBy (c : Cursor) (vars : Bindings) (fault : LoopFault) : Prop :=
  ∃ l k, c.boundary = some (l, k) ∧ l.Stops k vars fault

theorem Cursor.next_eq_error_iff {c : Cursor} {vars : Bindings} {fault : LoopFault} :
    c.next vars = .error fault ↔ c.StoppedBy vars fault := by
  constructor
  · intro h
    cases c with
    | item i rest =>
      cases i with
      | single line => cases h
      | loop l => exact ⟨l, 1, rfl, Loop.stops_of_enter_eq_error h⟩
    | body l k line left rest =>
      cases left with
      | nil => exact ⟨l, k + 1, rfl, Loop.stops_of_enter_eq_error h⟩
      | cons first left => cases h
    | close marker rounds rest => cases h
    | done => cases h
  · rintro ⟨l, k, hboundary, hstops⟩
    cases c with
    | item i rest =>
      cases i with
      | single line => cases hboundary
      | loop l =>
        cases hboundary
        exact hstops.enter_eq rest
    | body l' k' line left rest =>
      obtain ⟨rfl, rfl, rfl⟩ := of_boundary_body hboundary
      exact hstops.enter_eq rest
    | close marker rounds rest => cases hboundary
    | done => cases hboundary

namespace Run

/-! ## The last step -/

/-- A good step into a scene that meets the goal ends the run, as the loop says that
stops it there and else with success. -/
theorem Settles.of_met {c c' : Cursor} {rules : Rules} {done : Step} {o : Outcome}
    {message : String} (h : Settles c rules done c' o) (heager : rules.eager = true)
    (hgood : done.effect.outcome = .running) (hmet : rules.goal done.scene = .met message) :
    (∃ fault, c.StoppedBy done.scene.vars fault ∧ o = fault.outcome) ∨
      (∀ fault, ¬ c.StoppedBy done.scene.vars fault) ∧ o = .success message := by
  cases h with
  | failed heffect =>
    rw [heffect] at hgood
    cases hgood
  | halted _ hnext => exact .inl ⟨_, Cursor.next_eq_error_iff.1 hnext, rfl⟩
  | won _ hnext _ hmet' =>
    refine .inr ⟨fun fault hstopped => ?_, ?_⟩
    · rw [Cursor.next_eq_error_iff.2 hstopped] at hnext
      cases hnext
    · rw [hmet] at hmet'
      cases hmet'
      rfl
  | onward _ _ hgoal => exact absurd hmet (hgoal heager message)

/-- Such a step leaves its run over. -/
theorem Made.of_met {r r' : Run} {rules : Rules} {s s' : Scene} {e : Event} {line : Line}
    {round : Option Nat} {message : String} (h : Made r rules s e r' s' line round)
    (heager : rules.eager = true) (hgood : e.severity ≠ .failure)
    (hmet : rules.goal s' = .met message) :
    r'.isOver = true ∧
      (r'.outcome = .success message ↔ ∀ fault, ¬ r.cursor.StoppedBy s'.vars fault) ∧
      ∀ fault, r.cursor.StoppedBy s'.vars fault → r'.outcome = fault.outcome := by
  have heffect : (r.performed line rules s).effect.outcome = .running := by
    rw [h.event_eq] at hgood
    exact Effect.outcome_eq_running_iff.2 hgood
  have hsettled := h.settles.of_met heager heffect (by rw [← h.scene_eq, hmet])
  rw [← h.scene_eq] at hsettled
  obtain ⟨fault, hstopped, houtcome⟩ | ⟨hfree, houtcome⟩ := hsettled
  · have hnext := Cursor.next_eq_error_iff.2 hstopped
    refine ⟨by rw [isOver, houtcome]; rfl, ⟨fun hsuccess => ?_, fun hfree => ?_⟩, ?_⟩
    · rw [houtcome] at hsuccess
      cases hsuccess
    · exact absurd hstopped (hfree fault)
    · intro fault' hstopped'
      -- only one fault can stop the run there
      rw [Cursor.next_eq_error_iff.2 hstopped'] at hnext
      cases hnext
      exact houtcome
  · refine ⟨by rw [isOver, houtcome]; rfl, ⟨fun _ => hfree, fun _ => houtcome⟩, ?_⟩
    intro fault hstopped
    exact absurd hstopped (hfree fault)

/-- On a level that ends a run as soon as its goal is met: once a step that did not fail
has led into such a scene, no event follows, whatever is called then, and the run has
succeeded exactly if no loop stops it right after that step. -/
theorem met_step_is_last {program : List Placed} {calls : List Call} {rules : Rules}
    {s s' : Scene} {e : Event} {r' : Run} {message : String} (heager : rules.eager = true)
    (hstep : ((start program).after calls).step rules s = (.step e, r', s'))
    (hgood : e.severity ≠ .failure) (hmet : rules.goal s' = .met message)
    (later : List Call) :
    (start program).events (calls ++ .step rules s :: later) =
        (start program).events calls ++ [e] ∧
      (((start program).after (calls ++ .step rules s :: later)).outcome = .success message ↔
        ∀ fault, ¬ ((start program).after calls).cursor.StoppedBy s'.vars fault) ∧
      ∀ fault, ((start program).after calls).cursor.StoppedBy s'.vars fault →
        ((start program).after (calls ++ .step rules s :: later)).outcome = fault.outcome := by
  obtain ⟨line, round, hmade⟩ := made_of_step_eq hstep
  obtain ⟨hover, hsuccess, hstopped⟩ := hmade.of_met heager hgood hmet
  have hcall : ((start program).after calls).call (.step rules s) = r' := by
    rw [call, hstep]
  have hafter : (start program).after (calls ++ .step rules s :: later) = r' := by
    rw [after_append, after_cons, hcall, after_of_isOver hover]
  have hevents : (start program).events (calls ++ .step rules s :: later) =
      (start program).events calls ++ [e] := by
    rw [events_append, events_cons_of_step hstep, events_of_isOver hover]
  rw [hafter]
  exact ⟨hevents, hsuccess, hstopped⟩

/-- The bridge if a run were over as soon as the goal is met, with the wizard on the far
side. -/
def hastyBridge : Rules :=
  { Bridge.rules with
    eager := true
    initialWorld := { World.ofLength (Bridge.planks + 1) with position := Bridge.planks } }

/-- Counts steps from `first` on, one in each of so many rounds. -/
def counting (first : Number) (rounds : Nat) : List Placed :=
  (Program.empty.appendAll
    [.ofOp "set-steps" "Set steps" "" "" (.setNumber "steps" first),
     .ofOp "repeat" "Repeat" "" "" (.repeatTimes rounds),
     .ofOp "count-step" "Add 1 to steps" "" "" (.add "steps" .one),
     .ofOp "end-loop" "End loop" "" "" .endLoop]).placed

/-- The tenth step is counted in the first of four rounds, and the run succeeds. -/
theorem first_round_is_last :
    let r := start (counting (.ofNat 9) 4)
    let s := hastyBridge.openingScene.setVariable "steps" (.number (.ofNat 9))
    let calls := [Call.step hastyBridge s, Call.step hastyBridge s]
    hastyBridge.eager = true ∧
      ∃ e r' s', (r.after calls).step hastyBridge s = (.step e, r', s') ∧
        e.severity ≠ .failure ∧
        hastyBridge.goal s' =
          .met "The wizard crossed all 10 planks and counted every step!" ∧
        ∀ later,
          r.events (calls ++ .step hastyBridge s :: later) = r.events calls ++ [e] ∧
            (r.after (calls ++ .step hastyBridge s :: later)).outcome =
              .success "The wizard crossed all 10 planks and counted every step!" := by
  intro r s calls
  obtain ⟨e, r', s', hstep, hgood, hmet⟩ : ∃ e r' s',
      (r.after calls).step hastyBridge s = (.step e, r', s') ∧ e.severity ≠ .failure ∧
        hastyBridge.goal s' =
          .met "The wizard crossed all 10 planks and counted every step!" :=
    ⟨_, _, _, rfl, by decide, by decide⟩
  refine ⟨rfl, e, r', s', hstep, hgood, hmet, fun later => ?_⟩
  obtain ⟨hlast, hsuccess, -⟩ := met_step_is_last rfl hstep hgood hmet later
  refine ⟨hlast, hsuccess.2 ?_⟩
  rintro fault ⟨l, k, hboundary, hstops⟩
  cases hboundary
  cases hstops with
  | tooManyRounds hop hbody hdue hround => exact absurd hround (by decide)
  | unbound hop hvalue => cases hop
  | emptyBody hop hvalue hlow hbody => cases hop
  | endless hop hvalue hlow hbody hround => cases hop

/-- From -90 on, the last round that a loop can have counts the tenth step.  The loop
wants one round more, and so the run does not succeed. -/
theorem last_round_is_lost :
    let program := counting ⟨-90, by decide, by decide⟩ (maxRounds + 1)
    let ending := (start program).finish hastyBridge hastyBridge.openingScene
    hastyBridge.eager = true ∧
      ending.events.getLast?.map (fun e => (e.severity, hastyBridge.goal e.scene)) =
        some (.info, .met "The wizard crossed all 10 planks and counted every step!") ∧
      ending.outcome = LoopFault.tooManyRounds.outcome := by
  intro program ending
  exact ⟨rfl, by decide +kernel, by decide +kernel⟩

end Run

end Spellbook

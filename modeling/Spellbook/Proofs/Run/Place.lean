import Spellbook.Proofs.Plan.Layout
import Spellbook.Proofs.Run.Calls
set_option autoImplicit false

/-!
# Where a run stands

A cursor holds what is left to run.  A `Place` says the same by numbers: which item of
the plan, which round of its loop and which line inside the loop.  Every cursor that a
run can reach stands at a place of the plan (`wellFormed_after`), and each step leads to
a later place (`at_next`).
-/

namespace Spellbook

open Plan (Item)

/-- A place in a plan.  A header and a single line stand in round 0, and an end marker
after the last round that a loop can have. -/
structure Place where
  item : Nat
  round : Nat
  offset : Nat
  deriving DecidableEq, Inhabited

namespace Place

/-- Strict lexicographic order. -/
def lt (p q : Place) : Prop :=
  p.item < q.item ∨
    (p.item = q.item ∧ (p.round < q.round ∨ (p.round = q.round ∧ p.offset < q.offset)))

instance (p q : Place) : Decidable (p.lt q) :=
  inferInstanceAs (Decidable (_ ∨ _))

theorem lt_irrefl (p : Place) : ¬ p.lt p := by
  simp only [lt]
  omega

theorem lt_trans {p q t : Place} (h₁ : p.lt q) (h₂ : q.lt t) : p.lt t := by
  simp only [lt] at *
  omega

theorem lt_of_item_lt {p q : Place} (h : p.item < q.item) : p.lt q := .inl h

theorem lt_of_round_lt {p q : Place} (hitem : p.item = q.item) (h : p.round < q.round) :
    p.lt q :=
  .inr ⟨hitem, .inl h⟩

/-- The plan has this line at this place, and a run tags it with this round. -/
inductive Shows (items : List Item) : Place → Line → Option Nat → Prop
  | single {i : Nat} {line : Line} (hitem : items[i]? = some (.single line)) :
      Shows items ⟨i, 0, 0⟩ line none
  | header {i : Nat} {l : Loop} (hitem : items[i]? = some (.loop l)) :
      Shows items ⟨i, 0, 0⟩ l.header none
  | body {i round offset : Nat} {l : Loop} {line : Line}
      (hitem : items[i]? = some (.loop l)) (hline : l.body[offset]? = some line)
      (hfirst : 1 ≤ round) (hlast : round ≤ maxRounds) :
      Shows items ⟨i, round, offset⟩ line (some round)
  | marker {i : Nat} {l : Loop} {line : Line} (hitem : items[i]? = some (.loop l))
      (hmarker : l.marker = some line) :
      Shows items ⟨i, maxRounds + 1, 0⟩ line none

theorem Shows.getElem? {items : List Item} {p : Place} {line : Line} {round : Option Nat}
    (h : p.Shows items line round) :
    ∃ item, items[p.item]? = some item ∧ line ∈ item.lines := by
  cases h with
  | single hitem => exact ⟨_, hitem, by simp [Item.lines]⟩
  | header hitem => exact ⟨_, hitem, by simp [Item.lines]⟩
  | body hitem hline => exact ⟨_, hitem, by simp [Item.lines, List.mem_of_getElem? hline]⟩
  | marker hitem hmarker => exact ⟨_, hitem, by simp [Item.lines, hmarker]⟩

end Place

namespace Cursor

/-- The cursor stands at this place: all that is left to run is found there. -/
inductive At (items : List Item) : Cursor → Place → Prop
  | item {i : Nat} {item : Item} (hitem : items[i]? = some item) :
      At items (.item item (items.drop (i + 1))) ⟨i, 0, 0⟩
  | body {i round offset : Nat} {l : Loop} {line : Line}
      (hitem : items[i]? = some (.loop l)) (hline : l.body[offset]? = some line)
      (hfirst : 1 ≤ round) (hlast : round ≤ maxRounds) :
      At items (.body l round line (l.body.drop (offset + 1)) (items.drop (i + 1)))
        ⟨i, round, offset⟩
  | close {i rounds : Nat} {l : Loop} {line : Line} (hitem : items[i]? = some (.loop l))
      (hmarker : l.marker = some line) (hrounds : rounds ≤ maxRounds) :
      At items (.close line rounds (items.drop (i + 1))) ⟨i, maxRounds + 1, 0⟩

/-- The loop that decides where the run goes after the block that comes next, and the
round that it decides about. -/
def boundary : Cursor → Option (Loop × Nat)
  | item (.loop l) _ => some (l, 1)
  | body l round _ [] _ => some (l, round + 1)
  | _ => none

/-- What the cursor of a run can be: behind the last block, or at a place of the plan
where the program has the block that comes next.  A loop is asked only for a round that
has a number, and for one round more than there can be. -/
inductive WellFormed (program : List Placed) : Cursor → Prop
  | done : WellFormed program .done
  | placed {c : Cursor} {items : List Item} {p : Place} {line : Line} {round : Option Nat}
      (hplan : Plan.ofProgram program = .ok items) (hat : c.At items p)
      (hline : c.line? = some (line, round)) (hshows : p.Shows items line round)
      (hprogram : program[line.index]? = some line.placed)
      (hboundary : ∀ l k, c.boundary = some (l, k) → 1 ≤ k ∧ k ≤ maxRounds + 1) :
      WellFormed program c

/-! ## Every cursor at a place shows its line -/

variable {items : List Item} {c : Cursor} {p : Place}

theorem At.shows (h : c.At items p) :
    ∃ line round, c.line? = some (line, round) ∧ p.Shows items line round := by
  cases h with
  | @item i item hitem =>
    cases item with
    | single line => exact ⟨line, none, rfl, .single hitem⟩
    | loop l => exact ⟨l.header, none, rfl, .header hitem⟩
  | @body i round offset l line hitem hline hfirst hlast =>
    exact ⟨line, some round, rfl, .body hitem hline hfirst hlast⟩
  | @close i rounds l line hitem hmarker hrounds =>
    exact ⟨line, none, rfl, .marker hitem hmarker⟩

theorem of_boundary_body {l l' : Loop} {round k : Nat} {line : Line} {left : List Line}
    {rest : List Item} (h : (body l round line left rest).boundary = some (l', k)) :
    left = [] ∧ l' = l ∧ k = round + 1 := by
  cases left with
  | nil => simpa [boundary, eq_comm] using h
  | cons next left => cases h

theorem At.boundary_le (h : c.At items p) {l : Loop} {k : Nat}
    (hboundary : c.boundary = some (l, k)) : 1 ≤ k ∧ k ≤ maxRounds + 1 := by
  cases h with
  | @item i item hitem =>
    cases item with
    | single line => cases hboundary
    | loop l =>
      cases hboundary
      exact ⟨Nat.le_refl _, by decide⟩
  | body hitem hline hfirst hlast =>
    obtain ⟨-, -, rfl⟩ := of_boundary_body hboundary
    exact ⟨by omega, Nat.succ_le_succ hlast⟩
  | close hitem hmarker hrounds => cases hboundary

theorem WellFormed.of_at {program : List Placed} (hplan : Plan.ofProgram program = .ok items)
    (h : c.At items p) : c.WellFormed program := by
  obtain ⟨line, round, hline, hshows⟩ := h.shows
  obtain ⟨item, hitem, hmem⟩ := hshows.getElem?
  have hprogram := Plan.getElem?_of_mem_lines hplan (List.mem_of_getElem? hitem) hmem
  exact .placed hplan h hline hshows hprogram
    (fun l k hboundary => h.boundary_le hboundary)

theorem WellFormed.at_or_done {program : List Placed} (h : c.WellFormed program) :
    c = .done ∨ ∃ items p, Plan.ofProgram program = .ok items ∧ c.At items p := by
  cases h with
  | done => exact .inl rfl
  | placed hplan hat hline hshows hprogram hboundary => exact .inr ⟨_, _, hplan, hat⟩

/-- The program has the line that comes next where this line says. -/
theorem WellFormed.getElem?_of_line {program : List Placed} {line : Line}
    {round : Option Nat} (h : c.WellFormed program) (hline : c.line? = some (line, round)) :
    program[line.index]? = some line.placed := by
  cases h with
  | done => cases hline
  | placed hplan hat hline' hshows hprogram hboundary =>
    rw [hline'] at hline
    cases hline
    exact hprogram

/-- The end marker of a loop only tells its rounds, and any other line runs its block. -/
theorem WellFormed.perform_cases {program : List Placed} {line : Line} {round : Option Nat}
    (h : c.WellFormed program) (hline : c.line? = some (line, round)) (rules : Rules)
    (answer : Option Bool) (s : Scene) :
    c.perform line rules answer s = line.block.run rules answer s ∨
      (line.category = .marker ∧
        ∃ rounds, c.perform line rules answer s = ⟨.done (closing rounds), s, answer⟩) := by
  cases h with
  | done => cases hline
  | placed hplan hat hline' hshows hprogram hboundary =>
    cases hat with
    | item hitem => exact .inl rfl
    | body hitem hbody hfirst hlast => exact .inl rfl
    | close hitem hmarker hrounds =>
      cases hline
      have hsound := Plan.sound_of_ofProgram hplan _ (List.mem_of_getElem? hitem)
      exact .inr ⟨hsound.marker _ hmarker, _, rfl⟩

/-! ## Each step leads to a later place -/

theorem at_ofItems_drop_of_lt {i : Nat} (hi : i < items.length) :
    (ofItems (items.drop i)).At items ⟨i, 0, 0⟩ := by
  rw [List.drop_eq_getElem_cons hi]
  exact .item (List.getElem?_eq_getElem hi)

theorem at_ofItems_drop (items : List Item) (i : Nat) :
    ofItems (items.drop i) = .done ∨ (ofItems (items.drop i)).At items ⟨i, 0, 0⟩ := by
  by_cases hi : i < items.length
  · exact .inr (at_ofItems_drop_of_lt hi)
  · rw [List.drop_eq_nil_of_le (Nat.le_of_not_lt hi)]
    exact .inl rfl

/-- A loop that is asked for round `k` leads to a place behind all its earlier rounds, or
behind the whole item. -/
theorem within_or_behind_of_enter {i k : Nat} {l : Loop} {vars : Bindings}
    (hitem : items[i]? = some (.loop l)) (hfirst : 1 ≤ k) (hlast : k ≤ maxRounds + 1)
    (h : l.enter k vars (items.drop (i + 1)) = .ok c) :
    (∃ q, c.At items q ∧ q.item = i ∧ k ≤ q.round) ∨ c = .ofItems (items.drop (i + 1)) := by
  obtain ⟨first, left, hbody, hk, rfl⟩ | ⟨rounds, hrounds, rfl⟩ | rfl := Loop.of_enter_eq_ok h
  · have hat : Cursor.At items (.body l k first (l.body.drop (0 + 1)) (items.drop (i + 1)))
        ⟨i, k, 0⟩ :=
      .body hitem (by rw [hbody]; rfl) hfirst hk
    rw [hbody] at hat
    exact .inl ⟨_, hat, rfl, Nat.le_refl k⟩
  · cases hmarker : l.marker with
    | some line =>
      rw [Loop.close, hmarker]
      exact .inl ⟨_, .close hitem hmarker (by omega), rfl, hlast⟩
    | none =>
      rw [Loop.close, hmarker]
      exact .inr rfl
  · exact .inr rfl

/-- A step leads to a later place in the same item, or behind the item. -/
theorem within_or_behind_of_next {c' : Cursor} {vars : Bindings} (hat : c.At items p)
    (h : c.next vars = .ok c') :
    (∃ q, c'.At items q ∧ q.item = p.item ∧ p.lt q) ∨
      c' = .ofItems (items.drop (p.item + 1)) := by
  cases hat with
  | @item i item hitem =>
    cases item with
    | single line => exact .inr (Except.ok.inj h).symm
    | loop l =>
      refine (within_or_behind_of_enter hitem (Nat.le_refl _) (by decide) h).imp ?_ id
      rintro ⟨q, hq, hsame, hround⟩
      exact ⟨q, hq, hsame, Place.lt_of_round_lt hsame.symm hround⟩
  | @body i round offset l line hitem hline hfirst hlast =>
    cases hleft : l.body.drop (offset + 1) with
    | nil =>
      rw [hleft] at h
      refine (within_or_behind_of_enter hitem (Nat.le_add_left _ _) (Nat.succ_le_succ hlast)
        h).imp ?_ id
      rintro ⟨q, hq, hsame, hround⟩
      exact ⟨q, hq, hsame, Place.lt_of_round_lt hsame.symm hround⟩
    | cons next left =>
      rw [hleft] at h
      have hnext : l.body[offset + 1]? = some next := by
        rw [← Nat.add_zero (offset + 1), ← List.getElem?_drop, hleft]
        rfl
      have hrest : left = l.body.drop (offset + 1 + 1) := by
        rw [← List.drop_drop, hleft]
        rfl
      rw [← Except.ok.inj h, hrest]
      exact .inl ⟨_, .body hitem hnext hfirst hlast, rfl,
        .inr ⟨rfl, .inr ⟨rfl, Nat.lt_succ_self _⟩⟩⟩
  | @close i rounds l line hitem hmarker hrounds => exact .inr (Except.ok.inj h).symm

/-- The place after a step is later than the place before it. -/
theorem at_next {c' : Cursor} {vars : Bindings} (hat : c.At items p)
    (h : c.next vars = .ok c') : c' = .done ∨ ∃ q, c'.At items q ∧ p.lt q := by
  obtain ⟨q, hq, -, hlt⟩ | rfl := within_or_behind_of_next hat h
  · exact .inr ⟨q, hq, hlt⟩
  · exact (at_ofItems_drop items (p.item + 1)).imp id
      (fun hq => ⟨_, hq, Place.lt_of_item_lt (Nat.lt_succ_self _)⟩)

end Cursor

namespace Run

/-! ## Every run stands at a place -/

variable {program : List Placed} {items : List Item}

theorem Settles.at_or_done {c c' : Cursor} {rules : Rules} {done : Step} {o : Outcome}
    {p : Place} (h : Settles c rules done c' o) (hat : c.At items p) :
    c' = .done ∨ ∃ q, c'.At items q ∧ p.lt q := by
  cases h with
  | failed heffect => exact .inl rfl
  | halted hgood hnext => exact .inl rfl
  | won hgood hnext heager hmet => exact .inl rfl
  | onward hgood hnext hgoal => exact Cursor.at_next hat hnext

/-- A run that is accepted begins at the first place of its plan. -/
theorem start_cursor (program : List Placed) :
    (start program).cursor = .done ∨
      ∃ items, Plan.ofProgram program = .ok items ∧
        (start program).cursor.At items ⟨0, 0, 0⟩ := by
  unfold start
  split
  · exact .inl rfl
  · split
    · rename_i items hplan
      exact (Cursor.at_ofItems_drop items 0).imp id (fun hat => ⟨items, hplan, hat⟩)
    · exact .inl rfl

theorem wellFormed_start (program : List Placed) :
    (start program).cursor.WellFormed program := by
  obtain hdone | ⟨items, hplan, hat⟩ := start_cursor program
  · rw [hdone]
    exact .done
  · exact .of_at hplan hat

theorem wellFormed_call {r : Run} (h : r.cursor.WellFormed program) (c : Call) :
    (r.call c).cursor.WellFormed program := by
  cases c with
  | cancel =>
    rw [call, cancel]
    split
    · exact h
    · exact .done
  | step rules s =>
    rcases hstep : r.step rules s with ⟨a, r', s'⟩
    rw [call, hstep]
    cases a with
    | finished o =>
      obtain ⟨-, rfl, -⟩ := of_step_eq_finished hstep
      exact h
    | step e =>
      obtain ⟨line, round, hmade⟩ := made_of_step_eq hstep
      obtain hdone | ⟨items, p, hplan, hat⟩ := h.at_or_done
      · have hline := hmade.line?_eq
        rw [hdone] at hline
        cases hline
      · show r'.cursor.WellFormed program
        obtain hdone | ⟨q, hq, -⟩ := hmade.settles.at_or_done hat
        · rw [hdone]
          exact .done
        · exact .of_at hplan hq

theorem wellFormed_after (program : List Placed) (calls : List Call) :
    ((start program).after calls).cursor.WellFormed program :=
  after_induction (P := fun r => r.cursor.WellFormed program)
    (fun _ c h => wellFormed_call h c) (wellFormed_start program) calls

/-! ## What is announced is what runs -/

theorem upcoming_eq_none_iff {r : Run} :
    r.upcoming = none ↔ r.isOver = true ∨ r.cursor = .done := by
  cases hover : r.isOver with
  | true => simp [upcoming, hover]
  | false => simp [upcoming, hover, Cursor.line?_eq_none_iff]

theorem upcoming_of_line {r : Run} (h : r.isOver = false) {line : Line} {round : Option Nat}
    (hline : r.cursor.line? = some (line, round)) (done : Step) :
    r.upcoming = some (event line round done).notice := by
  simp [upcoming, h, hline, event, Event.notice]

/-- The announced block is the block of the event, if the next step has one. -/
theorem upcoming_of_step_eq {r r' : Run} {rules : Rules} {s s' : Scene} {e : Event}
    (h : r.step rules s = (.step e, r', s')) : r.upcoming = some e.notice := by
  obtain ⟨line, round, hmade⟩ := made_of_step_eq h
  rw [hmade.event_eq]
  exact upcoming_of_line hmade.isOver_eq hmade.line?_eq _

theorem upcoming_of_finished {r r' : Run} {rules : Rules} {s s' : Scene} {o : Outcome}
    (h : r.step rules s = (.finished o, r', s')) : r.upcoming = none := by
  obtain ⟨hend, -⟩ := of_step_eq_finished h
  exact upcoming_eq_none_iff.2 hend

end Run

end Spellbook

import Spellbook.Level.Bridge
import Spellbook.Proofs.Run.Place
import Spellbook.Proofs.Session.Refinement
set_option autoImplicit false

/-!
# What a session looks up

The places of a plan are places of its program, and the pointer of a session is at a place of the
plan (`Session.WellFormed`).  This holds after any calls, whatever the rules and the scenes are, so
nothing is looked up in vain and no loop is found without the place that the pointer is at; and
what is announced is what runs (`Session.after_wellFormed_and_announced`).
-/

namespace Spellbook

open Plan (Item)

/-- The places of the blocks of a part. -/
def Part.indices : Part → List Nat
  | single index => [index]
  | loop header body marker => header :: body ++ marker.toList

/-- The pointer is at a place of the plan, in a round that a loop can have, or at the end. -/
inductive Pointer.Within (plan : List Part) : Pointer → Prop
  | item {item : Nat} (hitem : item < plan.length) : Within plan (.item item)
  | body {item round offset header : Nat} {body : List Nat} {marker : Option Nat}
      (hitem : plan[item]? = some (.loop header body marker)) (hoffset : offset < body.length)
      (hfirst : 1 ≤ round) (hlast : round ≤ 100) : Within plan (.body item round offset)
  | close {item marker rounds header : Nat} {body : List Nat}
      (hitem : plan[item]? = some (.loop header body (some marker))) :
      Within plan (.close item marker rounds)
  | done : Within plan .done

namespace Session

variable {items : List Item} {t : Session} {r : Run}

/-- Every place that a session can look up is there. -/
structure WellFormed (t : Session) : Prop where
  /-- The plan has only places of the program. -/
  index_lt : ∀ part ∈ t.plan, ∀ index ∈ part.indices, index < t.program.length
  pointer : t.pointer.Within t.plan

theorem indices_part (item : Item) : item.part.indices = item.lines.map Line.index := by
  cases item with
  | single line => rfl
  | loop l =>
    cases hmarker : l.marker <;> simp [Item.part, Part.indices, Item.lines, hmarker]

theorem Laid.within (h : t.Laid items) {p : Pointer} {c : Cursor} (hholds : p.Holds items c) :
    p.Within t.plan := by
  cases hholds with
  | item hitem =>
    obtain ⟨hlt, -⟩ := List.getElem?_eq_some_iff.1 (h.plan_getElem? hitem)
    exact .item hlt
  | body hitem hline hfirst hlast =>
    obtain ⟨hlt, -⟩ := List.getElem?_eq_some_iff.1 hline
    exact .body (h.plan_getElem? hitem) (by rwa [List.length_map]) hfirst hlast
  | @close i rounds l line hitem hmarker =>
    have hpart : t.plan[i]? =
        some (.loop l.header.index (l.body.map Line.index) (some line.index)) := by
      rw [h.plan_getElem? hitem, Item.part, hmarker]
      rfl
    exact .close hpart
  | done => exact .done

theorem Follows.wellFormed (h : Follows items t r) : t.WellFormed := by
  have hlaid := h.laid
  constructor
  · intro part hpart index hindex
    rw [hlaid.plan_eq] at hpart
    obtain ⟨item, hitem, rfl⟩ := List.mem_map.1 hpart
    rw [indices_part] at hindex
    obtain ⟨line, hline, rfl⟩ := List.mem_map.1 hindex
    obtain ⟨hlt, -⟩ := List.getElem?_eq_some_iff.1 (hlaid.getElem?_eq item hitem line hline)
    exact hlt
  · rcases h.stands with hholds | ⟨-, hdone | ⟨i, hi, hitem⟩⟩
    · exact hlaid.within hholds
    · rw [hdone]
      exact .done
    · rw [hitem]
      exact .item (by rwa [hlaid.plan_eq, List.length_map])

/-- Where the pointer is inside a loop, the loop has that place. -/
theorem WellFormed.exists_bodyStep (h : t.WellFormed) {item round offset : Nat}
    (hpointer : t.pointer = .body item round offset) :
    ∃ index length, t.bodyStep item offset = some (some (index, length)) := by
  have hwithin := h.pointer
  rw [hpointer] at hwithin
  cases hwithin with
  | @body _ _ _ header body marker hitem hoffset hfirst hlast =>
    exact ⟨body[offset], body.length, by simp [bodyStep, hitem, List.getElem?_eq_getElem hoffset]⟩

/-- The session and the run are alike in all that is seen of them. -/
structure Agrees (t : Session) (r : Run) : Prop where
  program_eq : t.program = r.program
  answer_eq : t.answer = r.answer
  outcome_eq : t.outcome = r.outcome
  executed_eq : t.executed = r.executed
  upcoming_eq : t.upcoming = some r.upcoming
  exists_advance : ∀ rules s, ∃ t',
    t.advance rules s = some ((r.step rules s).1, t', (r.step rules s).2.2)

theorem Follows.agrees (h : Follows items t r) : t.Agrees r where
  program_eq := h.program_eq
  answer_eq := h.answer_eq
  outcome_eq := h.outcome_eq
  executed_eq := h.executed_eq
  upcoming_eq := h.upcoming_eq
  exists_advance rules s := by
    obtain ⟨t', hadvance, -⟩ := h.keeps rules s
    exact ⟨t', hadvance⟩

/-- Whatever the program is, and whatever is called on its session, in whatever scenes and under
whatever rules: the session is there, so no block has been looked up in vain; every place of its
plan is one of the program, and its pointer is at a place of the plan, in a round from 1 to 100 if
it is inside a loop; and no loop lacks the place that the pointer is at, so the session is never
sent on behind a loop without running a block.  The next call has an answer.  A block is announced
just if this answer tells of a step, which is a step of this block, and no block is announced just
if the answer is that the session is over.  The run of the program is alike after the same calls,
and it answers every further call alike. -/
theorem after_wellFormed_and_announced (program : List Placed) (calls : List Run.Call) :
    ∃ t, (start program).bind (fun opening => opening.after calls) = some t ∧ t.WellFormed ∧
      (∀ item round offset, t.pointer = .body item round offset →
        ∃ index length, t.bodyStep item offset = some (some (index, length))) ∧
      (∀ rules s, ∃ answer t' s', t.advance rules s = some (answer, t', s') ∧
        (∀ u, t.upcoming = some (some u) ↔ ∃ e, answer = .step e ∧ e.index = u.index ∧
          e.round = u.round ∧ e.number = u.number ∧ e.blockId = u.blockId) ∧
        (t.upcoming = some none ↔ ∃ o, answer = .finished o)) ∧
      t.Agrees ((Run.start program).after calls) := by
  obtain ⟨opening, items, hstart, hopening⟩ := exists_follows_start program
  obtain ⟨t, hafter, hfollows⟩ := hopening.after calls
  have hwellFormed := hfollows.wellFormed
  refine ⟨t, by rw [hstart]; exact hafter, hwellFormed,
    fun item round offset => hwellFormed.exists_bodyStep, fun rules s => ?_, hfollows.agrees⟩
  obtain ⟨t', hadvance, -⟩ := hfollows.keeps rules s
  refine ⟨_, t', _, hadvance, ?_⟩
  rw [hfollows.upcoming_eq]
  rcases hstep : ((Run.start program).after calls).step rules s with ⟨a, r', s'⟩
  cases a with
  | step e =>
    rw [Run.upcoming_of_step_eq hstep]
    refine ⟨fun u => ?_, by simp⟩
    constructor
    · rintro ⟨⟩
      exact ⟨e, rfl, rfl, rfl, rfl, rfl⟩
    · rintro ⟨_, ⟨⟩, hindex, hround, hnumber, hid⟩
      rw [Event.notice, hindex, hround, hnumber, hid]
  | finished o =>
    rw [Run.upcoming_of_finished hstep]
    simp

/-- A block that fails ends the session, but its pointer is at the block behind. -/
example :
    let program : List Placed :=
      [⟨1, .ofOp "count-step" "Add 1 to steps" "" "" (.add "steps" .one)⟩, ⟨2, .stepForward⟩]
    ((start program).bind
        (fun t => t.call (.step Bridge.rules Bridge.rules.openingScene))).map
      (fun t => (t.isOver, t.pointer)) = some (true, .item 1) := by decide +kernel

end Session

end Spellbook

import Spellbook.Proofs.Run.Calls
import Spellbook.Session
set_option autoImplicit false

/-!
# The moves of a session

`Pointer.Holds` says that a pointer is where a cursor stands: what the plan has from there on is
what the cursor has left.  Each move of a session has one lemma, which finds the block that is
looked up and says that the session moves as the cursor does (`Laid.moved_enterRound`), or that
it leaves the block that has run as the cursor does (`Laid.left_runItem`, `Laid.left_runBody`,
`Laid.left_runClose`).
-/

namespace Spellbook

open Plan (Item)

/-! ## Pointers and cursors -/

/-- The pointer is where the cursor stands: what the plan has from there on is what the cursor
has left. -/
inductive Pointer.Holds (items : List Item) : Pointer → Cursor → Prop
  | item {i : Nat} {item : Item} (hitem : items[i]? = some item) :
      Holds items (.item i) (.item item (items.drop (i + 1)))
  | body {i round offset : Nat} {l : Loop} {line : Line}
      (hitem : items[i]? = some (.loop l)) (hline : l.body[offset]? = some line)
      (hfirst : 1 ≤ round) (hlast : round ≤ maxRounds) :
      Holds items (.body i round offset)
        (.body l round line (l.body.drop (offset + 1)) (items.drop (i + 1)))
  | close {i rounds : Nat} {l : Loop} {line : Line} (hitem : items[i]? = some (.loop l))
      (hmarker : l.marker = some line) :
      Holds items (.close i line.index rounds) (.close line rounds (items.drop (i + 1)))
  | done : Holds items .done .done

/-- The pointer is behind a block of the plan: at another one or at the end. -/
def Pointer.Behind (items : List Item) (p : Pointer) : Prop :=
  p = .done ∨ ∃ i < items.length, p = .item i

namespace Session

variable {items : List Item} {t t' : Session} {i round : Nat} {l : Loop} {line : Line}
  {done : Step}

/-! ## Lookups -/

/-- The plan of the session is that of these items, and their lines stand in its program where
they say. -/
structure Laid (t : Session) (items : List Item) : Prop where
  plan_eq : t.plan = items.map Item.part
  getElem?_eq : ∀ item ∈ items, ∀ line ∈ item.lines, t.program[line.index]? = some line.placed

theorem Laid.of_eq (h : t.Laid items) (hprogram : t'.program = t.program)
    (hplan : t'.plan = t.plan) : t'.Laid items :=
  ⟨hplan.trans h.plan_eq, by rw [hprogram]; exact h.getElem?_eq⟩

theorem Laid.plan_getElem? (h : t.Laid items) {item : Item} (hitem : items[i]? = some item) :
    t.plan[i]? = some item.part := by
  rw [h.plan_eq, List.getElem?_map, hitem]
  rfl

theorem Laid.getElem?_header (h : t.Laid items) (hitem : items[i]? = some (.loop l)) :
    t.program[l.header.index]? = some l.header.placed :=
  h.getElem?_eq _ (List.mem_of_getElem? hitem) _ (by simp [Item.lines])

/-- The block that a cursor shows is in the program where it says. -/
theorem Laid.getElem?_line (h : t.Laid items) {p : Pointer} {c : Cursor}
    (hholds : p.Holds items c) {shown : Option Nat} (hline : c.line? = some (line, shown)) :
    t.program[line.index]? = some line.placed := by
  cases hholds with
  | @item i item hitem =>
    have hmem := h.getElem?_eq _ (List.mem_of_getElem? hitem)
    cases item <;> cases hline <;> exact hmem _ (by simp [Item.lines])
  | body hitem hbody =>
    cases hline
    exact h.getElem?_eq _ (List.mem_of_getElem? hitem) _
      (by simp [Item.lines, List.mem_of_getElem? hbody])
  | close hitem hmarker =>
    cases hline
    exact h.getElem?_eq _ (List.mem_of_getElem? hitem) _ (by simp [Item.lines, hmarker])
  | done => cases hline

/-! ## Moves -/

theorem Laid.behind_itemPointer (h : t.Laid items) (i : Nat) :
    (t.itemPointer i).Behind items := by
  unfold itemPointer
  rw [h.plan_eq, List.length_map]
  split
  · exact .inr ⟨i, ‹_›, rfl⟩
  · exact .inl rfl

theorem Laid.holds_itemPointer (h : t.Laid items) (i : Nat) :
    (t.itemPointer i).Holds items (.ofItems (items.drop i)) := by
  unfold itemPointer
  rw [h.plan_eq, List.length_map]
  split
  · rename_i hi
    rw [List.drop_eq_getElem_cons hi]
    exact .item (List.getElem?_eq_getElem hi)
  · rename_i hi
    rw [List.drop_eq_nil_of_le (Nat.le_of_not_lt hi)]
    exact .done

theorem Laid.exists_closePointer (h : t.Laid items) (hitem : items[i]? = some (.loop l))
    (rounds : Nat) :
    ∃ p, t.closePointer i rounds = some p ∧
      p.Holds items (l.close rounds (items.drop (i + 1))) := by
  have hpart := h.plan_getElem? hitem
  cases hmarker : l.marker with
  | none =>
    refine ⟨t.itemPointer (i + 1), ?_, ?_⟩
    · simp [closePointer, hpart, Item.part, hmarker]
    · rw [Loop.close, hmarker]
      exact h.holds_itemPointer (i + 1)
  | some marker =>
    refine ⟨.close i marker.index rounds, ?_, ?_⟩
    · simp [closePointer, hpart, Item.part, hmarker]
    · rw [Loop.close, hmarker]
      exact .close hitem hmarker

/-- A session has moved as a cursor does: on to where the cursor then stands, or a loop has
stopped it. -/
inductive Moved (items : List Item) (t : Session) : Except LoopFault Cursor → Session → Prop
  | onward {p : Pointer} {c : Cursor} (h : p.Holds items c) : Moved items t (.ok c) (t.goTo p)
  | stopped {fault : LoopFault} : Moved items t (.error fault) (t.stop fault)

/-- The first place of a round that a loop can have. -/
theorem moved_body (t : Session) {first : Line} {left : List Line}
    (hitem : items[i]? = some (.loop l)) (hbody : l.body = first :: left) (hfirst : 1 ≤ round)
    (hlast : ¬ maxRounds < round) :
    Moved items t (.ok (.body l round first left (items.drop (i + 1))))
      (t.goTo (.body i round 0)) := by
  have hholds : Pointer.Holds items (.body i round 0)
      (.body l round first (l.body.drop (0 + 1)) (items.drop (i + 1))) :=
    .body hitem (by rw [hbody]; rfl) hfirst (Nat.le_of_not_lt hlast)
  rw [hbody] at hholds
  exact .onward hholds

theorem Laid.moved_of_repeatTimes (h : t.Laid items) (hitem : items[i]? = some (.loop l))
    (hfirst : 1 ≤ round) (vars : Bindings) {times : Nat}
    (hop : l.header.block.op = .repeatTimes times) :
    ∃ t', t.enterRound i round vars = some t' ∧
      Moved items t (l.enter round vars (items.drop (i + 1))) t' := by
  have hop' : l.header.placed.block.op = .repeatTimes times := hop
  have hclose := h.exists_closePointer hitem
  simp only [enterRound, h.plan_getElem? hitem, Item.part, Option.bind_eq_bind, Option.bind_some,
    h.getElem?_header hitem, hop', Loop.enter, hop]
  cases hbody : l.body with
  | nil =>
    obtain ⟨p, hp, hholds⟩ := hclose 0
    exact ⟨t.goTo p, by simp [hp], .onward hholds⟩
  | cons first left =>
    simp only [List.map_cons, List.isEmpty_cons, Bool.false_eq_true, if_false]
    by_cases htimes : times < round
    · obtain ⟨p, hp, hholds⟩ := hclose times
      rw [if_pos htimes, if_pos htimes]
      exact ⟨t.goTo p, by simp [hp], .onward hholds⟩
    · rw [if_neg htimes, if_neg htimes]
      by_cases hlast : maxRounds < round
      · rw [if_pos hlast, if_pos hlast]
        exact ⟨_, rfl, .stopped⟩
      · rw [if_neg hlast, if_neg hlast]
        exact ⟨_, rfl, moved_body t hitem hbody hfirst hlast⟩

theorem Laid.moved_of_repeatWhile (h : t.Laid items) (hitem : items[i]? = some (.loop l))
    (hfirst : 1 ≤ round) (vars : Bindings) {name : String} {below : Number}
    (hop : l.header.block.op = .repeatWhile name below) :
    ∃ t', t.enterRound i round vars = some t' ∧
      Moved items t (l.enter round vars (items.drop (i + 1))) t' := by
  have hop' : l.header.placed.block.op = .repeatWhile name below := hop
  simp only [enterRound, h.plan_getElem? hitem, Item.part, Option.bind_eq_bind, Option.bind_some,
    h.getElem?_header hitem, hop', Loop.enter, hop]
  cases vars.number? name with
  | none => exact ⟨_, rfl, .stopped⟩
  | some value =>
    dsimp only
    by_cases hvalue : below.val ≤ value.val
    · -- This is the one round less, and there is one as rounds are counted from 1.
      obtain ⟨p, hp, hholds⟩ := h.exists_closePointer hitem (round - 1)
      rw [if_pos hvalue, if_pos hvalue, if_neg (Nat.ne_of_gt hfirst)]
      exact ⟨t.goTo p, by simp [hp], .onward hholds⟩
    · rw [if_neg hvalue, if_neg hvalue]
      cases hbody : l.body with
      | nil => exact ⟨_, rfl, .stopped⟩
      | cons first left =>
        simp only [List.map_cons, List.isEmpty_cons, Bool.false_eq_true, if_false]
        by_cases hlast : maxRounds < round
        · rw [if_pos hlast, if_pos hlast]
          exact ⟨_, rfl, .stopped⟩
        · rw [if_neg hlast, if_neg hlast]
          exact ⟨_, rfl, moved_body t hitem hbody hfirst hlast⟩

/-- A session enters a round, leaves the loop or is stopped just as a cursor is. -/
theorem Laid.moved_enterRound (h : t.Laid items) (hitem : items[i]? = some (.loop l))
    (hfirst : 1 ≤ round) (vars : Bindings) :
    ∃ t', t.enterRound i round vars = some t' ∧
      Moved items t (l.enter round vars (items.drop (i + 1))) t' := by
  cases hop : l.header.block.op with
  | repeatTimes times => exact h.moved_of_repeatTimes hitem hfirst vars hop
  | repeatWhile name below => exact h.moved_of_repeatWhile hitem hfirst vars hop
  | _ =>
    -- The header of no other operation begins a round.
    have hop' : l.header.placed.block.op = _ := hop
    simp only [enterRound, h.plan_getElem? hitem, Item.part, Option.bind_eq_bind,
      Option.bind_some, h.getElem?_header hitem, hop', Loop.enter, hop]
    exact ⟨_, rfl, .onward (h.holds_itemPointer (i + 1))⟩

/-! ## Steps -/

/-- The session when the block that it stands at has run. -/
def ran (t : Session) (done : Step) : Session := { t with answer := done.answer }.counted done

@[simp] theorem program_ran (t : Session) (done : Step) : (t.ran done).program = t.program := by
  unfold ran counted
  split <;> rfl

@[simp] theorem plan_ran (t : Session) (done : Step) : (t.ran done).plan = t.plan := by
  unfold ran counted
  split <;> rfl

@[simp] theorem answer_ran (t : Session) (done : Step) : (t.ran done).answer = done.answer := by
  unfold ran counted
  split <;> rfl

@[simp] theorem executed_ran (t : Session) (done : Step) :
    (t.ran done).executed = t.executed + 1 := by
  unfold ran counted
  split <;> rfl

theorem outcome_ran (h : t.outcome = .running) (done : Step) :
    (t.ran done).outcome = done.effect.outcome := by
  cases heffect : done.effect <;> simp [ran, counted, heffect, Effect.outcome, h]

theorem isOver_ran (h : t.outcome = .running) (done : Step) :
    (t.ran done).isOver = done.effect.outcome.isFinal := by
  rw [isOver, outcome_ran h]

/-- A block that fails sends the session to the end. -/
theorem goTo_done_ran {kind : FailureKind} {reason : String}
    (heffect : done.effect = .fail kind reason) (t : Session) :
    (t.ran done).goTo .done = t.ran done := by
  simp only [ran, counted, heffect, goTo]

theorem Laid.ran (h : t.Laid items) (done : Step) : (t.ran done).Laid items :=
  h.of_eq (program_ran t done) (plan_ran t done)

/-- How a session leaves the block at a cursor: behind the block if it failed, and else where
the cursor goes. -/
inductive Left (items : List Item) (c : Cursor) (done : Step) (t : Session) : Session → Prop
  | failed {kind : FailureKind} {reason : String} {p : Pointer}
      (heffect : done.effect = .fail kind reason) (hp : p.Behind items) :
      Left items c done t ((t.ran done).goTo p)
  | moved {t' : Session} (hgood : done.effect.outcome = .running)
      (h : Moved items (t.ran done) (c.next done.scene.vars) t') : Left items c done t t'

/-- The block in a place of the program is run there. -/
theorem execute_eq (hline : t.program[line.index]? = some line.placed) (round : Option Nat)
    (rules : Rules) (s : Scene) :
    let done := line.block.run rules t.answer s
    t.execute line.index round rules s =
      some (Run.event line round done, t.ran done, done.scene) := by
  simp only [execute, emit, hline, Option.bind_eq_bind, Option.bind_some]
  rfl

/-- A header or a block of a loop that fails leaves the session at the end. -/
theorem left_of_isFinal {c : Cursor} (hfinal : done.effect.outcome.isFinal = true) :
    Left items c done t (t.ran done) := by
  obtain ⟨kind, reason, heffect⟩ := Effect.outcome_of_isFinal hfinal
  rw [← goTo_done_ran heffect t]
  exact .failed heffect (.inl rfl)

theorem left_of_next {c : Cursor} (hgood : ¬ done.effect.outcome.isFinal = true)
    (h : Moved items (t.ran done) (c.next done.scene.vars) t') : Left items c done t t' :=
  .moved (Run.isFinal_eq_false_iff.1 (Bool.eq_false_iff.2 hgood)) h

theorem Laid.left_runItem (h : t.Laid items) (hrunning : t.outcome = .running) {item : Item}
    (hitem : items[i]? = some item) {round : Option Nat}
    (hline : (Cursor.item item (items.drop (i + 1))).line? = some (line, round)) (rules : Rules)
    (s : Scene) :
    let done := line.block.run rules t.answer s
    ∃ t', t.runItem i rules s = some (Run.event line round done, t', done.scene) ∧
      Left items (.item item (items.drop (i + 1))) done t t' := by
  intro done
  have hran := h.ran done
  have hexecute := execute_eq (h.getElem?_line (.item hitem) hline) round rules s
  cases item with
  | single single =>
    cases hline
    refine ⟨(t.ran done).goTo ((t.ran done).itemPointer (i + 1)), ?_, ?_⟩
    · simp only [runItem, h.plan_getElem? hitem, Item.part, Option.bind_eq_bind,
        Option.bind_some, hexecute]
      rfl
    · by_cases hfinal : done.effect.outcome.isFinal = true
      · obtain ⟨kind, reason, heffect⟩ := Effect.outcome_of_isFinal hfinal
        exact .failed heffect (hran.behind_itemPointer (i + 1))
      · exact left_of_next hfinal (.onward (hran.holds_itemPointer (i + 1)))
  | loop l =>
    cases hline
    simp only [runItem, h.plan_getElem? hitem, Item.part, Option.bind_eq_bind,
      Option.bind_some, hexecute, isOver_ran hrunning]
    by_cases hfinal : done.effect.outcome.isFinal = true
    · rw [if_pos hfinal]
      exact ⟨t.ran done, rfl, left_of_isFinal hfinal⟩
    · obtain ⟨t', henter, hmoved⟩ :=
        hran.moved_enterRound hitem (Nat.le_refl 1) done.scene.vars
      rw [if_neg hfinal, henter]
      exact ⟨t', rfl, left_of_next hfinal hmoved⟩

theorem Laid.bodyStep_eq (h : t.Laid items) (hitem : items[i]? = some (.loop l)) {offset : Nat}
    (hline : l.body[offset]? = some line) :
    t.bodyStep i offset = some (some (line.index, l.body.length)) := by
  simp [bodyStep, h.plan_getElem? hitem, Item.part, hline]

theorem Laid.left_runBody (h : t.Laid items) (hrunning : t.outcome = .running)
    (hitem : items[i]? = some (.loop l)) {offset : Nat} (hline : l.body[offset]? = some line)
    (hfirst : 1 ≤ round) (hlast : round ≤ maxRounds) (rules : Rules) (s : Scene) :
    let done := line.block.run rules t.answer s
    ∃ t', t.runBody i round offset line.index l.body.length rules s =
        some (Run.event line (some round) done, t', done.scene) ∧
      Left items (.body l round line (l.body.drop (offset + 1)) (items.drop (i + 1))) done t t' := by
  intro done
  have hran := h.ran done
  have hholds : Pointer.Holds items (.body i round offset) _ := .body hitem hline hfirst hlast
  have hexecute := execute_eq (h.getElem?_line hholds rfl) (some round) rules s
  simp only [runBody, Option.bind_eq_bind, Option.bind_some, hexecute, isOver_ran hrunning]
  by_cases hfinal : done.effect.outcome.isFinal = true
  · rw [if_pos hfinal]
    exact ⟨t.ran done, rfl, left_of_isFinal hfinal⟩
  rw [if_neg hfinal]
  by_cases hmore : offset + 1 < l.body.length
  · rw [if_pos hmore]
    refine ⟨(t.ran done).goTo (.body i round (offset + 1)), rfl, left_of_next hfinal ?_⟩
    rw [List.drop_eq_getElem_cons hmore]
    exact .onward (.body hitem (List.getElem?_eq_getElem hmore) hfirst hlast)
  · have hcounted : round + 1 < 0x100000000 :=
      Nat.lt_of_le_of_lt (Nat.succ_le_succ hlast) (by decide)
    obtain ⟨t', henter, hmoved⟩ :=
      hran.moved_enterRound hitem (Nat.le_add_left 1 round) done.scene.vars
    rw [if_neg hmore, if_pos hcounted, henter]
    refine ⟨t', rfl, left_of_next hfinal ?_⟩
    rw [List.drop_eq_nil_of_le (Nat.le_of_not_lt hmore)]
    exact hmoved

theorem Laid.left_runClose (h : t.Laid items) (hitem : items[i]? = some (.loop l))
    (hmarker : l.marker = some line) (rounds : Nat) (s : Scene) :
    let done : Step := ⟨.done (Cursor.closing rounds), s, t.answer⟩
    ∃ t', t.runClose i line.index rounds s = some (Run.event line none done, t', s) ∧
      Left items (.close line rounds (items.drop (i + 1))) done t t' := by
  intro done
  have hran := h.ran done
  have hholds : Pointer.Holds items (.close i line.index rounds) _ := .close hitem hmarker
  have hline := h.getElem?_line hholds rfl
  refine ⟨(t.ran done).goTo ((t.ran done).itemPointer (i + 1)), ?_,
    .moved rfl (.onward (hran.holds_itemPointer (i + 1)))⟩
  simp only [runClose, emit, hline, Option.bind_eq_bind, Option.bind_some]
  rfl

end Session

end Spellbook

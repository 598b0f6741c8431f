import Spellbook.Proofs.Run.Finish
set_option autoImplicit false

/-!
# Programs with other numbers

The number of a block tells it from its copies and is told with its events, but nothing
is decided by it and no message has it.  A program whose blocks get other numbers therefore
has the same run with those numbers in its notices and events (`Run.drive_renumber`): the
plan, each step and the whole run are renumbered in turn.
-/

namespace Spellbook

/-! ## Other numbers -/

/-- A block with another number in the place of its own. -/
def Placed.renumber (f : Nat → Nat) (p : Placed) : Placed := { p with number := f p.number }

/-- A line whose block has another number. -/
def Line.renumber (f : Nat → Nat) (l : Line) : Line := { l with placed := l.placed.renumber f }

/-- A loop whose blocks have other numbers. -/
def Loop.renumber (f : Nat → Nat) (l : Loop) : Loop :=
  ⟨l.header.renumber f, l.body.map (Line.renumber f), l.marker.map (Line.renumber f)⟩

/-- A loop inside a loop whose headers have other numbers. -/
def NestedLoop.renumber (f : Nat → Nat) (n : NestedLoop) : NestedLoop :=
  ⟨n.outer.renumber f, n.inner.renumber f⟩

/-- An item whose blocks have other numbers. -/
def Plan.Item.renumber (f : Nat → Nat) : Plan.Item → Plan.Item
  | single line => single (line.renumber f)
  | loop l => loop (l.renumber f)

/-- A cursor over blocks with other numbers. -/
def Cursor.renumber (f : Nat → Nat) : Cursor → Cursor
  | item i rest => item (i.renumber f) (rest.map (Plan.Item.renumber f))
  | body l round line left rest =>
    body (l.renumber f) round (line.renumber f) (left.map (Line.renumber f))
      (rest.map (Plan.Item.renumber f))
  | close marker rounds rest =>
    close (marker.renumber f) rounds (rest.map (Plan.Item.renumber f))
  | done => done

/-- A run of blocks with other numbers. -/
def Run.renumber (f : Nat → Nat) (r : Run) : Run :=
  { r with program := r.program.map (Placed.renumber f), cursor := r.cursor.renumber f }

/-- The notice of a block with another number. -/
def Notice.renumber (f : Nat → Nat) (n : Notice) : Notice := { n with number := f n.number }

/-- The event of a block with another number. -/
def Event.renumber (f : Nat → Nat) (e : Event) : Event := { e with number := f e.number }

/-- The answer of a run of blocks with other numbers. -/
def Advance.renumber (f : Nat → Nat) : Advance → Advance
  | step e => step (e.renumber f)
  | finished o => finished o

/-- What is seen of blocks with other numbers. -/
def Playback.renumber (f : Nat → Nat) (p : Playback) : Playback :=
  ⟨p.notices.map (Notice.renumber f), p.events.map (Event.renumber f), p.run.renumber f, p.scene⟩

variable {f : Nat → Nat}

@[simp] theorem Line.category_renumber (l : Line) : (l.renumber f).category = l.category := rfl

@[simp] theorem Run.isOver_renumber (r : Run) : (r.renumber f).isOver = r.isOver := rfl

/-! ## The plan -/

theorem Line.ofProgram_renumber (program : List Placed) :
    ofProgram (program.map (Placed.renumber f)) = (ofProgram program).map (renumber f) := by
  simp only [ofProgram, List.zipIdx_map, List.map_map]
  rfl

namespace Plan

/-- A plan, or the loops for which there is none, with other numbers. -/
def renumber (f : Nat → Nat) : Except NestedLoop (List Item) → Except NestedLoop (List Item)
  | .ok items => .ok (items.map (Item.renumber f))
  | .error nested => .error (nested.renumber f)

/-- One more item before a plan. -/
theorem renumber_cons (i : Item) (plan : Except NestedLoop (List Item)) :
    renumber f ((i :: ·) <$> plan) = (i.renumber f :: ·) <$> renumber f plan := by
  cases plan <;> rfl

theorem assemble_renumber (pending : Option (Line × List Line)) (lines : List Line) :
    assemble (pending.map (fun open_ => (open_.1.renumber f, open_.2.map (Line.renumber f))))
      (lines.map (Line.renumber f)) = renumber f (assemble pending lines) := by
  induction lines generalizing pending with
  | nil => cases pending <;> rfl
  | cons line rest ih =>
    cases pending with
    | none =>
      rw [List.map_cons, Option.map_none, assemble, assemble]
      by_cases hloop : line.category = .loop
      · have hother : (line.renumber f).category = .loop := hloop
        rw [if_pos hloop, if_pos hother, ← ih (some (line, []))]
        rfl
      · have hother : (line.renumber f).category ≠ .loop := hloop
        rw [if_neg hloop, if_neg hother, renumber_cons, ← ih none]
        rfl
    | some open_ =>
      obtain ⟨header, body⟩ := open_
      rw [List.map_cons, Option.map_some]
      simp only [assemble, Line.category_renumber]
      split
      · rw [renumber_cons, ← ih none]
        rfl
      · rfl
      · rw [← ih (some (header, body ++ [line])), Option.map_some, List.map_append]
        rfl

theorem ofProgram_renumber (program : List Placed) :
    ofProgram (program.map (Placed.renumber f)) = renumber f (ofProgram program) := by
  rw [ofProgram, Line.ofProgram_renumber]
  exact assemble_renumber none (Line.ofProgram program)

end Plan

/-! ## The cursor -/

namespace Cursor

theorem ofItems_renumber (items : List Plan.Item) :
    ofItems (items.map (Plan.Item.renumber f)) = (ofItems items).renumber f := by
  cases items <;> rfl

theorem line?_renumber (c : Cursor) :
    (c.renumber f).line? = c.line?.map (fun shown => (shown.1.renumber f, shown.2)) := by
  cases c with
  | item i rest => cases i <;> rfl
  | body l round line left rest => rfl
  | close marker rounds rest => rfl
  | done => rfl

theorem perform_renumber (c : Cursor) (line : Line) (rules : Rules) (answer : Option Bool)
    (s : Scene) :
    (c.renumber f).perform (line.renumber f) rules answer s = c.perform line rules answer s := by
  cases c <;> rfl

/-- Where a run goes, or why it goes nowhere, with other numbers. -/
def renumberNext (f : Nat → Nat) : Except LoopFault Cursor → Except LoopFault Cursor
  | .ok c => .ok (c.renumber f)
  | .error fault => .error fault

end Cursor

namespace Loop

open Cursor (renumberNext)

theorem close_renumber (l : Loop) (rounds : Nat) (rest : List Plan.Item) :
    (l.renumber f).close rounds (rest.map (Plan.Item.renumber f)) =
      (l.close rounds rest).renumber f := by
  obtain ⟨header, body, marker⟩ := l
  cases marker with
  | none => exact Cursor.ofItems_renumber rest
  | some marker => rfl

theorem enter_renumber (l : Loop) (k : Nat) (vars : Bindings) (rest : List Plan.Item) :
    (l.renumber f).enter k vars (rest.map (Plan.Item.renumber f)) =
      renumberNext f (l.enter k vars rest) := by
  have hop : (l.renumber f).header.block.op = l.header.block.op := rfl
  have hbody : (l.renumber f).body = l.body.map (Line.renumber f) := rfl
  unfold enter
  rw [hop, hbody]
  cases l.header.block.op with
  | repeatTimes times =>
    cases l.body with
    | nil => exact congrArg Except.ok (close_renumber l 0 rest)
    | cons first left =>
      simp only [List.map_cons, close_renumber]
      split
      · rfl
      · split <;> rfl
  | repeatWhile name below =>
    dsimp only
    cases vars.number? name with
    | none => rfl
    | some value =>
      dsimp only
      by_cases hlow : below.val ≤ value.val
      · rw [if_pos hlow, if_pos hlow, close_renumber]
        rfl
      · rw [if_neg hlow, if_neg hlow]
        cases l.body with
        | nil => rfl
        | cons first left =>
          simp only [List.map_cons]
          split <;> rfl
  | _ => exact congrArg Except.ok (Cursor.ofItems_renumber rest)

end Loop

namespace Cursor

theorem next_renumber (c : Cursor) (vars : Bindings) :
    (c.renumber f).next vars = renumberNext f (c.next vars) := by
  cases c with
  | item i rest =>
    cases i with
    | single line => exact congrArg Except.ok (ofItems_renumber rest)
    | loop l => exact l.enter_renumber 1 vars rest
  | body l round line left rest =>
    cases left with
    | nil => exact l.enter_renumber (round + 1) vars rest
    | cons next left => rfl
  | close marker rounds rest => exact congrArg Except.ok (ofItems_renumber rest)
  | done => rfl

end Cursor

/-! ## Runs -/

namespace Run

theorem start_renumber (program : List Placed) :
    start (program.map (Placed.renumber f)) = (start program).renumber f := by
  unfold start
  rw [List.isEmpty_map, Plan.ofProgram_renumber]
  split
  · rfl
  · cases Plan.ofProgram program with
    | ok items =>
      simp only [Plan.renumber, Cursor.ofItems_renumber]
      rfl
    | error nested => rfl

theorem settle_renumber (c : Cursor) (rules : Rules) (done : Step) :
    settle (c.renumber f) rules done =
      ((settle c rules done).1.renumber f, (settle c rules done).2) := by
  unfold settle
  rw [Cursor.next_renumber]
  split
  · rfl
  · cases c.next done.scene.vars with
    | error fault => rfl
    | ok next =>
      simp only [Cursor.renumberNext]
      split
      · split <;> rfl
      · rfl

theorem step_renumber (r : Run) (rules : Rules) (s : Scene) :
    (r.renumber f).step rules s =
      ((r.step rules s).1.renumber f, (r.step rules s).2.1.renumber f, (r.step rules s).2.2) := by
  have hline : (r.renumber f).cursor.line? = _ := r.cursor.line?_renumber
  unfold step
  rw [isOver_renumber, hline]
  split
  · rfl
  · cases r.cursor.line? with
    | none => rfl
    | some shown =>
      obtain ⟨line, round⟩ := shown
      have hdone : (r.renumber f).cursor.perform (line.renumber f) rules
          (r.renumber f).answer s = r.cursor.perform line rules r.answer s :=
        r.cursor.perform_renumber line rules r.answer s
      have hsettle : settle (r.renumber f).cursor rules = _ :=
        funext (settle_renumber r.cursor rules)
      simp only [Option.map_some, hdone, hsettle]
      rfl

theorem cancel_renumber (r : Run) : (r.renumber f).cancel = r.cancel.renumber f := by
  unfold cancel
  rw [isOver_renumber]
  split <;> rfl

/-- A run of blocks with other numbers goes as the run itself, whenever it is stopped. -/
theorem drive_renumber (rules : Rules) (i : Interruption) (notices events : Nat) (r : Run)
    (s : Scene) :
    (r.renumber f).drive rules i notices events s =
      (r.drive rules i notices events s).renumber f := by
  induction r, s using finish_induction rules generalizing notices events with
  | hfinished r s o r' s' h =>
    have hother : (r.renumber f).step rules s = (.finished o, r'.renumber f, s') := by
      rw [step_renumber, h]
      rfl
    cases hstruck : i.struck notices events with
    | true =>
      rw [drive_of_struck hstruck, drive_of_struck hstruck, cancel_renumber]
      rfl
    | false =>
      rw [drive_of_finished hstruck h, drive_of_finished hstruck hother]
      rfl
  | hstep r s e r' s' h ih =>
    have hother : (r.renumber f).step rules s = (.step (e.renumber f), r'.renumber f, s') := by
      rw [step_renumber, h]
      rfl
    cases hbefore : i.struck notices events with
    | true =>
      rw [drive_of_struck hbefore, drive_of_struck hbefore, cancel_renumber]
      rfl
    | false =>
      cases hbetween : i.struck (notices + 1) events with
      | true =>
        rw [drive_of_struck_between hbefore (upcoming_of_step_eq h) hbetween,
          drive_of_struck_between hbefore (upcoming_of_step_eq hother) hbetween, cancel_renumber]
        rfl
      | false =>
        rw [drive_of_step hbefore hbetween h, drive_of_step hbefore hbetween hother,
          ih (notices + 1) (events + 1)]
        rfl

end Run

end Spellbook

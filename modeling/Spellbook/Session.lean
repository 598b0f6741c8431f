import Spellbook.Run
set_option autoImplicit false

/-!
# Runs by number

A session carries out a run by number: its plan has the places of the blocks in the
program, its pointer is a place in the plan, and each block is looked up when it is
needed.  A lookup that finds nothing leaves the session without an answer, and so does
a round that cannot be counted in 32 bits.  The cursor of a `Run` holds the blocks
themselves, so a run never looks one up.
-/

namespace Spellbook

/-- One part of a plan, by the places of its blocks in the program. -/
inductive Part where
  | single (index : Nat)
  | loop (header : Nat) (body : List Nat) (marker : Option Nat)
  deriving DecidableEq, Inhabited

/-- The places of the blocks of an item. -/
def Plan.Item.part : Plan.Item → Part
  | single line => .single line.index
  | loop l => .loop l.header.index (l.body.map Line.index) (l.marker.map Line.index)

/-- What a session stands at. -/
inductive Pointer where
  /-- A part of the plan, not yet begun. -/
  | item (item : Nat)
  /-- A place inside a loop. -/
  | body (item round offset : Nat)
  /-- The end marker of a loop that ran so many rounds. -/
  | close (item marker rounds : Nat)
  | done
  deriving DecidableEq, Inhabited

/-- How often a session can still be sent on from here without running a block. -/
def Pointer.rank : Pointer → Nat
  | body .. => 1
  | _ => 0

/-- A run of a program by the places of its blocks. -/
structure Session where
  program : List Placed
  plan : List Part
  pointer : Pointer
  /-- The answer of the last condition that no action has taken yet. -/
  answer : Option Bool
  outcome : Outcome
  /-- How many blocks have run. -/
  executed : Nat
  deriving DecidableEq, Inhabited

namespace Session

/-- A session that is over before its first block. -/
def refused (program : List Placed) (outcome : Outcome) : Session :=
  ⟨program, [], .done, none, outcome, 0⟩

/-- The session of a program, before its first block. -/
def start (program : List Placed) : Option Session :=
  if program.isEmpty then some (refused program Run.emptyProgram)
  else match Plan.ofProgram program with
    | .ok items => some ⟨program, items.map Plan.Item.part, .item 0, none, .running, 0⟩
    | .error nested => do
      let inner ← program[nested.inner.index]?
      return refused program (Run.nestedLoops ⟨nested.outer, ⟨nested.inner.index, inner⟩⟩)

/-- Whether the session is over. -/
def isOver (t : Session) : Bool := t.outcome.isFinal

/-! ## What comes next -/

/-- The announcement of the block in this place. -/
def noticeAt (t : Session) (index : Nat) (round : Option Nat) : Option Notice := do
  let placed ← t.program[index]?
  return ⟨index, round, placed.number, placed.block.id⟩

/-- The block that the next step will run, if there will be one. -/
def upcoming (t : Session) : Option (Option Notice) :=
  if t.isOver then some none
  else match t.pointer with
    | .item item => do
      match ← t.plan[item]? with
      | .single index => t.noticeAt index none
      | .loop header _ _ => t.noticeAt header none
    | .body item round offset => do
      match ← t.plan[item]? with
      | .single index => t.noticeAt index none
      | .loop _ body _ => t.noticeAt (← body[offset]?) (some round)
    | .close _ marker _ => do t.noticeAt marker none
    | .done => some none

/-- Stops a session that is not over. -/
def cancel (t : Session) : Session :=
  if t.isOver then t
  else { t with
    pointer := .done
    outcome := .failure .cancelled "The run was stopped before it finished." }

/-! ## Moves -/

/-- The session with its pointer there. -/
def goTo (t : Session) (p : Pointer) : Session := { t with pointer := p }

/-- The part of the plan in this place, or the end. -/
def itemPointer (t : Session) (item : Nat) : Pointer :=
  if item < t.plan.length then .item item else .done

/-- The block in this place of a loop, and how many there are; nothing if the loop has no
such place or the part is no loop. -/
def bodyStep (t : Session) (item offset : Nat) : Option (Option (Nat × Nat)) := do
  match ← t.plan[item]? with
  | .single _ => return none
  | .loop _ body _ => return body[offset]?.map (fun index => (index, body.length))

/-- What follows a loop that ran so many rounds: its end marker, if it has one. -/
def closePointer (t : Session) (item rounds : Nat) : Option Pointer := do
  match ← t.plan[item]? with
  | .loop _ _ (some marker) => return .close item marker rounds
  | _ => return t.itemPointer (item + 1)

/-- The session when a loop has stopped it. -/
def stop (t : Session) (fault : LoopFault) : Session :=
  { t with pointer := .done, outcome := fault.outcome }

/-- Begins a round of a loop, leaves the loop, or stops the session. -/
def enterRound (t : Session) (item round : Nat) (vars : Bindings) : Option Session := do
  match ← t.plan[item]? with
  | .single _ => return t.goTo (t.itemPointer (item + 1))
  | .loop header body _ =>
    let placed ← t.program[header]?
    match placed.block.op with
    | .repeatTimes times =>
      if body.isEmpty then return t.goTo (← t.closePointer item 0)
      else if times < round then return t.goTo (← t.closePointer item times)
      else if maxRounds < round then return t.stop .tooManyRounds
      else return t.goTo (.body item round 0)
    | .repeatWhile name below =>
      match vars.number? name with
      | none => return t.stop (.unbound name)
      | some value =>
        if below.val ≤ value.val then
          if round = 0 then none
          else return t.goTo (← t.closePointer item (round - 1))
        else if body.isEmpty then return t.stop (.emptyBody name)
        else if maxRounds < round then return t.stop (.endless name below)
        else return t.goTo (.body item round 0)
    | _ => return t.goTo (t.itemPointer (item + 1))

/-! ## Steps -/

/-- The session after one more block, which may have failed. -/
def counted (t : Session) (done : Step) : Session :=
  let t := { t with executed := t.executed + 1 }
  match done.effect with
  | .fail kind message => { t with pointer := .done, outcome := .failure kind message }
  | _ => t

/-- Tells of a step on the block in this place. -/
def emit (t : Session) (index : Nat) (round : Option Nat) (done : Step) :
    Option (Event × Session) := do
  let placed ← t.program[index]?
  return (Run.event ⟨index, placed⟩ round done, t.counted done)

/-- Runs the block in this place. -/
def execute (t : Session) (index : Nat) (round : Option Nat) (rules : Rules) (s : Scene) :
    Option (Event × Session × Scene) := do
  let placed ← t.program[index]?
  let done := placed.block.run rules t.answer s
  let (e, t) ← { t with answer := done.answer }.emit index round done
  return (e, t, done.scene)

/-- Runs a single block or the header of a loop. -/
def runItem (t : Session) (item : Nat) (rules : Rules) (s : Scene) :
    Option (Event × Session × Scene) := do
  match ← t.plan[item]? with
  | .single index =>
    let (e, t, s) ← t.execute index none rules s
    return (e, t.goTo (t.itemPointer (item + 1)), s)
  | .loop header _ _ =>
    let (e, t, s) ← t.execute header none rules s
    if t.isOver then return (e, t, s)
    else return (e, ← t.enterRound item 1 s.vars, s)

/-- Runs a block of a loop that has so many. -/
def runBody (t : Session) (item round offset index length : Nat) (rules : Rules) (s : Scene) :
    Option (Event × Session × Scene) := do
  let (e, t, s) ← t.execute index (some round) rules s
  if t.isOver then return (e, t, s)
  else if offset + 1 < length then return (e, t.goTo (.body item round (offset + 1)), s)
  else if round + 1 < 0x100000000 then return (e, ← t.enterRound item (round + 1) s.vars, s)
  else none

/-- Tells that a loop has ended. -/
def runClose (t : Session) (item marker rounds : Nat) (s : Scene) :
    Option (Event × Session × Scene) := do
  let (e, t) ← t.emit marker none ⟨.done (Cursor.closing rounds), s, t.answer⟩
  return (e, t.goTo (t.itemPointer (item + 1)), s)

/-- Ends the session at once if the level does so and the goal is met. -/
def judge (t : Session) (rules : Rules) (s : Scene) : Session :=
  if !t.isOver && rules.eager then
    match rules.goal s with
    | .met message => { t with pointer := .done, outcome := .success message }
    | .unmet _ => t
  else t

/-- What a step gives when the goal has been looked at. -/
def judged (rules : Rules) : Event × Session × Scene → Advance × Session × Scene
  | (e, t, s) => (.step e, t.judge rules s, s)

/-- Runs the next block.  After the last one the goal decides the outcome. -/
def advance (t : Session) (rules : Rules) (s : Scene) : Option (Advance × Session × Scene) :=
  if t.isOver then some (.finished t.outcome, t, s)
  else match _h : t.pointer with
    | .done =>
      let outcome := (rules.goal s).outcome
      some (.finished outcome, { t with outcome := outcome }, s)
    | .item item => (t.runItem item rules s).map (judged rules)
    | .body item round offset =>
      match t.bodyStep item offset with
      | none => none
      -- The loop has no such place, so the session goes on behind it.
      | some none => (t.goTo (t.itemPointer (item + 1))).advance rules s
      | some (some (index, length)) =>
        (t.runBody item round offset index length rules s).map (judged rules)
    | .close item marker rounds => (t.runClose item marker rounds s).map (judged rules)
termination_by t.pointer.rank
decreasing_by
  rw [_h, goTo, itemPointer]
  split <;> exact Nat.one_pos

end Session

end Spellbook

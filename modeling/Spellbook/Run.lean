import Spellbook.Execution
set_option autoImplicit false

/-!
# Runs

A run goes through the plan of a program one block at a time.  Its cursor holds
the block that comes next together with all that follows, so there is never a
place in the plan to look up; a `Session` does the same by the places of the blocks.
`Run.step_remaining_lt` bounds the steps that are left, which is why a run always
ends.
-/

namespace Spellbook

/-- No loop begins a round after this one. -/
def maxRounds : Nat := 100

/-- Why a loop stops the run before a round. -/
inductive LoopFault where
  /-- A counted loop was asked for too many rounds. -/
  | tooManyRounds
  /-- The variable that the loop checks does not hold a number. -/
  | unbound (name : String)
  /-- Nothing inside the loop could change its variable. -/
  | emptyBody (name : String)
  /-- The variable stayed too small for all rounds. -/
  | endless (name : String) (below : Number)
  deriving DecidableEq, Inhabited

namespace LoopFault

/-- The kind of failure that a loop fault is. -/
def kind : LoopFault → FailureKind
  | unbound _ => .missingPrecondition
  | _ => .runawayLoop

/-- A name between grave accents. -/
def named (s : String) : String := "\x60" ++ s ++ "\x60"

/-- What a loop fault says. -/
def message : LoopFault → String
  | tooManyRounds => s!"A repeat loop can run at most {maxRounds} times."
  | unbound name => s!"The loop checks {named name}, but nothing has created it yet."
  | emptyBody name =>
    s!"The loop has nothing inside it, so {named name} never changes and the loop would never end."
  | endless name below =>
    s!"The loop ran {maxRounds} times and {named name} is still below {below}. Does something inside the loop change {named name}?"

/-- The outcome of a run that a loop stops. -/
def outcome (f : LoopFault) : Outcome := .failure f.kind f.message

end LoopFault

/-! ## Cursors -/

/-- What is left to run, beginning with the block that comes next. -/
inductive Cursor where
  /-- A plan item, not yet begun. -/
  | item (item : Plan.Item) (rest : List Plan.Item)
  /-- A line inside a loop, with the lines left in this round. -/
  | body (loop : Loop) (round : Nat) (line : Line) (left : List Line) (rest : List Plan.Item)
  /-- The end marker of a loop that ran so many rounds. -/
  | close (marker : Line) (rounds : Nat) (rest : List Plan.Item)
  | done
  deriving DecidableEq, Inhabited

namespace Cursor

/-- The beginning of these items. -/
def ofItems : List Plan.Item → Cursor
  | [] => done
  | i :: rest => item i rest

/-- The line that comes next and the round it belongs to. -/
def line? : Cursor → Option (Line × Option Nat)
  | item (.single line) _ => some (line, none)
  | item (.loop l) _ => some (l.header, none)
  | body _ round line _ _ => some (line, some round)
  | close marker _ _ => some (marker, none)
  | done => none

end Cursor

namespace Loop

/-- What follows a loop that ran so many rounds: its end marker, if it has one. -/
def close (l : Loop) (rounds : Nat) (rest : List Plan.Item) : Cursor :=
  match l.marker with
  | some marker => .close marker rounds rest
  | none => .ofItems rest

/-- Begins a round of a loop, leaves the loop, or stops the run. -/
def enter (l : Loop) (round : Nat) (vars : Bindings) (rest : List Plan.Item) :
    Except LoopFault Cursor :=
  match l.header.block.op with
  | .repeatTimes times =>
    match l.body with
    | [] => .ok (l.close 0 rest)
    | first :: left =>
      if times < round then .ok (l.close times rest)
      else if maxRounds < round then .error .tooManyRounds
      else .ok (.body l round first left rest)
  | .repeatWhile name below =>
    match vars.number? name with
    | none => .error (.unbound name)
    | some value =>
      if below.val ≤ value.val then .ok (l.close (round - 1) rest)
      else match l.body with
        | [] => .error (.emptyBody name)
        | first :: left =>
          if maxRounds < round then .error (.endless name below)
          else .ok (.body l round first left rest)
  | _ => .ok (.ofItems rest)

end Loop

namespace Cursor

/-- Where the run goes after the block that came next. -/
def next (vars : Bindings) : Cursor → Except LoopFault Cursor
  | item (.single _) rest => .ok (ofItems rest)
  | item (.loop l) rest => l.enter 1 vars rest
  | body l round _ (line :: left) rest => .ok (body l round line left rest)
  | body l round _ [] rest => l.enter (round + 1) vars rest
  | close _ _ rest => .ok (ofItems rest)
  | done => .ok done

/-- What the end marker of a loop tells. -/
def closing (rounds : Nat) : String :=
  let times := if rounds = 1 then "time" else "times"
  s!"End of loop: it ran {rounds} {times}."

/-- Runs the block on a line; the end marker of a loop only tells its rounds. -/
def perform (c : Cursor) (line : Line) (rules : Rules) (answer : Option Bool) (s : Scene) :
    Step :=
  match c with
  | close _ rounds _ => ⟨.done (closing rounds), s, answer⟩
  | _ => line.block.run rules answer s

end Cursor

/-! ## Runs -/

/-- A run of a program, from before its first block to after its last. -/
structure Run where
  program : List Placed
  cursor : Cursor
  /-- The answer of the last condition that no action has taken yet. -/
  answer : Option Bool
  outcome : Outcome
  /-- How many blocks have run. -/
  executed : Nat
  deriving DecidableEq, Inhabited

/-- What a call for the next step gives. -/
inductive Advance where
  | step (event : Event)
  | finished (outcome : Outcome)
  deriving DecidableEq, Inhabited

namespace Run

/-- Why a program without blocks does not run. -/
def emptyProgram : Outcome :=
  .failure .incompleteGoal "The program is empty. Add some blocks and run it again."

/-- Why a program with a loop inside a loop does not run. -/
def nestedLoops (n : NestedLoop) : Outcome :=
  .failure .invalidProgram
    s!"Block {n.inner.index + 1} (\"{n.inner.block.label}\") starts a loop inside the loop that begins at block {n.outer.index + 1}. Loops inside loops are not supported."

/-- A run that is over before its first block. -/
def refused (program : List Placed) (outcome : Outcome) : Run :=
  ⟨program, .done, none, outcome, 0⟩

/-- The run of a program, before its first block. -/
def start (program : List Placed) : Run :=
  if program.isEmpty then refused program emptyProgram
  else match Plan.ofProgram program with
    | .ok items => ⟨program, .ofItems items, none, .running, 0⟩
    | .error nested => refused program (nestedLoops nested)

/-- Whether the run is over. -/
def isOver (r : Run) : Bool := r.outcome.isFinal

/-- The block that the next step will run. -/
def upcoming (r : Run) : Option Notice :=
  if r.isOver then none
  else r.cursor.line?.map (fun l => ⟨l.1.index, l.2, l.1.placed.number, l.1.block.id⟩)

/-- Stops a run that is not over. -/
def cancel (r : Run) : Run :=
  if r.isOver then r
  else { r with
    cursor := .done
    outcome := .failure .cancelled "The run was stopped before it finished." }

/-- The event of a step on a line. -/
def event (line : Line) (round : Option Nat) (step : Step) : Event where
  index := line.index
  round := round
  number := line.placed.number
  blockId := line.block.id
  label := line.block.label
  message := step.effect.message
  severity := step.effect.severity
  scene := step.scene

/-- Where a run goes after a step, and its outcome then: a failed step and a loop
that stops the run come first, then a goal that is met at once. -/
def settle (cursor : Cursor) (rules : Rules) (step : Step) : Cursor × Outcome :=
  if step.effect.outcome.isFinal then (.done, step.effect.outcome)
  else match cursor.next step.scene.vars with
    | .error fault => (.done, fault.outcome)
    | .ok next =>
      if rules.eager then
        match rules.goal step.scene with
        | .met message => (.done, .success message)
        | .unmet _ => (next, .running)
      else (next, .running)

/-- Runs the next block.  After the last one the goal decides the outcome. -/
def step (r : Run) (rules : Rules) (s : Scene) : Advance × Run × Scene :=
  if r.isOver then (.finished r.outcome, r, s)
  else match r.cursor.line? with
    | none =>
      let outcome := (rules.goal s).outcome
      (.finished outcome, { r with outcome := outcome }, s)
    | some (line, round) =>
      let done := r.cursor.perform line rules r.answer s
      let settled := settle r.cursor rules done
      (.step (event line round done),
        { r with
          cursor := settled.1
          answer := done.answer
          outcome := settled.2
          executed := r.executed + 1 },
        done.scene)

end Run

/-! ## How many steps are left -/

namespace Plan.Item

/-- The most steps that an item can take. -/
def weight : Plan.Item → Nat
  | single _ => 1
  | loop l => 1 + maxRounds * l.body.length + l.marker.toList.length

/-- The most steps that items can take. -/
def weights : List Plan.Item → Nat
  | [] => 0
  | i :: rest => i.weight + weights rest

end Plan.Item

namespace Cursor

open Plan.Item (weights)

/-- The most steps that are left from a cursor. -/
def weight : Cursor → Nat
  | item i rest => i.weight + weights rest
  | body l round _ left rest =>
    left.length + 1 + (maxRounds - round) * l.body.length + l.marker.toList.length + weights rest
  | close _ _ rest => 1 + weights rest
  | done => 0

@[simp] theorem weight_single (line : Line) (rest : List Plan.Item) :
    (item (.single line) rest).weight = 1 + weights rest := rfl

@[simp] theorem weight_loop (l : Loop) (rest : List Plan.Item) :
    (item (.loop l) rest).weight =
      1 + maxRounds * l.body.length + l.marker.toList.length + weights rest := rfl

@[simp] theorem weight_body (l : Loop) (round : Nat) (line : Line) (left : List Line)
    (rest : List Plan.Item) :
    (body l round line left rest).weight =
      left.length + 1 + (maxRounds - round) * l.body.length + l.marker.toList.length
        + weights rest := rfl

@[simp] theorem weight_close (marker : Line) (rounds : Nat) (rest : List Plan.Item) :
    (close marker rounds rest).weight = 1 + weights rest := rfl

@[simp] theorem weight_done : done.weight = 0 := rfl

@[simp] theorem weight_ofItems (items : List Plan.Item) :
    (ofItems items).weight = weights items := by
  cases items with
  | nil => rfl
  | cons i rest => simp [ofItems, weight, weights]

end Cursor

namespace Loop

open Plan.Item (weights)

theorem weight_close (l : Loop) (rounds : Nat) (rest : List Plan.Item) :
    (l.close rounds rest).weight = l.marker.toList.length + weights rest := by
  unfold close
  split <;> rename_i h <;> simp [h]

theorem weight_body_le {l : Loop} {round : Nat} {first : Line} {left : List Line}
    (rest : List Plan.Item) (hb : l.body = first :: left) (hr : ¬ maxRounds < round) :
    (Cursor.body l round first left rest).weight ≤
      (maxRounds + 1 - round) * l.body.length + l.marker.toList.length + weights rest := by
  have h1 : maxRounds + 1 - round = (maxRounds - round) + 1 := by omega
  rw [Cursor.weight_body, h1, Nat.add_mul, Nat.one_mul]
  simp only [hb, List.length_cons]
  omega

theorem weight_enter_le {l : Loop} {round : Nat} {vars : Bindings} {rest : List Plan.Item}
    {c : Cursor} (h : l.enter round vars rest = .ok c) :
    c.weight ≤
      (maxRounds + 1 - round) * l.body.length + l.marker.toList.length + weights rest := by
  unfold enter at h
  split at h
  · split at h
    · cases h; rw [weight_close]; omega
    · split at h
      · cases h; rw [weight_close]; omega
      · split at h
        · cases h
        · cases h; exact weight_body_le rest ‹_› ‹_›
  · split at h
    · cases h
    · split at h
      · cases h; rw [weight_close]; omega
      · split at h
        · cases h
        · split at h
          · cases h
          · cases h; exact weight_body_le rest ‹_› ‹_›
  · cases h; rw [Cursor.weight_ofItems]; omega

end Loop

namespace Cursor

theorem weight_next_lt {c c' : Cursor} {vars : Bindings} {l : Line × Option Nat}
    (hl : c.line? = some l) (h : c.next vars = .ok c') : c'.weight < c.weight := by
  unfold next at h
  split at h
  · cases h; simp only [weight_single, weight_ofItems]; omega
  · have := Loop.weight_enter_le h
    simp only [weight_loop, Nat.add_sub_cancel] at this ⊢
    omega
  · cases h; simp only [weight_body, List.length_cons]; omega
  · have := Loop.weight_enter_le h
    rw [Nat.add_sub_add_right] at this
    simp only [weight_body, List.length_nil]
    omega
  · cases h; simp only [weight_close, weight_ofItems]; omega
  · cases hl

end Cursor

namespace Run

/-- The most calls for a step, the one that finds the run over included. -/
def remaining (r : Run) : Nat := if r.isOver then 0 else r.cursor.weight + 1

theorem isFinal_eq_false_iff {o : Outcome} : o.isFinal = false ↔ o = .running := by
  cases o <;> simp [Outcome.isFinal]

theorem settle_weight_lt {c : Cursor} {rules : Rules} {s : Step} {l : Line × Option Nat}
    (hl : c.line? = some l) (h : (settle c rules s).2 = .running) :
    (settle c rules s).1.weight < c.weight := by
  unfold settle at h ⊢
  by_cases hf : s.effect.outcome.isFinal = true
  · rw [if_pos hf] at h
    exact absurd (isFinal_eq_false_iff.2 h) (by simp [hf])
  · rw [if_neg hf] at h ⊢
    cases hn : c.next s.scene.vars with
    | error fault => rw [hn] at h; cases h
    | ok next =>
      have hlt := Cursor.weight_next_lt hl hn
      rw [hn] at h
      cases he : rules.eager with
      | false => exact hlt
      | true =>
        cases hg : rules.goal s.scene with
        | met message => simp [he, hg] at h
        | unmet reason => exact hlt

/-- Each step leaves fewer steps than there were. -/
theorem step_remaining_lt {r : Run} {rules : Rules} {s : Scene} {e : Event}
    (h : (r.step rules s).1 = .step e) : (r.step rules s).2.1.remaining < r.remaining := by
  unfold step at h ⊢
  by_cases ho : r.isOver = true
  · rw [if_pos ho] at h; cases h
  · rw [if_neg ho] at h ⊢
    cases hl : r.cursor.line? with
    | none => rw [hl] at h; cases h
    | some l =>
      have hr : r.remaining = r.cursor.weight + 1 := if_neg ho
      rw [hr]
      let settled := settle r.cursor rules (r.cursor.perform l.1 rules r.answer s)
      show (if settled.2.isFinal = true then 0 else settled.1.weight + 1) < _
      by_cases hf : settled.2.isFinal = true
      · rw [if_pos hf]; exact Nat.succ_pos _
      · rw [if_neg hf]
        exact Nat.succ_lt_succ
          (settle_weight_lt hl (isFinal_eq_false_iff.1 (Bool.eq_false_iff.2 hf)))

end Run

end Spellbook

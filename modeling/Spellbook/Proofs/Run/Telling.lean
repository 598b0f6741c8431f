import Spellbook.Proofs.Plan.Layout
import Spellbook.Run
set_option autoImplicit false

/-!
# Telling a run from its blocks

`Rules.tell` says what a run does by the structure of the program alone: a block outside
a loop runs once, and a loop runs its header, then its body round by round, then its end
marker.  Nothing is stepped and no cursor is kept.  What the told events hold, how a part
of a run ends and what is said then is written out here and not taken from the run that is
stepped; `record_eq_event` and the lemmas behind it compare the two.  `tell_eq_tellItems`
says the same over the plan.
-/

namespace Spellbook

/-- A part of a run as a whole: its events, and the scene, the pending answer and the
outcome that it leaves.  The run goes on if the outcome is `running`. -/
structure Stretch where
  events : List Event
  scene : Scene
  answer : Option Bool
  outcome : Outcome
  deriving DecidableEq

namespace Stretch

/-- A part without events after which the run stands so. -/
def stop (outcome : Outcome) (s : Scene) (answer : Option Bool) : Stretch :=
  ⟨[], s, answer, outcome⟩

/-- A part without events after which the run goes on. -/
def idle (s : Scene) (answer : Option Bool) : Stretch := stop .running s answer

/-- One part and, if the run goes on, the next. -/
def andThen (first : Stretch) (next : Scene → Option Bool → Stretch) : Stretch :=
  match first.outcome with
  | .running =>
    let rest := next first.scene first.answer
    { rest with events := first.events ++ rest.events }
  | _ => first

@[simp] theorem idle_andThen (s : Scene) (answer : Option Bool)
    (next : Scene → Option Bool → Stretch) : (idle s answer).andThen next = next s answer := rfl

theorem andThen_of_isFinal {first : Stretch} (h : first.outcome.isFinal = true)
    (next : Scene → Option Bool → Stretch) : first.andThen next = first := by
  unfold andThen
  cases ho : first.outcome with
  | running => simp [ho, Outcome.isFinal] at h
  | _ => rfl

theorem andThen_of_running {first : Stretch} (h : first.outcome = .running)
    (next : Scene → Option Bool → Stretch) :
    first.andThen next =
      { next first.scene first.answer with
        events := first.events ++ (next first.scene first.answer).events } := by
  simp [andThen, h]

theorem stop_andThen {o : Outcome} (h : o.isFinal = true) (s : Scene) (answer : Option Bool)
    (next : Scene → Option Bool → Stretch) : (stop o s answer).andThen next = stop o s answer :=
  andThen_of_isFinal h next

theorem andThen_assoc (first : Stretch) (second third : Scene → Option Bool → Stretch) :
    (first.andThen second).andThen third =
      first.andThen (fun s answer => (second s answer).andThen third) := by
  cases h : first.outcome with
  | running =>
    cases h' : (second first.scene first.answer).outcome with
    | running => simp [andThen, h, h', List.append_assoc]
    | _ => simp [andThen, h, h']
  | _ => simp [andThen, h]

end Stretch

namespace Rules

open Stretch (idle stop)

/-- What is told of a step on a line, in a round of a loop or in none. -/
def record (line : Line) (round : Option Nat) (done : Step) : Event where
  index := line.index
  round := round
  number := line.placed.number
  blockId := line.placed.block.id
  label := line.placed.block.label
  message :=
    match done.effect with
    | .done message => message
    | .noEffect message => message
    | .fail _ message => message
  severity :=
    match done.effect with
    | .done _ => .info
    | .noEffect _ => .warning
    | .fail .. => .failure
  scene := done.scene

/-- How a run stands by a step alone: lost if it failed, and won if the level does not
wait for the end of the program and its goal is met. -/
def verdict (rules : Rules) (done : Step) : Outcome :=
  match done.effect with
  | .fail kind reason => .failure kind reason
  | _ =>
    if rules.eager then
      match rules.goal done.scene with
      | .met message => .success message
      | .unmet _ => .running
    else .running

/-- How a run ends behind the last line: the goal decides. -/
def judge (rules : Rules) (s : Scene) : Outcome :=
  match rules.goal s with
  | .met message => .success message
  | .unmet reason => .failure .incompleteGoal reason

theorem verdict_of_fail (rules : Rules) {done : Step} {kind : FailureKind} {reason : String}
    (h : done.effect = .fail kind reason) : rules.verdict done = .failure kind reason := by
  simp [verdict, h]

/-- A step that did not fail is judged by the goal, if the level does not wait. -/
theorem verdict_of_good {rules : Rules} {done : Step} (h : done.effect.outcome = .running) :
    rules.verdict done =
      if rules.eager then
        match rules.goal done.scene with
        | .met message => .success message
        | .unmet _ => .running
      else .running := by
  unfold verdict
  cases heffect : done.effect with
  | fail kind reason => simp [heffect, Effect.outcome] at h
  | _ => rfl

theorem verdict_of_met {rules : Rules} {done : Step} {message : String}
    (hgood : done.effect.outcome = .running) (heager : rules.eager = true)
    (hmet : rules.goal done.scene = .met message) :
    rules.verdict done = .success message := by
  simp [verdict_of_good hgood, heager, hmet]

theorem verdict_eq_running {rules : Rules} {done : Step}
    (hgood : done.effect.outcome = .running)
    (hgoal : rules.eager = true → ∀ message, rules.goal done.scene ≠ .met message) :
    rules.verdict done = .running := by
  cases heager : rules.eager with
  | false => simp [verdict_of_good hgood, heager]
  | true =>
    cases hg : rules.goal done.scene with
    | met message => exact absurd hg (hgoal heager message)
    | unmet reason => simp [verdict_of_good hgood, heager, hg]

/-- One step on a line, in a round of a loop or in none. -/
def tellStep (rules : Rules) (line : Line) (round : Option Nat) (done : Step) : Stretch :=
  ⟨[record line round done], done.scene, done.answer, rules.verdict done⟩

/-- A block runs once. -/
def tellLine (rules : Rules) (round : Option Nat) (line : Line) (s : Scene)
    (answer : Option Bool) : Stretch :=
  rules.tellStep line round (line.block.run rules answer s)

/-- Blocks run one after another. -/
def tellLines (rules : Rules) (round : Option Nat) :
    List Line → Scene → Option Bool → Stretch
  | [], s, answer => idle s answer
  | line :: rest, s, answer =>
    (rules.tellLine round line s answer).andThen (rules.tellLines round rest)

/-- The end marker of a loop, if it has one, tells how many rounds there were. -/
def tellMarker (rules : Rules) (l : Loop) (rounds : Nat) (s : Scene) (answer : Option Bool) :
    Stretch :=
  let times := if rounds = 1 then "time" else "times"
  match l.marker with
  | some marker =>
    rules.tellStep marker none ⟨.done s!"End of loop: it ran {rounds} {times}.", s, answer⟩
  | none => idle s answer

/-- The body runs so many times, the first of them in round `round`. -/
def tellTimes (rules : Rules) (l : Loop) (round : Nat) :
    Nat → Scene → Option Bool → Stretch
  | 0, s, answer => idle s answer
  | left + 1, s, answer =>
    (rules.tellLines (some round) l.body s answer).andThen
      (rules.tellTimes l (round + 1) left)

/-- Behind the rounds of a counted loop: more than there can be stop the run. -/
def tellCounted (rules : Rules) (l : Loop) (times : Nat) (s : Scene) (answer : Option Bool) :
    Stretch :=
  if 100 < times then
    stop (.failure .runawayLoop "A repeat loop can run at most 100 times.") s answer
  else rules.tellMarker l times s answer

/-- A counted loop behind its header. -/
def tellRepeat (rules : Rules) (l : Loop) (times : Nat) (s : Scene) (answer : Option Bool) :
    Stretch :=
  if l.body = [] then rules.tellMarker l 0 s answer
  else (rules.tellTimes l 1 (min times 100) s answer).andThen (rules.tellCounted l times)

/-- A loop with a test from round `round` on, when so many rounds can still be run.  The
variable is looked up anew before each of them. -/
def tellWhile (rules : Rules) (l : Loop) (name : String) (below : Number) (round : Nat) :
    Nat → Scene → Option Bool → Stretch
  | left, s, answer =>
    match s.vars.number? name with
    | none =>
      stop (.failure .missingPrecondition
        s!"The loop checks \x60{name}\x60, but nothing has created it yet.") s answer
    | some value =>
      if below.val ≤ value.val then rules.tellMarker l (round - 1) s answer
      else if l.body = [] then
        stop (.failure .runawayLoop
          s!"The loop has nothing inside it, so \x60{name}\x60 never changes and the loop would never end.")
          s answer
      else match left with
        | 0 =>
          stop (.failure .runawayLoop
            s!"The loop ran 100 times and \x60{name}\x60 is still below {below}. Does something inside the loop change \x60{name}\x60?")
            s answer
        | left + 1 =>
          (rules.tellLines (some round) l.body s answer).andThen
            (rules.tellWhile l name below (round + 1) left)

/-! ## What is told and what a stepped run gives -/

theorem record_eq_event (line : Line) (round : Option Nat) (done : Step) :
    record line round done = Run.event line round done := by
  unfold record Run.event
  cases done.effect <;> rfl

theorem judge_eq_outcome (rules : Rules) (s : Scene) : rules.judge s = (rules.goal s).outcome := by
  unfold judge
  cases rules.goal s <;> rfl

theorem text_toString (text : String) : toString text = text := rfl

theorem outcome_unbound (name : String) :
    (LoopFault.unbound name).outcome =
      .failure .missingPrecondition
        s!"The loop checks \x60{name}\x60, but nothing has created it yet." := by
  have hfront : "The loop checks \x60" = "The loop checks " ++ "\x60" := by decide +kernel
  have hback : "\x60, but nothing has created it yet." =
      "\x60" ++ ", but nothing has created it yet." := by decide +kernel
  unfold LoopFault.outcome LoopFault.message LoopFault.named
  simp only [LoopFault.kind, text_toString]
  rw [hfront, hback]
  simp only [String.append_assoc]

theorem outcome_emptyBody (name : String) :
    (LoopFault.emptyBody name).outcome =
      .failure .runawayLoop
        s!"The loop has nothing inside it, so \x60{name}\x60 never changes and the loop would never end." := by
  have hfront : "The loop has nothing inside it, so \x60" =
      "The loop has nothing inside it, so " ++ "\x60" := by decide +kernel
  have hback : "\x60 never changes and the loop would never end." =
      "\x60" ++ " never changes and the loop would never end." := by decide +kernel
  unfold LoopFault.outcome LoopFault.message LoopFault.named
  simp only [LoopFault.kind, text_toString]
  rw [hfront, hback]
  simp only [String.append_assoc]

theorem outcome_endless (name : String) (below : Number) :
    (LoopFault.endless name below).outcome =
      .failure .runawayLoop
        s!"The loop ran 100 times and \x60{name}\x60 is still below {below}. Does something inside the loop change \x60{name}\x60?" := by
  have hfront : "The loop ran 100 times and \x60" =
      "The loop ran " ++ (toString maxRounds ++ (" times and " ++ "\x60")) := by decide +kernel
  have hmid : "\x60 is still below " = "\x60" ++ " is still below " := by decide +kernel
  have hask : ". Does something inside the loop change \x60" =
      ". Does something inside the loop change " ++ "\x60" := by decide +kernel
  have hback : "\x60?" = "\x60" ++ "?" := by decide +kernel
  unfold LoopFault.outcome LoopFault.message LoopFault.named
  simp only [LoopFault.kind, text_toString]
  rw [hfront, hmid, hask, hback]
  simp only [String.append_assoc]

theorem tellMarker_of_some {rules : Rules} {l : Loop} {marker : Line} (h : l.marker = some marker)
    (rounds : Nat) (s : Scene) (answer : Option Bool) :
    rules.tellMarker l rounds s answer =
      rules.tellStep marker none ⟨.done (Cursor.closing rounds), s, answer⟩ := by
  simp only [tellMarker, h]
  rfl

theorem tellMarker_of_none {rules : Rules} {l : Loop} (h : l.marker = none) (rounds : Nat)
    (s : Scene) (answer : Option Bool) : rules.tellMarker l rounds s answer = idle s answer := by
  simp only [tellMarker, h]

theorem tellCounted_of_lt {rules : Rules} {l : Loop} {times : Nat} (h : 100 < times) (s : Scene)
    (answer : Option Bool) :
    rules.tellCounted l times s answer = stop LoopFault.tooManyRounds.outcome s answer := by
  rw [tellCounted, if_pos h]
  exact congrArg (fun o => stop o s answer) (by decide +kernel)

theorem tellCounted_of_le {rules : Rules} {l : Loop} {times : Nat} (h : times ≤ 100) (s : Scene)
    (answer : Option Bool) :
    rules.tellCounted l times s answer = rules.tellMarker l times s answer := by
  rw [tellCounted, if_neg (Nat.not_lt.2 h)]

theorem tellWhile_of_none {rules : Rules} {l : Loop} {name : String} {s : Scene}
    (h : s.vars.number? name = none) (below : Number) (round left : Nat)
    (answer : Option Bool) :
    rules.tellWhile l name below round left s answer =
      stop (LoopFault.unbound name).outcome s answer := by
  rw [tellWhile.eq_def]
  simp only [h, outcome_unbound]

theorem tellWhile_of_le {rules : Rules} {l : Loop} {name : String} {below value : Number}
    {s : Scene} (h : s.vars.number? name = some value) (hle : below.val ≤ value.val)
    (round left : Nat) (answer : Option Bool) :
    rules.tellWhile l name below round left s answer =
      rules.tellMarker l (round - 1) s answer := by
  rw [tellWhile.eq_def]
  simp only [h, if_pos hle]

theorem tellWhile_of_empty {rules : Rules} {l : Loop} {name : String} {below value : Number}
    {s : Scene} (h : s.vars.number? name = some value) (hlt : ¬ below.val ≤ value.val)
    (hbody : l.body = []) (round left : Nat) (answer : Option Bool) :
    rules.tellWhile l name below round left s answer =
      stop (LoopFault.emptyBody name).outcome s answer := by
  rw [tellWhile.eq_def]
  simp only [h, if_neg hlt, if_pos hbody, outcome_emptyBody]

theorem tellWhile_of_lt {rules : Rules} {l : Loop} {name : String} {below value : Number}
    {s : Scene} (h : s.vars.number? name = some value) (hlt : ¬ below.val ≤ value.val)
    (hbody : l.body ≠ []) (round left : Nat) (answer : Option Bool) :
    rules.tellWhile l name below round left s answer =
      match left with
      | 0 => stop (LoopFault.endless name below).outcome s answer
      | left + 1 =>
        (rules.tellLines (some round) l.body s answer).andThen
          (rules.tellWhile l name below (round + 1) left) := by
  rw [tellWhile.eq_def]
  simp only [h, if_neg hlt, if_neg hbody, outcome_endless]

/-- A loop behind its header.  A header that is no loop's has nothing to run. -/
def tellRounds (rules : Rules) (l : Loop) (s : Scene) (answer : Option Bool) : Stretch :=
  match l.header.block.op with
  | .repeatTimes times => rules.tellRepeat l times s answer
  | .repeatWhile name below => rules.tellWhile l name below 1 100 s answer
  | _ => idle s answer

/-- A loop from its header on. -/
def tellLoop (rules : Rules) (l : Loop) (s : Scene) (answer : Option Bool) : Stretch :=
  (rules.tellLine none l.header s answer).andThen (rules.tellRounds l)

/-- A program, line by line and loop by loop.  Behind the last line the goal decides. -/
def tell (rules : Rules) : List Line → Scene → Option Bool → Stretch
  | [] => fun s answer => stop (rules.judge s) s answer
  | line :: rest =>
    if line.category = .loop then fun s answer =>
      (rules.tellLoop ⟨line, Plan.inside rest, (Plan.beyond rest).head?⟩ s answer).andThen
        (rules.tell (Plan.beyond rest).tail)
    else fun s answer => (rules.tellLine none line s answer).andThen (rules.tell rest)
termination_by lines => lines.length
decreasing_by
  · have := Plan.length_beyond_le rest
    simp only [List.length_tail, List.length_cons]
    omega
  · exact Nat.lt_succ_self _

/-! ## The same over a plan -/

/-- An item of a plan. -/
def tellItem (rules : Rules) : Plan.Item → Scene → Option Bool → Stretch
  | .single line => rules.tellLine none line
  | .loop l => rules.tellLoop l

/-- Items of a plan, one after another. -/
def tellItems (rules : Rules) : List Plan.Item → Scene → Option Bool → Stretch
  | [], s, answer => stop (rules.judge s) s answer
  | item :: rest, s, answer => (rules.tellItem item s answer).andThen (rules.tellItems rest)

/-- A program and its plan tell the same. -/
theorem tell_eq_tellItems (rules : Rules) {lines : List Line} {items : List Plan.Item}
    (h : Plan.assemble none lines = .ok items) : rules.tell lines = rules.tellItems items := by
  induction lines using tell.induct generalizing items with
  | case1 =>
    cases h
    rw [tell]
    rfl
  | case2 line rest hloop ih =>
    simp only [Plan.assemble, hloop, if_true] at h
    obtain ⟨later, rfl, hlater⟩ := Plan.loop_of_assemble_some h
    rw [tell, if_pos hloop, ih hlater]
    rfl
  | case3 line rest hloop ih =>
    simp only [Plan.assemble, hloop, if_false] at h
    obtain ⟨later, hlater, rfl⟩ := Plan.map_eq_ok_iff.1 h
    rw [tell, if_neg hloop, ih hlater]
    rfl

end Rules

end Spellbook

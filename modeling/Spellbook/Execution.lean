import Spellbook.Plan
import Spellbook.Rules
set_option autoImplicit false

/-!
# Running one block

The category that a block states decides how it runs.  A condition leaves an
answer, and the next action takes it: an action that needs a check runs only if
the answer was yes.
-/

namespace Spellbook

/-- What a step leaves behind. -/
structure Step where
  effect : Effect
  scene : Scene
  /-- The answer of the last condition that no action has taken yet. -/
  answer : Option Bool
  deriving DecidableEq

namespace Block

/-! ## Variables that are not there -/

/-- The failure of a block that uses a variable nothing has made. -/
def missingVariable (label name : String) : Effect :=
  .fail .missingPrecondition
    s!"\"{label}\" uses the variable {name}, but nothing has created it yet. Add a block that sets {name} before this one."

/-- The number that a variable holds, or why it holds none. -/
def numberOf (label : String) (vars : Bindings) (name : String) : Except Effect Number :=
  match vars.get? name with
  | some (.number n) => .ok n
  | some other =>
    .error (.fail .missingPrecondition
      s!"{name} holds {other}, which is not a number.")
  | none => .error (missingVariable label name)

/-! ## Conditions and actions -/

/-- Runs a condition: the effect, and the answer if there is one. -/
def runCondition (b : Block) (vars : Bindings) : Effect × Option Bool :=
  match b.op with
  | .compare name comparison value =>
    match vars.get? name with
    | none => (missingVariable b.label name, none)
    | some current =>
      let met := comparison.holds current value
      let answer := if met then "yes" else "no"
      (.done
        s!"Is {name} {comparison.symbol} {value}? {name} is {current}, so the answer is {answer}.",
        some met)
  | _ => (.noEffect s!"\"{b.label}\" has nothing to check.", none)

/-- Runs an action with the answer of the check before it. -/
def runAction (b : Block) (rules : Rules) (answer : Option Bool) (s : Scene) :
    Effect × Scene :=
  if b.op = .celebrate then
    (.done "The wizard celebrates with a shower of sparkles!", s)
  else if rules.needsCheck b.op then
    match answer with
    | none =>
      (.fail .missingPrecondition
        s!"\"{b.label}\" needs a check right before it. Add an \"if\" block first.", s)
    | some false => (.done s!"The check said no, so \"{b.label}\" is skipped.", s)
    | some true => rules.perform b.op s
  else rules.perform b.op s

/-! ## Variables, movement and math -/

/-- Scans the wizard's square into a variable. -/
def runScan (rules : Rules) (into : String) (s : Scene) : Effect × Scene :=
  match s.world.unresolvedHere? rules.scannable with
  | some thing =>
    let kind := thing.kind.name
    (.done
      s!"The wizard spots a {kind} on square {s.world.position}. {into} = \"{kind}\"",
      (s.setVariable into (.text kind)).mapWorld (fun w => { w with target := some thing.id }))
  | none =>
    let message := s!"There is nothing to scan on square {s.world.position}."
    (if rules.strictScan then .fail .missingPrecondition message else .noEffect message, s)

/-- Runs a block that gives a variable its value. -/
def runBinding (b : Block) (rules : Rules) (s : Scene) : Effect × Scene :=
  match b.op with
  | .setNumber name value => (.done s!"{name} = {value}", s.setVariable name (.number value))
  | .scan into => runScan rules into s
  | .readFlag flag into =>
    match s.world.flag? flag with
    | some value =>
      (.done s!"The wizard looks at the {flag}. {into} = {value}", s.setVariable into value)
    | none => (.fail .missingPrecondition s!"There is no {flag} to read here.", s)
  | _ => (.noEffect s!"\"{b.label}\" does not set anything.", s)

/-- Moves the wizard one square on. -/
def runMovement (s : Scene) : Effect × Scene :=
  if s.world.atTrackEnd then
    (.noEffect s!"The wizard is already at the end of the path (square {s.world.position}).", s)
  else
    let s := s.mapWorld World.stepForward
    (.done s!"The wizard steps forward to square {s.world.position}.", s)

/-- Stores the result of a calculation, if there is one in range. -/
def store (name shown : String) (result : Option Number) (s : Scene) : Effect × Scene :=
  match result with
  | some value => (.done s!"{shown} = {value}", s.setVariable name (.number value))
  | none => (.fail .invalidArithmetic s!"{name} is too big for the wizard to count.", s)

/-- Runs a block that calculates. -/
def runMath (b : Block) (s : Scene) : Effect × Scene :=
  let vars := s.vars
  match b.op with
  | .double name =>
    match numberOf b.label vars name with
    | .error effect => (effect, s)
    | .ok current => store name s!"{name} = {current} × 2" current.double? s
  | .add name amount =>
    match numberOf b.label vars name with
    | .error effect => (effect, s)
    | .ok current => store name s!"{name} = {current} + {amount}" (current.add? amount) s
  | .subtract name amount =>
    match numberOf b.label vars name with
    | .error effect => (effect, s)
    | .ok current => store name s!"{name} = {current} - {amount}" (current.sub? amount) s
  | .divideBy name divisor =>
    match numberOf b.label vars name with
    | .error effect => (effect, s)
    | .ok current =>
      match numberOf b.label vars divisor with
      | .error effect => (effect, s)
      | .ok by_ =>
        if by_.val = 0 then
          (.fail .invalidArithmetic
            s!"Cannot divide {name} by {divisor} because {divisor} is 0.", s)
        else store name s!"{name} = {current} ÷ {by_}" (current.div? by_) s
  | _ => (.noEffect s!"\"{b.label}\" does no math.", s)

/-! ## Loop headers and end markers -/

/-- Announces a loop. -/
def runHeader (b : Block) (vars : Bindings) : Effect :=
  match b.op with
  | .repeatTimes times => .done s!"Repeat {times} times:"
  | .repeatWhile name below =>
    match vars.number? name with
    | some current => .done s!"Repeat while {name} < {below} ({name} is {current} now):"
    | none => missingVariable b.label name
  | _ => .noEffect s!"\"{b.label}\" is not a loop."

/-- What an end marker does that closes no loop. -/
def strayMarker : Effect :=
  .noEffect "This end-of-loop marker has no loop above it, so it does nothing."

/-! ## Any block -/

/-- Runs a block by the category that it states. -/
def run (b : Block) (rules : Rules) (answer : Option Bool) (s : Scene) : Step :=
  match b.category with
  | .action =>
    let r := b.runAction rules answer s
    ⟨r.1, r.2, none⟩
  | .condition =>
    let r := b.runCondition s.vars
    ⟨r.1, s, r.2.or answer⟩
  | .binding =>
    let r := b.runBinding rules s
    ⟨r.1, r.2, answer⟩
  | .movement =>
    let r := runMovement s
    ⟨r.1, r.2, answer⟩
  | .math =>
    let r := b.runMath s
    ⟨r.1, r.2, answer⟩
  | .loop => ⟨b.runHeader s.vars, s, answer⟩
  | .marker => ⟨strayMarker, s, answer⟩

end Block

end Spellbook

import Spellbook.Block
import Spellbook.Report
set_option autoImplicit false

/-!
# The rules of a level

`Rules` is all that a level decides about a run: the world it starts from, what
its actions do, and when its goal is met.  The run itself is the same on every
level.
-/

namespace Spellbook

/-- What applying one block came to. -/
inductive Effect where
  | done (message : String)
  /-- The block had no effect; the run goes on. -/
  | noEffect (message : String)
  | fail (kind : FailureKind) (message : String)
  deriving DecidableEq, Inhabited

namespace Effect

/-- How well the step went. -/
def severity : Effect → Severity
  | done _ => .info
  | noEffect _ => .warning
  | fail .. => .failure

/-- What the step says. -/
def message : Effect → String
  | done message => message
  | noEffect message => message
  | fail _ message => message

/-- The outcome of a run that goes no further than this step, if it does not. -/
def outcome : Effect → Outcome
  | fail kind message => .failure kind message
  | _ => .running

end Effect

/-- How a scene stands to the goal of a level. -/
inductive Goal where
  | met (message : String)
  | unmet (reason : String)
  deriving DecidableEq, Inhabited

namespace Goal

/-- The outcome of a run that ends in such a scene. -/
def outcome : Goal → Outcome
  | met message => .success message
  | unmet reason => .failure .incompleteGoal reason

end Goal

/-- What a level decides about its runs. -/
structure Rules where
  level : Level
  title : String
  /-- The pause before each step in milliseconds. -/
  stepDelay : Nat
  /-- The blocks that the level offers. -/
  blocks : List Block
  initialWorld : World
  allowsLoops : Bool
  /-- Whether the level's own actions include this operation. -/
  supports : Op → Bool
  /-- Whether this operation runs only after a check that held. -/
  needsCheck : Op → Bool
  /-- Whether a scan that finds nothing fails the run. -/
  strictScan : Bool
  /-- Whether a scan sees this thing. -/
  scannable : Thing → Bool
  /-- Performs an action. -/
  perform : Op → Scene → Effect × Scene
  goal : Scene → Goal
  /-- Whether a run succeeds as soon as the goal is met. -/
  eager : Bool

namespace Rules

/-- The scene that a run starts from. -/
def openingScene (r : Rules) : Scene := .opening r.initialWorld

end Rules

/-! ## Blocks that every level offers -/

namespace Block

/-- One square forward. -/
def stepForward : Block :=
  .ofOp "step-forward" "Step forward" "wizard.stepForward();"
    "Move the wizard one square along the path." .stepForward

/-- A dance without effect. -/
def celebrate : Block :=
  .ofOp "celebrate" "Celebrate" "wizard.celebrate();"
    "A little victory dance. It does not change the result." .celebrate

/-- A condition that a variable holds this text. -/
def ifText (id label variable_ text description : String) : Block :=
  .ofOp id label s!"if ({variable_} === \"{text}\")" description
    (.compare variable_ .equals (.text text))

end Block

end Spellbook

import Spellbook.Setup
import Spellbook.World
set_option autoImplicit false

/-!
# What a run tells

Each block that runs leaves an `Event`; a run ends with an `Outcome`; a `Report`
holds both with the final scene.
-/

namespace Spellbook

/-- Why a run failed. -/
inductive FailureKind where
  /-- A block ran before the block that sets up what it needs. -/
  | missingPrecondition
  /-- The right kind of block, but the wrong choice in this world. -/
  | wrongChoice
  /-- The program ended and the goal was not reached. -/
  | incompleteGoal
  /-- Refused before any block ran. -/
  | invalidProgram
  | invalidArithmetic
  | runawayLoop
  | cancelled
  deriving DecidableEq, Inhabited

namespace FailureKind

/-- The name of a kind of failure. -/
def name : FailureKind → String
  | missingPrecondition => "missingPrecondition"
  | wrongChoice => "wrongChoice"
  | incompleteGoal => "incompleteGoal"
  | invalidProgram => "invalidProgram"
  | invalidArithmetic => "invalidArithmetic"
  | runawayLoop => "runawayLoop"
  | cancelled => "cancelled"

instance : Named FailureKind where
  all := [missingPrecondition, wrongChoice, incompleteGoal, invalidProgram,
    invalidArithmetic, runawayLoop, cancelled]
  name := name

end FailureKind

/-- How a run stands. -/
inductive Outcome where
  | success (message : String)
  | failure (kind : FailureKind) (reason : String)
  | running
  deriving DecidableEq, Inhabited

namespace Outcome

/-- Whether the run reached its goal. -/
def isSuccess : Outcome → Bool
  | success _ => true
  | _ => false

/-- Whether the run has ended. -/
def isFinal : Outcome → Bool
  | running => false
  | _ => true

/-- The kind of failure, if the run failed. -/
def failureKind? : Outcome → Option FailureKind
  | failure kind _ => some kind
  | _ => none

/-- What the outcome says. -/
def message : Outcome → String
  | success message => message
  | failure _ reason => reason
  | running => ""

end Outcome

/-- How well a step went. -/
inductive Severity where
  | info
  /-- The block had no effect, and the run goes on. -/
  | warning
  | failure
  deriving DecidableEq, Inhabited

namespace Severity

/-- The name of a severity. -/
def name : Severity → String
  | info => "info"
  | warning => "warning"
  | failure => "failure"

instance : Named Severity where
  all := [info, warning, failure]
  name := name

end Severity

/-- Where a run stands: which block comes, and in which round of its loop. -/
structure Notice where
  /-- The place of the block in the program, counted from 0. -/
  index : Nat
  /-- The round, counted from 1, of a block inside a loop. -/
  round : Option Nat
  /-- The number of the block in the program. -/
  number : Nat
  blockId : String
  deriving DecidableEq, Inhabited

/-- What one step did. -/
structure Event where
  /-- The place of the block in the program, counted from 0. -/
  index : Nat
  /-- The round, counted from 1, of a block inside a loop. -/
  round : Option Nat
  /-- The number of the block in the program. -/
  number : Nat
  blockId : String
  label : String
  message : String
  severity : Severity
  /-- The world and the variables after the step. -/
  scene : Scene
  deriving DecidableEq, Inhabited

/-- The notice that goes before an event. -/
def Event.notice (e : Event) : Notice := ⟨e.index, e.round, e.number, e.blockId⟩

/-- A run from its start to its end. -/
structure Report where
  level : Level
  outcome : Outcome
  events : List Event
  final : Scene
  deriving DecidableEq, Inhabited

namespace Report

/-- The outcome's text, or else the last step's. -/
def latestMessage (r : Report) : String :=
  if r.outcome.message = "" then (r.events.getLast?.map Event.message).getD ""
  else r.outcome.message

/-- The events of the blocks with this id. -/
def eventsOf (r : Report) (blockId : String) : List Event :=
  r.events.filter (fun e => e.blockId == blockId)

end Report

end Spellbook

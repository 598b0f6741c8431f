import Spellbook.Json.Writer
import Spellbook.Report
import Spellbook.Text.Padding
set_option autoImplicit false

/-!
# How runs are shown

Programs get one line a step with the message as JSON; people get a sentence.  The
track is one row of squares with a sign for each.
-/

namespace Spellbook

namespace Event

/-- The line of an event for programs. -/
def line (e : Event) : String :=
  let round := (e.round.map toString).getD "-"
  s!"STEP:{e.index}|{round}|{e.severity.name}|{Json.quoted e.message}"

/-- The line of an event for people. -/
def description (e : Event) : String :=
  let mark := match e.severity with
    | .info => " "
    | .warning => "!"
    | .failure => "x"
  let round := (e.round.map (fun n => s!" (round {n})")).getD ""
  s!"{mark} {Text.padLeft 2 (toString (e.index + 1))}. {e.label}{round}: {e.message}"

end Event

namespace Outcome

/-- The line of an outcome for people. -/
def description : Outcome → String
  | success message => s!"SUCCESS: {message}"
  | failure kind reason => s!"FAILURE ({kind.name}): {reason}"
  | running => "running..."

/-- The exit code that tells an outcome. -/
def exitCode (o : Outcome) : Nat := if o.isSuccess then 0 else 2

end Outcome

namespace Report

/-- The lines on the outcome for programs. -/
def outcomeLines (r : Report) : List String :=
  let status := if r.outcome.isSuccess then "SUCCESS" else "FAILURE"
  let kind := (r.outcome.failureKind?.map FailureKind.name).getD "NONE"
  [s!"OUTCOME:{status}",
   s!"FAILURE_KIND:{kind}",
   s!"MESSAGE_JSON:{Json.quoted r.outcome.message}",
   s!"FINAL_POSITION:{r.final.world.position}"]

end Report

namespace Thing

/-- The sign of a thing on the track. -/
def sign (t : Thing) : String :=
  match t.kind, t.resolved with
  | .brokenPlank, false => "_"
  | .brokenPlank, true => "="
  | _, true => "*"
  | kind, false => String.ofList (kind.name.toList.take 1)

end Thing

namespace World

/-- The sign of a square: the wizard, or else the first thing there. -/
def squareSign (w : World) (square : Nat) : String :=
  if square = w.position then "W"
  else ((w.things.find? (fun t => t.position == square)).map Thing.sign).getD "."

/-- The track as one row. -/
def track (w : World) : String :=
  " ".intercalate ((List.range w.trackLength).map w.squareSign)

end World

end Spellbook

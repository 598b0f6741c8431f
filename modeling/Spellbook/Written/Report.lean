import Spellbook.Report
import Spellbook.Written.World
set_option autoImplicit false

/-!
# Outcomes, events and reports in JSON
-/

namespace Spellbook

namespace Outcome

/-- An outcome as JSON, tagged by its status. -/
def toJson : Outcome → Json
  | success message => .case_ "status" "success" [("message", .text message)]
  | failure kind reason =>
    .case_ "status" "failure" [("kind", .ofNamed kind), ("reason", .text reason)]
  | running => .case_ "status" "stillRunning" []

/-- Reads an outcome. -/
def ofJson? (j : Json) : Option Outcome := do
  let (status, fields) ← j.tagged "status"
  match status with
  | "success" =>
    match ← fields.slots ["message"] 1 with
    | [message] => return success (← Json.required Json.text? message)
    | _ => none
  | "failure" =>
    match ← fields.slots ["kind", "reason"] 2 with
    | [kind, reason] =>
      return failure (← Json.required Json.taggedName? kind) (← Json.required Json.text? reason)
    | _ => none
  | "stillRunning" => (fields.slots [] 0).map (fun _ => running)
  | _ => none

end Outcome

namespace Event

/-- An event as JSON. -/
def toJson (e : Event) : Json :=
  .object [("index", .nat e.index), ("iteration", .ofOption Json.nat e.round),
    ("instanceId", .nat e.number), ("blockId", .text e.blockId), ("label", .text e.label),
    ("message", .text e.message), ("severity", .ofNamed e.severity),
    ("world", e.scene.world.toJson), ("variables", e.scene.vars.toJson)]

/-- The names of the fields of an event. -/
def fieldNames : List String :=
  ["index", "iteration", "instanceId", "blockId", "label", "message", "severity", "world",
    "variables"]

/-- Reads an event. -/
def ofJson? (j : Json) : Option Event := do
  match ← j.slots fieldNames 9 with
  | [index, round, number, blockId, label, message, severity, world, vars] =>
    return {
      index := ← Json.required Json.nat64? index
      round := ← Json.optional Json.nat32? round
      number := ← Json.required Json.nat64? number
      blockId := ← Json.required Json.text? blockId
      label := ← Json.required Json.text? label
      message := ← Json.required Json.text? message
      severity := ← Json.required Json.named? severity
      scene :=
        ⟨← Json.required World.ofJson? world, ← Json.required Bindings.ofJson? vars⟩ }
  | _ => none

end Event

namespace Report

/-- A report as JSON. -/
def toJson (r : Report) : Json :=
  .object [("level", .ofNamed r.level), ("outcome", r.outcome.toJson),
    ("events", .list (r.events.map Event.toJson)), ("finalWorld", r.final.world.toJson),
    ("finalVariables", r.final.vars.toJson)]

/-- Reads a report. -/
def ofJson? (j : Json) : Option Report := do
  match ← j.slots ["level", "outcome", "events", "finalWorld", "finalVariables"] 5 with
  | [level, outcome, events, world, vars] =>
    return {
      level := ← Json.required Json.named? level
      outcome := ← Json.required Outcome.ofJson? outcome
      events := ← Json.required (Json.listOf? Event.ofJson?) events
      final :=
        ⟨← Json.required World.ofJson? world, ← Json.required Bindings.ofJson? vars⟩ }
  | _ => none

end Report

end Spellbook

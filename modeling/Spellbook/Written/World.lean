import Spellbook.Json.Record
import Spellbook.World
set_option autoImplicit false

/-!
# Values and worlds in JSON
-/

namespace Spellbook

namespace Value

/-- A value as JSON. -/
def toJson : Value → Json
  | bool b => .bool b
  | number n => .integer n.val
  | text s => .text s

/-- Reads a value. -/
def ofJson? : Json → Option Value
  | .bool b => some (bool b)
  | .integer i => (Number.ofInt? i).map number
  | .text s => some (text s)
  | _ => none

end Value

namespace Number

/-- Reads a number. -/
def ofJson? (j : Json) : Option Number := j.integer?.bind ofInt?

/-- A number as JSON. -/
def toJson (n : Number) : Json := .integer n.val

end Number

namespace Bindings

/-- Names and values as an object. -/
def toJson (b : Bindings) : Json := .object (b.entries.map (fun e => (e.1, e.2.toJson)))

/-- Reads names and values; the last value of a name counts. -/
def ofJson? : Json → Option Bindings
  | .object fields =>
    (fields.mapM (fun f => (Value.ofJson? f.2).map (fun v => (f.1, v)))).map ofList
  | _ => none

end Bindings

namespace Thing

/-- A thing as JSON. -/
def toJson (t : Thing) : Json :=
  .object [("id", .text t.id), ("kind", .ofNamed t.kind), ("position", .nat t.position),
    ("resolved", .bool t.resolved)]

/-- Reads a thing. -/
def ofJson? (j : Json) : Option Thing := do
  match ← j.slots ["id", "kind", "position", "resolved"] 4 with
  | [id, kind, position, resolved] =>
    return {
      id := ← Json.required Json.text? id
      kind := ← Json.required Json.named? kind
      position := ← Json.required Json.nat64? position
      resolved := ← Json.required Json.bool? resolved }
  | _ => none

end Thing

namespace World

/-- A world as JSON. -/
def toJson (w : World) : Json :=
  .object [("position", .nat w.position), ("trackLength", .nat w.trackLength),
    ("entities", .list (w.things.map Thing.toJson)), ("flags", w.flags.toJson),
    ("target", .ofOption Json.text w.target)]

/-- Reads a world. -/
def ofJson? (j : Json) : Option World := do
  match ← j.slots ["position", "trackLength", "entities", "flags", "target"] 5 with
  | [position, trackLength, entities, flags, target] =>
    return {
      position := ← Json.required Json.nat64? position
      trackLength := ← Json.required Json.nat64? trackLength
      things := ← Json.required (Json.listOf? Thing.ofJson?) entities
      flags := ← Json.required Bindings.ofJson? flags
      target := ← Json.optional Json.text? target }
  | _ => none

end World

end Spellbook

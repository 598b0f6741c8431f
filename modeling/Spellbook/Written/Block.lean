import Spellbook.Block
import Spellbook.Written.World
set_option autoImplicit false

/-!
# Operations and blocks in JSON
-/

namespace Spellbook

namespace Op

/-- An operation as JSON, tagged by its kind. -/
def toJson : Op → Json
  | setNumber name value =>
    .case_ "kind" "setNumber" [("name", .text name), ("value", value.toJson)]
  | scan into => .case_ "kind" "scanEntity" [("into", .text into)]
  | readFlag flag into =>
    .case_ "kind" "readFlag" [("flag", .text flag), ("into", .text into)]
  | compare name comparison value =>
    .case_ "kind" "compare"
      [("name", .text name), ("comparison", .ofNamed comparison), ("value", value.toJson)]
  | collect item => .case_ "kind" "collect" [("item", .ofNamed item)]
  | brewPotion => .case_ "kind" "brewPotion" []
  | takePath path => .case_ "kind" "takePath" [("path", .ofNamed path)]
  | castSpell spell => .case_ "kind" "castSpell" [("spell", .ofNamed spell)]
  | repairPlank => .case_ "kind" "repairPlank" []
  | celebrate => .case_ "kind" "celebrate" []
  | stepForward => .case_ "kind" "stepForward" []
  | double name => .case_ "kind" "double" [("name", .text name)]
  | add name amount =>
    .case_ "kind" "add" [("name", .text name), ("amount", amount.toJson)]
  | subtract name amount =>
    .case_ "kind" "subtract" [("name", .text name), ("amount", amount.toJson)]
  | divideBy name divisor =>
    .case_ "kind" "divideBy" [("name", .text name), ("divisor", .text divisor)]
  | repeatTimes times => .case_ "kind" "repeat" [("times", .nat times)]
  | repeatWhile name below =>
    .case_ "kind" "repeatWhile" [("name", .text name), ("below", below.toJson)]
  | endLoop => .case_ "kind" "endLoop" []

/-- Reads a case without fields. -/
def ofBare? {α : Type} (a : α) (fields : Json) : Option α :=
  (fields.slots [] 0).map (fun _ => a)

/-- Reads a case with one field. -/
def ofOne? {α β : Type} (name : String) (read : Json → Option α) (make : α → β)
    (fields : Json) : Option β := do
  match ← fields.slots [name] 1 with
  | [a] => return make (← Json.required read a)
  | _ => none

/-- Reads a case with two fields. -/
def ofTwo? {α β γ : Type} (name₁ : String) (read₁ : Json → Option α) (name₂ : String)
    (read₂ : Json → Option β) (make : α → β → γ) (fields : Json) : Option γ := do
  match ← fields.slots [name₁, name₂] 2 with
  | [a, b] => return make (← Json.required read₁ a) (← Json.required read₂ b)
  | _ => none

/-- Reads a condition. -/
def ofCompare? (fields : Json) : Option Op := do
  match ← fields.slots ["name", "comparison", "value"] 3 with
  | [name, comparison, value] =>
    return compare (← Json.required Json.text? name) (← Json.required Json.taggedName? comparison)
      (← Json.required Value.ofJson? value)
  | _ => none

/-- Reads the fields of the kind of operation with this name. -/
def ofKind? : String → Json → Option Op
  | "setNumber" => ofTwo? "name" Json.text? "value" Number.ofJson? setNumber
  | "scanEntity" => ofOne? "into" Json.text? scan
  | "readFlag" => ofTwo? "flag" Json.text? "into" Json.text? readFlag
  | "compare" => ofCompare?
  | "collect" => ofOne? "item" Json.taggedName? collect
  | "brewPotion" => ofBare? brewPotion
  | "takePath" => ofOne? "path" Json.taggedName? takePath
  | "castSpell" => ofOne? "spell" Json.taggedName? castSpell
  | "repairPlank" => ofBare? repairPlank
  | "celebrate" => ofBare? celebrate
  | "stepForward" => ofBare? stepForward
  | "double" => ofOne? "name" Json.text? double
  | "add" => ofTwo? "name" Json.text? "amount" Number.ofJson? add
  | "subtract" => ofTwo? "name" Json.text? "amount" Number.ofJson? subtract
  | "divideBy" => ofTwo? "name" Json.text? "divisor" Json.text? divideBy
  | "repeat" => ofOne? "times" Json.nat32? repeatTimes
  | "repeatWhile" => ofTwo? "name" Json.text? "below" Number.ofJson? repeatWhile
  | "endLoop" => ofBare? endLoop
  | _ => fun _ => none

/-- Reads an operation. -/
def ofJson? (j : Json) : Option Op := do
  let (kind, fields) ← j.tagged "kind"
  ofKind? kind fields

end Op

namespace Block

/-- A block as JSON. -/
def toJson (b : Block) : Json :=
  .object [("id", .text b.id), ("category", .ofNamed b.category), ("label", .text b.label),
    ("simulatedCode", .text b.code), ("description", .text b.description),
    ("op", b.op.toJson)]

/-- Reads a block. -/
def ofJson? (j : Json) : Option Block := do
  match ← j.slots ["id", "category", "label", "simulatedCode", "description", "op"] 6 with
  | [id, category, label, code, description, op] =>
    return {
      id := ← Json.required Json.text? id
      category := ← Json.required Json.named? category
      label := ← Json.required Json.text? label
      code := ← Json.required Json.text? code
      description := ← Json.required Json.text? description
      op := ← Json.required Op.ofJson? op }
  | _ => none

end Block

namespace Placed

/-- A block of a program as JSON. -/
def toJson (p : Placed) : Json :=
  .object [("instanceId", .nat p.number), ("definition", p.block.toJson)]

/-- Reads a block of a program. -/
def ofJson? (j : Json) : Option Placed := do
  match ← j.slots ["instanceId", "definition"] 2 with
  | [number, block] =>
    return {
      number := ← Json.required Json.nat64? number
      block := ← Json.required Block.ofJson? block }
  | _ => none

end Placed

end Spellbook

import Spellbook.Files.Scan
import Spellbook.Json.Reader
import Spellbook.Json.Writer
import Spellbook.Request
import Spellbook.Written.Report
set_option autoImplicit false

/-!
# Cases

A case describes one run and what must come of it.  A report passes if the
outcome, the number of steps, the last square, the variables and the messages are
as the case expects.  The messages must be found in their order, each in a message
of its own.
-/

namespace Spellbook

/-- The outcome that a case expects. -/
inductive Expected where
  | success
  | failure (kind : FailureKind)
  deriving DecidableEq, Inhabited

namespace Expected

/-- Whether an outcome is the expected one. -/
def accepts : Expected → Outcome → Bool
  | success, o => o.isSuccess
  | failure kind, o => o.failureKind? = some kind

/-- An expected outcome as JSON. -/
def toJson : Expected → Json
  | success => .case_ "status" "success" []
  | failure kind => .case_ "status" "failure" [("kind", .ofNamed kind)]

/-- Reads an expected outcome. -/
def ofJson? (j : Json) : Option Expected := do
  let (status, fields) ← j.tagged "status"
  match status with
  | "success" => (fields.slots [] 0).map (fun _ => success)
  | "failure" =>
    match ← fields.slots ["kind"] 1 with
    | [kind] => return failure (← Json.required Json.taggedName? kind)
    | _ => none
  | _ => none

end Expected

/-- One run and what must come of it. -/
structure Case where
  schema : String
  level : String
  seed? : Option UInt32
  weather? : Option String
  monsters? : Option (List String)
  blocks : List String
  expected : Expected
  steps? : Option Nat
  position? : Option Nat
  /-- Texts to be found in the messages, in this order. -/
  messages : List String
  vars : Bindings
  deriving DecidableEq, Inhabited

/-- Why a case could not be run or did not pass. -/
inductive CaseFault where
  | unreadable (path : String) (error : FileError)
  | malformed (path : String)
  | schema (expected found : String)
  /-- A scan of a folder could not use the path of something in it. -/
  | unscannable (path used : String) (error : FileError)
  /-- No case below a folder. -/
  | noCases (path : String)
  | refused (fault : Fault)
  | outcome (expected : Expected) (actual : Outcome)
  | steps (expected actual : Nat)
  | position (expected actual : Nat)
  | variable_ (name : String) (expected : Value) (actual : Option Value)
  | message (wanted : String) (observed : List String)
  deriving DecidableEq, Inhabited

namespace CaseFault

/-- What a fault of a case says. -/
def shown : CaseFault → String
  | unreadable path error => s!"Failed to read file {path}: {error.message}"
  | malformed path => s!"Failed to parse testcase {path}"
  | schema expected found =>
    s!"Invalid testcase schema version \"{found}\", expected \"{expected}\"."
  | unscannable path used error =>
    s!"Failed to scan {path}: IO error for operation on {used}: {error.message}"
  | noCases path => s!"No .json testcases under {path}."
  | refused fault => s!"Engine error: {fault.shown}"
  | outcome expected actual =>
    s!"Expected outcome {expected.toJson.compact}, actual {actual.toJson.compact}."
  | steps expected actual => s!"Expected {expected} steps, actual {actual}."
  | position expected actual => s!"Expected final position {expected}, actual {actual}."
  | variable_ name expected actual =>
    let held := (actual.map Value.shown).getD "(unset)"
    s!"Expected variable {name} = {expected}, actual {held}."
  | message wanted observed =>
    let all := " | ".intercalate observed
    s!"Message not found in order: \"{wanted}\". observed={all}"

end CaseFault

namespace Case

/-- The form of file that is read. -/
def currentSchema : String := "sb-tool-case.v1"

/-! ## JSON -/

/-- Reads a seed. -/
def seedOfJson? (j : Json) : Option UInt32 := j.nat32?.map Nat.toUInt32

/-- A case as JSON. -/
def toJson (c : Case) : Json :=
  .object [("schemaVersion", .text c.schema), ("level", .text c.level),
    ("seed", .ofOption (fun s => Json.nat s.toNat) c.seed?),
    ("weather", .ofOption Json.text c.weather?),
    ("monsters", .ofOption Json.texts c.monsters?), ("blocks", .texts c.blocks),
    ("expected", c.expected.toJson), ("expectedSteps", .ofOption Json.nat c.steps?),
    ("expectedFinalPosition", .ofOption Json.nat c.position?),
    ("expectedMessages", .texts c.messages), ("expectedVariables", c.vars.toJson)]

/-- The names of the fields of a case. -/
def fieldNames : List String :=
  ["schemaVersion", "level", "seed", "weather", "monsters", "blocks", "expected",
    "expectedSteps", "expectedFinalPosition", "expectedMessages", "expectedVariables"]

/-- Reads a case. -/
def ofJson? (j : Json) : Option Case := do
  match ← j.slots fieldNames 7 with
  | [schema, level, seed, weather, monsters, blocks, expected, steps, position, messages,
      vars] =>
    return {
      schema := ← Json.required Json.text? schema
      level := ← Json.required Json.text? level
      seed? := ← Json.optional seedOfJson? seed
      weather? := ← Json.optional Json.text? weather
      monsters? := ← Json.optional Json.texts? monsters
      blocks := ← Json.defaulting Json.texts? [] blocks
      expected := ← Json.required Expected.ofJson? expected
      steps? := ← Json.optional Json.nat64? steps
      position? := ← Json.optional Json.nat64? position
      messages := ← Json.defaulting Json.texts? [] messages
      vars := ← Json.defaulting Bindings.ofJson? .empty vars }
  | _ => none

/-! ## Checking a report -/

/-- The messages of the events and then that of the outcome. -/
def observed (r : Report) : List String := r.events.map Event.message ++ [r.outcome.message]

/-- Whether characters stand somewhere in a row among others. -/
def occurs (part : List Char) : List Char → Bool
  | [] => part.isEmpty
  | c :: rest => part.isPrefixOf (c :: rest) || occurs part rest

/-- Whether a text occurs in another. -/
def occursIn (part whole : String) : Bool := occurs part.toList whole.toList

/-- The first text that is not found in order, each text in a message of its own. -/
def firstMissing? : List String → List String → Option String
  | [], _ => none
  | wanted :: rest, messages =>
    match messages.dropWhile (fun m => !occursIn wanted m) with
    | [] => some wanted
    | _ :: later => firstMissing? rest later

/-- The first variable that does not have its expected value. -/
def firstUnequal? (actual : Bindings) : List (String × Value) → Option (String × Value)
  | [] => none
  | e :: rest => if actual.get? e.1 = some e.2 then firstUnequal? actual rest else some e

/-- An expectation that is given and not met. -/
def mismatch? (expected : Option Nat) (actual : Nat) : Option Nat :=
  expected.filter (· ≠ actual)

/-- Checks a report against a case. -/
def check (c : Case) (r : Report) : Except CaseFault Unit :=
  if !c.expected.accepts r.outcome then .error (.outcome c.expected r.outcome)
  else if let some n := mismatch? c.steps? r.events.length then
    .error (.steps n r.events.length)
  else if let some n := mismatch? c.position? r.final.world.position then
    .error (.position n r.final.world.position)
  else if let some e := firstUnequal? r.final.vars c.vars.entries then
    .error (.variable_ e.1 e.2 (r.final.vars.get? e.1))
  else if let some m := firstMissing? c.messages (observed r) then
    .error (.message m (observed r))
  else .ok ()

/-! ## Running cases -/

/-- What a case asks to run. -/
def request (c : Case) : Request :=
  ⟨c.level, some c.blocks, c.seed?, some 0, c.weather?, c.monsters?⟩

/-- Runs a case. -/
def run (c : Case) : Except CaseFault Report :=
  match c.request.run with
  | .ok r => .ok r
  | .error fault => .error (.refused fault)

/-- Reads a case from a file. -/
def load (path : String) (files : FileSystem) : Except CaseFault Case :=
  match files.readText path with
  | .error e => .error (.unreadable path e)
  | .ok written =>
    match (Json.ofText? written).bind ofJson? with
    | none => .error (.malformed path)
    | some c =>
      if c.schema = currentSchema then .ok c else .error (.schema currentSchema c.schema)

/-- Reads a case from a file, runs it and checks the report. -/
def verify (path : String) (files : FileSystem) : Except CaseFault Report := do
  let c ← load path files
  let r ← c.run
  c.check r
  return r

/-- The case files below a folder, in the order of a scan. -/
def filesBelow (path : String) (files : FileSystem) : Except CaseFault (List String) :=
  match files.filesWithExtension path "json" with
  | .error (used, e) => .error (.unscannable path used e)
  | .ok [] => .error (.noCases path)
  | .ok found => .ok found

end Case

end Spellbook

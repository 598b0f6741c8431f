import Spellbook.Json.Token
set_option autoImplicit false

/-!
# Reading JSON

Tokens are read one after the other.  A `Reading` says what must come next and
holds the lists and objects that are open.  What is nested deeper than a fixed
limit is read but not kept.
-/

namespace Spellbook.Json

/-- A list or an object that is open, where a value stands. -/
inductive Frame where
  /-- The items before, the last one first. -/
  | list (items : List Json)
  /-- The fields before, the last one first, and the name of the value; a name may
  be broken. -/
  | field (fields : List (Option String × Json)) (name : Option String)

/-- What must come next. -/
inductive Reading where
  | value (outer : List Frame)
  /-- The first item of a list, or its end. -/
  | firstItem (outer : List Frame)
  /-- The first name of an object, or its end. -/
  | firstName (outer : List Frame)
  | name (fields : List (Option String × Json)) (outer : List Frame)
  | colon (fields : List (Option String × Json)) (name : Option String) (outer : List Frame)
  /-- What follows a value that is complete. -/
  | after (v : Json) (outer : List Frame)

/-- How deep lists and objects that are kept may be nested. -/
def maxDepth : Nat := 127

/-- The object of these fields; it is kept only if all of its names are. -/
def ofFields (fields : List (Option String × Json)) : Json :=
  match fields.mapM (fun f => f.1.map (fun name => (name, f.2))) with
  | some fields => object fields
  | none => unkept

namespace Reading

/-- Completes a list or an object. -/
def complete (v : Json) (outer : List Frame) : Reading :=
  after (if outer.length < maxDepth then v else .unkept) outer

/-- Begins a value. -/
def beginValue (outer : List Frame) : Token → Option Reading
  | .null => some (after .null outer)
  | .bool b => some (after (.bool b) outer)
  | .integer i => some (after (.integer i) outer)
  | .decimal written => some (after (.decimal written) outer)
  | .text s => some (after (.text s) outer)
  | .vastNumber => some (after .unkept outer)
  | .brokenText => some (after .unkept outer)
  | .beginList => some (firstItem outer)
  | .beginObject => some (firstName outer)
  | _ => none

/-- Takes the name of a field. -/
def takeName (fields : List (Option String × Json)) (outer : List Frame) :
    Token → Option Reading
  | .text s => some (colon fields (some s) outer)
  | .brokenText => some (colon fields none outer)
  | _ => none

/-- Takes one token. -/
def feed : Reading → Token → Option Reading
  | value outer, t => beginValue outer t
  | firstItem outer, .endList => some (complete (.list []) outer)
  | firstItem outer, t => beginValue (.list [] :: outer) t
  | firstName outer, .endObject => some (complete (.object []) outer)
  | firstName outer, t => takeName [] outer t
  | name fields outer, t => takeName fields outer t
  | colon fields s outer, .colon => some (value (.field fields s :: outer))
  | after v (.list items :: outer), .comma => some (value (.list (v :: items) :: outer))
  | after v (.list items :: outer), .endList =>
    some (complete (.list (v :: items).reverse) outer)
  | after v (.field fields s :: outer), .comma => some (name ((s, v) :: fields) outer)
  | after v (.field fields s :: outer), .endObject =>
    some (complete (ofFields ((s, v) :: fields).reverse) outer)
  | _, _ => none

/-- Takes tokens one after the other. -/
def feedAll : Reading → List Token → Option Reading
  | r, [] => some r
  | r, t :: rest => (r.feed t).bind (fun r => r.feedAll rest)

/-- The value, if one has been read and nothing is open. -/
def result? : Reading → Option Json
  | after v [] => some v
  | _ => none

end Reading

/-- The value that tokens stand for. -/
def ofTokens? (ts : List Token) : Option Json :=
  ((Reading.value []).feedAll ts).bind Reading.result?

/-- The value that a text stands for, which may be kept only in part. -/
def ofText? (s : String) : Option Json := (scan s.toList).bind ofTokens?

end Spellbook.Json

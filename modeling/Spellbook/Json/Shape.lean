import Spellbook.Json.Check
set_option autoImplicit false

/-!
# Checking a record

The shape of a record gives its fields and what each of them holds.  A text that
is no such record is read up to the first thing that is wrong.
-/

namespace Spellbook.Json

/-- What a field holds. -/
inductive FieldShape where
  | text
  | texts
  deriving DecidableEq, Inhabited

/-- The fields of a record. -/
structure RecordShape where
  /-- What the record is called. -/
  name : String
  fields : List (String × FieldShape)
  deriving DecidableEq, Inhabited

open Check

/-- Passes a text. -/
def passWantedText : Pass := fun cs =>
  match skipBlanks cs with
  | [] => ended .endInValue
  | '"' :: cs => (readText cs).map Prod.snd
  | cs => refuse "a string" cs

/-- Passes what stands before the next item of a list, and says whether there is
one. -/
def nextItem (first : Bool) : Step Bool := fun cs =>
  match skipBlanks cs with
  | [] => ended .endInList
  | ']' :: cs => .ok (false, ']' :: cs)
  | c :: cs =>
    if first then .ok (true, c :: cs)
    else if c = ',' then
      match skipBlanks cs with
      | [] => ended .endInValue
      | ']' :: cs => stop .commaAtEnd (']' :: cs) 1
      | cs => .ok (true, cs)
    else stop .noListComma (c :: cs) 1

/-- Passes the items of a list of texts, so many at most, and its end. -/
def passTextsWithin : Nat → Bool → Pass
  | 0, _, _ => ended .endInList
  | bound + 1, first, cs => do
    let (more, cs) ← nextItem first cs
    if more then passTextsWithin bound false (← passWantedText cs) else .ok cs.tail

namespace FieldShape

/-- Passes the value of a field. -/
def pass : FieldShape → Pass
  | text => passWantedText
  | texts => fun cs =>
    match skipBlanks cs with
    | [] => ended .endInValue
    | '[' :: cs => passTextsWithin (cs.length + 1) true cs
    | cs => refuse "a sequence" cs

end FieldShape

namespace RecordShape

/-- Passes what stands before the next name of an object, with its opening quote, and
says whether there is one. -/
def nextName (first : Bool) : Step Bool := fun cs =>
  match skipBlanks cs with
  | [] => ended .endInObject
  | '\x7d' :: cs => .ok (false, '\x7d' :: cs)
  | c :: cs =>
    if first then if c = '"' then .ok (true, cs) else stop .nameNotText (c :: cs) 1
    else if c = ',' then
      match skipBlanks cs with
      | [] => ended .endInValue
      | '"' :: cs => .ok (true, cs)
      | '\x7d' :: cs => stop .commaAtEnd ('\x7d' :: cs) 1
      | cs => stop .nameNotText cs 1
    else stop .noObjectComma (c :: cs) 1

/-- Passes the colon after a name. -/
def passColon : Pass := fun cs =>
  match skipBlanks cs with
  | [] => ended .endInObject
  | ':' :: cs => .ok cs
  | cs => stop .noColon cs 1

/-- What is left where a name is found to be given twice. -/
def afterRepeated (cs : List Char) : List Char :=
  match skipBlanks cs with
  | '\x7d' :: cs => cs
  | cs => cs

/-- Passes the fields of an object, so many at most, and its end. -/
def passFieldsWithin (r : RecordShape) : Nat → List String → Bool → Pass
  | 0, _, _, _ => ended .endInObject
  | bound + 1, seen, first, cs => do
    let (more, cs) ← nextName first cs
    if more then
      let (name, cs) ← readText cs
      match r.fields.lookup name with
      | none =>
        let cs ← passValue (← passColon cs)
        passFieldsWithin r bound seen false cs
      | some shape =>
        if seen.contains name then stop (.repeated name) (afterRepeated cs) 0
        else
          let cs ← shape.pass (← passColon cs)
          passFieldsWithin r bound (name :: seen) false cs
    else
      match r.fields.find? (fun f => !seen.contains f.1) with
      | some f => stop (.missing f.1) cs.tail 0
      | none => .ok cs.tail

/-- What an object or list of this record is called. -/
def wanted (r : RecordShape) : String := "struct " ++ r.name

/-- Passes the end of a list that holds all fields. -/
def passListEnd : Pass := fun cs =>
  match skipBlanks cs with
  | [] => ended .endInList
  | ']' :: cs => .ok cs
  | ',' :: cs =>
    match skipBlanks cs with
    | ']' :: cs => stop .commaAtEnd (']' :: cs) 1
    | cs => stop .moreAtEnd cs 1
  | cs => stop .moreAtEnd cs 1

/-- Passes the fields that come next in a list, after so many, and its end. -/
def passItems (r : RecordShape) (before : Nat) : List (String × FieldShape) → Pass
  | [], cs => passListEnd cs
  | f :: rest, cs => do
    let (more, cs) ← nextItem (before = 0) cs
    if more then passItems r (before + 1) rest (← f.2.pass cs)
    else stop (.tooShort before s!"{r.wanted} with {r.fields.length} elements") cs.tail 0

/-- Passes the record. -/
def pass (r : RecordShape) : Pass := fun cs =>
  match skipBlanks cs with
  | [] => ended .endInValue
  | '\x7b' :: cs => r.passFieldsWithin (cs.length + 1) [] true cs
  | '[' :: cs => r.passItems 0 r.fields cs
  | cs => refuse r.wanted cs

/-- What is wrong with a text that should hold nothing but the record. -/
def trouble? (r : RecordShape) (cs : List Char) : Option Trouble :=
  match r.pass cs with
  | .error t => some t
  | .ok rest =>
    match skipBlanks rest with
    | [] => none
    | rest => some ⟨.moreAtEnd, rest, 1⟩

end RecordShape

end Spellbook.Json

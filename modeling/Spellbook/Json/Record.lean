import Spellbook.Json.Basic
import Spellbook.Named
set_option autoImplicit false

/-!
# Records in JSON

A record is written as an object with a fixed row of field names.  It is read
from an object with its fields in any order, where unknown names are passed over
and no known name may be given twice, or from a list of its fields in their
order.  A tagged record names its case in one field, or as the first item, and is
read only if all of it is kept.
-/

namespace Spellbook.Json

/-- The value of a name in an object, `some none` if the name is missing, and no
answer if the name is given twice. -/
def slot (fields : List (String × Json)) (name : String) : Option (Option Json) :=
  match fields.filter (fun f => f.1 == name) with
  | [] => some none
  | [f] => some (some f.2)
  | _ => none

/-- The fields of a record in the order of these names.  A list may stop short of
the last fields, but not before it has the first `least`. -/
def slots (names : List String) (least : Nat) : Json → Option (List (Option Json))
  | object fields => names.mapM (slot fields)
  | list items =>
    if least ≤ items.length ∧ items.length ≤ names.length then
      some (items.map some ++ List.replicate (names.length - items.length) none)
    else none
  | _ => none

/-- The case of a tagged record, and the record without its tag. -/
def untag (tag : String) : Json → Option (String × Json)
  | object fields =>
    match slot fields tag with
    | some (some (text case_)) => some (case_, object (fields.filter (fun f => f.1 != tag)))
    | _ => none
  | list (text case_ :: rest) => some (case_, list rest)
  | _ => none

/-- The case of a tagged record that is kept, and the record without its tag. -/
def tagged (tag : String) (j : Json) : Option (String × Json) :=
  if j.isKept then j.untag tag else none

/-- Reads a field that must be there. -/
def required {α : Type} (read : Json → Option α) (slot : Option Json) : Option α :=
  slot.bind read

/-- Reads a field that may be missing. -/
def defaulting {α : Type} (read : Json → Option α) (default_ : α) : Option Json → Option α
  | none => some default_
  | some j => read j

/-- Reads a field that may be missing or `null`. -/
def optional {α : Type} (read : Json → Option α) : Option Json → Option (Option α) :=
  defaulting (option? read) none

/-- Reads the name of a member, which may also stand as the one name of an object
that holds `null`. -/
def named? {α : Type} [Named α] : Json → Option α
  | text s => Named.ofName? s
  | object [(s, null)] => Named.ofName? s
  | _ => none

/-- Reads the name of a member within a tagged record, where an empty object may
stand for `null`. -/
def taggedName? {α : Type} [Named α] : Json → Option α
  | object [(s, object [])] => Named.ofName? s
  | j => j.named?

/-- The name of a member. -/
def ofNamed {α : Type} [Named α] (a : α) : Json := text (Named.name a)

/-- A tagged record with its tag first. -/
def case_ (tag name : String) (fields : List (String × Json)) : Json :=
  object ((tag, text name) :: fields)

end Spellbook.Json

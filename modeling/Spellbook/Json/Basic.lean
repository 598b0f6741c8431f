set_option autoImplicit false

/-!
# JSON values

An object keeps its fields in the order of the text, repeated names included; what
a repeated name means is for the reader of the object to say.  A number is kept as
an integer only if it is written as one.  A value that cannot be kept does no harm
where nothing is read from it.
-/

namespace Spellbook

/-- A JSON value. -/
inductive Json where
  | null
  | bool (b : Bool)
  /-- A number without fraction and exponent that is not a negative zero. -/
  | integer (i : Int)
  /-- Any other number, as it is written. -/
  | decimal (written : String)
  | text (s : String)
  | list (items : List Json)
  | object (fields : List (String × Json))
  /-- A value that is well formed but of which nothing more is known: it holds half
  of a surrogate pair, is nested too deep, or is a number too large. -/
  | unkept
  deriving Inhabited, BEq

namespace Json

/-- The truth value, if it is one. -/
def bool? : Json → Option Bool
  | bool b => some b
  | _ => none

/-- The text, if it is one. -/
def text? : Json → Option String
  | text s => some s
  | _ => none

/-- The integer, if it is one. -/
def integer? : Json → Option Int
  | integer i => some i
  | _ => none

/-- The items, if it is a list. -/
def items? : Json → Option (List Json)
  | list items => some items
  | _ => none

/-- The integer, if it is one from zero up to but not including a limit. -/
def natBelow? (limit : Nat) (j : Json) : Option Nat :=
  match j with
  | integer (.ofNat n) => if n < limit then some n else none
  | _ => none

/-- A position, length, index or count. -/
def nat64? (j : Json) : Option Nat := j.natBelow? 0x10000000000000000

/-- A round or a number of rounds. -/
def nat32? (j : Json) : Option Nat := j.natBelow? 0x100000000

mutual

/-- Whether all of a value is known. -/
def isKept : Json → Bool
  | unkept => false
  | list items => areKept items
  | object fields => fieldsKept fields
  | _ => true

/-- Whether all of every item is known. -/
def areKept : List Json → Bool
  | [] => true
  | j :: rest => isKept j && areKept rest

/-- Whether all of every field is known. -/
def fieldsKept : List (String × Json) → Bool
  | [] => true
  | (_, j) :: rest => isKept j && fieldsKept rest

end

/-- A natural number as a JSON value. -/
def nat (n : Nat) : Json := integer n

/-- A list of texts. -/
def texts (ss : List String) : Json := list (ss.map text)

/-- A value that may be absent: `null` stands for none. -/
def ofOption {α : Type} (write : α → Json) : Option α → Json
  | none => null
  | some a => write a

/-- Reads a value that may be `null`. -/
def option? {α : Type} (read : Json → Option α) : Json → Option (Option α)
  | null => some none
  | j => (read j).map some

/-- Reads every item of a list. -/
def listOf? {α : Type} (read : Json → Option α) (j : Json) : Option (List α) :=
  j.items?.bind (fun items => items.mapM read)

/-- Reads a list of texts. -/
def texts? (j : Json) : Option (List String) := j.listOf? text?

end Json

end Spellbook

import Spellbook.Named
import Spellbook.Number
set_option autoImplicit false

/-!
# Values and named values

A `Value` is a truth value, a number or a text.  `Bindings` gives values to
names: the variables of a run, the flags of a world and the variables a case
expects.  A name has at most one value and the names are listed in the order of
their characters.
-/

namespace Spellbook

/-- What a variable or a flag can hold. -/
inductive Value where
  | bool (b : Bool)
  | number (n : Number)
  | text (s : String)
  deriving DecidableEq, Inhabited

namespace Value

/-- The number, if it is one. -/
def number? : Value → Option Number
  | number n => some n
  | _ => none

/-- The text, if it is one. -/
def text? : Value → Option String
  | text s => some s
  | _ => none

/-- The word for the kind of value. -/
def typeName : Value → String
  | bool _ => "boolean"
  | number _ => "number"
  | text _ => "text"

/-- How messages show a value: a text stands between quotes as it is. -/
def shown : Value → String
  | bool b => if b then "true" else "false"
  | number n => toString n
  | text s => "\"" ++ s ++ "\""

instance : ToString Value := ⟨shown⟩

end Value

/-! ## Names with values -/

/-- Names with their values, the names strictly ascending. -/
structure Bindings where
  entries : List (String × Value)
  ascending : entries.Pairwise (fun a b => a.1 < b.1)
  deriving DecidableEq

namespace Bindings

/-- Gives a name a value in a list of names and values, in its place. -/
def insertEntry (name : String) (value : Value) :
    List (String × Value) → List (String × Value)
  | [] => [(name, value)]
  | e :: rest =>
    if name < e.1 then (name, value) :: e :: rest
    else if e.1 < name then e :: insertEntry name value rest
    else (name, value) :: rest

theorem mem_insertEntry {name : String} {value : Value} {e : String × Value}
    {es : List (String × Value)} (h : e ∈ insertEntry name value es) :
    e = (name, value) ∨ e ∈ es := by
  induction es with
  | nil => simpa [insertEntry] using h
  | cons d rest ih =>
    unfold insertEntry at h
    split at h
    · simpa using h
    · split at h
      · rcases List.mem_cons.1 h with rfl | h
        · simp
        · rcases ih h with rfl | h <;> simp_all
      · rcases List.mem_cons.1 h with rfl | h <;> simp_all

theorem ascending_insertEntry (name : String) (value : Value)
    {es : List (String × Value)} (h : es.Pairwise (fun a b => a.1 < b.1)) :
    (insertEntry name value es).Pairwise (fun a b => a.1 < b.1) := by
  induction es with
  | nil => simp [insertEntry]
  | cons d rest ih =>
    obtain ⟨hd, hrest⟩ := List.pairwise_cons.1 h
    unfold insertEntry
    split
    · rename_i hlt
      refine List.pairwise_cons.2 ⟨fun e he => ?_, h⟩
      rcases List.mem_cons.1 he with rfl | he
      · exact hlt
      · exact String.lt_trans hlt (hd e he)
    · split
      · rename_i hgt
        refine List.pairwise_cons.2 ⟨fun e he => ?_, ih hrest⟩
        rcases mem_insertEntry he with rfl | he
        · exact hgt
        · exact hd e he
      · rename_i h1 h2
        have heq : name = d.1 :=
          String.le_antisymm (String.not_lt.1 h2) (String.not_lt.1 h1)
        exact List.pairwise_cons.2 ⟨fun e he => heq ▸ hd e he, hrest⟩

/-- No names at all. -/
def empty : Bindings := ⟨[], List.Pairwise.nil⟩

instance : Inhabited Bindings := ⟨empty⟩

/-- The value of a name. -/
def get? (b : Bindings) (name : String) : Option Value :=
  b.entries.lookup name

/-- Gives a name a value, in place of any value it had. -/
def insert (b : Bindings) (name : String) (value : Value) : Bindings :=
  ⟨insertEntry name value b.entries, ascending_insertEntry name value b.ascending⟩

/-- The names and values of a list, where the last value of a name counts. -/
def ofList (es : List (String × Value)) : Bindings :=
  es.foldl (fun b e => b.insert e.1 e.2) empty

/-- The number that a name holds, if it holds one. -/
def number? (b : Bindings) (name : String) : Option Number :=
  (b.get? name).bind Value.number?

/-- Whether a name has a value. -/
def contains (b : Bindings) (name : String) : Bool := (b.get? name).isSome

/-- How many names have a value. -/
def size (b : Bindings) : Nat := b.entries.length

/-- Whether no name has a value. -/
def isEmpty (b : Bindings) : Bool := b.entries.isEmpty

/-! ## Looking up after a change -/

@[simp] theorem get?_empty (name : String) : empty.get? name = none := rfl

theorem lookup_insertEntry (name other : String) (value : Value)
    (es : List (String × Value)) :
    (insertEntry name value es).lookup other =
      if other = name then some value else es.lookup other := by
  induction es with
  | nil => simp [insertEntry, lookup_cons_eq]
  | cons d rest ih =>
    obtain ⟨key, held⟩ := d
    unfold insertEntry
    split
    · exact lookup_cons_eq name other value _
    · split
      · rename_i hgt
        have hne : key ≠ name := fun h => String.lt_irrefl _ (h ▸ hgt)
        by_cases hd : other = key <;> simp_all [lookup_cons_eq]
      · rename_i h1 h2
        have heq : name = key :=
          String.le_antisymm (String.not_lt.1 h2) (String.not_lt.1 h1)
        by_cases h : other = name <;> simp_all [lookup_cons_eq]

theorem get?_insert (b : Bindings) (name other : String) (value : Value) :
    (b.insert name value).get? other = if other = name then some value else b.get? other :=
  lookup_insertEntry name other value b.entries

@[simp] theorem get?_insert_self (b : Bindings) (name : String) (value : Value) :
    (b.insert name value).get? name = some value := by
  simp [get?_insert]

theorem get?_insert_of_ne (b : Bindings) {name other : String} (value : Value)
    (h : other ≠ name) : (b.insert name value).get? other = b.get? other := by
  simp [get?_insert, h]

end Bindings

end Spellbook

import Spellbook.Named
set_option autoImplicit false

/-!
# Things on the track

Ingredients, monsters and broken planks stand on the squares of the track.  A
thing is resolved once it is collected, defeated or repaired.
-/

namespace Spellbook

/-- What a thing is. -/
inductive Thing.Kind where
  | mushroom
  | crystal
  | herbs
  | water
  | goblin
  | troll
  | dragon
  | brokenPlank
  deriving DecidableEq, Inhabited

namespace Thing.Kind

/-- The name of a kind. -/
def name : Kind → String
  | mushroom => "mushroom"
  | crystal => "crystal"
  | herbs => "herbs"
  | water => "water"
  | goblin => "goblin"
  | troll => "troll"
  | dragon => "dragon"
  | brokenPlank => "brokenPlank"

instance : Named Kind where
  all := [mushroom, crystal, herbs, water, goblin, troll, dragon, brokenPlank]
  name := name

/-- The kind with this name. -/
def ofName? (s : String) : Option Kind := Named.ofName? s

/-- The kinds that a spell can defeat. -/
def monsters : List Kind := [goblin, troll, dragon]

/-- Whether a spell can defeat this kind. -/
def isMonster (k : Kind) : Bool := monsters.contains k

theorem ofName?_name (k : Kind) : ofName? k.name = some k := by
  cases k <;> decide

end Thing.Kind

/-- A thing on a square of the track. -/
structure Thing where
  id : String
  kind : Thing.Kind
  position : Nat
  /-- Collected, defeated or repaired. -/
  resolved : Bool
  deriving DecidableEq, Inhabited

namespace Thing

/-- A thing that nobody has touched yet. -/
def fresh (id : String) (kind : Kind) (position : Nat) : Thing :=
  ⟨id, kind, position, false⟩

end Thing

end Spellbook

import Spellbook.Thing
set_option autoImplicit false

/-!
# Which level is played, and how

A `Setup` names a level and fixes, where wanted, the seed of its draws, its
weather and its monsters.
-/

namespace Spellbook

/-- The levels. -/
inductive Level where
  | collection
  | crossroads
  | combat
  | bridge
  deriving DecidableEq, Inhabited

namespace Level

/-- The name of a level. -/
def name : Level → String
  | collection => "collection"
  | crossroads => "crossroads"
  | combat => "combat"
  | bridge => "bridge"

/-- The levels in the order of play. -/
def all : List Level := [collection, crossroads, combat, bridge]

instance : Named Level := ⟨all, name⟩

theorem name_injective : Function.Injective name :=
  Named.name_injective (fun level => by cases level <;> decide)

end Level

/-- The weather at the crossroads. -/
inductive Weather where
  | sunny
  | rainy
  | stormy
  deriving DecidableEq, Inhabited

namespace Weather

/-- The name of a weather. -/
def name : Weather → String
  | sunny => "sunny"
  | rainy => "rainy"
  | stormy => "stormy"

/-- The kinds of weather that a draw chooses from. -/
def all : List Weather := [sunny, rainy, stormy]

instance : Named Weather := ⟨all, name⟩

end Weather

/-- A level with what is fixed about it beforehand. -/
structure Setup where
  level : Level
  /-- The seed that was asked for, if any. -/
  seed? : Option UInt32
  /-- The pause before each step in milliseconds, if not the level's own. -/
  stepDelay? : Option Nat
  weather? : Option Weather
  monsters? : Option (List Thing.Kind)
  deriving DecidableEq, Inhabited

namespace Setup

/-- The seed of a level for which none was asked. -/
def defaultSeed : UInt32 := 1

/-- A level with nothing fixed. -/
def ofLevel (level : Level) : Setup := ⟨level, none, none, none, none⟩

/-- The seed in effect. -/
def seed (s : Setup) : UInt32 := s.seed?.getD defaultSeed

end Setup

end Spellbook

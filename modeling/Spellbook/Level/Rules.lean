import Spellbook.Level.Bridge
import Spellbook.Level.Crossroads
import Spellbook.Level.Gauntlet
import Spellbook.Level.Potion
set_option autoImplicit false

/-!
# The policy that a setup leads to

What is drawn for a level is drawn once, when its policy is made.  A `Policy` holds what was
drawn, and its rules are those of the level with just that.
-/

namespace Spellbook

/-- A level with what has been drawn for it. -/
inductive Policy where
  | collection
  | crossroads (weather : Weather)
  | combat (monsters : List Thing.Kind)
  | bridge
  deriving DecidableEq, Inhabited

namespace Policy

/-- The rules of the level as it was drawn. -/
def rules : Policy → Rules
  | collection => Potion.rules
  | crossroads weather => Crossroads.rules weather
  | combat monsters => Gauntlet.rules monsters
  | bridge => Bridge.rules

end Policy

namespace Setup

/-- The weather at the crossroads: the fixed one, or else the seed's. -/
def weather (s : Setup) : Weather := s.weather?.getD (Crossroads.drawWeather s.seed)

/-- The monsters of the gauntlet: the fixed ones, the rest drawn from the seed. -/
def monsters (s : Setup) : List Thing.Kind := Gauntlet.drawMonsters s.seed s.monsters?

/-- The policy of the level as it is set up. -/
def policy (s : Setup) : Policy :=
  match s.level with
  | .collection => .collection
  | .crossroads => .crossroads s.weather
  | .combat => .combat s.monsters
  | .bridge => .bridge

/-- The rules of the level as it is set up. -/
def rules (s : Setup) : Rules := s.policy.rules

theorem rules_eq (s : Setup) :
    s.rules =
      match s.level with
      | .collection => Potion.rules
      | .crossroads => Crossroads.rules s.weather
      | .combat => Gauntlet.rules s.monsters
      | .bridge => Bridge.rules := by
  unfold rules policy
  cases s.level <;> rfl

end Setup

end Spellbook

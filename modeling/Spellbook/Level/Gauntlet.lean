import Spellbook.Draw
import Spellbook.Rules
set_option autoImplicit false

/-!
# The Monster Gauntlet

Three monsters stand on the track.  Each is weak to one spell, and a spell
strikes the monster that was scanned on the wizard's square.  The run succeeds
as soon as no monster stands.
-/

namespace Spellbook.Gauntlet

/-- The squares of the monsters. -/
def squares : List Nat := [2, 4, 6]

/-- The spell that a monster is weak to. -/
def weakness? : Thing.Kind → Option Spell
  | .goblin => some .fire
  | .troll => some .lightning
  | .dragon => some .ice
  | _ => none

/-! ## The draw -/

/-- The monsters of so many slots, from the first one on.  A listed monster keeps
its slot and leaves the state alone; any other slot draws. -/
def drawSlots : Nat → List Thing.Kind → UInt32 → List Thing.Kind
  | 0, _, _ => []
  | n + 1, fixed, state =>
    match fixed with
    | kind :: fixed =>
      if kind.isMonster then kind :: drawSlots n fixed state
      else
        let drawn := Draw.pick Thing.Kind.goblin [.troll, .dragon] state
        drawn.1 :: drawSlots n fixed drawn.2
    | [] =>
      let drawn := Draw.pick Thing.Kind.goblin [.troll, .dragon] state
      drawn.1 :: drawSlots n [] drawn.2

/-- The monsters of a seed, where the listed ones are fixed. -/
def drawMonsters (seed : UInt32) (fixed : Option (List Thing.Kind)) : List Thing.Kind :=
  drawSlots squares.length (fixed.getD []) seed

/-- The monsters on their squares, with ids that count from 1. -/
def placeMonsters (monsters : List Thing.Kind) : List Thing :=
  (monsters.zip squares).zipIdx.map
    (fun p => .fresh s!"monster-{p.2 + 1}" p.1.1 p.1.2)

/-- The world at the start. -/
def world (monsters : List Thing.Kind) : World :=
  (placeMonsters monsters).foldl World.addThing (World.ofLength 8)

/-! ## Actions -/

/-- The unresolved thing on the wizard's square that was scanned. -/
def target? (w : World) : Option Thing :=
  (w.target.bind w.find?).filter (fun t => !t.resolved && t.position == w.position)

/-- Casts a spell at the scanned monster. -/
def cast (spell : Spell) (s : Scene) : Effect × Scene :=
  match target? s.world with
  | none =>
    (.fail .missingPrecondition
      s!"The wizard has no scanned monster to cast {spell.name} at. Scan first.", s)
  | some thing =>
    let kind := thing.kind.name
    match weakness? thing.kind with
    | none => (.noEffect s!"The {kind} is not a monster.", s)
    | some weakness =>
      if weakness = spell then
        (.done s!"The {spell.name} spell defeats the {kind}!",
          s.mapWorld (fun w => { w.resolve thing.id with target := none }))
      else
        (.fail .wrongChoice
          s!"{spell.name} does nothing to the {kind}! A {kind} is weak to {weakness.name}.", s)

/-- Performs the actions of this level. -/
def perform : Op → Scene → Effect × Scene
  | .castSpell spell, s => cast spell s
  | _, s => (.noEffect "Nothing happens in the gauntlet.", s)

/-- Whether an operation is an action of this level. -/
def supports : Op → Bool
  | .castSpell _ => true
  | _ => false

/-! ## The goal -/

/-- The monsters that still stand. -/
def standing (w : World) : List Thing :=
  w.things.filter (fun t => t.kind.isMonster && !t.resolved)

/-- No monster standing. -/
def goal (s : Scene) : Goal :=
  let count := (standing s.world).length
  if count = 0 then .met "Every monster is defeated. The gauntlet is clear!"
  else .unmet s!"{count} of {squares.length} monsters are still standing."

/-! ## Blocks and rules -/

/-- The block that checks for a monster. -/
def ifMonster (kind : Thing.Kind) : Block :=
  .ifText s!"if-{kind.name}" s!"If it is a {kind.name}" "monster" kind.name
    s!"Only run the next spell when the monster is a {kind.name}."

/-- The block that casts a spell. -/
def spellBlock (spell : Spell) : Block :=
  .ofOp s!"cast-{spell.name}" s!"Cast {spell.name}" s!"wizard.cast(\"{spell.name}\");"
    s!"Cast a {spell.name} spell at the scanned monster. Only do this after an \"if\" block."
    (.castSpell spell)

/-- The blocks that the gauntlet offers. -/
def blocks : List Block :=
  [.stepForward,
   .ofOp "scan-monster" "Scan for monsters" "let monster = wizard.scan();"
     "Look at the monster on this square and remember what it is." (.scan "monster"),
   ifMonster .goblin, ifMonster .troll, ifMonster .dragon,
   spellBlock .fire, spellBlock .ice, spellBlock .lightning,
   .celebrate]

/-- The rules of the gauntlet with these monsters. -/
def rules (monsters : List Thing.Kind) : Rules where
  level := .combat
  title := "Monster Gauntlet"
  stepDelay := 1400
  blocks := blocks
  initialWorld := world monsters
  allowsLoops := false
  supports := supports
  needsCheck := supports
  strictScan := false
  scannable := fun t => t.kind.isMonster
  perform := perform
  goal := goal
  eager := true

end Spellbook.Gauntlet

import Spellbook.Rules
set_option autoImplicit false

/-!
# The Bridge Repair

Ten broken planks lead across the bridge.  The goal is to reach the far side with
the variable `steps` at the number of planks.  This is the level with loops.
-/

namespace Spellbook.Bridge

/-- How many planks the bridge has. -/
def planks : Nat := 10

/-- The number of planks as a value. -/
def plankCount : Number := .ofNat planks

/-- The flag that counts the planks repaired so far. -/
def repairedFlag : String := "planksRepaired"

/-- The world at the start: a broken plank on every square but the first. -/
def world : World :=
  (List.range planks).foldl
    (fun w i => w.addThing (.fresh s!"plank-{i + 1}" .brokenPlank (i + 1)))
    ((World.ofLength (planks + 1)).setFlag repairedFlag (.number .zero))

/-! ## Actions -/

/-- Repairs the plank on the wizard's square. -/
def repair (s : Scene) : Effect × Scene :=
  match s.world.unresolvedHere? (fun t => t.kind = .brokenPlank) with
  | none => (.noEffect s!"There is no broken plank on square {s.world.position}.", s)
  | some plank =>
    let before := ((s.world.flag? repairedFlag).bind Value.number?).getD .zero
    let repaired := before.succWrap
    (.done
      s!"The wizard repairs the plank on square {s.world.position}. Planks repaired: {repaired}",
      s.mapWorld (fun w => (w.resolve plank.id).setFlag repairedFlag (.number repaired)))

/-- Performs the actions of this level. -/
def perform : Op → Scene → Effect × Scene
  | .repairPlank, s => repair s
  | _, s => (.noEffect "Nothing happens on the bridge.", s)

/-- Whether an operation is an action of this level. -/
def supports : Op → Bool
  | .repairPlank => true
  | _ => false

/-! ## The goal -/

/-- The far side reached, and every step counted. -/
def goal (s : Scene) : Goal :=
  let farSide := s.world.trackEnd
  if s.world.position < farSide then
    .unmet
      s!"The wizard stopped on square {s.world.position}. The far side of the bridge is square {farSide}."
  else
    match s.vars.number? "steps" with
    | none =>
      .unmet
        "The wizard crossed the bridge, but nobody counted the steps. Create steps and add 1 for each step."
    | some steps =>
      if steps = plankCount then
        .met s!"The wizard crossed all {planks} planks and counted every step!"
      else .unmet s!"steps is {steps}, but the wizard crossed {planks} planks."

/-! ## Blocks and rules -/

/-- The blocks that the bridge offers. -/
def blocks : List Block :=
  [.ofOp "create-steps" "Create steps = 0" "let steps = 0;"
     "A variable that counts how many steps the wizard takes." (.setNumber "steps" .zero),
   .ofOp "repeat-10" "Repeat 10 times" "for (let i = 0; i < 10; i++) \x7b"
     "Run the blocks below, up to \"End loop\", ten times." (.repeatTimes 10),
   .ofOp "repeat-5" "Repeat 5 times" "for (let i = 0; i < 5; i++) \x7b"
     "Run the blocks below, up to \"End loop\", five times." (.repeatTimes 5),
   .ofOp "repeat-while-steps-below-10" "Repeat while steps < 10" "while (steps < 10) \x7b"
     "Keep running the blocks below while steps is less than 10."
     (.repeatWhile "steps" plankCount),
   .stepForward,
   .ofOp "repair-plank" "Repair plank" "bridge.repair(wizard.position);"
     "Fix the broken plank under the wizard." .repairPlank,
   .ofOp "count-step" "Add 1 to steps" "steps = steps + 1;" "Count one more step."
     (.add "steps" .one),
   .ofOp "end-loop" "End loop" "\x7d" "Marks where the loop body ends." .endLoop,
   .celebrate]

/-- The rules of the bridge. -/
def rules : Rules where
  level := .bridge
  title := "Bridge Repair"
  stepDelay := 800
  blocks := blocks
  initialWorld := world
  allowsLoops := true
  supports := supports
  needsCheck := fun _ => false
  strictScan := false
  scannable := fun t => t.kind = .brokenPlank
  perform := perform
  goal := goal
  eager := false

end Spellbook.Bridge

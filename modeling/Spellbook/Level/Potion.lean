import Spellbook.Rules
set_option autoImplicit false

/-!
# The Potion Workshop

Four ingredients lie on the way to the cauldron.  Each that is collected adds
its power to the variable `total` and one to `count`.  The goal is to have all
four and `total` at exactly seven.
-/

namespace Spellbook.Potion

/-- An ingredient with its square and its magic power. -/
structure Ingredient where
  kind : Thing.Kind
  square : Nat
  power : Number

/-- The ingredients in the order of their squares. -/
def ingredients : List Ingredient :=
  [⟨.mushroom, 1, .ofNat 5⟩, ⟨.crystal, 3, .ofNat 8⟩, ⟨.herbs, 5, .ofNat 6⟩,
   ⟨.water, 7, .ofNat 9⟩]

/-- The square of the cauldron. -/
def cauldron : Nat := 9

/-- What `total` has to be. -/
def target : Number := .ofNat 7

/-- The power of a kind, if it is an ingredient. -/
def power? (k : Thing.Kind) : Option Number :=
  (ingredients.find? (fun i => i.kind = k)).map Ingredient.power

/-- Whether a kind is an ingredient. -/
def isIngredient (k : Thing.Kind) : Bool := (power? k).isSome

/-- The world at the start. -/
def world : World :=
  ingredients.foldl (fun w i => w.addThing (.fresh i.kind.name i.kind i.square))
    ((World.ofLength 10).setFlag "cauldronPosition" (.number (.ofNat cauldron)))

/-! ## Actions -/

/-- Why an ingredient that was asked for is not there. -/
def absent (item : Thing.Kind) (w : World) : String :=
  if w.things.any (fun t => t.kind = item && t.resolved) then
    s!"The {item.name} is already in the bag."
  else s!"There is no {item.name} on square {w.position}."

/-- Collects an ingredient from the wizard's square. -/
def collect (item : Thing.Kind) (s : Scene) : Effect × Scene :=
  match s.vars.number? "total", s.vars.number? "count" with
  | some total, some count =>
    match s.world.unresolvedHere? (fun t => t.kind = item) with
    | none => (.noEffect (absent item s.world), s)
    | some thing =>
      let power := (power? item).getD .zero
      match total.add? power with
      | none => (.fail .invalidArithmetic "total is too big for the wizard to count.", s)
      | some sum =>
        let more := count.succSat
        (.done s!"The wizard collects the {item.name} (power {power}). total = {sum}, count = {more}",
          ((s.mapWorld (·.resolve thing.id)).setVariable "total" (.number sum)).setVariable
            "count" (.number more))
  | _, _ =>
    (.fail .missingPrecondition
      s!"To collect the {item.name} the wizard needs the variables total and count. Create them first.",
      s)

/-- Brews the potion in the cauldron. -/
def brew (s : Scene) : Effect × Scene :=
  if s.world.position ≠ cauldron then
    (.noEffect s!"The cauldron is on square {cauldron}. The wizard is on square {s.world.position}.",
      s)
  else
    match s.vars.number? "total" with
    | none =>
      (.fail .missingPrecondition
        "The cauldron needs a total to brew with. Create total first.", s)
    | some total =>
      (.done s!"The cauldron bubbles! The potion has strength {total}.",
        s.mapWorld (fun w =>
          (w.setFlag "potionBrewed" (.bool true)).setFlag "potionStrength" (.number total)))

/-- Performs the actions of this level. -/
def perform : Op → Scene → Effect × Scene
  | .collect item, s => collect item s
  | .brewPotion, s => brew s
  | _, s => (.noEffect "Nothing happens in the workshop.", s)

/-- Whether an operation is an action of this level. -/
def supports : Op → Bool
  | .collect item => isIngredient item
  | .brewPotion => true
  | _ => false

/-! ## The goal -/

/-- The names of the ingredients still to be collected. -/
def missing (w : World) : List String :=
  (w.things.filter (fun t => isIngredient t.kind && !t.resolved)).map (fun t => t.kind.name)

/-- All ingredients collected, and `total` at the target. -/
def goal (s : Scene) : Goal :=
  let needed := missing s.world
  if !needed.isEmpty then
    .unmet ("The recipe still needs: " ++ ", ".intercalate needed ++ ".")
  else
    match s.vars.number? "total" with
    | none => .unmet s!"The recipe needs total to be {target}, but total was never created."
    | some total =>
      if total = target then
        .met s!"All four ingredients are in and total is exactly {target}. The potion is perfect!"
      else .unmet s!"total is {total}, but the recipe needs exactly {target}."

/-! ## Blocks and rules -/

/-- The block that collects an ingredient. -/
def collectBlock (item : Thing.Kind) : Block :=
  .ofOp s!"collect-{item.name}" s!"Collect {item.name}"
    s!"total = total + {item.name}.power;\ncount = count + 1;"
    s!"Pick up the {item.name} on this square and add its power to total." (.collect item)

/-- The blocks that the workshop offers. -/
def blocks : List Block :=
  [.ofOp "create-total" "Create total = 0" "let total = 0;"
     "A variable that adds up the power of every ingredient." (.setNumber "total" .zero),
   .ofOp "create-count" "Create count = 0" "let count = 0;"
     "A variable that counts the ingredients." (.setNumber "count" .zero),
   .stepForward,
   collectBlock .mushroom, collectBlock .crystal, collectBlock .herbs, collectBlock .water,
   .ofOp "double-total" "Double total" "total = total * 2;" "Multiply total by two."
     (.double "total"),
   .ofOp "subtract-one" "Subtract 1 from total" "total = total - 1;"
     "Take one away from total." (.subtract "total" .one),
   .ofOp "divide-total-by-count" "Divide total by count" "total = total / count;"
     "Share total out evenly between the ingredients." (.divideBy "total" "count"),
   .ofOp "brew-potion" "Brew potion" "cauldron.brew(total);"
     "Brew the potion. Only works next to the cauldron." .brewPotion,
   .celebrate]

/-- The rules of the workshop. -/
def rules : Rules where
  level := .collection
  title := "Potion Workshop"
  stepDelay := 1000
  blocks := blocks
  initialWorld := world
  allowsLoops := false
  supports := supports
  needsCheck := fun _ => false
  strictScan := false
  scannable := fun t => isIngredient t.kind
  perform := perform
  goal := goal
  eager := false

end Spellbook.Potion

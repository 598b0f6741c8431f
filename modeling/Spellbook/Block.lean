import Spellbook.Bindings
import Spellbook.Thing
set_option autoImplicit false

/-!
# Blocks

A block shows a label and a line of pretend code, and carries one operation.
Every operation belongs to a category; a block states its category itself, so a
block can state one that is not its operation's.
-/

namespace Spellbook

/-- What a block is for. -/
inductive Category where
  /-- Gives a variable its value. -/
  | binding
  | condition
  | action
  | movement
  | math
  | loop
  /-- Marks the end of a loop. -/
  | marker
  deriving DecidableEq, Inhabited

namespace Category

/-- The name of a category. -/
def name : Category → String
  | binding => "variable"
  | condition => "condition"
  | action => "action"
  | movement => "movement"
  | math => "math"
  | loop => "loop"
  | marker => "structure"

instance : Named Category where
  all := [binding, condition, action, movement, math, loop, marker]
  name := name

end Category

/-- How a condition compares a variable with a value. -/
inductive Comparison where
  | equals
  | notEquals
  | lessThan
  | greaterThan
  deriving DecidableEq, Inhabited

namespace Comparison

/-- The name of a comparison. -/
def name : Comparison → String
  | equals => "equals"
  | notEquals => "notEquals"
  | lessThan => "lessThan"
  | greaterThan => "greaterThan"

instance : Named Comparison where
  all := [equals, notEquals, lessThan, greaterThan]
  name := name

/-- The sign of a comparison. -/
def symbol : Comparison → String
  | equals => "=="
  | notEquals => "!="
  | lessThan => "<"
  | greaterThan => ">"

/-- Whether two values compare so.  Values of two types never do. -/
def holds : Comparison → Value → Value → Bool
  | equals, a, b => a = b
  | notEquals, a, b => a.typeName = b.typeName ∧ a ≠ b
  | lessThan, .number a, .number b => a.val < b.val
  | greaterThan, .number a, .number b => b.val < a.val
  | _, _, _ => false

end Comparison

/-- The ways that part at the crossroads. -/
inductive Path where
  | mountain
  | forest
  | cave
  deriving DecidableEq, Inhabited

namespace Path

/-- The name of a path. -/
def name : Path → String
  | mountain => "mountain"
  | forest => "forest"
  | cave => "cave"

instance : Named Path where
  all := [mountain, forest, cave]
  name := name

end Path

/-- The spells that the wizard knows. -/
inductive Spell where
  | fire
  | ice
  | lightning
  deriving DecidableEq, Inhabited

namespace Spell

/-- The name of a spell. -/
def name : Spell → String
  | fire => "fire"
  | ice => "ice"
  | lightning => "lightning"

instance : Named Spell where
  all := [fire, ice, lightning]
  name := name

end Spell

/-! ## Operations -/

/-- What a block does when it runs. -/
inductive Op where
  | setNumber (name : String) (value : Number)
  | scan (into : String)
  | readFlag (flag into : String)
  | compare (name : String) (comparison : Comparison) (value : Value)
  | collect (item : Thing.Kind)
  | brewPotion
  | takePath (path : Path)
  | castSpell (spell : Spell)
  | repairPlank
  | celebrate
  | stepForward
  | double (name : String)
  | add (name : String) (amount : Number)
  | subtract (name : String) (amount : Number)
  | divideBy (name divisor : String)
  | repeatTimes (times : Nat)
  | repeatWhile (name : String) (below : Number)
  | endLoop
  deriving DecidableEq, Inhabited

namespace Op

/-- The category that an operation belongs to. -/
def category : Op → Category
  | setNumber .. | scan .. | readFlag .. => .binding
  | compare .. => .condition
  | collect .. | brewPotion | takePath .. | castSpell .. | repairPlank | celebrate => .action
  | stepForward => .movement
  | double .. | add .. | subtract .. | divideBy .. => .math
  | repeatTimes .. | repeatWhile .. => .loop
  | endLoop => .marker

end Op

/-! ## Blocks and the blocks of a program -/

/-- A block as a catalog offers it. -/
structure Block where
  id : String
  /-- The category that decides how the block runs. -/
  category : Category
  label : String
  /-- Shown to the learner and never run. -/
  code : String
  description : String
  op : Op
  deriving DecidableEq, Inhabited

namespace Block

/-- A block whose category is its operation's. -/
def ofOp (id label code description : String) (op : Op) : Block :=
  ⟨id, op.category, label, code, description, op⟩

end Block

/-- A block in a program, with the number that tells it from its copies. -/
structure Placed where
  number : Nat
  block : Block
  deriving DecidableEq, Inhabited

end Spellbook

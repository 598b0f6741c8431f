import Spellbook.Workbench
set_option autoImplicit false

/-!
# Requests by name

A request gives the level, the weather, the monsters and the blocks by their
names.  Names are checked in that order, and the first that is unknown is the
fault.
-/

namespace Spellbook

/-- The level with this name. -/
def Level.named (name : String) : Except Fault Level :=
  match Named.ofName? name with
  | some level => .ok level
  | none => .error (.levelUnknown name)

/-- The weather with this name. -/
def Weather.named (name : String) : Except Fault Weather :=
  match Named.ofName? name with
  | some weather => .ok weather
  | none => .error (.weatherUnknown name)

/-- The monsters with these names. -/
def Thing.Kind.monstersNamed : List String → Except Fault (List Thing.Kind)
  | [] => .ok []
  | name :: rest =>
    match (ofName? name).filter isMonster with
    | none => .error (.monsterUnknown name)
    | some kind =>
      match monstersNamed rest with
      | .error fault => .error fault
      | .ok kinds => .ok (kind :: kinds)

/-- What a level is asked for with. -/
structure Request where
  level : String
  blocks? : Option (List String)
  seed? : Option UInt32
  stepDelay? : Option Nat
  weather? : Option String
  monsters? : Option (List String)
  deriving DecidableEq, Inhabited

namespace Request

/-- Reads a name that may be left out. -/
def optional {α β : Type} (read : α → Except Fault β) : Option α → Except Fault (Option β)
  | none => .ok none
  | some a =>
    match read a with
    | .ok b => .ok (some b)
    | .error fault => .error fault

/-- The setup that a request names. -/
def setup (r : Request) : Except Fault Setup := do
  let level ← Level.named r.level
  let weather ← optional Weather.named r.weather?
  let monsters ← optional Thing.Kind.monstersNamed r.monsters?
  return ⟨level, r.seed?, r.stepDelay?, weather, monsters⟩

/-- The workbench that a request asks for, with its blocks loaded. -/
def workbench (r : Request) : Except Fault Workbench := do
  let w ← Workbench.create (← r.setup)
  match r.blocks? with
  | none => return w
  | some ids =>
    match w.load ids with
    | (.error fault, _) => .error fault
    | (.ok _, w) => .ok w

/-- Loads the blocks of a request and runs them. -/
def run (r : Request) : Except Fault Report := do
  let w ← r.workbench
  match w.play .never with
  | (.error fault, _) => .error fault
  | (.ok p, w) => return w.reportOf p

end Request

/-- The title and the pause of a level in the list of levels. -/
def Level.rules (level : Level) : Rules := (Setup.ofLevel level).rules

end Spellbook

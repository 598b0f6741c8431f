import Spellbook.Bindings
import Spellbook.Thing
set_option autoImplicit false

/-!
# The world of a run

The wizard stands on one square of a straight track.  Things stand on squares,
flags hold facts about the level, and the target is the thing scanned on the
square where the wizard stands.  A `Scene` is a world together with the
variables of a run.
-/

namespace Spellbook

/-- The track with everything on it. -/
structure World where
  /-- The square where the wizard stands. -/
  position : Nat
  trackLength : Nat
  things : List Thing
  flags : Bindings
  /-- The id of the thing scanned on this square. -/
  target : Option String
  deriving DecidableEq, Inhabited

namespace World

/-- An empty track of at least one square, with the wizard at its start. -/
def ofLength (n : Nat) : World := ⟨0, max n 1, [], .empty, none⟩

/-- Puts one more thing on the track. -/
def addThing (w : World) (t : Thing) : World := { w with things := w.things ++ [t] }

/-- The value of a flag. -/
def flag? (w : World) (name : String) : Option Value := w.flags.get? name

/-- Gives a flag a value. -/
def setFlag (w : World) (name : String) (value : Value) : World :=
  { w with flags := w.flags.insert name value }

/-- The greatest square number that a world can be written with. -/
def lastSquareNumber : Nat := 0xffffffffffffffff

/-- The last square.  A track without squares has no end within reach. -/
def trackEnd (w : World) : Nat :=
  if w.trackLength = 0 then lastSquareNumber else w.trackLength - 1

/-- Whether the wizard can go no further. -/
def atTrackEnd (w : World) : Bool := w.trackEnd ≤ w.position

/-- The first thing with this id. -/
def find? (w : World) (id : String) : Option Thing :=
  w.things.find? (fun t => t.id == id)

/-- The first unresolved thing of a kind that `p` accepts on the wizard's square. -/
def unresolvedHere? (w : World) (p : Thing → Bool) : Option Thing :=
  w.things.find? (fun t => t.position == w.position && !t.resolved && p t)

/-- Marks the first thing with this id as resolved. -/
def markResolved (id : String) : List Thing → List Thing
  | [] => []
  | t :: rest =>
    if t.id = id then { t with resolved := true } :: rest else t :: markResolved id rest

/-- The world in which the first thing with this id is resolved. -/
def resolve (w : World) (id : String) : World :=
  { w with things := markResolved id w.things }

/-- Whether there is a thing with this id whose first one is unresolved. -/
def canResolve (w : World) (id : String) : Bool :=
  (w.find? id).any (fun t => !t.resolved)

/-- Whether every thing that `p` accepts is resolved. -/
def allResolved (w : World) (p : Thing → Bool) : Bool :=
  (w.things.filter p).all Thing.resolved

/-- The ids of the resolved things, in the order of the things. -/
def resolvedIds (w : World) : List String :=
  (w.things.filter Thing.resolved).map Thing.id

/-- The wizard one square further, with nothing scanned there yet. -/
def stepForward (w : World) : World :=
  { w with position := w.position + 1, target := none }

end World

/-- A world together with the variables of a run. -/
structure Scene where
  world : World
  vars : Bindings
  deriving DecidableEq, Inhabited

namespace Scene

/-- A world at the start of a run, without variables. -/
def opening (w : World) : Scene := ⟨w, .empty⟩

/-- Gives a variable a value. -/
def setVariable (s : Scene) (name : String) (value : Value) : Scene :=
  { s with vars := s.vars.insert name value }

/-- Changes the world alone. -/
def mapWorld (s : Scene) (f : World → World) : Scene := { s with world := f s.world }

end Scene

end Spellbook

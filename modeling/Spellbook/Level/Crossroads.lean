import Spellbook.Draw
import Spellbook.Rules
set_option autoImplicit false

/-!
# The Weather Crossroads

Three paths part at the fork and one of them is safe, depending on the weather.
The weather is drawn from the seed unless it is fixed.
-/

namespace Spellbook.Crossroads

/-- The square where the paths part. -/
def fork : Nat := 2

/-- The path that is safe in a weather. -/
def safePath : Weather → Path
  | .sunny => .mountain
  | .rainy => .forest
  | .stormy => .cave

/-- The weather that a seed draws. -/
def drawWeather (seed : UInt32) : Weather :=
  (Draw.pick .sunny [.rainy, .stormy] seed).1

/-- The world at the start. -/
def world (weather : Weather) : World :=
  ((World.ofLength 6).setFlag "weather" (.text weather.name)).setFlag
    "forkPosition" (.number (.ofNat fork))

/-! ## Actions -/

/-- Takes a path at the fork.  A path, once taken, is the only one. -/
def takePath (weather : Weather) (path : Path) (s : Scene) : Effect × Scene :=
  if (s.world.flag? "chosenPath").isSome then
    (.noEffect "The wizard has already chosen a path.", s)
  else if s.world.position ≠ fork then
    (.noEffect
      s!"The paths split at square {fork}, but the wizard is on square {s.world.position}.", s)
  else
    let s := s.mapWorld (·.setFlag "chosenPath" (.text path.name))
    let safe := safePath weather
    if path ≠ safe then
      (.fail .wrongChoice
        s!"The {path.name} path is not safe when it is {weather.name}. The {safe.name} path was the right choice.",
        s)
    else
      (.done
        s!"The wizard takes the {path.name} path. Just right for {weather.name} weather!", s)

/-- Performs the actions of this level. -/
def perform (weather : Weather) : Op → Scene → Effect × Scene
  | .takePath path, s => takePath weather path s
  | _, s => (.noEffect "Nothing happens at the crossroads.", s)

/-- Whether an operation is an action of this level. -/
def supports : Op → Bool
  | .takePath _ => true
  | _ => false

/-! ## The goal -/

/-- The safe path taken. -/
def goal (weather : Weather) (s : Scene) : Goal :=
  let safe := safePath weather
  match (s.world.flag? "chosenPath").bind Value.text? with
  | none => .unmet s!"The wizard never chose a path at the fork on square {fork}."
  | some chosen =>
    if chosen = safe.name then
      .met s!"It is {weather.name} and the wizard took the {chosen} path. Safe travels!"
    else
      .unmet
        s!"The wizard took the {chosen} path, but in {weather.name} weather the {safe.name} path is the safe one."

/-! ## Blocks and rules -/

/-- The block that checks for a weather. -/
def ifWeather (weather : Weather) : Block :=
  .ifText s!"if-{weather.name}" s!"If it is {weather.name}" "weather" weather.name
    s!"Only run the next action when the weather is {weather.name}."

/-- The block that takes a path. -/
def pathBlock (path : Path) : Block :=
  .ofOp s!"take-{path.name}-path" s!"Take the {path.name} path"
    s!"wizard.takePath(\"{path.name}\");"
    s!"Walk down the {path.name} path. Only do this after an \"if\" block." (.takePath path)

/-- The blocks that the crossroads offer. -/
def blocks : List Block :=
  [.stepForward,
   .ofOp "check-weather" "Check the weather" "let weather = sky.weather;"
     "Look at the sky and remember the weather in a variable." (.readFlag "weather" "weather"),
   ifWeather .sunny, ifWeather .rainy, ifWeather .stormy,
   pathBlock .mountain, pathBlock .forest, pathBlock .cave,
   .celebrate]

/-- The rules of the crossroads in a weather. -/
def rules (weather : Weather) : Rules where
  level := .crossroads
  title := "Weather Crossroads"
  stepDelay := 1200
  blocks := blocks
  initialWorld := world weather
  allowsLoops := false
  supports := supports
  needsCheck := supports
  strictScan := false
  scannable := fun t => t.kind.isMonster
  perform := perform weather
  goal := goal weather
  eager := false

end Spellbook.Crossroads

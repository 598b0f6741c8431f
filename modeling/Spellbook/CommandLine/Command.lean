import Spellbook.CommandLine.Options
import Spellbook.Request
import Spellbook.Text.Numeral
import Spellbook.Text.Pieces
set_option autoImplicit false

/-!
# Commands of the command line
-/

namespace Spellbook.CommandLine

/-- How the world of a level is fixed on the command line. -/
structure WorldOptions where
  seed? : Option UInt32
  weather? : Option String
  monsters? : Option (List String)
  deriving DecidableEq, Inhabited

/-- What is run once. -/
structure RunOptions where
  level : String
  blocks? : Option (List String)
  programFile? : Option String
  world : WorldOptions
  /-- Whether the run pauses before each step. -/
  paced : Bool
  reportOut? : Option String
  deriving DecidableEq, Inhabited

/-- What is played. -/
structure PlayOptions where
  level : String
  programFile? : Option String
  world : WorldOptions
  deriving DecidableEq, Inhabited

/-- A command. -/
inductive Command where
  | levels
  | catalog (level : String)
  | run (options : RunOptions)
  | play (options : PlayOptions)
  deriving DecidableEq, Inhabited

/-! ## Reading -/

/-- An option with any value. -/
def anyText : Takes := .one (fun _ => true)

/-- The options that fix the world of a level. -/
def worldSchema : Schema :=
  [("seed", .one (fun s => (Text.signedSeed? s).isSome)), ("weather", anyText),
    ("monsters", .many)]

/-- The options of a catalog. -/
def catalogSchema : Schema := [("level", anyText)]

/-- The options of a run. -/
def runSchema : Schema :=
  [("level", anyText), ("blocks", .many), ("program-file", anyText), ("paced", .nothing),
    ("report-out", anyText)] ++ worldSchema

/-- The options of a game. -/
def playSchema : Schema := [("level", anyText), ("program-file", anyText)] ++ worldSchema

/-- The values of an option that takes many. -/
def listGiven? (given : Given) (name : String) : Option (List String) :=
  match given.filter (fun g => g.1 == name) with
  | [] => none
  | gs => some (gs.flatMap (fun g => Text.pieces (· == ',') g.2))

/-- The fixed world among the options given. -/
def worldGiven (given : Given) : WorldOptions where
  seed? := (given.lookup "seed").bind Text.signedSeed?
  weather? := given.lookup "weather"
  monsters? := listGiven? given "monsters"

/-- The level among the options given; it must be there. -/
def levelGiven (given : Given) : Except Refusal String :=
  match given.lookup "level" with
  | some level => .ok level
  | none => .error .invalid

namespace Command

/-- Reads the options of a run; blocks and a program file exclude each other. -/
def ofRunArgs (args : List String) : Except Refusal Command := do
  let given ← readOptions runSchema [] args
  let level ← levelGiven given
  let blocks := listGiven? given "blocks"
  let file := given.lookup "program-file"
  if blocks.isSome && file.isSome then .error .invalid
  else return run {
    level := level
    blocks? := blocks
    programFile? := file
    world := worldGiven given
    paced := (given.lookup "paced").isSome
    reportOut? := given.lookup "report-out" }

/-- Reads the options of a game. -/
def ofPlayArgs (args : List String) : Except Refusal Command := do
  let given ← readOptions playSchema [] args
  return play ⟨← levelGiven given, given.lookup "program-file", worldGiven given⟩

/-- The names of the commands that help can be asked for. -/
def names : List String := ["levels", "catalog", "run", "play", "help"]

/-- Reads the arguments of a program. -/
def ofArgs : List String → Except Refusal Command
  | "levels" :: args => do
    let _ ← readOptions [] [] args
    return levels
  | "catalog" :: args => do
    let given ← readOptions catalogSchema [] args
    return catalog (← levelGiven given)
  | "run" :: args => ofRunArgs args
  | "play" :: args => ofPlayArgs args
  | ["help"] | "--help" :: _ => .error .help
  | ["help", name] => .error (if names.contains name then .help else .invalid)
  | arg :: _ => .error (if asksForHelp arg then .help else .invalid)
  | [] => .error .invalid

end Command

/-- The request of a level with its fixed world. -/
def WorldOptions.request (o : WorldOptions) (level : String) (blocks? : Option (List String))
    (stepDelay? : Option Nat) : Request :=
  ⟨level, blocks?, o.seed?, stepDelay?, o.weather?, o.monsters?⟩

end Spellbook.CommandLine

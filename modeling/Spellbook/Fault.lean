import Spellbook.Block
import Spellbook.Files.Tree
import Spellbook.Setup
set_option autoImplicit false

/-!
# What can go wrong for the caller

A fault is a request that cannot be met.  A run that fails is no fault: its
failure is its outcome.  Every fault has a code for programs and a message for
people.
-/

namespace Spellbook

/-- A request that cannot be met. -/
inductive Fault where
  /-- Two blocks of a catalog have one id. -/
  | blockRepeated (id : String)
  /-- A block states a category that is not its operation's. -/
  | categoryMismatch (id : String) (stated actual : Category)
  /-- A loop block on a level without loops. -/
  | loopNotAllowed (id : String) (level : Level)
  /-- An action that the level cannot perform. -/
  | actionUnsupported (id : String) (level : Level)
  /-- The catalog has no block of this id. -/
  | blockUnknown (id : String) (level : Level)
  | levelUnknown (name : String)
  | weatherUnknown (name : String)
  | monsterUnknown (name : String)
  /-- Not three monsters. -/
  | monstersInvalid (kinds : List Thing.Kind)
  /-- The program cannot be edited during a run. -/
  | programLocked
  /-- Another run cannot start during a run. -/
  | runInProgress
  /-- There is no run to go on with. -/
  | noActiveRun
  | programMissing (path : String)
  | programUnreadable (error : FileError)
  /-- The file holds no program, for this reason. -/
  | programMalformed (trouble : String)
  | programSchema (found : String)
  | programOfOtherLevel (found wanted : String)
  | programUnwritable (error : FileError)
  | reportUnwritable (error : FileError)
  /-- A command was given without what it needs. -/
  | usage (form : String)
  /-- The program has no block at this place. -/
  | noBlockAt (place length : Nat)
  | commandUnknown (word : String)
  deriving DecidableEq, Inhabited

namespace Fault

/-- The code of a fault. -/
def code : Fault → String
  | blockRepeated .. => "CATALOG_DUPLICATE_BLOCK"
  | categoryMismatch .. => "CATALOG_CATEGORY_MISMATCH"
  | loopNotAllowed .. => "CATALOG_LOOP_NOT_ALLOWED"
  | actionUnsupported .. => "CATALOG_ACTION_UNSUPPORTED"
  | blockUnknown .. => "CATALOG_BLOCK_NOT_FOUND"
  | levelUnknown .. => "API_LEVEL_NOT_FOUND"
  | weatherUnknown .. => "API_WEATHER_INVALID"
  | monsterUnknown .. => "API_MONSTER_INVALID"
  | monstersInvalid .. => "LEVEL_MONSTERS_INVALID"
  | programLocked => "LEVEL_PROGRAM_LOCKED"
  | runInProgress => "LEVEL_RUN_IN_PROGRESS"
  | noActiveRun => "LEVEL_NO_ACTIVE_RUN"
  | programMissing .. => "CLI_PROGRAM_NOT_FOUND"
  | programUnreadable .. => "CLI_PROGRAM_READ"
  | programMalformed .. => "CLI_PROGRAM_INVALID"
  | programSchema .. => "CLI_PROGRAM_SCHEMA"
  | programOfOtherLevel .. => "CLI_PROGRAM_LEVEL_MISMATCH"
  | programUnwritable .. => "CLI_PROGRAM_WRITE"
  | reportUnwritable .. => "CLI_REPORT_WRITE"
  | usage .. => "TUI_COMMAND_USAGE"
  | noBlockAt .. => "TUI_BLOCK_INDEX"
  | commandUnknown .. => "TUI_COMMAND_UNKNOWN"

/-- A text between quotes, as it is. -/
def quoted (s : String) : String := "\"" ++ s ++ "\""

/-- What a fault says. -/
def message : Fault → String
  | blockRepeated id => s!"Block {quoted id} is registered twice."
  | categoryMismatch id stated actual =>
    s!"Block {quoted id} is declared as {stated.name} but its operation is {actual.name}."
  | loopNotAllowed id level =>
    s!"Block {quoted id} is a loop block, but level {quoted level.name} has no loops."
  | actionUnsupported id level =>
    s!"Level {quoted level.name} cannot perform the action of block {quoted id}."
  | blockUnknown id level =>
    s!"Block {quoted id} is not available in level {quoted level.name}."
  | levelUnknown name =>
    s!"Unknown level {quoted name}. Expected one of: {Named.listed Level.all}."
  | weatherUnknown name =>
    s!"Unknown weather {quoted name}. Expected sunny, rainy or stormy."
  | monsterUnknown name =>
    s!"Unknown monster {quoted name}. Expected goblin, troll or dragon."
  | monstersInvalid kinds =>
    s!"Expected exactly {Thing.Kind.monsters.length} monsters (goblin, troll or dragon), got [{Named.listed kinds}]."
  | programLocked => "The program cannot change while it is running."
  | runInProgress =>
    "A run is already in progress. Wait for it to finish or stop it first."
  | noActiveRun => "There is no run to advance. Start a run first."
  | programMissing path => s!"Program file does not exist: {path}"
  | programUnreadable error => error.message
  | programMalformed trouble => trouble
  | programSchema found => s!"Unsupported program file schema: {found}"
  | programOfOtherLevel found wanted =>
    s!"Program file is for level {quoted found}, not {quoted wanted}."
  | programUnwritable error => error.message
  | reportUnwritable error => error.message
  | usage form => s!"usage: {form}"
  | noBlockAt place length =>
    s!"There is no block {place} in a program of {length} blocks."
  | commandUnknown word => s!"Unknown command {word}. Type :help for the list."

/-- Code and message in one line. -/
def shown (f : Fault) : String := f.code ++ ": " ++ f.message

end Fault

end Spellbook

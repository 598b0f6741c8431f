import Spellbook.CommandLine.Command
import Spellbook.Play.Console
import Spellbook.Written.Report
set_option autoImplicit false

/-!
# What a command prints and writes

The output of `levels`, `catalog` and `run` is for programs: a first line says
whether the command could be carried out, and every line names what it tells.
-/

namespace Spellbook.CommandLine

/-- What is left when a command is done. -/
structure Answer where
  exitCode : Nat
  output : String
  files : FileSystem
  deriving Inhabited

namespace Answer

/-- The lines for a request that could not be met. -/
def faultLines (f : Fault) : List String :=
  ["RESULT:ERROR", s!"ERROR_CODE:{f.code}", s!"ERROR_MSG_JSON:{Json.quoted f.message}"]

/-- The answer to a request that could not be met. -/
def ofFault (f : Fault) (files : FileSystem) : Answer :=
  ⟨1, Play.Console.printLines (faultLines f), files⟩

/-- An answer of these lines after the one that says all is well. -/
def ofLines (exitCode : Nat) (lines : List String) (files : FileSystem) : Answer :=
  ⟨exitCode, Play.Console.printLines ("RESULT:OK" :: lines), files⟩

/-! ## Levels and catalogs -/

/-- The line of a level. -/
def levelLine (l : Level) : String := s!"LEVEL:{l.name}|{Json.quoted l.rules.title}"

/-- The line of a block. -/
def blockLine (b : Block) : String :=
  s!"BLOCK:{b.id}|{b.category.name}|{Json.quoted b.label}|{Json.quoted b.code}"

/-- The levels. -/
def ofLevels (files : FileSystem) : Answer := ofLines 0 (Level.all.map levelLine) files

/-- The blocks of a level. -/
def ofCatalog (level : String) (files : FileSystem) : Answer :=
  match (WorldOptions.request ⟨none, none, none⟩ level none none).workbench with
  | .error fault => ofFault fault files
  | .ok w => ofLines 0 (w.catalog.blocks.map blockLine) files

/-! ## Runs -/

/-- The blocks to run: those given, those of the program file, or none. -/
def runBlocks (o : RunOptions) (files : FileSystem) : Except Fault (List String) :=
  match o.blocks?, o.programFile? with
  | some blocks, _ => .ok blocks
  | none, some path =>
    match SavedProgram.loadFor o.level path files with
    | .ok p => .ok p.blocks
    | .error fault => .error fault
  | none, none => .ok []

/-- The workbench of a run, with its blocks loaded. -/
def runWorkbench (o : RunOptions) (files : FileSystem) : Except Fault Workbench := do
  let blocks ← runBlocks o files
  (o.world.request o.level (some blocks) (if o.paced then none else some 0)).workbench

/-- Makes the report file, if one is asked for. -/
def openReport (o : RunOptions) (files : FileSystem) : Except Fault Unit × FileSystem :=
  match o.reportOut? with
  | none => (.ok (), files)
  | some path =>
    match files.create path with
    | (.ok (), files) => (.ok (), files)
    | (.error e, files) => (.error (.reportUnwritable e), files)

/-- Fills the report file, if one is asked for. -/
def fillReport (o : RunOptions) (r : Report) (files : FileSystem) : FileSystem :=
  match o.reportOut? with
  | none => files
  | some path => files.fill path r.toJson.pretty

/-- The lines of a run that was carried out. -/
def runLines (o : RunOptions) (r : Report) : List String :=
  r.events.map Event.line ++ r.outcomeLines ++ ["REPORT_OUT:" ++ o.reportOut?.getD "NONE"]

/-- Runs a program once. -/
def ofRun (o : RunOptions) (files : FileSystem) : Answer :=
  match runWorkbench o files with
  | .error fault => ofFault fault files
  | .ok w =>
    match openReport o files with
    | (.error fault, files) => ofFault fault files
    | (.ok (), files) =>
      -- The first line is printed by now, whatever becomes of the run.
      match w.play .never with
      | (.error fault, _) => ofLines 1 (faultLines fault) files
      | (.ok p, w) =>
        let r := w.reportOf p
        ofLines r.outcome.exitCode (runLines o r) (fillReport o r files)

/-! ## Games -/

/-- The workbench of a game. -/
def playWorkbench (o : PlayOptions) : Except Fault Workbench :=
  (o.world.request o.level none none).workbench

/-- The program file of a game. -/
def playPath (o : PlayOptions) : String := o.programFile?.getD SavedProgram.defaultPath

/-- Plays in the line mode over an input. -/
def ofPlay (o : PlayOptions) (input : String) (files : FileSystem) : Answer :=
  match playWorkbench o with
  | .error fault => ofFault fault files
  | .ok w =>
    let (output, c) := Play.Console.session (playPath o) ⟨w, files⟩ input
    ⟨0, output, c.files⟩

/-! ## Any command -/

/-- Carries out a command over an input. -/
def ofCommand (c : Command) (input : String) (files : FileSystem) : Answer :=
  match c with
  | .levels => ofLevels files
  | .catalog level => ofCatalog level files
  | .run o => ofRun o files
  | .play o => ofPlay o input files

/-- Carries out the command that arguments stand for. -/
def ofArgs (args : List String) (input : String) (files : FileSystem) : Answer :=
  match Command.ofArgs args with
  | .ok c => ofCommand c input files
  | .error .help => ⟨0, "", files⟩
  | .error .invalid => ⟨2, "", files⟩

end Answer

end Spellbook.CommandLine

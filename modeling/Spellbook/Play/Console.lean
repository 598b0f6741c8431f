import Spellbook.Display
import Spellbook.Play.Saving
import Spellbook.Text.Blank
import Spellbook.Text.Numeral
set_option autoImplicit false

/-!
# The line mode

The learner types one command a line.  A line whose first word is no command adds
the blocks it names.  Every command answers with lines or with one line that says
what is wrong.
-/

namespace Spellbook.Play

/-- What the line mode works on. -/
structure Console where
  workbench : Workbench
  files : FileSystem
  deriving Inhabited

/-- A command line. -/
inductive Command where
  | blank
  | help
  | catalog
  | list
  | add (ids : List String)
  /-- Blocks without a command before them. -/
  | blocks (ids : List String)
  | remove (args : List String)
  | clear
  | run
  | reset
  | seed (args : List String)
  | save
  | load
  | quit
  | unknown (word : String)
  deriving DecidableEq, Inhabited

namespace Command

/-- The command that the words of a line stand for. -/
def ofWords : List String → Command
  | [] => blank
  | word :: args =>
    match word with
    | ":help" => help
    | ":catalog" => catalog
    | ":list" => list
    | ":add" => add args
    | ":remove" => remove args
    | ":clear" => clear
    | ":run" => run
    | ":reset" => reset
    | ":seed" => seed args
    | ":save" => save
    | ":load" => load
    | ":quit" => quit
    | _ => if word.startsWith ":" then unknown word else blocks (word :: args)

/-- The command on a line. -/
def ofLine (line : String) : Command := ofWords (Text.words line)

end Command

/-- What a command answers. -/
structure Reply where
  console : Console
  lines : Except Fault (List String)

/-! ## What is shown -/

/-- The list of commands. -/
def helpLine : String :=
  "commands: :help :catalog :list :add <block>... :remove <n> :clear :run :reset :seed <n> :save :load :quit"

/-- The lines at the start. -/
def greeting (w : Workbench) : List String :=
  [s!"SpellBlocks: {w.rules.title} ({w.level.name})", helpLine]

/-- The line of a block in the catalog. -/
def catalogLine (b : Block) : String :=
  s!"  {Text.padRight 28 b.id} {b.category.name} {b.label}"

/-- The line of the block in a place of the program. -/
def programLine (place : Nat) (b : Block) : String :=
  s!"  {Text.padLeft 2 (toString place)}. {Text.padRight 28 b.label} {b.code}"

/-- The program, one line a block. -/
def programLines (p : Program) : List String :=
  if p.isEmpty then ["program: (empty)"]
  else "program:" :: p.placed.zipIdx.map (fun q => programLine (q.2 + 1) q.1.block)

/-- The line of the track. -/
def trackLine (w : World) : String := s!"track: {w.track}"

namespace Console

/-! ## Commands -/

/-- Answers without a change. -/
def answer (c : Console) (lines : List String) : Reply := ⟨c, .ok lines⟩

/-- Says what is wrong, without a change. -/
def refuse (c : Console) (fault : Fault) : Reply := ⟨c, .error fault⟩

/-- Shows the program. -/
def showProgram (c : Console) : Reply := c.answer (programLines c.workbench.program)

/-- Adds blocks one by one up to the first that is unknown. -/
def appendAll (c : Console) : List String → Reply
  | [] => c.showProgram
  | id :: rest =>
    match c.workbench.append id with
    | (.error fault, w) => ({ c with workbench := w } : Console).refuse fault
    | (.ok _, w) => ({ c with workbench := w } : Console).appendAll rest

/-- The place that the words after a command name, counted from 1. -/
def place? (args : List String) : Option Nat :=
  (args.head?.bind (Text.naturalBelow? 0x10000000000000000)).filter (1 ≤ ·)

/-- Drops the block in a place of the program. -/
def remove (c : Console) (args : List String) : Reply :=
  match place? args with
  | none => c.refuse (.usage ":remove <n>")
  | some place =>
    match c.workbench.program.placed[place - 1]? with
    | none => c.refuse (.noBlockAt place c.workbench.program.length)
    | some placed =>
      match c.workbench.remove placed.number with
      | (.error fault, w) => ({ c with workbench := w } : Console).refuse fault
      | (.ok _, w) => ({ c with workbench := w } : Console).showProgram

/-- Drops every block. -/
def clear (c : Console) : Reply :=
  match c.workbench.clear with
  | (.error fault, w) => ({ c with workbench := w } : Console).refuse fault
  | (.ok (), w) => ({ c with workbench := w } : Console).answer ["program cleared"]

/-- Runs the program. -/
def run (c : Console) : Reply :=
  match c.workbench.play .never with
  | (.error fault, w) => ({ c with workbench := w } : Console).refuse fault
  | (.ok p, w) =>
    ({ c with workbench := w } : Console).answer
      (p.events.map Event.description ++ [trackLine p.scene.world, p.run.outcome.description])

/-- Restores the opening scene. -/
def reset (c : Console) : Reply :=
  let w := c.workbench.reset
  ({ c with workbench := w } : Console).answer [trackLine w.scene.world]

/-- Draws the level anew. -/
def reseed (c : Console) (args : List String) : Reply :=
  match args.head?.bind Text.seed? with
  | none => c.refuse (.usage ":seed <n>")
  | some seed =>
    match c.workbench.reseed seed with
    | (.error fault, w) => ({ c with workbench := w } : Console).refuse fault
    | (.ok (), w) =>
      ({ c with workbench := w } : Console).answer
        [s!"seed: {seed.toNat}", trackLine w.scene.world]

/-- Saves the program. -/
def save (path : String) (c : Console) : Reply :=
  match c.workbench.save path c.files with
  | (.ok (), files) => ({ c with files := files } : Console).answer [s!"saved: {path}"]
  | (.error fault, files) => ({ c with files := files } : Console).refuse fault

/-- Loads the program. -/
def load (path : String) (c : Console) : Reply :=
  match c.workbench.loadFile path c.files with
  | (.error fault, w) => ({ c with workbench := w } : Console).refuse fault
  | (.ok _, w) =>
    ({ c with workbench := w } : Console).answer
      (s!"loaded: {path}" :: programLines w.program)

/-- Carries out a command. -/
def perform (path : String) (c : Console) : Command → Reply
  | .blank => c.answer []
  | .help => c.answer [helpLine]
  | .catalog => c.answer (c.workbench.catalog.blocks.map catalogLine)
  | .list => c.showProgram
  | .add [] => c.refuse (.usage ":add <block> [<block>...]")
  | .add ids => c.appendAll ids
  | .blocks ids => c.appendAll ids
  | .remove args => c.remove args
  | .clear => c.clear
  | .run => c.run
  | .reset => c.reset
  | .seed args => c.reseed args
  | .save => c.save path
  | .load => c.load path
  | .quit => c.answer ["bye"]
  | .unknown word => c.refuse (.commandUnknown word)

/-! ## A session -/

/-- The lines that are printed for a reply. -/
def printed (r : Reply) : List String :=
  match r.lines with
  | .ok lines => lines
  | .error fault => [s!"error: {fault.shown}"]

/-- What is printed before each line is read. -/
def promptText : String := "> "

/-- Text with an end of line after each line. -/
def printLines (lines : List String) : String := String.join (lines.map (· ++ "\n"))

/-- What is printed from the first prompt on, and the console at the end. -/
def converse (path : String) (c : Console) : List String → String × Console
  | [] => (promptText, c)
  | line :: rest =>
    let command := Command.ofLine line
    let reply := c.perform path command
    let shown := promptText ++ printLines (printed reply)
    if command = .quit then (shown, reply.console)
    else
      let later := reply.console.converse path rest
      (shown ++ later.1, later.2)

/-- The lines of an input; there is none after the last line end. -/
def inputLines (input : String) : List String :=
  let lines := Text.lines input
  if lines.getLast? = some "" then lines.dropLast else lines

/-- All that is printed for an input, and the console at the end. -/
def session (path : String) (c : Console) (input : String) : String × Console :=
  let talk := c.converse path (inputLines input)
  (printLines (greeting c.workbench) ++ talk.1, talk.2)

end Console

end Spellbook.Play

import Spellbook.Display
import Spellbook.Play.Saving
set_option autoImplicit false

/-!
# The full-screen mode

The learner moves through the catalog and the program with keys.  A run goes on
by itself, one step whenever the step delay has passed.
-/

namespace Spellbook.Play

/-- Which of the two lists the arrow keys move in. -/
inductive Focus where
  | catalog
  | program
  deriving DecidableEq, Inhabited

/-- A key press. -/
inductive Key where
  | tab
  | up
  | down
  | enter
  | backspace
  | delete
  | escape
  /-- The interrupt key. -/
  | interrupt
  | char (c : Char)
  /-- Any other key. -/
  | other
  deriving DecidableEq, Inhabited

/-- What the full-screen mode works on and shows. -/
structure Screen where
  workbench : Workbench
  files : FileSystem
  /-- The file that the program is saved in. -/
  path : String
  focus : Focus
  catalogIndex : Nat
  programIndex : Nat
  log : List (Severity × String)
  /-- Whether a run goes on by itself. -/
  running : Bool
  /-- The number of the block that is shown as running. -/
  active : Option Nat
  /-- The outcome that is shown, and whether it is a success. -/
  banner : Option (Bool × String)
  helpShown : Bool
  status : String
  deriving Inhabited

namespace Screen

/-- The screen at the start. -/
def start (w : Workbench) (files : FileSystem) (path : String) : Screen where
  workbench := w
  files := files
  path := path
  focus := .catalog
  catalogIndex := 0
  programIndex := 0
  log := []
  running := false
  active := none
  banner := none
  helpShown := false
  status := "ready"

/-- Shows a status. -/
def say (s : Screen) (status : String) : Screen := { s with status := status }

/-- Shows what is wrong. -/
def refuse (s : Screen) (fault : Fault) : Screen := s.say fault.message

/-- Keeps the selections inside their lists. -/
def clamp (s : Screen) : Screen :=
  { s with
    catalogIndex := min s.catalogIndex (s.workbench.catalog.blocks.length - 1)
    programIndex := min s.programIndex (s.workbench.program.length - 1) }

/-! ## Runs -/

/-- Begins a run. -/
def beginRun (s : Screen) : Screen :=
  match s.workbench.start with
  | (.error fault, w) => ({ s with workbench := w } : Screen).refuse fault
  | (.ok _, w) =>
    { s with workbench := w, log := [], banner := none, running := true, status := "running" }

/-- Goes one step on in a run whose next step is due. -/
def tick (s : Screen) : Screen :=
  if !s.running then s
  else
    let s := { s with active := s.workbench.upcoming.map Notice.number }
    match s.workbench.advance with
    | (.error fault, w) => ({ s with workbench := w } : Screen).refuse fault
    | (.ok (.step e), w) =>
      { s with workbench := w, log := s.log ++ [(e.severity, e.description)] }
    | (.ok (.finished o), w) =>
      { s with
        workbench := w
        running := false
        active := none
        banner := some (o.isSuccess, o.description)
        status := "finished" }

/-- Stops the run. -/
def stop (s : Screen) : Screen :=
  let (outcome, w) := s.workbench.abandon
  { s with
    workbench := w
    banner := match outcome with
      | some o => some (false, o.description)
      | none => s.banner
    running := false
    active := none
    status := "stopped" }

/-- Restores the opening scene. -/
def reset (s : Screen) : Screen :=
  { s with
    workbench := s.workbench.reset
    running := false
    banner := none
    log := []
    status := "world reset" }

/-! ## Lists -/

/-- Moves to the other list. -/
def switch (s : Screen) : Screen :=
  { s with
    focus := match s.focus with
      | .catalog => .program
      | .program => .catalog }

/-- Moves the selection one row up. -/
def moveUp (s : Screen) : Screen :=
  match s.focus with
  | .catalog => { s with catalogIndex := s.catalogIndex - 1 }
  | .program => { s with programIndex := s.programIndex - 1 }

/-- Moves the selection one row down. -/
def moveDown (s : Screen) : Screen :=
  match s.focus with
  | .catalog => ({ s with catalogIndex := s.catalogIndex + 1 } : Screen).clamp
  | .program => ({ s with programIndex := s.programIndex + 1 } : Screen).clamp

/-- Adds the selected block of the catalog. -/
def addSelected (s : Screen) : Screen :=
  match s.focus with
  | .program => s
  | .catalog =>
    match s.workbench.catalog.blocks[s.catalogIndex]? with
    | none => s
    | some b =>
      match s.workbench.append b.id with
      | (.error fault, w) => ({ s with workbench := w } : Screen).refuse fault
      | (.ok _, w) =>
        ({ s with workbench := w, programIndex := w.program.length - 1 } : Screen).say
          s!"added {b.id}"

/-- Drops the selected block of the program. -/
def removeSelected (s : Screen) : Screen :=
  match s.workbench.program.placed[s.programIndex]? with
  | none => s.say "program is empty"
  | some placed =>
    match s.workbench.remove placed.number with
    | (.error fault, w) => ({ s with workbench := w } : Screen).refuse fault
    | (.ok _, w) => ({ s with workbench := w } : Screen).clamp.say "removed block"

/-- Drops every block. -/
def clear (s : Screen) : Screen :=
  match s.workbench.clear with
  | (.error fault, w) => ({ s with workbench := w } : Screen).refuse fault
  | (.ok (), w) => ({ s with workbench := w } : Screen).clamp.say "program cleared"

/-! ## Files -/

/-- Saves the program. -/
def save (s : Screen) : Screen :=
  match s.workbench.save s.path s.files with
  | (.ok (), files) => ({ s with files := files } : Screen).say s!"saved to {s.path}"
  | (.error fault, files) => ({ s with files := files } : Screen).refuse fault

/-- Loads the program. -/
def load (s : Screen) : Screen :=
  match s.workbench.loadFile s.path s.files with
  | (.error fault, w) => ({ s with workbench := w } : Screen).refuse fault
  | (.ok _, w) => ({ s with workbench := w } : Screen).clamp.say s!"loaded from {s.path}"

/-! ## Keys -/

/-- Whether a key ends the mode. -/
def quits (k : Key) : Bool := k = .escape || k = .interrupt || k = .char 'q'

/-- What a key does that does not end the mode. -/
def press (s : Screen) : Key → Screen
  | .char 'h' => { s with helpShown := !s.helpShown }
  | .tab => s.switch
  | .up => s.moveUp
  | .down => s.moveDown
  | .enter => s.addSelected
  | .backspace | .delete | .char 'd' => s.removeSelected
  | .char 'c' => s.clear
  | .char 'r' => s.beginRun
  | .char 'x' => s.stop
  | .char 'z' => s.reset
  | .char 's' => s.save
  | .char 'l' => s.load
  | _ => s

/-- The screen when the mode has ended: a run that was going on is stopped. -/
def leave (s : Screen) : Screen := { s with workbench := s.workbench.abandon.2 }

end Screen

end Spellbook.Play

import Spellbook.SavedProgram
import Spellbook.Workbench
set_option autoImplicit false

/-!
# Saving and loading the program of a workbench
-/

namespace Spellbook.Workbench

/-- The program of a workbench as it is saved. -/
def saved (w : Workbench) : SavedProgram :=
  .ofBlocks w.level.name w.program.blockIds

/-- Saves the program in a file. -/
def save (w : Workbench) (path : String) (files : FileSystem) : Except Fault Unit × FileSystem :=
  w.saved.save path files

/-- Loads the program from a file. -/
def loadFile (w : Workbench) (path : String) (files : FileSystem) :
    Except Fault (List Nat) × Workbench :=
  match SavedProgram.loadFor w.level.name path files with
  | .error fault => (.error fault, w)
  | .ok p => w.load p.blocks

end Spellbook.Workbench

import Spellbook.Fault
import Spellbook.Files.FileSystem
import Spellbook.Json.Reader
import Spellbook.Json.Record
import Spellbook.Json.Shape
import Spellbook.Json.Writer
set_option autoImplicit false

/-!
# Saved programs

A program is saved as the ids of its blocks together with the level it is for.
It is loaded only for that level.
-/

namespace Spellbook

/-- The blocks of a program as they are saved. -/
structure SavedProgram where
  schema : String
  level : String
  blocks : List String
  deriving DecidableEq, Inhabited

namespace SavedProgram

/-- The form of file that is written and read. -/
def currentSchema : String := "program.v1"

/-- The file that a program is saved in unless another one is named. -/
def defaultPath : String := ".spellblocks/program.json"

/-- The blocks of a program for a level. -/
def ofBlocks (level : String) (blocks : List String) : SavedProgram :=
  ⟨currentSchema, level, blocks⟩

/-- A saved program as JSON. -/
def toJson (p : SavedProgram) : Json :=
  .object [("schemaVersion", .text p.schema), ("level", .text p.level),
    ("blocks", .texts p.blocks)]

/-- Reads a saved program. -/
def ofJson? (j : Json) : Option SavedProgram := do
  match ← j.slots ["schemaVersion", "level", "blocks"] 3 with
  | [schema, level, blocks] =>
    return {
      schema := ← Json.required Json.text? schema
      level := ← Json.required Json.text? level
      blocks := ← Json.required Json.texts? blocks }
  | _ => none

/-- The fields of a saved program. -/
def shape : Json.RecordShape :=
  ⟨"ProgramFile", [("schemaVersion", .text), ("level", .text), ("blocks", .texts)]⟩

/-- What is wrong with a text that holds no saved program. -/
def troubleOf (written : String) : String :=
  match shape.trouble? written.toList with
  | some t => t.message written.toList
  | none => ""

/-- Saves a program in a file. -/
def save (p : SavedProgram) (path : String) (files : FileSystem) : Except Fault Unit × FileSystem :=
  match files.writeText path p.toJson.pretty with
  | (.ok (), files) => (.ok (), files)
  | (.error e, files) => (.error (.programUnwritable e), files)

/-- Loads a program from a file. -/
def load (path : String) (files : FileSystem) : Except Fault SavedProgram :=
  if !files.has path then .error (.programMissing path)
  else match files.readText path with
    | .error e => .error (.programUnreadable e)
    | .ok written =>
      match (Json.ofText? written).bind ofJson? with
      | none => .error (.programMalformed (troubleOf written))
      | some p => if p.schema = currentSchema then .ok p else .error (.programSchema p.schema)

/-- Loads a program from a file and checks that it is for a level. -/
def loadFor (level path : String) (files : FileSystem) : Except Fault SavedProgram :=
  match load path files with
  | .error fault => .error fault
  | .ok p => if p.level = level then .ok p else .error (.programOfOtherLevel p.level level)

end SavedProgram

end Spellbook

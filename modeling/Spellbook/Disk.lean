import Spellbook.Files.FileSystem
set_option autoImplicit false

/-!
# Files on the disk

What stands on the disk along a path is looked at and put into a `FileSystem`, so
that everything that is decided about files is decided there.  What has changed
in it is then written to the disk.
-/

namespace Spellbook.Disk

/-- The parts of the disk that were looked at. -/
structure View where
  /-- What was there. -/
  files : FileSystem
  /-- The places that may change, each with its path, a folder before what it
  holds. -/
  places : List (List String × String)
  deriving Inhabited

/-- The names that lead to the working folder. -/
def workingNames : IO (List String) := return (Route.ofText (← IO.currentDir).toString).names

/-- What stands at a path: a file with its bytes, a folder, or nothing. -/
def look (path : String) : IO (Option FileTree) := do
  match ← (IO.FS.readBinFile path).toBaseIO with
  | .ok bytes => return some (.file (.bytes bytes.toList))
  | .error (.inappropriateType _ 21 _) => return some .empty
  | .error _ => return none

/-- Where a name in a path leads from a place. -/
def step (here : List String) (name : String) : List String :=
  if name = "." then here else if name = ".." then here.dropLast else here ++ [name]

/-- Looks along the names of a path that follow those walked so far. -/
def lookAlong (walked : String) (here : List String) (v : View) : List String → IO View
  | [] => return v
  | name :: rest => do
    let path := walked ++ name
    let here := step here name
    let v := { v with places := v.places ++ [(here, path)] }
    let v ← match v.files.root.find? here, ← look path with
      | none, some found => pure { v with files := v.files.put found here }
      | _, _ => pure v
    lookAlong (path ++ "/") here v rest

/-- Looks along several paths. -/
def lookAtAll (paths : List String) : IO View := do
  let working ← workingNames
  paths.foldlM (fun v text =>
    let p := Route.ofText text
    lookAlong (if p.rooted then "/" else "") (if p.rooted then [] else working) v p.names)
    ⟨.ofFolder working .empty, []⟩

/-- The bytes of a content. -/
def bytesOf : Content → ByteArray
  | .text s => s.toUTF8
  | .bytes bs => ⟨bs.toArray⟩

/-- Whether a file holds this content. -/
def holds (s : FileSystem) (place : List String) (c : Content) : Bool :=
  match s.root.find? place with
  | some (.file held) => held = c
  | _ => false

/-- Writes what has changed since the disk was looked at. -/
def write (v : View) (after : FileSystem) : IO Unit :=
  v.places.forM fun (place, path) => do
    match after.root.find? place with
    | none => pure ()
    | some (.folder _) => if (v.files.root.find? place).isNone then IO.FS.createDir path
    | some (.file c) =>
      if !holds v.files place c then IO.FS.writeBinFile path (bytesOf c)

end Spellbook.Disk

import Spellbook.Files.Route
import Spellbook.Files.Tree
set_option autoImplicit false

/-!
# Files by their paths

A path is followed from the root or from the working folder.  A path with a zero
character is refused before it is used, and so is one that is too long.
-/

namespace Spellbook

/-- All folders and files, and the working folder. -/
structure FileSystem where
  root : FileTree
  /-- The names that lead from the root to the working folder. -/
  working : List String
  deriving Inhabited

namespace FileSystem

open FileTree (file folder)

/-- A file system that holds nothing but a working folder. -/
def ofFolder (working : List String) (t : FileTree) : FileSystem :=
  ⟨FileTree.put t working .empty, working⟩

/-- What is in the working folder. -/
def workingFolder (s : FileSystem) : FileTree := (s.root.find? s.working).getD .empty

/-- Puts a tree in a place, making the folders on the way. -/
def put (s : FileSystem) (new : FileTree) (here : List String) : FileSystem :=
  { s with root := FileTree.put new here s.root }

/-- The place that a path leads to, where nothing need stand. -/
def place (s : FileSystem) (p : Route) : Except FileError (List String) :=
  if p.hasNul then .error .nulInPath
  else if Route.sizeLimit ≤ p.size then .error .nameTooLong
  else if p.isEmpty then .error .notFound
  else s.root.follow (if p.rooted then [] else s.working) p.names

/-- What a path leads to. -/
def locate (s : FileSystem) (path : String) : Except FileError FileTree :=
  let p := Route.ofText path
  match s.place p with
  | .error e => .error e
  | .ok here =>
    match s.root.find? here with
    | none => .error .notFound
    | some (file c) => if p.trailing then .error .notAFolder else .ok (file c)
    | some (folder es) => .ok (folder es)

/-- Whether a path leads anywhere. -/
def has (s : FileSystem) (path : String) : Bool :=
  match s.locate path with
  | .ok _ => true
  | .error _ => false

/-- The text in a file. -/
def readText (s : FileSystem) (path : String) : Except FileError String :=
  match s.locate path with
  | .error e => .error e
  | .ok (folder _) => .error .isAFolder
  | .ok (file c) =>
    match c.text? with
    | some text => .ok text
    | none => .error .notText

/-! ## Making folders and files -/

/-- Makes one folder. -/
def makeFolder (s : FileSystem) (p : Route) : Except FileError FileSystem :=
  match s.place p with
  | .error e => .error e
  | .ok here =>
    match s.root.find? here with
    | some _ => .error .alreadyExists
    | none =>
      match s.root.find? here.dropLast with
      | some (folder _) => .ok (s.put .empty here)
      | some (file _) => .error .notAFolder
      | none => .error .notFound

/-- Whether a path leads to a folder. -/
def hasFolder (s : FileSystem) (p : Route) : Bool :=
  match s.place p with
  | .error _ => false
  | .ok here => (s.root.find? here).any FileTree.isFolder

/-- Makes a folder unless it is there already. -/
def ensureFolder (s : FileSystem) (p : Route) : Except FileError FileSystem :=
  match s.makeFolder p with
  | .ok made => .ok made
  | .error e => if s.hasFolder p then .ok s else .error e

/-- Makes a folder, and the folders above it if it cannot be made without them.
What was made stays also where a later folder cannot be made.  The empty path
means the working folder, which is there. -/
def ensureFolders (s : FileSystem) (p : Route) : Except FileError Unit × FileSystem :=
  if p.isEmpty then (.ok (), s)
  else match s.ensureFolder p with
    | .ok s => (.ok (), s)
    | .error .notFound =>
      match _h : p.parent? with
      | none => (.error .notFound, s)
      | some above =>
        match s.ensureFolders above with
        | (.error e, s) => (.error e, s)
        | (.ok (), s) =>
          match s.ensureFolder p with
          | .ok s => (.ok (), s)
          | .error e => (.error e, s)
    | .error e => (.error e, s)
termination_by p.pieces.length
decreasing_by exact Route.length_of_parent? _h

/-- Makes an empty file, or empties the one that is there. -/
def createFile (s : FileSystem) (p : Route) : Except FileError FileSystem :=
  match s.place p with
  | .error e => .error e
  | .ok here =>
    let made : Except FileError FileSystem :=
      if p.trailing then .error .isAFolder else .ok (s.put (file (.text "")) here)
    match s.root.find? here, s.root.find? here.dropLast with
    | some (folder _), _ => .error .isAFolder
    | some (file _), _ => made
    | none, some (folder _) => made
    | none, some (file _) => .error .notAFolder
    | none, none => .error .notFound

/-- Makes an empty file with the folders above it. -/
def create (s : FileSystem) (path : String) : Except FileError Unit × FileSystem :=
  let p := Route.ofText path
  match s.ensureFolders (p.parent?.getD default) with
  | (.error e, s) => (.error e, s)
  | (.ok (), s) =>
    match s.createFile p with
    | .ok s => (.ok (), s)
    | .error e => (.error e, s)

/-- Puts a text into a file that is there. -/
def fill (s : FileSystem) (path text : String) : FileSystem :=
  match s.place (Route.ofText path) with
  | .ok here => s.put (file (.text text)) here
  | .error _ => s

/-- Makes a file with the folders above it and puts a text into it. -/
def writeText (s : FileSystem) (path text : String) : Except FileError Unit × FileSystem :=
  match s.create path with
  | (.error e, s) => (.error e, s)
  | (.ok (), s) => (.ok (), s.fill path text)

end FileSystem

end Spellbook

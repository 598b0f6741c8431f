set_option autoImplicit false

/-!
# A tree of files

A folder holds files and folders under names; a file holds a text, or bytes that
need not be one.  Names are texts: a name whose bytes are not UTF-8, which the
operating system allows, is outside this model.  What can fail says why, with the
wording of the operating system.
-/

namespace Spellbook

/-- Why an operation on files failed. -/
inductive FileError where
  | notFound
  | alreadyExists
  | notAFolder
  | isAFolder
  | nameTooLong
  | nulInPath
  | notText
  deriving DecidableEq, Inhabited

namespace FileError

/-- The system's words for an error. -/
def message : FileError → String
  | notFound => "No such file or directory (os error 2)"
  | alreadyExists => "File exists (os error 17)"
  | notAFolder => "Not a directory (os error 20)"
  | isAFolder => "Is a directory (os error 21)"
  | nameTooLong => "File name too long (os error 36)"
  | nulInPath => "file name contained an unexpected NUL byte"
  | notText => "stream did not contain valid UTF-8"

end FileError

/-- What a file holds. -/
inductive Content where
  | text (s : String)
  | bytes (bs : List UInt8)
  deriving DecidableEq, Inhabited

namespace Content

/-- The text in a file, if it is one. -/
def text? : Content → Option String
  | text s => some s
  | bytes bs => String.fromUTF8? ⟨bs.toArray⟩

end Content

/-- A file, or a folder with what is in it under names that are texts. -/
inductive FileTree where
  | file (content : Content)
  | folder (entries : List (String × FileTree))
  deriving Inhabited

namespace FileTree

/-- A folder with nothing in it. -/
def empty : FileTree := folder []

/-- Whether this is a folder. -/
def isFolder : FileTree → Bool
  | folder _ => true
  | file _ => false

/-! ## Names below a folder -/

/-- What stands below these names. -/
def find? : FileTree → List String → Option FileTree
  | t, [] => some t
  | file _, _ :: _ => none
  | folder entries, name :: rest => (entries.lookup name).bind (fun t => t.find? rest)

/-- Puts an entry in the place of the entry of that name, or last. -/
def setEntry (name : String) (t : FileTree) :
    List (String × FileTree) → List (String × FileTree)
  | [] => [(name, t)]
  | e :: rest => if e.1 = name then (name, t) :: rest else e :: setEntry name t rest

/-- Puts a tree below these names, making the folders on the way. -/
def put (new : FileTree) : List String → FileTree → FileTree
  | [], _ => new
  | _ :: _, file c => file c
  | name :: rest, folder entries =>
    folder (setEntry name (put new rest ((entries.lookup name).getD empty)) entries)

/-! ## Paths -/

/-- Follows the names of a path from the folder reached so far.  Every name but the
last must lead to a folder. -/
def follow (t : FileTree) : List String → List String → Except FileError (List String)
  | here, [] => .ok here
  | here, name :: rest =>
    match t.find? here with
    | none => .error .notFound
    | some (file _) => .error .notAFolder
    | some (folder _) =>
      if name = "." then t.follow here rest
      else if name = ".." then t.follow here.dropLast rest
      else if name.utf8ByteSize > 255 then .error .nameTooLong
      else t.follow (here ++ [name]) rest

end FileTree

end Spellbook

import Spellbook.Files.FileSystem
set_option autoImplicit false

/-!
# Listing the files below a folder

A scan goes into folders and visits the entries of each in the order of their
names, files and folders together.  A folder whose path has become too long cannot
be gone into.
-/

namespace Spellbook

namespace FileTree

/-- Puts the results for the entries of a folder in the order of the names. -/
def inNameOrder {α : Type} (results : List (String × List α)) : List α :=
  (results.mergeSort (fun a b => a.1 ≤ b.1)).flatMap Prod.snd

mutual

/-- The routes to the files of a tree, in the order of a scan. -/
def routes : FileTree → List (List String)
  | file _ => [[]]
  | folder entries => inNameOrder (routesOfEntries entries)

/-- For each entry of a folder its name and the routes that start with it. -/
def routesOfEntries : List (String × FileTree) → List (String × List (List String))
  | [] => []
  | (name, t) :: rest => (name, (routes t).map (name :: ·)) :: routesOfEntries rest

end

mutual

/-- The routes to the folders of a tree, in the order of a scan. -/
def folderRoutes : FileTree → List (List String)
  | file _ => []
  | folder entries => [] :: inNameOrder (folderRoutesOfEntries entries)

/-- For each entry of a folder its name and the routes to folders that start with
it. -/
def folderRoutesOfEntries : List (String × FileTree) → List (String × List (List String))
  | [] => []
  | (name, t) :: rest =>
    (name, (folderRoutes t).map (name :: ·)) :: folderRoutesOfEntries rest

end

end FileTree

/-! ## Names and paths -/

namespace Route

/-- What follows the last dot of a file name, if anything stands before that dot. -/
def extension? (name : String) : Option String :=
  match (Text.pieces (· == '.') name).reverse with
  | [] | [_] => none
  | last :: before =>
    if name = ".." then none
    else if before.all String.isEmpty && before.length = 1 then none
    else some last

/-- The path of what stands below a folder. -/
def join (path : String) (route : List String) : String :=
  route.foldl (fun p name => if p.endsWith "/" then p ++ name else p ++ "/" ++ name) path

end Route

namespace FileSystem

/-- The first folder below a path whose own path is too long. -/
def tooDeep? (path : String) (found : FileTree) : Option String :=
  (found.folderRoutes.map (Route.join path)).find?
    (fun p => Route.sizeLimit ≤ p.utf8ByteSize)

/-- The paths of the files below a path that have this extension, or the path that
could not be used and why. -/
def filesWithExtension (s : FileSystem) (path ext : String) :
    Except (String × FileError) (List String) :=
  match s.locate path with
  | .error e => .error (path, e)
  | .ok found =>
    match tooDeep? path found with
    | some p => .error (p, .nameTooLong)
    | none =>
      .ok ((found.routes.filter (fun route =>
          (route.getLast?.orElse (fun _ => (Route.ofText path).names.getLast?)).bind
            Route.extension? = some ext)).map
        (Route.join path))

end FileSystem

end Spellbook

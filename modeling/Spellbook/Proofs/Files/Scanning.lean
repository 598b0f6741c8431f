import Spellbook.Case
import Spellbook.Proofs.Files.Placing
import Spellbook.Proofs.Text.ByteOrder
set_option autoImplicit false

/-!
# Scans of folders

A scan goes down into each folder before it comes to the next entry, and takes the entries of one
folder in the order of their names.  So it finds every file below a folder (`mem_routes_iff`), and
finds them in the order of their paths, compared name by name (`pairwise_routes`), which is not the
order of the paths as texts.  The cases below a folder are found so (`Case.filesBelow_exact`).
-/

namespace Spellbook

namespace Route

/-- A name that stands between two slashes and is not passed over there. -/
structure IsName (name : String) : Prop where
  ne_empty : name ≠ ""
  slash_not_mem : '/' ∉ name.toList

instance (name : String) : Decidable (IsName name) :=
  decidable_of_iff (name ≠ "" ∧ '/' ∉ name.toList) ⟨fun h => ⟨h.1, h.2⟩, fun h => ⟨h.1, h.2⟩⟩

/-- One row of names comes before another: where they part, its name has the smaller bytes, or it
ends there. -/
def Before (names names' : List String) : Prop :=
  List.Lex (fun name name' => Text.bytes name < Text.bytes name') names names'

/-- One path comes before another, compared name by name. -/
def Precedes (path path' : String) : Prop := Before (ofText path).names (ofText path').names

variable {name path : String} {front back : List Char}

/-! ## Names of a path -/

theorem names_ofText (path : String) :
    (ofText path).names = (Text.pieces (· == '/') path).filter (· ≠ "") := by
  rw [names, ofText]
  split
  · rename_i hempty
    rw [hempty]
    rfl
  · rfl

/-- A name behind a slash is the last name of a path. -/
theorem names_of_toList_eq (hname : IsName name) (hpath : path.toList = front ++ '/' :: name.toList) :
    (ofText path).names = (ofText (String.ofList front)).names ++ [name] := by
  have hpiece : Text.piecesOf (· == '/') name.toList = [name.toList] :=
    Text.piecesOf_of_not_mem hname.slash_not_mem
  rw [names_ofText, names_ofText, Text.pieces, hpath, Text.piecesOf_append_cons rfl, hpiece,
    List.map_append, List.filter_append, Text.pieces, String.toList_ofList, List.map_singleton,
    String.ofList_toList, List.filter_cons_of_pos (by simpa using hname.ne_empty), List.filter_nil]

/-- A slash at the end of a path names nothing more. -/
theorem names_of_endsWith_slash (hpath : path.toList = front ++ ['/']) :
    (ofText path).names = (ofText (String.ofList front)).names := by
  rw [names_ofText, names_ofText, Text.pieces, hpath, Text.piecesOf_append_cons rfl,
    List.map_append, List.filter_append, Text.pieces, String.toList_ofList]
  exact List.append_nil _

theorem names_join {route : List String} (h : ∀ name ∈ route, IsName name) (path : String) :
    (ofText (join path route)).names = (ofText path).names ++ route := by
  induction route generalizing path with
  | nil => exact (List.append_nil _).symm
  | cons name rest ih =>
    obtain ⟨hname, hrest⟩ := List.forall_mem_cons.1 h
    have hstep : (ofText (if path.endsWith "/" then path ++ name else path ++ "/" ++ name)).names =
        (ofText path).names ++ [name] := by
      split
      · rename_i hslash
        rw [String.endsWith, String.Slice.endsWith_string_iff, String.copy_toSlice] at hslash
        obtain ⟨front, hfront⟩ : ['/'] <:+ path.toList := hslash
        rw [names_of_endsWith_slash hfront.symm]
        refine names_of_toList_eq hname ?_
        rw [String.toList_append, ← hfront, List.append_assoc]
        rfl
      · have hpath : (path ++ "/" ++ name).toList = path.toList ++ '/' :: name.toList := by simp
        rw [names_of_toList_eq hname hpath, String.ofList_toList]
    have hjoin := ih hrest (if path.endsWith "/" then path ++ name else path ++ "/" ++ name)
    rw [hstep, List.append_assoc] at hjoin
    exact hjoin

theorem before_iff_lt {names names' : List String} : Before names names' ↔ names < names' := by
  rw [Before]
  simp only [Text.bytes_lt_iff]
  rfl

theorem Before.ne {names names' : List String} (h : Before names names') : names ≠ names' := by
  rintro rfl
  exact List.lt_irrefl _ (before_iff_lt.1 h)

/-- Paths from one folder compare as what is below it. -/
theorem precedes_join {route route' : List String} (hnames : ∀ name ∈ route, IsName name)
    (hnames' : ∀ name ∈ route', IsName name) (h : Before route route') (path : String) :
    Precedes (join path route) (join path route') := by
  rw [Precedes, names_join hnames, names_join hnames', before_iff_lt]
  exact List.append_left_lt (before_iff_lt.1 h)

/-! ## Extensions -/

theorem pieces_of_not_mem (h : '.' ∉ name.toList) : Text.pieces (· == '.') name = [name] := by
  rw [Text.pieces, Text.piecesOf_of_not_mem h, List.map_singleton, String.ofList_toList]

/-- The last dot begins an extension, if anything stands before it. -/
theorem extension?_of_toList_eq (hname : name.toList = front ++ '.' :: back) (hback : '.' ∉ back)
    (hdots : name ≠ "..") :
    extension? name = if front = [] then none else some (String.ofList back) := by
  have hlast : Text.piecesOf (· == '.') back = [back] := Text.piecesOf_of_not_mem hback
  have hpieces : (Text.pieces (· == '.') name).reverse =
      String.ofList back :: ((Text.piecesOf (· == '.') front).map String.ofList).reverse := by
    rw [Text.pieces, hname, Text.piecesOf_append_cons rfl, hlast, List.map_append,
      List.reverse_append]
    rfl
  have hnothing : (((Text.piecesOf (· == '.') front).map String.ofList).reverse.all
      String.isEmpty && decide (((Text.piecesOf (· == '.') front).map String.ofList).reverse.length
        = 1)) = true ↔ front = [] := by
    have hwhole := Text.intercalate_piecesOf '.' front
    simp only [Bool.and_eq_true, decide_eq_true_eq, List.length_reverse, List.length_map]
    constructor
    · rintro ⟨hempty, hlength⟩
      obtain ⟨piece, hpiece⟩ := List.length_eq_one_iff.1 hlength
      rw [hpiece] at hwhole hempty
      obtain rfl : piece = front := by simpa [List.intercalate] using hwhole
      simpa using hempty
    · rintro rfl
      exact ⟨rfl, rfl⟩
  have hbefore : ((Text.piecesOf (· == '.') front).map String.ofList).reverse ≠ [] := by
    simpa using Text.piecesOf_ne_nil (· == '.') front
  obtain ⟨first, others, hbefore⟩ := List.exists_cons_of_ne_nil hbefore
  rw [hbefore] at hpieces hnothing
  rw [extension?, hpieces]
  simp only [if_neg hdots, hnothing]

/-- A file has this extension if its name ends with a dot and it, and does not begin there. -/
theorem extension?_eq_some_iff {ext : String} (hne : ext ≠ "") (hdot : '.' ∉ ext.toList) :
    extension? name = some ext ↔ ∃ stem, stem ≠ "" ∧ name = stem ++ "." ++ ext := by
  constructor
  · intro h
    by_cases hmem : '.' ∈ name.toList
    · -- The last dot is the first from behind.
      obtain ⟨back, front, hsplit, hback⟩ :=
        List.eq_append_cons_of_mem (List.mem_reverse.2 hmem)
      have hname : name.toList = front.reverse ++ '.' :: back.reverse := by
        rw [← List.reverse_reverse name.toList, hsplit]
        simp
      have hdots : name ≠ ".." := by
        rintro rfl
        cases h
      rw [extension?_of_toList_eq hname (by simpa using hback) hdots] at h
      split at h
      · cases h
      · rename_i hfront
        refine ⟨String.ofList front.reverse, by simpa using hfront, ?_⟩
        rw [← Option.some.inj h, ← String.toList_inj, hname]
        simp
    · simp [extension?, pieces_of_not_mem hmem] at h
  · rintro ⟨stem, hstem, rfl⟩
    have hname : (stem ++ "." ++ ext).toList = stem.toList ++ '.' :: ext.toList := by simp
    have hdots : stem ++ "." ++ ext ≠ ".." := by
      intro hdots
      have hall : ∀ c ∈ ext.toList, c = '.' := by
        intro c hc
        have hmem : c ∈ (stem ++ "." ++ ext).toList := by simp [hc]
        simpa [hdots] using hmem
      obtain ⟨c, hc⟩ := List.exists_mem_of_ne_nil ext.toList (by simpa using hne)
      exact hdot (hall c hc ▸ hc)
    rw [extension?_of_toList_eq hname hdot hdots, if_neg (by simpa using hstem),
      String.ofList_toList]

end Route

namespace FileTree

variable {t : FileTree} {entries : List (String × FileTree)} {name ext path : String}
  {route here : List String}

/-- Every folder has one entry under a name, and under names that can stand in a path. -/
inductive Proper : FileTree → Prop
  | file (content : Content) : Proper (file content)
  | folder {entries : List (String × FileTree)} (hnodup : (entries.map Prod.fst).Nodup)
      (hnames : ∀ e ∈ entries, Route.IsName e.1) (hbelow : ∀ e ∈ entries, Proper e.2) :
      Proper (folder entries)

theorem not_folderAt_file (content : Content) (here : List String) :
    ¬ (file content).FolderAt here := by
  rintro ⟨entries, hfound⟩
  cases here <;> cases hfound

/-! ## Results in the order of names -/

section InNameOrder

variable {α : Type} {results : List (String × List α)} {a : α} {R : α → α → Prop}

theorem mem_inNameOrder_iff : a ∈ inNameOrder results ↔ ∃ p ∈ results, a ∈ p.2 := by
  simp [inNameOrder, List.mem_flatMap]

theorem pairwise_inNameOrder (hnodup : (results.map Prod.fst).Nodup)
    (hwithin : ∀ p ∈ results, p.2.Pairwise R)
    (hacross : ∀ p ∈ results, ∀ q ∈ results, p.1 < q.1 → ∀ a ∈ p.2, ∀ b ∈ q.2, R a b) :
    (inNameOrder results).Pairwise R := by
  rw [inNameOrder]
  have hperm := List.mergeSort_perm results (fun a b => a.1 ≤ b.1)
  have hle : (results.mergeSort (fun a b => a.1 ≤ b.1)).Pairwise
      (fun a b => decide (a.1 ≤ b.1) = true) :=
    List.pairwise_mergeSort
      (fun a b c hab hbc => by
        simpa using String.le_trans (by simpa using hab) (by simpa using hbc))
      (fun a b => by simpa using String.le_total a.1 b.1) results
  generalize results.mergeSort (fun a b => a.1 ≤ b.1) = sorted at hperm hle
  have hne : sorted.Pairwise (fun p q => p.1 ≠ q.1) :=
    List.pairwise_map.1 ((hperm.map Prod.fst).nodup_iff.2 hnodup)
  have hlt : sorted.Pairwise (fun p q => p.1 < q.1) := by
    refine hle.imp₂ (fun p q hpq hne => ?_) hne
    exact String.not_le.1 fun hqp => hne (String.le_antisymm (by simpa using hpq) hqp)
  refine List.pairwise_flatMap.2 ⟨fun p hp => hwithin p (hperm.mem_iff.1 hp), ?_⟩
  exact hlt.imp_of_mem fun hp hq => hacross _ (hperm.mem_iff.1 hp) _ (hperm.mem_iff.1 hq)

end InNameOrder

/-! ## What a scan finds -/

theorem routesOfEntries_eq (entries : List (String × FileTree)) :
    routesOfEntries entries = entries.map (fun e => (e.1, e.2.routes.map (e.1 :: ·))) := by
  induction entries with
  | nil => rfl
  | cons e rest ih => rw [routesOfEntries, ih, List.map_cons]

theorem folderRoutesOfEntries_eq (entries : List (String × FileTree)) :
    folderRoutesOfEntries entries =
      entries.map (fun e => (e.1, e.2.folderRoutes.map (e.1 :: ·))) := by
  induction entries with
  | nil => rfl
  | cons e rest ih => rw [folderRoutesOfEntries, ih, List.map_cons]

/-- What is found in a folder begins with the name of an entry. -/
theorem mem_inNameOrder_map_iff {find : FileTree → List (List String)} :
    route ∈ inNameOrder (entries.map (fun e => (e.1, (find e.2).map (e.1 :: ·)))) ↔
      ∃ e ∈ entries, ∃ below ∈ find e.2, e.1 :: below = route := by
  rw [mem_inNameOrder_iff]
  constructor
  · rintro ⟨p, hp, hroute⟩
    obtain ⟨e, he, rfl⟩ := List.mem_map.1 hp
    exact ⟨e, he, List.mem_map.1 hroute⟩
  · rintro ⟨e, he, hroute⟩
    exact ⟨_, List.mem_map_of_mem he, List.mem_map.2 hroute⟩

theorem mem_routes_folder_iff :
    route ∈ (folder entries).routes ↔
      ∃ e ∈ entries, ∃ below ∈ e.2.routes, e.1 :: below = route := by
  rw [routes, routesOfEntries_eq, mem_inNameOrder_map_iff]

/-- A scan finds every file, and nothing else. -/
theorem mem_routes_iff (h : t.Proper) :
    route ∈ t.routes ↔ ∃ content, t.find? route = some (file content) := by
  induction h generalizing route with
  | file content => cases route <;> simp [routes, find?]
  | @folder entries hnodup hnames hbelow ih =>
    rw [mem_routes_folder_iff]
    cases route with
    | nil => simp [find?]
    | cons name below =>
      constructor
      · rintro ⟨e, he, route, hroute, heq⟩
        cases heq
        obtain ⟨content, hfound⟩ := (ih e he).1 hroute
        refine ⟨content, ?_⟩
        rw [find?, (lookup_eq_some_iff_mem hnodup).2 he]
        exact hfound
      · rintro ⟨content, hfound⟩
        rw [find?] at hfound
        obtain ⟨u, hentry, hu⟩ := Option.bind_eq_some_iff.1 hfound
        have he := (lookup_eq_some_iff_mem hnodup).1 hentry
        exact ⟨(name, u), he, below, (ih _ he).2 ⟨content, hu⟩, rfl⟩

theorem mem_folderRoutes_folder_iff :
    here ∈ (folder entries).folderRoutes ↔
      here = [] ∨ ∃ e ∈ entries, ∃ below ∈ e.2.folderRoutes, e.1 :: below = here := by
  rw [folderRoutes, List.mem_cons, folderRoutesOfEntries_eq, mem_inNameOrder_map_iff]

/-- A scan goes into folders only. -/
theorem folderAt_of_mem_folderRoutes (h : t.Proper) (hmem : here ∈ t.folderRoutes) :
    t.FolderAt here := by
  induction h generalizing here with
  | file content => simp [folderRoutes] at hmem
  | @folder entries hnodup hnames hbelow ih =>
    rcases mem_folderRoutes_folder_iff.1 hmem with rfl | ⟨e, he, below, hbelow, rfl⟩
    · exact ⟨entries, rfl⟩
    · exact folderAt_cons_iff.2
        ⟨entries, e.2, rfl, (lookup_eq_some_iff_mem hnodup).2 he, ih e he hbelow⟩

/-- The names on the way to a file can stand in a path. -/
theorem isName_of_mem_routes (h : t.Proper) (hmem : route ∈ t.routes) :
    ∀ name ∈ route, Route.IsName name := by
  induction h generalizing route with
  | file content =>
    obtain rfl : route = [] := by simpa [routes] using hmem
    exact fun _ hname => absurd hname List.not_mem_nil
  | @folder entries hnodup hnames hbelow ih =>
    obtain ⟨e, he, below, hbelow, rfl⟩ := mem_routes_folder_iff.1 hmem
    exact List.forall_mem_cons.2 ⟨hnames e he, ih e he hbelow⟩

theorem pairwise_routes (h : t.Proper) : t.routes.Pairwise Route.Before := by
  induction h with
  | file content => exact List.pairwise_singleton _ _
  | @folder entries hnodup hnames hbelow ih =>
    rw [routes, routesOfEntries_eq]
    -- Below one name what follows it decides, and below different names these do.
    apply pairwise_inNameOrder
    · rw [List.map_map]
      exact hnodup
    · intro p hp
      obtain ⟨e, he, rfl⟩ := List.mem_map.1 hp
      exact List.pairwise_map.2 ((ih e he).imp .cons)
    · intro p hp q hq hlt a ha b hb
      obtain ⟨e, he, rfl⟩ := List.mem_map.1 hp
      obtain ⟨e', he', rfl⟩ := List.mem_map.1 hq
      obtain ⟨below, -, rfl⟩ := List.mem_map.1 ha
      obtain ⟨below', -, rfl⟩ := List.mem_map.1 hb
      exact .rel (Text.bytes_lt_iff.2 hlt)

/-! ## Files with an extension -/

/-- A file stands in this place, and its name is this extension behind a dot and something before
it. -/
def HasFile (t : FileTree) (ext : String) (route : List String) : Prop :=
  (∃ content, t.find? route = some (file content)) ∧
    ∃ above stem, stem ≠ "" ∧ route = above ++ [stem ++ "." ++ ext]

/-- The paths of all folders are short enough for the folders to be gone into. -/
def Openable (t : FileTree) (path : String) : Prop :=
  ∀ here, t.FolderAt here → (Route.join path here).utf8ByteSize < Route.sizeLimit

/-- Every file with the extension is listed once, and nothing else, in the order of the paths. -/
structure Lists (t : FileTree) (path ext : String) (found : List String) : Prop where
  exists_routes : ∃ routes : List (List String), routes.Nodup ∧
    (∀ route, route ∈ routes ↔ t.HasFile ext route) ∧ found = routes.map (Route.join path)
  sorted : found.Pairwise Route.Precedes

theorem extension?_of_mem_routes (hext : ext ≠ "") (hdot : '.' ∉ ext.toList)
    (hroute : route ∈ (folder entries).routes) (last? : Option String) :
    (route.getLast?.orElse (fun _ => last?)).bind Route.extension? = some ext ↔
      ∃ above stem, stem ≠ "" ∧ route = above ++ [stem ++ "." ++ ext] := by
  obtain ⟨e, -, below, -, rfl⟩ := mem_routes_folder_iff.1 hroute
  obtain ⟨above, last, hlast⟩ : ∃ above last, e.1 :: below = above ++ [last] :=
    ⟨_, _, (List.dropLast_concat_getLast (List.cons_ne_nil _ _)).symm⟩
  rw [hlast, List.getLast?_concat, Option.orElse_some, Option.bind_some,
    Route.extension?_eq_some_iff hext hdot]
  constructor
  · rintro ⟨stem, hstem, rfl⟩
    exact ⟨above, stem, hstem, rfl⟩
  · rintro ⟨above', stem, hstem, heq⟩
    obtain ⟨-, hname⟩ := List.append_inj' heq rfl
    exact ⟨stem, hstem, List.singleton_inj.1 hname⟩

theorem lists_routes (h : (folder entries).Proper) (hext : ext ≠ "") (hdot : '.' ∉ ext.toList)
    (path : String) (last? : Option String) :
    (folder entries).Lists path ext (((folder entries).routes.filter (fun route =>
      (route.getLast?.orElse (fun _ => last?)).bind Route.extension? = some ext)).map
        (Route.join path)) := by
  have hsorted := (pairwise_routes h).filter (fun route =>
    (route.getLast?.orElse (fun _ => last?)).bind Route.extension? = some ext)
  refine ⟨⟨_, hsorted.imp Route.Before.ne, fun route => ?_, rfl⟩, ?_⟩
  · rw [List.mem_filter, decide_eq_true_iff, HasFile, ← mem_routes_iff h]
    exact and_congr_right fun hroute => extension?_of_mem_routes hext hdot hroute last?
  · refine List.pairwise_map.2 (hsorted.imp_of_mem fun hmem hmem' hbefore => ?_)
    exact Route.precedes_join (isName_of_mem_routes h (List.mem_filter.1 hmem).1)
      (isName_of_mem_routes h (List.mem_filter.1 hmem').1) hbefore path

theorem tooDeep?_of_openable (h : t.Proper) (hopen : t.Openable path) :
    FileSystem.tooDeep? path t = none := by
  rw [FileSystem.tooDeep?, List.find?_eq_none]
  intro p hp
  obtain ⟨here, hhere, rfl⟩ := List.mem_map.1 hp
  have hlt := hopen here (folderAt_of_mem_folderRoutes h hhere)
  simpa using hlt

end FileTree

namespace Case

/-- The cases below a folder are the files whose extension is that of a case, each once and in the
order of the paths, compared name by name.  That there is none is said where there is none, and a
folder that cannot be found is not scanned. -/
theorem filesBelow_exact :
    (∀ {path : String} {files : FileSystem} {entries : List (String × FileTree)},
      files.locate path = .ok (.folder entries) → (FileTree.folder entries).Proper →
      (FileTree.folder entries).Openable path →
      (∃ found, (FileTree.folder entries).Lists path "json" found ∧
        filesBelow path files = if found = [] then .error (.noCases path) else .ok found) ∧
      (filesBelow path files = .error (.noCases path) ↔
        ∀ route, ¬ (FileTree.folder entries).HasFile "json" route)) ∧
    ∀ {path : String} {files : FileSystem} {e : FileError}, files.locate path = .error e →
      filesBelow path files = .error (.unscannable path path e) := by
  constructor
  · intro path files entries hlocate hproper hopen
    have hext : "json" ≠ "" ∧ '.' ∉ "json".toList := by decide
    have hlists := FileTree.lists_routes hproper hext.1 hext.2 path
      (Route.ofText path).names.getLast?
    generalize hfound : List.map (Route.join path) _ = found at hlists
    have hscan : files.filesWithExtension path "json" = .ok found := by
      rw [FileSystem.filesWithExtension, hlocate]
      dsimp only
      rw [FileTree.tooDeep?_of_openable hproper hopen, ← hfound]
    have hanswer : filesBelow path files =
        if found = [] then .error (.noCases path) else .ok found := by
      rw [filesBelow, hscan]
      cases found <;> rfl
    refine ⟨⟨found, hlists, hanswer⟩, ?_⟩
    obtain ⟨routes, -, hroutes, rfl⟩ := hlists.exists_routes
    rw [hanswer]
    cases routes with
    | nil => simpa using hroutes
    | cons route rest =>
      have hfile := (hroutes route).1 List.mem_cons_self
      rw [if_neg (by simp)]
      exact iff_of_false (by simp) fun hnone => hnone route hfile
  · intro path files e hlocate
    rw [filesBelow, FileSystem.filesWithExtension, hlocate]

/-- A folder with a case, and a folder beside it whose name is the beginning of that of the case. -/
def shelf : List (String × FileTree) :=
  [("a.json", .file (.text "")), (".json", .file (.text "")),
    ("a", .folder [("x.json", .file (.text ""))])]

/-- The case in the folder comes first, though as a text its path would come last.  A name that
begins with its only dot has no extension. -/
theorem filesBelow_exact_shelf :
    let files := FileSystem.ofFolder ["home"] (.folder [("cases", .folder shelf)])
    ∃ found, filesBelow "cases" files = .ok found ∧ found.Pairwise Route.Precedes ∧
      "cases/a.json" ∈ found ∧ "cases/a/x.json" ∈ found ∧ "cases/.json" ∉ found ∧
      Route.Precedes "cases/a/x.json" "cases/a.json" ∧ "cases/a.json" < "cases/a/x.json" ∧
      filesBelow "none" files = .error (.unscannable "none" "none" .notFound) := by
  intro files
  have hplace : ∀ name ∈ ["cases", "none"],
      files.place (Route.ofText name) = .ok ["home", name] := by
    have hname : ∀ name ∈ ["cases", "none"], (Route.ofText name).pieces = [name] ∧
        '\x00' ∉ name.toList ∧ name ∉ ["", ".", ".."] ∧ name.utf8ByteSize ≤ 255 := by
      decide +kernel
    intro name hmem
    obtain ⟨hpieces, hnul, hdots, hsize⟩ := hname name hmem
    exact FileSystem.place_of_name ⟨_, rfl⟩ hpieces hnul hdots hsize
  have hlocate : files.locate "cases" = .ok (.folder shelf) := by
    rw [FileSystem.locate, hplace _ (by simp)]
    rfl
  have hmissing : files.locate "none" = .error .notFound := by
    rw [FileSystem.locate, hplace _ (by simp)]
    rfl
  have hproper : (FileTree.folder shelf).Proper := by
    refine .folder (by decide) (by decide) ?_
    rw [shelf, List.forall_mem_cons, List.forall_mem_cons, List.forall_mem_singleton]
    refine ⟨.file _, .file _, .folder (by decide) (by decide) ?_⟩
    exact List.forall_mem_singleton.2 (.file _)
  have hopen : (FileTree.folder shelf).Openable "cases" := by
    -- There are two folders, the one that is scanned and the one in it.
    rintro (_ | ⟨name, below⟩) hfolder
    · decide +kernel
    obtain ⟨_, u, ⟨⟩, hentry, hbelow⟩ := FileTree.folderAt_cons_iff.1 hfolder
    rw [lookup_eq_some_iff_mem (by decide)] at hentry
    simp only [shelf, List.mem_cons, Prod.mk.injEq, List.not_mem_nil, or_false] at hentry
    rcases hentry with ⟨-, rfl⟩ | ⟨-, rfl⟩ | ⟨rfl, rfl⟩
    · exact absurd hbelow (FileTree.not_folderAt_file _ _)
    · exact absurd hbelow (FileTree.not_folderAt_file _ _)
    rcases below with _ | ⟨name, below⟩
    · decide +kernel
    obtain ⟨_, u, ⟨⟩, hentry, hbelow⟩ := FileTree.folderAt_cons_iff.1 hbelow
    rw [lookup_eq_some_iff_mem (by decide)] at hentry
    obtain ⟨-, rfl⟩ : _ ∧ u = .file (.text "") := by simpa using hentry
    exact absurd hbelow (FileTree.not_folderAt_file _ _)
  obtain ⟨⟨found, hlists, hanswer⟩, -⟩ := filesBelow_exact.1 hlocate hproper hopen
  obtain ⟨routes, -, hroutes, rfl⟩ := hlists.exists_routes
  have hfirst : ["a.json"] ∈ routes := (hroutes _).2 ⟨⟨_, rfl⟩, [], "a", by decide, rfl⟩
  have hsecond : ["a", "x.json"] ∈ routes := (hroutes _).2 ⟨⟨_, rfl⟩, ["a"], "x", by decide, rfl⟩
  have hpaths : Route.join "cases" ["a.json"] = "cases/a.json" ∧
      Route.join "cases" ["a", "x.json"] = "cases/a/x.json" := by decide +kernel
  have hsome : routes.map (Route.join "cases") ≠ [] :=
    List.ne_nil_of_mem (List.mem_map_of_mem hfirst)
  refine ⟨_, hanswer.trans (if_neg hsome), hlists.sorted, ?_, ?_, ?_, ?_, by decide +kernel,
    filesBelow_exact.2 hmissing⟩
  · exact hpaths.1 ▸ List.mem_map_of_mem hfirst
  · exact hpaths.2 ▸ List.mem_map_of_mem hsecond
  · intro hmem
    obtain ⟨route, hroute, hpath⟩ := List.mem_map.1 hmem
    have hfile := (hroutes route).1 hroute
    have hnames : (Route.ofText "cases").names ++ route = (Route.ofText "cases/.json").names := by
      rw [← hpath, Route.names_join (FileTree.isName_of_mem_routes hproper
        ((FileTree.mem_routes_iff hproper).2 hfile.1))]
    obtain rfl : route = [".json"] := by
      rw [show (Route.ofText "cases").names = ["cases"] by decide +kernel,
        show (Route.ofText "cases/.json").names = ["cases", ".json"] by decide +kernel] at hnames
      exact List.tail_eq_of_cons_eq hnames
    obtain ⟨-, above, stem, hstem, heq⟩ := hfile
    have hroute : [] ++ [".json"] = above ++ [stem ++ "." ++ "json"] := heq
    have hname := (List.append_inj' hroute rfl).2
    have hchars := congrArg String.toList (List.singleton_inj.1 hname)
    simp only [String.toList_append, List.append_assoc] at hchars
    exact hstem (by simpa using List.self_eq_append_left.1 hchars)
  · rw [Route.Precedes, Route.before_iff_lt]
    decide +kernel

end Case

end Spellbook

import Spellbook.Files.FileSystem
import Spellbook.Named
set_option autoImplicit false

/-!
# Where files are put

A tree that is put into a folder is found there, every folder stays a folder, and all other
files stay as they are (`find?_put_below`, `FolderAt.put` and `find?_put_of_not_folderAt`).  A
path is followed through folders, so it leads to the same place as before.  Folders are made
without a change to any file (`sameFiles_ensureFolders`).  A file that cannot be made leaves
all files as they were, and one that is made and filled is read by the path that it was made
with (`sameFiles_of_create_error` and `readText_of_create`).
-/

namespace Spellbook

namespace FileTree

variable {t u new : FileTree} {entries : List (String × FileTree)} {name : String}
  {here above front back q names : List String}

/-! ## Folders -/

/-- A folder stands in this place. -/
def FolderAt (t : FileTree) (here : List String) : Prop :=
  ∃ entries, t.find? here = some (folder entries)

theorem find?_append (t : FileTree) (front back : List String) :
    t.find? (front ++ back) = (t.find? front).bind (fun u => u.find? back) := by
  induction front generalizing t with
  | nil => simp [find?]
  | cons name rest ih =>
    cases t with
    | file c => rfl
    | folder entries =>
      cases hentry : entries.lookup name with
      | none => simp [find?, hentry]
      | some u => simp [find?, hentry, ih u]

theorem find?_file_of_ne_nil {c : Content} (h : q ≠ []) : (file c).find? q = none := by
  cases q with
  | nil => exact absurd rfl h
  | cons name rest => rfl

/-- On the way to a folder there are folders only. -/
theorem FolderAt.of_append (h : t.FolderAt (front ++ back)) : t.FolderAt front := by
  obtain ⟨entries, hfound⟩ := h
  rw [find?_append] at hfound
  obtain ⟨u, hu, hback⟩ := Option.bind_eq_some_iff.1 hfound
  cases u with
  | folder entries => exact ⟨entries, hu⟩
  | file c =>
    cases back with
    | nil => cases hback
    | cons name rest => cases hback

theorem folderAt_cons_iff :
    t.FolderAt (name :: q) ↔
      ∃ entries u, t = folder entries ∧ entries.lookup name = some u ∧ u.FolderAt q := by
  cases t with
  | file c => simp [FolderAt, find?]
  | folder entries =>
    cases hentry : entries.lookup name with
    | none => simp [FolderAt, find?, hentry]
    | some u => simp [FolderAt, find?, hentry]

/-! ## Putting a tree into a folder -/

theorem lookup_setEntry (name other : String) (new : FileTree)
    (entries : List (String × FileTree)) :
    (setEntry name new entries).lookup other =
      if other = name then some new else entries.lookup other := by
  induction entries with
  | nil => exact lookup_cons_eq name other new []
  | cons e rest ih =>
    obtain ⟨key, held⟩ := e
    by_cases hkey : key = name
    · subst hkey
      rw [setEntry, if_pos rfl, lookup_cons_eq, lookup_cons_eq]
      split <;> rfl
    · rw [setEntry, if_neg hkey, lookup_cons_eq, ih, lookup_cons_eq]
      by_cases hother : other = name
      · have hne : other ≠ key := fun heq => hkey (heq.symm.trans hother)
        rw [if_neg hne, if_pos hother, if_pos hother]
      · simp only [if_neg hother]

theorem find?_put_cons (new : FileTree) (name other : String) (rest q : List String)
    (entries : List (String × FileTree)) :
    (put new (name :: rest) (folder entries)).find? (other :: q) =
      if other = name then (put new rest ((entries.lookup name).getD empty)).find? q
      else (folder entries).find? (other :: q) := by
  rw [put, find?, lookup_setEntry, find?]
  split <;> rfl

theorem find?_put_below (h : t.FolderAt above) (new : FileTree) (name : String)
    (more : List String) :
    (put new (above ++ [name]) t).find? (above ++ name :: more) = new.find? more := by
  induction above generalizing t with
  | nil =>
    obtain ⟨entries, hfound⟩ := h
    cases hfound
    rw [List.nil_append, List.nil_append, find?_put_cons, if_pos rfl, put]
  | cons first rest ih =>
    obtain ⟨entries, u, rfl, hentry, hu⟩ := folderAt_cons_iff.1 h
    rw [List.cons_append, List.cons_append, find?_put_cons, if_pos rfl, hentry, Option.getD_some,
      ih hu]

theorem FolderAt.put (hq : t.FolderAt q) (h : t.FolderAt above)
    (hfree : ¬ t.FolderAt (above ++ [name])) (new : FileTree) :
    (put new (above ++ [name]) t).FolderAt q := by
  induction above generalizing t q with
  | nil =>
    obtain ⟨entries, hfound⟩ := h
    cases hfound
    cases q with
    | nil => exact ⟨_, rfl⟩
    | cons other q =>
      have hother : other ≠ name := by
        rintro rfl
        have hhere : (folder entries).FolderAt ([other] ++ q) := hq
        exact hfree hhere.of_append
      obtain ⟨held, hfound⟩ := hq
      refine ⟨held, ?_⟩
      rw [List.nil_append, find?_put_cons, if_neg hother, hfound]
  | cons first rest ih =>
    obtain ⟨entries, u, rfl, hentry, hu⟩ := folderAt_cons_iff.1 h
    cases q with
    | nil => exact ⟨_, rfl⟩
    | cons other q =>
      by_cases hother : other = first
      · subst hother
        obtain ⟨entries', u', heq, hentry', hq'⟩ := folderAt_cons_iff.1 hq
        cases heq
        obtain rfl : u = u' := Option.some.inj (hentry.symm.trans hentry')
        have hfree' : ¬ u.FolderAt (rest ++ [name]) := fun hu' =>
          hfree (folderAt_cons_iff.2 ⟨entries, u, rfl, hentry, hu'⟩)
        obtain ⟨held, hfound⟩ := ih hq' hu hfree'
        refine ⟨held, ?_⟩
        rw [List.cons_append, find?_put_cons, if_pos rfl, hentry, Option.getD_some, hfound]
      · obtain ⟨held, hfound⟩ := hq
        refine ⟨held, ?_⟩
        rw [List.cons_append, find?_put_cons, if_neg hother, hfound]

theorem find?_put_of_not_folderAt (h : t.FolderAt above) (hq : ¬ t.FolderAt q)
    (hbelow : ¬ above ++ [name] <+: q) (new : FileTree) :
    (put new (above ++ [name]) t).find? q = t.find? q := by
  induction above generalizing t q with
  | nil =>
    obtain ⟨entries, hfound⟩ := h
    cases hfound
    cases q with
    | nil => exact absurd ⟨entries, rfl⟩ hq
    | cons other q =>
      have hother : other ≠ name := by
        rintro rfl
        exact hbelow ⟨q, rfl⟩
      rw [List.nil_append, find?_put_cons, if_neg hother]
  | cons first rest ih =>
    obtain ⟨entries, u, rfl, hentry, hu⟩ := folderAt_cons_iff.1 h
    cases q with
    | nil => exact absurd ⟨entries, rfl⟩ hq
    | cons other q =>
      by_cases hother : other = first
      · subst hother
        have hq' : ¬ u.FolderAt q := fun hu' =>
          hq (folderAt_cons_iff.2 ⟨entries, u, rfl, hentry, hu'⟩)
        have hbelow' : ¬ rest ++ [name] <+: q := fun hprefix =>
          hbelow (List.cons_prefix_cons.2 ⟨rfl, hprefix⟩)
        rw [List.cons_append, find?_put_cons, if_pos rfl, hentry, Option.getD_some,
          ih hu hq' hbelow', find?, hentry, Option.bind_some]
      · rw [List.cons_append, find?_put_cons, if_neg hother]

/-! ## Following a path -/

theorem folderAt_of_follow_cons {start : List String}
    (h : t.follow start (name :: names) = .ok here) : t.FolderAt start := by
  rw [follow] at h
  split at h
  · cases h
  · cases h
  · exact ⟨_, ‹_›⟩

theorem follow_cons {start : List String} (h : t.FolderAt start) :
    t.follow start (name :: names) =
      if name = "." then t.follow start names
      else if name = ".." then t.follow start.dropLast names
      else if name.utf8ByteSize > 255 then .error .nameTooLong
      else t.follow (start ++ [name]) names := by
  obtain ⟨entries, hfound⟩ := h
  rw [follow, hfound]

/-- A path is followed through folders only. -/
theorem follow_of_keeps {t' : FileTree} (hkeeps : ∀ q, t.FolderAt q → t'.FolderAt q)
    {start : List String} (h : t.follow start names = .ok here) :
    t'.follow start names = .ok here := by
  induction names generalizing start with
  | nil => exact h
  | cons name rest ih =>
    have hstart := folderAt_of_follow_cons h
    rw [follow_cons hstart] at h
    rw [follow_cons (hkeeps start hstart)]
    by_cases hdot : name = "."
    · rw [if_pos hdot] at h ⊢
      exact ih h
    rw [if_neg hdot] at h ⊢
    by_cases hup : name = ".."
    · rw [if_pos hup] at h ⊢
      exact ih h
    rw [if_neg hup] at h ⊢
    by_cases hlong : name.utf8ByteSize > 255
    · rw [if_pos hlong] at h
      cases h
    rw [if_neg hlong] at h ⊢
    exact ih h

/-- A folder, or the place of a name in a folder. -/
def Within (t : FileTree) (here : List String) : Prop :=
  t.FolderAt here ∨ ∃ above name, here = above ++ [name] ∧ t.FolderAt above

theorem within_of_follow {start : List String} (h : t.follow start names = .ok here)
    (hstart : t.Within start) : t.Within here := by
  induction names generalizing start with
  | nil =>
    cases h
    exact hstart
  | cons name rest ih =>
    have hfolder := folderAt_of_follow_cons h
    rw [follow_cons hfolder] at h
    split at h
    · exact ih h hstart
    split at h
    · refine ih h (.inl ?_)
      obtain heq | ⟨above, last, rfl⟩ := List.eq_nil_or_concat start
      · rwa [heq] at hfolder ⊢
      · rw [List.concat_eq_append] at hfolder ⊢
        rw [List.dropLast_concat]
        exact hfolder.of_append
    split at h
    · cases h
    · exact ih h (.inr ⟨start, name, rfl, hfolder⟩)

/-- A path with a name leads to a folder, or to a name in one. -/
theorem within_of_follow_cons {start : List String}
    (h : t.follow start (name :: names) = .ok here) : t.Within here :=
  within_of_follow h (.inl (folderAt_of_follow_cons h))

/-- A place where a file may be put: there is a folder above it and none in it. -/
structure Free (t : FileTree) (above : List String) (name : String) : Prop where
  folder_above : t.FolderAt above
  no_folder : ¬ t.FolderAt (above ++ [name])

end FileTree

namespace FileSystem

open FileTree (file folder FolderAt Free)

variable {s s' s'' : FileSystem} {p : Route} {e : FileError} {name path : String}
  {above here : List String} {apart : List (List String)}

/-! ## What stays -/

/-- All files are the same in both, in the places apart from these. -/
def SameFiles (s s' : FileSystem) (apart : List (List String)) : Prop :=
  ∀ here, here ∉ apart → ∀ c, s'.root.find? here = some (file c) ↔ s.root.find? here = some (file c)

theorem SameFiles.refl (s : FileSystem) : s.SameFiles s apart := fun _ _ _ => Iff.rfl

theorem SameFiles.trans (h : s.SameFiles s' apart) (h' : s'.SameFiles s'' apart) :
    s.SameFiles s'' apart :=
  fun here hhere c => (h' here hhere c).trans (h here hhere c)

/-- Putting a tree into a folder keeps every file that is not in its place or below. -/
theorem find?_put_iff (hfree : Free s.root above name) {new : FileTree}
    (hbelow : ¬ above ++ [name] <+: here) (c : Content) :
    (s.put new (above ++ [name])).root.find? here = some (file c) ↔
      s.root.find? here = some (file c) := by
  by_cases hfolder : s.root.FolderAt here
  · obtain ⟨entries, hold⟩ := hfolder
    obtain ⟨entries', hnew⟩ :=
      FolderAt.put ⟨entries, hold⟩ hfree.folder_above hfree.no_folder new
    have hput : (s.put new (above ++ [name])).root.find? here = some (folder entries') := hnew
    rw [hput, hold]
    exact ⟨nofun, nofun⟩
  · have hsame := FileTree.find?_put_of_not_folderAt hfree.folder_above hfolder hbelow new
    exact Iff.of_eq (congrArg (· = some (file c)) hsame)

theorem sameFiles_put_empty (hfolder : s.root.FolderAt above)
    (hnone : s.root.find? (above ++ [name]) = none) :
    s.SameFiles (s.put .empty (above ++ [name])) apart := by
  have hfree : Free s.root above name := ⟨hfolder, by
    rintro ⟨entries, hfound⟩
    rw [hnone] at hfound
    cases hfound⟩
  intro here _ c
  by_cases hbelow : above ++ [name] <+: here
  · obtain ⟨more, rfl⟩ := hbelow
    have hnew : (s.put .empty (above ++ [name])).root.find? (above ++ [name] ++ more) =
        FileTree.empty.find? more := by
      rw [List.append_assoc]
      exact FileTree.find?_put_below hfolder .empty name more
    rw [hnew, FileTree.find?_append, hnone]
    cases more with
    | nil => exact ⟨nofun, nofun⟩
    | cons first rest => exact ⟨nofun, nofun⟩
  · exact find?_put_iff hfree hbelow c

theorem sameFiles_put_file (hfree : Free s.root above name) (c : Content) :
    s.SameFiles (s.put (file c) (above ++ [name])) [above ++ [name]] := by
  intro here hhere d
  by_cases hbelow : above ++ [name] <+: here
  · obtain ⟨more, rfl⟩ := hbelow
    have hmore : more ≠ [] := by
      rintro rfl
      exact hhere (by simp)
    have hnew : (s.put (file c) (above ++ [name])).root.find? (above ++ [name] ++ more) = none := by
      rw [List.append_assoc]
      exact (FileTree.find?_put_below hfree.folder_above (file c) name more).trans
        (FileTree.find?_file_of_ne_nil hmore)
    have hold : s.root.find? (above ++ [name] ++ more) = none := by
      rw [FileTree.find?_append]
      cases hfound : s.root.find? (above ++ [name]) with
      | none => rfl
      | some u =>
        cases u with
        | file d => exact FileTree.find?_file_of_ne_nil hmore
        | folder entries => exact absurd ⟨entries, hfound⟩ hfree.no_folder
    rw [hnew, hold]
  · exact find?_put_iff hfree hbelow d

theorem place_of_keeps (hkeeps : ∀ q, s.root.FolderAt q → s'.root.FolderAt q)
    (hworking : s'.working = s.working) (h : s.place p = .ok here) : s'.place p = .ok here := by
  unfold place at h ⊢
  split at h
  · cases h
  split at h
  · cases h
  split at h
  · cases h
  rename_i hnul hsize hempty
  rw [if_neg hnul, if_neg hsize, if_neg hempty, hworking]
  exact FileTree.follow_of_keeps hkeeps h

theorem place_put (hfree : Free s.root above name) (new : FileTree) (h : s.place p = .ok here) :
    (s.put new (above ++ [name])).place p = .ok here :=
  place_of_keeps (fun _ hq => hq.put hfree.folder_above hfree.no_folder new) rfl h

/-! ## Making folders -/

theorem eq_dropLast_append {here : List String} (h : here ≠ []) :
    ∃ name, here = here.dropLast ++ [name] :=
  ⟨here.getLast h, (List.dropLast_concat_getLast h).symm⟩

/-- A folder is made in a folder, where nothing is. -/
theorem exists_of_makeFolder (h : s.makeFolder p = .ok s') :
    ∃ above name, s.root.FolderAt above ∧ s.root.find? (above ++ [name]) = none ∧
      s' = s.put .empty (above ++ [name]) := by
  unfold makeFolder at h
  split at h
  · cases h
  rename_i here hplace
  split at h
  · cases h
  rename_i hnone
  split at h
  · rename_i entries hfolder
    cases h
    have hne : here ≠ [] := by
      rintro rfl
      cases hnone
    obtain ⟨name, heq⟩ := eq_dropLast_append hne
    rw [heq] at hnone
    exact ⟨here.dropLast, name, ⟨entries, hfolder⟩, hnone, by rw [← heq]⟩
  · cases h
  · cases h

theorem sameFiles_makeFolder (h : s.makeFolder p = .ok s') : s.SameFiles s' apart := by
  obtain ⟨above, name, hfolder, hnone, rfl⟩ := exists_of_makeFolder h
  exact sameFiles_put_empty hfolder hnone

theorem sameFiles_ensureFolder (h : s.ensureFolder p = .ok s') : s.SameFiles s' apart := by
  unfold ensureFolder at h
  split at h
  · rename_i hmade
    cases h
    exact sameFiles_makeFolder hmade
  · split at h
    · cases h
      exact .refl _
    · cases h

/-- Folders are made without a change to any file, also where not all of them can be made. -/
theorem sameFiles_ensureFolders (s : FileSystem) (p : Route) (apart : List (List String)) :
    s.SameFiles (s.ensureFolders p).2 apart := by
  fun_induction ensureFolders s p with
  | case1 => exact .refl _
  | case2 p hnonempty made hmade => exact sameFiles_ensureFolder hmade
  | case3 => exact .refl _
  | case4 p hnonempty hfailed above habove e above' hmade ih =>
    rw [hmade] at ih
    exact ih
  | case5 p hnonempty hfailed above habove s' hmade made hlast ih =>
    rw [hmade] at ih
    exact ih.trans (sameFiles_ensureFolder hlast)
  | case6 p hnonempty hfailed above habove s' hmade e hlast ih =>
    rw [hmade] at ih
    exact ih
  | case7 => exact .refl _

/-! ## Making and filling files -/

theorem names_ne_nil (hempty : p.isEmpty = false) (htrailing : p.trailing = false) :
    p.names ≠ [] := by
  have hpieces : p.pieces ≠ [] := by simpa [Route.isEmpty] using hempty
  have hlast : p.pieces.getLast hpieces ≠ "" := by
    intro heq
    have htrue : p.trailing = true := by
      rw [Route.trailing, List.getLast?_eq_some_getLast hpieces, heq]
      rfl
    rw [htrailing] at htrue
    cases htrue
  have hmem : p.pieces.getLast hpieces ∈ p.names :=
    List.mem_filter.2 ⟨List.getLast_mem hpieces, by simpa using hlast⟩
  exact List.ne_nil_of_mem hmem

theorem within_of_place (h : s.place p = .ok here) (htrailing : p.trailing = false) :
    s.root.Within here := by
  unfold place at h
  split at h
  · cases h
  split at h
  · cases h
  split at h
  · cases h
  rename_i hempty
  obtain ⟨name, rest, hnames⟩ :=
    List.exists_cons_of_ne_nil (names_ne_nil (by simpa using hempty) htrailing)
  rw [hnames] at h
  exact FileTree.within_of_follow_cons h

/-- A path that is a name leads to the place of that name in the working folder. -/
theorem place_of_name (hfolder : s.root.FolderAt s.working) (hpieces : p.pieces = [name])
    (hnul : '\x00' ∉ name.toList) (hname : name ∉ ["", ".", ".."])
    (hsize : name.utf8ByteSize ≤ 255) : s.place p = .ok (s.working ++ [name]) := by
  obtain ⟨entries, hfound⟩ := hfolder
  simp only [List.mem_cons, List.not_mem_nil, or_false, not_or] at hname
  obtain ⟨hempty, hdot, hdots⟩ := hname
  have hsmall : ¬ Route.sizeLimit ≤ p.size := by
    simp only [Route.size, hpieces, Route.sizeLimit, List.foldl_cons, List.foldl_nil]
    omega
  have hlong : ¬ name.utf8ByteSize > 255 := by omega
  have hnames : p.names = [name] := by simp [Route.names, hpieces, hempty]
  rw [place, hnames, if_neg (by simp [Route.hasNul, hpieces, hnul]), if_neg hsmall,
    if_neg (by simp [Route.isEmpty, hpieces]), if_neg (by simp [Route.rooted, hpieces, hempty])]
  simp [FileTree.follow, hfound, hdot, hdots, hlong]

/-- The path leads to a place where a file may be put, and it may name a file. -/
structure Ready (s : FileSystem) (path : String) (above : List String) (name : String) : Prop where
  place_eq : s.place (Route.ofText path) = .ok (above ++ [name])
  free : Free s.root above name
  not_trailing : (Route.ofText path).trailing = false

theorem Ready.put (h : s.Ready path above name) (c : Content) :
    (s.put (file c) (above ++ [name])).Ready path above name where
  place_eq := place_put h.free _ h.place_eq
  free := by
    refine ⟨h.free.folder_above.put h.free.folder_above h.free.no_folder _, ?_⟩
    rintro ⟨entries, hfound⟩
    have hfile := FileTree.find?_put_below h.free.folder_above (file c) name []
    rw [show FileTree.put (file c) (above ++ [name]) s.root =
      (s.put (file c) (above ++ [name])).root from rfl, hfound] at hfile
    cases hfile
  not_trailing := h.not_trailing

theorem Ready.fill_eq (h : s.Ready path above name) (text : String) :
    s.fill path text = s.put (file (.text text)) (above ++ [name]) := by
  rw [fill, h.place_eq]

theorem Ready.readText_fill (h : s.Ready path above name) (text : String) :
    (s.fill path text).readText path = .ok text := by
  have hplace := (h.put (.text text)).place_eq
  have hfound : (s.put (file (.text text)) (above ++ [name])).root.find? (above ++ [name]) =
      some (file (.text text)) :=
    FileTree.find?_put_below h.free.folder_above (file (.text text)) name []
  rw [h.fill_eq, readText, locate]
  simp only [hplace, hfound, h.not_trailing, Bool.false_eq_true, if_false]
  rfl

theorem exists_of_createFile (h : s.createFile (Route.ofText path) = .ok s') :
    ∃ above name, s.Ready path above name ∧ s' = s.put (file (.text "")) (above ++ [name]) := by
  unfold createFile at h
  split at h
  · cases h
  rename_i here hplace
  dsimp only at h
  have hmade {files : FileSystem} (hfree : ¬ s.root.FolderAt here)
      (hfiles : (if (Route.ofText path).trailing = true then .error .isAFolder
        else .ok (s.put (file (.text "")) here) : Except FileError FileSystem) = .ok files) :
      ∃ above name, s.Ready path above name ∧
        files = s.put (file (.text "")) (above ++ [name]) := by
    split at hfiles
    · cases hfiles
    · rename_i htrailing
      have hname : (Route.ofText path).trailing = false := by simpa using htrailing
      cases hfiles
      rcases within_of_place hplace hname with hfolder | ⟨above, name, rfl, hfolder⟩
      · exact absurd hfolder hfree
      · exact ⟨above, name, ⟨hplace, ⟨hfolder, hfree⟩, hname⟩, rfl⟩
  split at h
  · cases h
  · rename_i hfile
    refine hmade ?_ h
    rintro ⟨entries, hfound⟩
    rw [hfile] at hfound
    cases hfound
  · rename_i hnone hfolder
    refine hmade ?_ h
    rintro ⟨entries, hfound⟩
    rw [hnone] at hfound
    cases hfound
  · cases h
  · cases h

/-- A file that cannot be made leaves all files as they were. -/
theorem sameFiles_of_create_error (h : s.create path = (.error e, s')) : s.SameFiles s' apart := by
  have hfolders := sameFiles_ensureFolders s ((Route.ofText path).parent?.getD default) apart
  unfold create at h
  dsimp only at h
  split at h
  · rename_i hensured
    rw [hensured] at hfolders
    cases h
    exact hfolders
  · rename_i hensured
    rw [hensured] at hfolders
    split at h
    · cases h
    · cases h
      exact hfolders

/-- A file that is made is empty and ready to be filled, and all others are as they were. -/
theorem exists_of_create (h : s.create path = (.ok (), s')) :
    ∃ above name, s'.Ready path above name ∧ s.SameFiles s' [above ++ [name]] := by
  have hfolders := sameFiles_ensureFolders s ((Route.ofText path).parent?.getD default)
  unfold create at h
  dsimp only at h
  split at h
  · cases h
  · rename_i hensured
    rw [hensured] at hfolders
    split at h
    · rename_i hcreated
      cases h
      obtain ⟨above, name, hready, rfl⟩ := exists_of_createFile hcreated
      exact ⟨above, name, hready.put _,
        (hfolders _).trans (sameFiles_put_file hready.free (.text ""))⟩
    · cases h

/-- A file that is made and filled is read by its path, and no other file has changed. -/
theorem readText_of_create (h : s.create path = (.ok (), s')) (text : String) :
    (s'.fill path text).readText path = .ok text ∧
      ∃ here, (s'.fill path text).place (Route.ofText path) = .ok here ∧
        s.SameFiles (s'.fill path text) [here] := by
  obtain ⟨above, name, hready, hsame⟩ := exists_of_create h
  refine ⟨hready.readText_fill text, above ++ [name], ?_, ?_⟩
  · rw [hready.fill_eq]
    exact (hready.put (.text text)).place_eq
  · rw [hready.fill_eq]
    exact hsame.trans (sameFiles_put_file hready.free (.text text))

end FileSystem

end Spellbook

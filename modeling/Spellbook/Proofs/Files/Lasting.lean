import Mathlib.Logic.Relation
import Spellbook.Proofs.Files.Loading
set_option autoImplicit false

/-!
# What lasts when files are written

To write a file makes folders and no folder less, so a path that led to a place leads there still
(`FileSystem.grows_create` and `place_of_grows`).  A text that is read by a path is read by it as
long as nothing else is put in its place (`FileSystem.readText_of_grows`), and so a saved program
stands in its file (`SavedProgram.KeptAt.of_save`).
-/

namespace Spellbook

namespace FileSystem

open FileTree (file folder FolderAt Free)

variable {s s' s'' : FileSystem} {p : Route} {e : FileError} {name path text : String}
  {above here : List String} {apart : List (List String)}

/-- Every folder is there still, and the working folder is the same. -/
structure Grows (s s' : FileSystem) : Prop where
  working_eq : s'.working = s.working
  folderAt : ∀ q, s.root.FolderAt q → s'.root.FolderAt q

theorem Grows.refl (s : FileSystem) : s.Grows s := ⟨rfl, fun _ h => h⟩

theorem Grows.trans (h : s.Grows s') (h' : s'.Grows s'') : s.Grows s'' :=
  ⟨h'.working_eq.trans h.working_eq, fun q hq => h'.folderAt q (h.folderAt q hq)⟩

theorem place_of_grows (h : s.Grows s') (hplace : s.place p = .ok here) :
    s'.place p = .ok here :=
  place_of_keeps h.folderAt h.working_eq hplace

theorem grows_put (hfree : Free s.root above name) (new : FileTree) :
    s.Grows (s.put new (above ++ [name])) :=
  ⟨rfl, fun _ hq => hq.put hfree.folder_above hfree.no_folder new⟩

/-! ## Making folders and files -/

theorem grows_makeFolder (h : s.makeFolder p = .ok s') : s.Grows s' := by
  obtain ⟨above, name, hfolder, hnone, rfl⟩ := exists_of_makeFolder h
  refine grows_put ⟨hfolder, ?_⟩ .empty
  rintro ⟨entries, hfound⟩
  cases hnone.symm.trans hfound

theorem grows_ensureFolder (h : s.ensureFolder p = .ok s') : s.Grows s' := by
  unfold ensureFolder at h
  split at h
  · rename_i hmade
    cases h
    exact grows_makeFolder hmade
  · split at h
    · cases h
      exact .refl _
    · cases h

theorem grows_ensureFolders (s : FileSystem) (p : Route) : s.Grows (s.ensureFolders p).2 := by
  fun_induction ensureFolders s p with
  | case1 => exact .refl _
  | case2 p hnonempty made hmade => exact grows_ensureFolder hmade
  | case3 => exact .refl _
  | case4 p hnonempty hfailed above habove e above' hmade ih =>
    rw [hmade] at ih
    exact ih
  | case5 p hnonempty hfailed above habove s' hmade made hlast ih =>
    rw [hmade] at ih
    exact ih.trans (grows_ensureFolder hlast)
  | case6 p hnonempty hfailed above habove s' hmade e hlast ih =>
    rw [hmade] at ih
    exact ih
  | case7 => exact .refl _

theorem grows_create (s : FileSystem) (path : String) : s.Grows (s.create path).2 := by
  have hfolders := grows_ensureFolders s ((Route.ofText path).parent?.getD default)
  unfold create
  dsimp only
  split
  · rename_i hensured
    rw [hensured] at hfolders
    exact hfolders
  · rename_i hensured
    rw [hensured] at hfolders
    split
    · rename_i hcreated
      obtain ⟨above, name, hready, rfl⟩ := exists_of_createFile hcreated
      exact hfolders.trans (grows_put hready.free _)
    · exact hfolders

theorem grows_writeText (s : FileSystem) (path text : String) :
    s.Grows (s.writeText path text).2 := by
  have hcreate := grows_create s path
  unfold writeText
  split
  · rename_i hfailed
    rw [hfailed] at hcreate
    exact hcreate
  · rename_i hmade
    rw [hmade] at hcreate
    obtain ⟨above, name, hready, -⟩ := exists_of_create hmade
    rw [hready.fill_eq]
    exact hcreate.trans (grows_put hready.free _)

/-! ## Reading -/

/-- A text is read if it stands in a file where the path leads. -/
theorem readText_eq_ok_iff :
    s.readText path = .ok text ↔
      ∃ here c, s.place (Route.ofText path) = .ok here ∧ s.root.find? here = some (file c) ∧
        (Route.ofText path).trailing = false ∧ c.text? = some text := by
  unfold readText locate
  dsimp only
  cases hplace : s.place (Route.ofText path) with
  | error e => simp
  | ok here =>
    cases hfound : s.root.find? here with
    | none => simp [hfound]
    | some t =>
      cases t with
      | folder entries => simp [hfound]
      | file c =>
        cases htrailing : (Route.ofText path).trailing with
        | true => simp [hfound]
        | false => cases htext : c.text? <;> simp [hfound, htext]

/-- As long as nothing else is put in its place, a text is read by its path. -/
theorem readText_of_grows (hgrows : s.Grows s') (hsame : s.SameFiles s' apart)
    (hplace : s.place (Route.ofText path) = .ok here) (hhere : here ∉ apart)
    (hread : s.readText path = .ok text) : s'.readText path = .ok text := by
  rw [readText_eq_ok_iff] at hread ⊢
  obtain ⟨here', c, hplace', hfile, htrailing, htext⟩ := hread
  cases hplace.symm.trans hplace'
  exact ⟨here, c, place_of_grows hgrows hplace, (hsame here hhere c).2 hfile, htrailing, htext⟩

end FileSystem

namespace SavedProgram

variable {p q : SavedProgram} {path other : String} {files files' : FileSystem} {here : List String}
  {fault : Fault}

/-- A program stands in a file in this place, where the path leads. -/
structure KeptAt (p : SavedProgram) (path : String) (here : List String) (files : FileSystem) :
    Prop where
  place_eq : files.place (Route.ofText path) = .ok here
  standsIn : p.StandsIn path files

theorem grows_save (p : SavedProgram) (path : String) (files : FileSystem) :
    files.Grows (p.save path files).2 := by
  have hwrite := FileSystem.grows_writeText files path p.toJson.pretty
  unfold save
  split
  · rename_i hwritten
    rw [hwritten] at hwrite
    exact hwrite
  · rename_i hwritten
    rw [hwritten] at hwrite
    exact hwrite

/-- A program that is saved stands in its file. -/
theorem KeptAt.of_save (h : p.save path files = (.ok (), files')) :
    ∃ here, p.KeptAt path here files' := by
  obtain ⟨hstands, here, hplace, -⟩ := standsIn_of_save h
  exact ⟨here, hplace, hstands⟩

/-- A program stands in its file until another is saved in its place. -/
theorem KeptAt.save (h : p.KeptAt path here files)
    (hother : (q.save other files).1 = .ok () →
      (q.save other files).2.place (Route.ofText other) ≠ .ok here) :
    p.KeptAt path here (q.save other files).2 := by
  obtain ⟨hplace, written, hread, hp⟩ := h
  have hlasts {apart : List (List String)} (hsame : files.SameFiles (q.save other files).2 apart)
      (hhere : here ∉ apart) : p.KeptAt path here (q.save other files).2 :=
    have hgrows := grows_save q other files
    ⟨FileSystem.place_of_grows hgrows hplace, written,
      FileSystem.readText_of_grows hgrows hsame hplace hhere hread, hp⟩
  rcases hsave : q.save other files with ⟨_ | ⟨⟨⟩⟩, files'⟩
  · rw [hsave] at hlasts
    exact hlasts ((of_save_error hsave).2 []) List.not_mem_nil
  · rw [hsave] at hlasts hother
    obtain ⟨-, there, hthere, hsame⟩ := standsIn_of_save hsave
    refine hlasts hsame ?_
    rw [List.mem_singleton]
    rintro rfl
    exact hother rfl hthere

end SavedProgram

end Spellbook

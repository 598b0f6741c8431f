import Spellbook.Proofs.Files.Lasting
import Spellbook.Proofs.Play.Conversation
import Spellbook.Proofs.Play.Inputs
import Spellbook.Proofs.Workbench.Numbering
import Spellbook.Proofs.Workbench.Residue
set_option autoImplicit false

/-!
# Saved programs come back

A program is saved by a line or by a key, and whatever is done afterwards, in either mode and on
whatever workbench, it stands in its file until another is saved in its place (`Deed.keptAt`).  It
is loaded again, with new numbers, on every workbench of its level, and on none of another level
(`saved_comes_back`).
-/

namespace Spellbook

namespace Workbench

variable {w w' : Workbench} {calls : List Call} {n : Nat}

/-- The number that the next block gets is larger than all that have been told. -/
theorem lt_nextNumber_of_mem_told (h : n ∈ w.told calls) :
    n < (w.after calls).program.nextNumber := by
  rw [told_eq] at h
  obtain ⟨q, hq, rfl⟩ := List.mem_map.1 h
  rw [program_after, Program.nextNumber_after]
  exact (Program.number_of_mem_given hq).2

theorem Loaded.lt_of_mem_numbers {ids : List String} (h : w.Loaded ids w') {m : Nat}
    (hn : n ∈ w'.program.numbers) (hm : m < w.program.nextNumber) : m < n := by
  rw [h.numbers_eq, List.mem_range'_1] at hn
  omega

/-- What was saved on one workbench can be loaded on every other of the same level. -/
theorem Reachable.exists_load (h : w.Reachable) (h' : w'.Reachable) (hlevel : w'.level = w.level)
    (hidle : w'.isRunning = false) :
    ∃ numbers loaded, w'.load w.program.blockIds = (.ok numbers, loaded) := by
  have hcatalog : w'.catalog = w.catalog := by
    rw [h'.stocked.catalog_eq, h.stocked.catalog_eq, hlevel]
  rw [exists_load_iff hidle, ← Catalog.exists_getAll_iff, hcatalog]
  exact ⟨_, h.stocked.getAll_eq⟩

end Workbench

namespace Play

/-- The fault with which a command is refused. -/
def Reply.fault? (r : Reply) : Option Fault :=
  match r.lines with
  | .ok _ => none
  | .error fault => some fault

/-! ## What is promised -/

/-- The program of a workbench is saved in a file, by a line or by a key. -/
inductive Saves (path : String) : Workbench → FileSystem → FileSystem → Prop
  | line {c : Console} {line : String} (hline : Command.ofLine line = .save)
      (h : (c.perform path (.ofLine line)).fault? = none) :
      Saves path c.workbench c.files (c.perform path (.ofLine line)).console.files
  | key {s : Screen} (hpath : s.path = path) (h : s.fault? (.key (.char 's')) = none) :
      Saves path s.workbench s.files (s.press (.char 's')).files

/-- A line or a key loads the program of a workbench from a file, or is refused for a fault, which
is printed or told as the status (`Screen.Turns.status_of_fault`). -/
inductive Loads (path : String) :
    Workbench → FileSystem → Workbench → FileSystem → Option Fault → Prop
  | line {c : Console} {line : String} (hline : Command.ofLine line = .load) :
      Loads path c.workbench c.files (c.perform path (.ofLine line)).console.workbench
        (c.perform path (.ofLine line)).console.files (c.perform path (.ofLine line)).fault?
  | key {s : Screen} (hpath : s.path = path) :
      Loads path s.workbench s.files (s.press (.char 'l')).workbench (s.press (.char 'l')).files
        (s.fault? (.key (.char 'l')))

/-- A line or a key, on whatever workbench, that saves no program in this place. -/
inductive Deed (here : List String) : FileSystem → FileSystem → Prop
  | line {path line : String} {c : Console}
      (hother : Command.ofLine line = .save → (c.perform path (.ofLine line)).fault? = none →
        (c.perform path (.ofLine line)).console.files.place (Route.ofText path) ≠ .ok here) :
      Deed here c.files (c.perform path (.ofLine line)).console.files
  | key {s : Screen} {k : Key}
      (hother : k = .char 's' → s.fault? (.key k) = none →
        (s.press k).files.place (Route.ofText s.path) ≠ .ok here) :
      Deed here s.files (s.press k).files

/-! ## Saving -/

variable {path : String} {here : List String} {files files' : FileSystem} {w w' : Workbench}
  {p : SavedProgram} {fault? : Option Fault}

theorem Console.files_appendAll (c : Console) (ids : List String) :
    (c.appendAll ids).console.files = c.files := by
  induction ids generalizing c with
  | nil => rfl
  | cons id rest ih =>
    rw [appendAll]
    split
    · rfl
    · rw [ih]

/-- No command but `:save` writes to a file. -/
theorem Console.files_perform (path : String) (c : Console) {command : Command}
    (h : command ≠ .save) : (c.perform path command).console.files = c.files := by
  cases command with
  | add ids =>
    cases ids with
    | nil => rfl
    | cons id rest => exact c.files_appendAll _
  | blocks ids => exact c.files_appendAll ids
  | remove args =>
    show (c.remove args).console.files = _
    unfold remove
    split
    · rfl
    split
    · rfl
    split <;> rfl
  | clear =>
    show c.clear.console.files = _
    unfold clear
    split <;> rfl
  | run =>
    show c.run.console.files = _
    unfold run
    split <;> rfl
  | seed args =>
    show (c.reseed args).console.files = _
    unfold reseed
    split
    · rfl
    split <;> rfl
  | save => exact absurd rfl h
  | load =>
    show (c.load path).console.files = _
    unfold load
    split <;> rfl
  | _ => rfl

theorem Console.perform_save (path : String) (c : Console) :
    (c.perform path .save).console.files = (c.workbench.save path c.files).2 ∧
      ((c.perform path .save).fault? = none ↔ (c.workbench.save path c.files).1 = .ok ()) := by
  show (c.save path).console.files = _ ∧ ((c.save path).fault? = none ↔ _)
  unfold save
  split
  · rename_i hsave
    rw [hsave]
    exact ⟨rfl, iff_of_true rfl rfl⟩
  · rename_i hsave
    rw [hsave]
    exact ⟨rfl, iff_of_false nofun nofun⟩

namespace Screen

theorem files_addSelected (s : Screen) : s.addSelected.files = s.files := by
  unfold addSelected
  split
  · rfl
  split
  · rfl
  split <;> rfl

theorem files_removeSelected (s : Screen) : s.removeSelected.files = s.files := by
  unfold removeSelected
  split
  · rfl
  split <;> rfl

theorem files_clear (s : Screen) : s.clear.files = s.files := by
  unfold clear
  split <;> rfl

theorem files_beginRun (s : Screen) : s.beginRun.files = s.files := by
  unfold beginRun
  split <;> rfl

theorem files_load (s : Screen) : s.load.files = s.files := by
  unfold load
  split <;> rfl

theorem files_moveUp (s : Screen) : s.moveUp.files = s.files := by
  unfold moveUp
  split <;> rfl

theorem files_moveDown (s : Screen) : s.moveDown.files = s.files := by
  unfold moveDown
  split <;> rfl

/-- No key but one writes to a file. -/
theorem files_press (s : Screen) {k : Key} (h : k ≠ .char 's') : (s.press k).files = s.files := by
  unfold press
  split
  all_goals first
    | exact absurd rfl h
    | rfl
    | exact s.files_moveUp
    | exact s.files_moveDown
    | exact s.files_addSelected
    | exact s.files_removeSelected
    | exact s.files_clear
    | exact s.files_beginRun
    | exact s.files_load

theorem press_save (s : Screen) :
    (s.press (.char 's')).files = (s.workbench.save s.path s.files).2 ∧
      (s.fault? (.key (.char 's')) = none ↔ (s.workbench.save s.path s.files).1 = .ok ()) := by
  have hcall : s.call? (.key (.char 's')) = none := rfl
  rw [fault?_of_none hcall]
  show s.save.files = _ ∧ _
  unfold save fileFault?
  split
  · rename_i hsave
    rw [hsave]
    exact ⟨rfl, iff_of_true rfl rfl⟩
  · rename_i hsave
    rw [hsave]
    exact ⟨rfl, iff_of_false nofun nofun⟩

end Screen

theorem Saves.save_eq (h : Saves path w files files') : w.save path files = (.ok (), files') := by
  cases h with
  | @line c line hline h =>
    rw [hline] at h ⊢
    obtain ⟨hfiles, hok⟩ := c.perform_save path
    rw [hfiles]
    exact Prod.ext (hok.1 h) rfl
  | @key s hpath h =>
    subst hpath
    obtain ⟨hfiles, hok⟩ := s.press_save
    rw [hfiles]
    exact Prod.ext (hok.1 h) rfl

/-- Nothing that is done but to save another program in its place touches a saved program. -/
theorem Deed.keptAt (h : Deed here files files') (hkept : p.KeptAt path here files) :
    p.KeptAt path here files' := by
  cases h with
  | @line other line c hother =>
    by_cases hsave : Command.ofLine line = .save
    · rw [hsave] at hother ⊢
      obtain ⟨hfiles, hok⟩ := c.perform_save other
      rw [hfiles] at hother ⊢
      exact hkept.save fun hsaved => hother rfl (hok.2 hsaved)
    · rwa [c.files_perform other hsave]
  | @key s k hother =>
    by_cases hsave : k = .char 's'
    · subst hsave
      obtain ⟨hfiles, hok⟩ := s.press_save
      rw [hfiles] at hother ⊢
      exact hkept.save fun hsaved => hother rfl (hok.2 hsaved)
    · rwa [s.files_press hsave]

theorem keptAt_of_deeds (h : Relation.ReflTransGen (Deed here) files files')
    (hkept : p.KeptAt path here files) : p.KeptAt path here files' := by
  induction h with
  | refl => exact hkept
  | tail _ hdeed ih => exact hdeed.keptAt ih

/-! ## Loading -/

/-- An answer leaves this workbench, and is met or refused with this fault. -/
def Meets (answer : Except Fault (List Nat) × Workbench) (w : Workbench)
    (fault? : Option Fault) : Prop :=
  (∃ numbers, answer = (.ok numbers, w) ∧ fault? = none) ∨
    ∃ fault, answer = (.error fault, w) ∧ fault? = some fault

theorem Console.meets_load (path : String) (c : Console) :
    Meets (c.workbench.loadFile path c.files) (c.perform path .load).console.workbench
      (c.perform path .load).fault? := by
  show Meets _ (c.load path).console.workbench (c.load path).fault?
  unfold load
  split
  · rename_i fault w hload
    exact .inr ⟨fault, hload, rfl⟩
  · rename_i numbers w hload
    exact .inl ⟨numbers, hload, rfl⟩

theorem Screen.meets_load (s : Screen) :
    Meets (s.workbench.loadFile s.path s.files) (s.press (.char 'l')).workbench
      (s.fault? (.key (.char 'l'))) := by
  show Meets _ s.load.workbench _
  cases hread : SavedProgram.loadFor s.workbench.level.name s.path s.files with
  | error fault =>
    have hfile : s.workbench.loadFile s.path s.files = (.error fault, s.workbench) := by
      rw [Workbench.loadFile, hread]
    rw [load, hfile]
    exact .inr ⟨fault, rfl, by simp [fault?, call?, fileFault?, hread]⟩
  | ok p =>
    have hfile : s.workbench.loadFile s.path s.files = s.workbench.load p.blocks := by
      rw [Workbench.loadFile, hread]
    have hcall : s.call? (.key (.char 'l')) = some (.load p.blocks) := by simp [call?, hread]
    rw [load, hfile]
    rcases hload : s.workbench.load p.blocks with ⟨answer, w⟩
    cases answer with
    | error fault =>
      have hrefused : s.workbench.attempt (.load p.blocks) = (.error fault, w) :=
        Workbench.plain_eq_error_iff.2 hload
      exact .inr ⟨fault, rfl, fault?_of_attempt hcall hrefused⟩
    | ok numbers =>
      have hmet : s.workbench.attempt (.load p.blocks) = (.ok (), w) :=
        Workbench.plain_eq_ok_iff.2 ⟨numbers, hload⟩
      exact .inl ⟨numbers, rfl, fault?_of_ok hcall hmet (by simp [fileFault?, hread])⟩

/-- Either mode loads what the workbench loads, and writes to no file. -/
theorem Loads.meets (h : Loads path w files w' files' fault?) :
    files' = files ∧ Meets (w.loadFile path files) w' fault? := by
  cases h with
  | @line c line hline =>
    rw [hline]
    exact ⟨c.files_perform path nofun, c.meets_load path⟩
  | @key s hpath =>
    subst hpath
    exact ⟨s.files_press (by simp), s.meets_load⟩

theorem loadFile_of_keptAt {level : Level} {ids : List String}
    (hkept : (SavedProgram.ofBlocks level.name ids).KeptAt path here files) :
    w.loadFile path files =
      if w.level = level then w.load ids
      else (.error (.programOfOtherLevel level.name w.level.name), w) := by
  have hstands := hkept.standsIn
  rw [Workbench.loadFile]
  by_cases hlevel : w.level = level
  · have hread := SavedProgram.loadFor_eq_ok_iff.2 ⟨hstands, rfl, congrArg Level.name hlevel.symm⟩
    rw [hread, if_pos hlevel]
    rfl
  · have hname : level.name ≠ w.level.name := fun heq => hlevel (Level.name_injective heq.symm)
    have hread : SavedProgram.loadFor w.level.name path files =
        .error (.programOfOtherLevel level.name w.level.name) := by
      rw [SavedProgram.loadFor_of_standsIn hstands]
      exact (if_pos rfl).trans (if_neg hname)
    rw [hread, if_neg hlevel]

/-- Whatever is done after a program has been saved, by a line or by a key, but to save another in
its place: it is loaded, in either mode, on every workbench of its level without a run going on,
with numbers that no block had before, and on a workbench of another level this is refused and
changes nothing.  A program that was saved is read as it was.  Of all that can be wrong with a file
the first in the order of the checks is the fault. -/
theorem saved_comes_back :
    (∀ {path : String} {saver : Workbench} {files files' : FileSystem}, saver.Reachable →
      Saves path saver files files' →
      ∃ here, files'.place (Route.ofText path) = .ok here ∧
        ∀ {later later' : FileSystem} {loader loaded : Workbench} {fault? : Option Fault},
          Relation.ReflTransGen (Deed here) files' later →
          Loads path loader later loaded later' fault? →
          (∀ {setup : Setup} {w : Workbench} {calls : List Workbench.Call},
            Workbench.create setup = .ok w → loader = w.after calls → loader.isRunning = false →
            loader.level = saver.level →
              fault? = none ∧ loader.Loaded saver.program.blockIds loaded ∧
                ∀ n ∈ loaded.program.numbers, ∀ m ∈ w.told calls, m < n) ∧
          (loader.level ≠ saver.level →
            fault? = some (.programOfOtherLevel saver.level.name loader.level.name) ∧
              loaded = loader ∧ later' = later)) ∧
    (∀ (level path : String) (ids : List String) (files files' : FileSystem),
      (SavedProgram.ofBlocks level ids).save path files = (.ok (), files') →
        SavedProgram.loadFor level path files' = .ok (.ofBlocks level ids)) ∧
    ∀ (level path : String) (files : FileSystem) (fault : Fault),
      SavedProgram.loadFor level path files = .error fault ↔
        MinimalFor (SavedProgram.Violation level path files) SavedProgram.rank fault := by
  refine ⟨?_, ?_, fun _ _ _ _ => SavedProgram.loadFor_eq_error_iff⟩
  · intro path saver files files' hsaver hsaves
    obtain ⟨here, hkept⟩ := SavedProgram.KeptAt.of_save hsaves.save_eq
    refine ⟨here, hkept.place_eq, ?_⟩
    intro later later' loader loaded fault? hdeeds hloads
    obtain ⟨rfl, hmeets⟩ := hloads.meets
    rw [loadFile_of_keptAt (keptAt_of_deeds hdeeds hkept)] at hmeets
    constructor
    · intro setup w calls hcreate hloader hidle hlevel
      have hreachable : loader.Reachable :=
        hloader ▸ (Workbench.Reachable.create hcreate).after calls
      obtain ⟨numbers, w', hload⟩ := hsaver.exists_load hreachable hlevel hidle
      rw [if_pos hlevel, hload] at hmeets
      rcases hmeets with ⟨numbers, ⟨⟩, rfl⟩ | ⟨fault, hfault, -⟩
      · have hloaded := (Workbench.loaded_of_load hload).1
        refine ⟨rfl, hloaded, fun n hn m hm => hloaded.lt_of_mem_numbers hn ?_⟩
        rw [hloader]
        exact Workbench.lt_nextNumber_of_mem_told hm
      · cases hfault
    · intro hlevel
      rw [if_neg hlevel] at hmeets
      rcases hmeets with ⟨numbers, hok, -⟩ | ⟨fault, ⟨⟩, rfl⟩
      · cases hok
      · exact ⟨rfl, rfl, rfl⟩
  · intro level path ids files files' hsave
    obtain ⟨hstands, -⟩ := SavedProgram.standsIn_of_save hsave
    exact SavedProgram.loadFor_eq_ok_iff.2 ⟨hstands, rfl, rfl⟩

/-- A step is saved with a line.  Whatever a key then saves in another file, a line brings the step
back under a new number, and at the crossroads a key does not. -/
theorem saved_comes_back_bridge :
    let added := (Console.bridge.perform "program.json" (.ofLine ":add step-forward")).console
    let files := (added.perform "program.json" (.ofLine ":save")).console.files
    let away := Workbench.fresh (.ofLevel .crossroads)
    let elsewhere := ((Screen.start away files "elsewhere.json").press (.char 's')).files
    let later : Console := ⟨Workbench.bridge.after [.append "celebrate", .clear], elsewhere⟩
    let loaded := (later.perform "program.json" (.ofLine ":load")).console.workbench
    loaded.program.blockIds = ["step-forward"] ∧ (∀ n ∈ loaded.program.numbers, 1 < n) ∧
      (Screen.start away elsewhere "program.json").fault? (.key (.char 'l')) =
        some (.programOfOtherLevel "bridge" "crossroads") := by
  intro added files away elsewhere later loaded
  have hplace : ∀ name ∈ ["program.json", "elsewhere.json"],
      added.files.place (Route.ofText name) = .ok ["home", name] := by
    have hname : ∀ name ∈ ["program.json", "elsewhere.json"],
        (Route.ofText name).pieces = [name] ∧ '\x00' ∉ name.toList ∧ name ∉ ["", ".", ".."] ∧
          name.utf8ByteSize ≤ 255 := by decide +kernel
    intro name hmem
    obtain ⟨hpieces, hnul, hdots, hsize⟩ := hname name hmem
    exact FileSystem.place_of_name ⟨[], rfl⟩ hpieces hnul hdots hsize
  have hadded : added.workbench.Reachable :=
    (Workbench.Reachable.create Workbench.create_bridge).after [.append "step-forward"]
  have hsaves : Saves "program.json" added.workbench added.files files := by
    have hmade : ∃ made, added.files.createFile (Route.ofText "program.json") = .ok made := by
      rw [FileSystem.createFile, hplace _ (by simp)]
      exact ⟨_, rfl⟩
    obtain ⟨made, hmade⟩ := hmade
    have hok := (added.perform_save "program.json").2.2
      (SavedProgram.fst_save_of_createFile added.workbench.saved (by decide +kernel) hmade)
    exact .line (by decide) hok
  obtain ⟨here, hhere, hcomes⟩ := saved_comes_back.1 hadded hsaves
  -- The two names lead to two places, and do so still when files have been written.
  have hfiles : added.files.Grows files := by
    rw [show files = _ from (added.perform_save "program.json").1]
    exact SavedProgram.grows_save _ _ _
  have helsewhere : files.Grows elsewhere := by
    rw [show elsewhere = _ from (Screen.start away files "elsewhere.json").press_save.1]
    exact SavedProgram.grows_save _ _ _
  have hother : elsewhere.place (Route.ofText "elsewhere.json") ≠ .ok here := by
    have hfirst := FileSystem.place_of_grows hfiles (hplace "program.json" (by simp))
    have hsecond := FileSystem.place_of_grows (hfiles.trans helsewhere)
      (hplace "elsewhere.json" (by simp))
    cases hhere.symm.trans hfirst
    rw [hsecond]
    decide
  have hdeeds : Relation.ReflTransGen (Deed here) files elsewhere :=
    .single (.key fun _ _ => hother)
  have hload : Loads "program.json" later.workbench later.files loaded _ _ :=
    .line (show Command.ofLine ":load" = .load by decide)
  obtain ⟨hsame, -⟩ := hcomes hdeeds hload
  have hlater : later.workbench = Workbench.bridge.after [.append "celebrate", .clear] := rfl
  obtain ⟨-, hloaded, hnew⟩ := hsame Workbench.create_bridge hlater rfl rfl
  have haway : Loads "program.json" away elsewhere _ _ _ :=
    .key (show (Screen.start away elsewhere "program.json").path = "program.json" from rfl)
  obtain ⟨-, hrefused⟩ := hcomes hdeeds haway
  obtain ⟨hfault, -, -⟩ := hrefused (by decide)
  exact ⟨hloaded.blockIds_eq.trans (by decide +kernel),
    fun n hn => hnew n hn 1 (by decide +kernel), hfault⟩

end Play

end Spellbook

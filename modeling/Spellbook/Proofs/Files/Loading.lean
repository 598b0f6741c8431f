import Spellbook.Proofs.Checks
import Spellbook.Proofs.Files.Placing
import Spellbook.Proofs.Written.RoundTrip
set_option autoImplicit false

/-!
# Loading saved programs

A program is loaded just if it stands in the file in the current form and for the level that is
asked for (`SavedProgram.loadFor_eq_ok_iff`).  Otherwise the fault is the first in a fixed order of
all that is wrong with the file (`SavedProgram.loadFor_eq_error_iff`).  A program that was saved
stands in its file, and no other file has changed (`SavedProgram.standsIn_of_save`).
-/

namespace Spellbook

namespace FileSystem

variable {s : FileSystem} {path text : String}

/-- A path by which a text is read leads somewhere. -/
theorem has_of_readText (h : s.readText path = .ok text) : s.has path = true := by
  unfold readText at h
  unfold has
  cases hfound : s.locate path with
  | ok t => rfl
  | error e =>
    rw [hfound] at h
    cases h

end FileSystem

namespace SavedProgram

variable {p q : SavedProgram} {level path : String} {files files' : FileSystem}
  {fault other : Fault}

/-! ## What is promised -/

/-- A program stands in the file that a path leads to. -/
def StandsIn (p : SavedProgram) (path : String) (files : FileSystem) : Prop :=
  ∃ written, files.readText path = .ok written ∧ (Json.ofText? written).bind ofJson? = some p

/-- The codes of all that can be wrong with the file of a program, in the order in which it is
checked. -/
def checks : List String :=
  ["CLI_PROGRAM_NOT_FOUND", "CLI_PROGRAM_READ", "CLI_PROGRAM_INVALID", "CLI_PROGRAM_SCHEMA",
    "CLI_PROGRAM_LEVEL_MISMATCH"]

/-- The place of the code of a fault among the checks. -/
def rank (fault : Fault) : Nat := checks.idxOf fault.code

/-- Something for which the file of a program is not loaded. -/
inductive Violation (level path : String) (files : FileSystem) : Fault → Prop
  | missing (h : files.has path = false) : Violation level path files (.programMissing path)
  | unreadable {e : FileError} (h : files.readText path = .error e) :
      Violation level path files (.programUnreadable e)
  | malformed {written : String} (h : files.readText path = .ok written)
      (hnone : ∀ p : SavedProgram, ¬ p.StandsIn path files) :
      Violation level path files (.programMalformed (troubleOf written))
  | schema {p : SavedProgram} (h : p.StandsIn path files) (hschema : p.schema ≠ currentSchema) :
      Violation level path files (.programSchema p.schema)
  | otherLevel {p : SavedProgram} (h : p.StandsIn path files) (hlevel : p.level ≠ level) :
      Violation level path files (.programOfOtherLevel p.level level)

/-! ## The order of the checks -/

/-- The file passes the check in this place. -/
def Passes (level path : String) (files : FileSystem) : Nat → Prop
  | 0 => files.has path = true
  | 1 => ∃ written, files.readText path = .ok written
  | 2 => ∃ p : SavedProgram, p.StandsIn path files
  | 3 => ∀ p : SavedProgram, p.StandsIn path files → p.schema = currentSchema
  | _ => ∀ p : SavedProgram, p.StandsIn path files → p.level = level

theorem StandsIn.unique (h : p.StandsIn path files) (h' : q.StandsIn path files) : p = q := by
  obtain ⟨written, hwritten, hp⟩ := h
  obtain ⟨written', hwritten', hq⟩ := h'
  cases hwritten.symm.trans hwritten'
  exact Option.some.inj (hp.symm.trans hq)

theorem Violation.not_passes (h : Violation level path files fault) :
    ¬ Passes level path files (rank fault) := by
  cases h with
  | missing h => exact fun hpasses => Bool.false_ne_true (h.symm.trans hpasses)
  | unreadable h =>
    rintro ⟨written, hwritten⟩
    cases h.symm.trans hwritten
  | malformed h hnone => exact fun ⟨p, hp⟩ => hnone p hp
  | schema h hschema => exact fun hpasses => hschema (hpasses _ h)
  | otherLevel h hlevel => exact fun hpasses => hlevel (hpasses _ h)

theorem Violation.unique (h : Violation level path files fault)
    (h' : Violation level path files other) (hrank : rank fault = rank other) :
    fault = other := by
  cases h with
  | missing h =>
    cases h' with
    | missing h' => rfl
    | _ => cases hrank
  | unreadable h =>
    cases h' with
    | unreadable h' => rw [Except.error.inj (h.symm.trans h')]
    | _ => cases hrank
  | malformed h hnone =>
    cases h' with
    | malformed h' hnone' => rw [Except.ok.inj (h.symm.trans h')]
    | _ => cases hrank
  | schema h hschema =>
    cases h' with
    | schema h' hschema' => rw [h.unique h']
    | _ => cases hrank
  | otherLevel h hlevel =>
    cases h' with
    | otherLevel h' hlevel' => rw [h.unique h']
    | _ => cases hrank

theorem ordered (level path : String) (files : FileSystem) :
    Checks (Violation level path files) rank (Passes level path files) :=
  ⟨Violation.not_passes, Violation.unique⟩

/-- Of a program that stands in the file only the schema and the level are left to check. -/
theorem loadFor_of_standsIn (h : p.StandsIn path files) :
    loadFor level path files =
      if p.schema = currentSchema then
        if p.level = level then .ok p else .error (.programOfOtherLevel p.level level)
      else .error (.programSchema p.schema) := by
  obtain ⟨written, hwritten, hp⟩ := h
  have hload : load path files =
      if p.schema = currentSchema then .ok p else .error (.programSchema p.schema) := by
    simp [load, FileSystem.has_of_readText hwritten, hwritten, hp]
  rw [loadFor, hload]
  by_cases hschema : p.schema = currentSchema
  · rw [if_pos hschema, if_pos hschema]
  · rw [if_neg hschema, if_neg hschema]

/-- A file is loaded, or the first is told that is wrong with it. -/
theorem settles (level path : String) (files : FileSystem) :
    Settles (Violation level path files) rank (Passes level path files)
      (loadFor level path files) := by
  have hordered := ordered level path files
  cases hhas : files.has path with
  | false =>
    rw [show loadFor level path files = .error (.programMissing path) by
      simp [loadFor, load, hhas]]
    exact hordered.minimalFor (.missing hhas) rfl nofun
  | true =>
  have hthere : ∀ before < 1, Passes level path files before :=
    Nat.forall_lt_succ_right.2 ⟨nofun, hhas⟩
  cases hread : files.readText path with
  | error e =>
    rw [show loadFor level path files = .error (.programUnreadable e) by
      simp [loadFor, load, hhas, hread]]
    exact hordered.minimalFor (.unreadable hread) rfl hthere
  | ok written =>
  have hreadable : ∀ before < 2, Passes level path files before :=
    Nat.forall_lt_succ_right.2 ⟨hthere, written, hread⟩
  cases hprogram : (Json.ofText? written).bind ofJson? with
  | none =>
    rw [show loadFor level path files = .error (.programMalformed (troubleOf written)) by
      simp [loadFor, load, hhas, hread, hprogram]]
    refine hordered.minimalFor (.malformed hread ?_) rfl hreadable
    rintro p ⟨written', hwritten', hp⟩
    cases hread.symm.trans hwritten'
    cases hprogram.symm.trans hp
  | some p =>
  have hstands : p.StandsIn path files := ⟨written, hread, hprogram⟩
  have hformed : ∀ before < 3, Passes level path files before :=
    Nat.forall_lt_succ_right.2 ⟨hreadable, p, hstands⟩
  rw [loadFor_of_standsIn hstands]
  by_cases hschema : p.schema = currentSchema
  swap
  · rw [if_neg hschema]
    exact hordered.minimalFor (.schema hstands hschema) rfl hformed
  have hcurrent : ∀ before < 4, Passes level path files before :=
    Nat.forall_lt_succ_right.2 ⟨hformed, fun q hq => hstands.unique hq ▸ hschema⟩
  rw [if_pos hschema]
  by_cases hlevel : p.level = level
  swap
  · rw [if_neg hlevel]
    exact hordered.minimalFor (.otherLevel hstands hlevel) rfl hcurrent
  rw [if_pos hlevel]
  intro place
  match place with
  | 0 => exact hcurrent 0 (by decide)
  | 1 => exact hcurrent 1 (by decide)
  | 2 => exact hcurrent 2 (by decide)
  | 3 => exact hcurrent 3 (by decide)
  | _ + 4 => exact fun q hq => hstands.unique hq ▸ hlevel

/-- The fault with which a file is not loaded is the first in its order of all that is wrong. -/
theorem loadFor_eq_error_iff :
    loadFor level path files = .error fault ↔ MinimalFor (Violation level path files) rank fault :=
  (ordered level path files).eq_error_iff (settles level path files)

theorem loadFor_eq_ok_iff :
    loadFor level path files = .ok p ↔
      p.StandsIn path files ∧ p.schema = currentSchema ∧ p.level = level := by
  constructor
  · intro h
    have hpasses := ((ordered level path files).exists_ok_iff (settles level path files)).1 ⟨p, h⟩
    obtain ⟨q, hq⟩ := hpasses 2
    have hschema := hpasses 3 q hq
    have hlevel := hpasses 4 q hq
    rw [loadFor_of_standsIn hq, if_pos hschema, if_pos hlevel] at h
    cases h
    exact ⟨hq, hschema, hlevel⟩
  · rintro ⟨hstands, hschema, hlevel⟩
    rw [loadFor_of_standsIn hstands, if_pos hschema, if_pos hlevel]

/-! ## Saving -/

/-- A program that is not saved leaves its file unwritable as the reason, and every file as it
was. -/
theorem of_save_error (h : p.save path files = (.error fault, files')) :
    (∃ e, fault = .programUnwritable e) ∧ ∀ apart, files.SameFiles files' apart := by
  unfold save FileSystem.writeText at h
  rcases hcreate : files.create path with ⟨_ | ⟨⟨⟩⟩, made⟩
  · rw [hcreate] at h
    cases h
    exact ⟨⟨_, rfl⟩, fun apart => FileSystem.sameFiles_of_create_error hcreate⟩
  · rw [hcreate] at h
    cases h

/-- To save a program by a path without folders no folder needs to be made. -/
theorem fst_save_of_createFile (p : SavedProgram) {made : FileSystem}
    (habove : ((Route.ofText path).parent?.getD default).isEmpty = true)
    (hmade : files.createFile (Route.ofText path) = .ok made) : (p.save path files).1 = .ok () := by
  have hensured :
      files.ensureFolders ((Route.ofText path).parent?.getD default) = (.ok (), files) := by
    rw [FileSystem.ensureFolders, if_pos habove]
  rw [save, FileSystem.writeText, FileSystem.create, hensured]
  simp only [hmade]

/-- A program that is saved stands in its file, and every other file is as it was. -/
theorem standsIn_of_save (h : p.save path files = (.ok (), files')) :
    p.StandsIn path files' ∧
      ∃ here, files'.place (Route.ofText path) = .ok here ∧ files.SameFiles files' [here] := by
  unfold save FileSystem.writeText at h
  rcases hcreate : files.create path with ⟨_ | ⟨⟨⟩⟩, made⟩
  · rw [hcreate] at h
    cases h
  · rw [hcreate] at h
    cases h
    obtain ⟨hread, hsame⟩ := FileSystem.readText_of_create hcreate p.toJson.pretty
    exact ⟨⟨_, hread, p.holds_toJson.ofText?_pretty (by decide)⟩, hsame⟩

end SavedProgram

end Spellbook

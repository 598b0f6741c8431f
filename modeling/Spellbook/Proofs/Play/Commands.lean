import Spellbook.Play.Console
import Spellbook.Proofs.Catalog.Lookup
import Spellbook.Proofs.Files.Loading
import Spellbook.Proofs.Workbench.Locking
set_option autoImplicit false

/-!
# What the line mode makes of its commands

A command shows something, is refused, works on the file of the program, adds blocks or makes one
call on the workbench; `Answers` lists all of it and `answers_perform` reads it off, so no later
proof opens the commands.  Blocks are added up to the first that is unknown
(`appendAll_of_firstUnknown`).
-/

namespace Spellbook

/-- The codes of the faults for which a run, or the want of one, is the reason. -/
def Fault.runCodes : List String :=
  ["LEVEL_PROGRAM_LOCKED", "LEVEL_RUN_IN_PROGRESS", "LEVEL_NO_ACTIVE_RUN"]

namespace SavedProgram

variable {p : SavedProgram} {level path : String} {files files' : FileSystem} {fault : Fault}

theorem Violation.code_not_mem (h : Violation level path files fault) :
    fault.code ∉ Fault.runCodes := by
  cases h <;> simp [Fault.code, Fault.runCodes]

theorem code_of_save_error (h : p.save path files = (.error fault, files')) :
    fault.code ∉ Fault.runCodes := by
  obtain ⟨⟨e, rfl⟩, -⟩ := of_save_error h
  simp [Fault.code, Fault.runCodes]

end SavedProgram

namespace Workbench

variable {w w' : Workbench} {c : Call} {ids known later : List String} {id : String}
  {fault : Fault} {blocks : List Block}

/-- Only to begin a run brings one about. -/
theorem isRunning_of_attempt_ok (hidle : w.isRunning = false) (hne : c ≠ .start)
    (h : w.attempt c = (.ok (), w')) : w'.isRunning = false := by
  have hserved := served_call w c
  rw [call_of_attempt h] at hserved
  rw [isRunning_eq_false_iff]
  intro r hrun
  cases hserved with
  | kept => exact isRunning_eq_false_iff.1 hidle r hrun
  | edited _ _ => exact isRunning_eq_false_iff.1 hidle r hrun
  | restored _ _ => cases hrun
  | redrawn _ => cases hrun
  | begun _ => exact absurd rfl hne
  | stepped hbefore hstep =>
    obtain ⟨line, round, hmade⟩ := Run.made_of_step_eq hstep
    have hover := isRunning_eq_false_iff.1 hidle _ hbefore
    rw [hmade.isOver_eq] at hover
    cases hover
  | found hbefore hstep =>
    cases hrun
    obtain ⟨-, rfl, -, hfinal⟩ := Run.of_step_eq_finished hstep
    exact hfinal
  | stopped hbefore =>
    cases hrun
    exact Run.isOver_cancel _
  | ended _ =>
    cases hrun
    exact Rules.isOver_play ..

theorem append_eq_error_iff (hidle : w.isRunning = false) :
    w.append id = (.error fault, w') ↔
      (¬ w.catalog.Has id ∧ fault = .blockUnknown id w.catalog.level) ∧ w' = w := by
  rw [← Catalog.get_eq_error_iff, append, if_neg (by simp [hidle])]
  cases w.catalog.get id <;> simp [eq_comm]

/-- Blocks with these ids have been added with new numbers, and nothing else is changed. -/
structure Extended (w : Workbench) (ids : List String) (w' : Workbench) : Prop where
  placed_prefix : w.program.placed <+: w'.program.placed
  blockIds_eq : w'.program.blockIds = w.program.blockIds ++ ids
  numbers_eq : w'.program.numbers =
    w.program.numbers ++ List.range' w.program.nextNumber ids.length
  nextNumber_eq : w'.program.nextNumber = w.program.nextNumber + ids.length
  eq_program : w' = { w with program := w'.program }

theorem Extended.isRunning_eq (h : w.Extended ids w') : w'.isRunning = w.isRunning := by
  rw [h.eq_program]
  rfl

theorem extended_of_getAll (h : w.catalog.getAll ids = .ok blocks) :
    w.Extended ids { w with program := w.program.appendAll blocks } := by
  obtain ⟨rfl, -⟩ := Catalog.of_getAll h
  refine ⟨?_, ?_, ?_, ?_, rfl⟩
  · rw [Program.placed_appendAll]
    exact List.prefix_append _ _
  · exact Program.blockIds_appendAll _ _
  · rw [List.length_map]
    exact Program.numbers_appendAll _ _
  · rw [← Program.after_map_append, Program.nextNumber_after, Program.length_given_map_append,
      List.length_map]

end Workbench

namespace Play

namespace Command

/-- The ids that a command adds. -/
def adds? : Command → Option (List String)
  | add ids | blocks ids => some ids
  | _ => none

/-- Whether a command may change the workbench. -/
def changes : Command → Bool
  | add _ | blocks _ | remove _ | clear | load | run | reset | seed _ => true
  | blank | help | catalog | list | save | quit | unknown _ => false

end Command

namespace Console

variable {path : String} {c : Console} {command : Command} {ids known later : List String}
  {id : String} {fault : Fault} {blocks : List Block}

/-! ## Adding blocks -/

theorem appendAll_append (hidle : c.workbench.isRunning = false)
    (h : c.workbench.catalog.getAll known = .ok blocks) :
    c.appendAll (known ++ ids) =
      ({ c with
        workbench := { c.workbench with
          program := c.workbench.program.appendAll blocks } } : Console).appendAll ids := by
  obtain ⟨rfl, hfound⟩ := Catalog.of_getAll h
  clear h
  induction blocks generalizing c with
  | nil => rfl
  | cons b rest ih =>
    have hb := hfound b List.mem_cons_self
    have happend : c.workbench.append b.id = (.ok c.workbench.program.nextNumber,
        { c.workbench with program := c.workbench.program.append b }) :=
      Workbench.append_eq_ok_iff.2 ⟨hidle, b, hb, rfl, rfl⟩
    rw [List.map_cons, List.cons_append, appendAll, happend]
    exact ih hidle fun b' hb' => hfound b' (List.mem_cons_of_mem _ hb')

/-- Blocks that are all known are all added. -/
theorem appendAll_of_forall (hidle : c.workbench.isRunning = false)
    (h : ∀ id ∈ ids, c.workbench.catalog.Has id) :
    ∃ w, c.workbench.Extended ids w ∧
      c.appendAll ids = ({ c with workbench := w } : Console).showProgram := by
  obtain ⟨blocks, hblocks⟩ := Catalog.exists_getAll_iff.2 h
  refine ⟨_, Workbench.extended_of_getAll hblocks, ?_⟩
  rw [← List.append_nil ids, appendAll_append hidle hblocks, appendAll]

/-- Blocks are added up to the first that is unknown. -/
theorem appendAll_of_unknown (hidle : c.workbench.isRunning = false)
    (hknown : ∀ id ∈ known, c.workbench.catalog.Has id) (hid : ¬ c.workbench.catalog.Has id) :
    ∃ w, c.workbench.Extended known w ∧
      c.appendAll (known ++ id :: later) = ({ c with workbench := w } : Console).refuse
        (.blockUnknown id c.workbench.catalog.level) := by
  obtain ⟨blocks, hblocks⟩ := Catalog.exists_getAll_iff.2 hknown
  refine ⟨_, Workbench.extended_of_getAll hblocks, ?_⟩
  have hextended : ({ c.workbench with
      program := c.workbench.program.appendAll blocks } : Workbench).isRunning = false := hidle
  rw [appendAll_append hidle hblocks, appendAll,
    (Workbench.append_eq_error_iff hextended).2 ⟨⟨hid, rfl⟩, rfl⟩]

/-! ## One command -/

/-- All that a command can make of a console on which no run is going on. -/
inductive Answers (path : String) (c : Console) : Command → Reply → Prop
  | told {command : Command} {lines : List String} : Answers path c command (c.answer lines)
  /-- The command is refused before it changes anything. -/
  | refused {command : Command} {fault : Fault} (hcode : fault.code ∉ Fault.runCodes) :
      Answers path c command (c.refuse fault)
  | saved {lines : List String} {files : FileSystem}
      (h : c.workbench.save path c.files = (.ok (), files)) :
      Answers path c .save (({ c with files := files } : Console).answer lines)
  | unsaved {fault : Fault} {files : FileSystem}
      (h : c.workbench.save path c.files = (.error fault, files)) :
      Answers path c .save (({ c with files := files } : Console).refuse fault)
  /-- One call has been made on the workbench. -/
  | met {command : Command} {call : Workbench.Call} {w : Workbench} {lines : List String}
      (hchanges : command.changes = true) (hcall : call ≠ .start)
      (h : c.workbench.attempt call = (.ok (), w)) :
      Answers path c command (({ c with workbench := w } : Console).answer lines)
  | added {command : Command} {ids lines : List String} {w : Workbench}
      (hadds : command.adds? = some ids) (h : c.workbench.Extended ids w) :
      Answers path c command (({ c with workbench := w } : Console).answer lines)
  /-- Blocks have been added up to the first that is unknown. -/
  | halted {command : Command} {ids known : List String} {id : String} {w : Workbench}
      (hadds : command.adds? = some ids) (hid : FirstUnknown c.workbench.catalog.Has ids id)
      (h : c.workbench.Extended known w) :
      Answers path c command (({ c with workbench := w } : Console).refuse
        (.blockUnknown id c.workbench.catalog.level))

theorem answers_appendAll (hidle : c.workbench.isRunning = false)
    (hadds : command.adds? = some ids) : c.Answers path command (c.appendAll ids) := by
  cases hget : c.workbench.catalog.getAll ids with
  | ok blocks =>
    obtain ⟨w, hw, heq⟩ := appendAll_of_forall hidle (Catalog.exists_getAll_iff.1 ⟨blocks, hget⟩)
    rw [heq]
    exact .added hadds hw
  | error fault =>
    obtain ⟨id, hunknown, -⟩ := Catalog.getAll_eq_error_iff.1 hget
    have hsplit := hunknown
    obtain ⟨known, later, rfl, hknown, hid⟩ := hsplit
    obtain ⟨w, hw, heq⟩ := appendAll_of_unknown hidle hknown hid
    rw [heq]
    exact .halted hadds hunknown hw

/-- Unless no id is given, a command that adds blocks adds them one by one. -/
theorem perform_of_adds? (hadds : command.adds? = some ids) (hne : ids ≠ []) (path : String) :
    c.perform path command = c.appendAll ids := by
  cases command with
  | add given =>
    cases hadds
    obtain ⟨first, rest, rfl⟩ := List.exists_cons_of_ne_nil hne
    rfl
  | blocks given =>
    cases hadds
    rfl
  | _ => cases hadds

theorem answers_remove (hidle : c.workbench.isRunning = false) (args : List String) :
    c.Answers path (.remove args) (c.remove args) := by
  unfold remove
  split
  · exact .refused (by simp [Fault.code, Fault.runCodes])
  split
  · exact .refused (by simp [Fault.code, Fault.runCodes])
  rename_i placed _
  have hremove : c.workbench.remove placed.number =
      (.ok (c.workbench.program.has placed.number),
        { c.workbench with program := c.workbench.program.remove placed.number }) :=
    Workbench.remove_eq_ok_iff.2 ⟨hidle, rfl, rfl⟩
  have hcall : c.workbench.attempt (.remove placed.number) = (.ok (), _) :=
    Workbench.plain_eq_ok_iff.2 ⟨_, hremove⟩
  rw [hremove]
  exact .met rfl (by simp) hcall

theorem answers_reseed (hidle : c.workbench.isRunning = false) (args : List String) :
    c.Answers path (.seed args) (c.reseed args) := by
  unfold reseed
  split
  · exact .refused (by simp [Fault.code, Fault.runCodes])
  rename_i seed _
  have hreseed := Workbench.reseed_eq hidle seed
  have hcall : c.workbench.attempt (.reseed seed) = (.ok (), _) := hreseed
  rw [hreseed]
  exact .met rfl (by simp) hcall

theorem answers_clear (hidle : c.workbench.isRunning = false) :
    c.Answers path .clear c.clear := by
  have hclear : c.workbench.clear =
      (.ok (), { c.workbench with program := c.workbench.program.clear }) :=
    Workbench.clear_eq_ok_iff.2 ⟨hidle, rfl⟩
  have hcall : c.workbench.attempt .clear = (.ok (), _) := hclear
  rw [clear, hclear]
  exact .met rfl (by simp) hcall

theorem answers_run (hidle : c.workbench.isRunning = false) : c.Answers path .run c.run := by
  have hplay := Workbench.play_eq hidle .never
  have hcall : c.workbench.attempt (.play .never) = (.ok (), c.workbench.played _) :=
    Workbench.plain_eq_ok_iff.2 ⟨_, hplay⟩
  rw [run, hplay]
  exact .met rfl (by simp) hcall

theorem answers_save (path : String) (c : Console) : c.Answers path .save (c.save path) := by
  unfold save
  split
  · rename_i hsave
    exact .saved hsave
  · rename_i hsave
    exact .unsaved hsave

theorem answers_load (hidle : c.workbench.isRunning = false) :
    c.Answers path .load (c.load path) := by
  unfold load
  rw [Workbench.loadFile]
  cases hread : SavedProgram.loadFor c.workbench.level.name path c.files with
  | error fault =>
    exact .refused (SavedProgram.loadFor_eq_error_iff.1 hread).1.code_not_mem
  | ok p =>
    dsimp only
    rcases hload : c.workbench.load p.blocks with ⟨answer, w⟩
    cases answer with
    | error fault =>
      obtain ⟨⟨id, -, rfl⟩, rfl⟩ := (Workbench.load_eq_error_iff hidle).1 hload
      exact .refused (by simp [Fault.code, Fault.runCodes])
    | ok numbers =>
      have hcall : c.workbench.attempt (.load p.blocks) = (.ok (), w) :=
        Workbench.plain_eq_ok_iff.2 ⟨numbers, hload⟩
      exact .met rfl (by simp) hcall

theorem answers_perform (hidle : c.workbench.isRunning = false) (command : Command) :
    c.Answers path command (c.perform path command) := by
  cases command with
  | add ids =>
    cases ids with
    | nil => exact .refused (by simp [Fault.code, Fault.runCodes])
    | cons id rest => exact answers_appendAll hidle rfl
  | blocks ids => exact answers_appendAll hidle rfl
  | remove args => exact answers_remove hidle args
  | clear => exact answers_clear hidle
  | run => exact answers_run hidle
  | reset =>
    have hcall : c.workbench.attempt .reset = (.ok (), c.workbench.reset) := rfl
    exact .met rfl (by simp) hcall
  | seed args => exact answers_reseed hidle args
  | save => exact answers_save path c
  | load => exact answers_load hidle
  | unknown word => exact .refused (by simp [Fault.code, Fault.runCodes])
  | blank => exact .told
  | help => exact .told
  | catalog => exact .told
  | list => exact .told
  | quit => exact .told

end Console

end Play

end Spellbook

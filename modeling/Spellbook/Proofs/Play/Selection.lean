import Spellbook.Play.View
import Spellbook.Proofs.Play.Inputs
import Spellbook.Proofs.Workbench.Numbering
set_option autoImplicit false

/-!
# What is selected

An input makes one call on the workbench at most, and of the two selections it moves one or puts
both back inside their lists (`Screen.steers_take`).  So a selection never leaves its list, however
the program grows, shrinks or is replaced.  The rows of a list that are shown are always those
around the selected one (`frames_window`), so it is always in sight (`Screen.after_in_sight`).
-/

namespace Spellbook

theorem Workbench.catalog_call (w : Workbench) (c : Call) : (w.call c).catalog = w.catalog := by
  have hserved := served_call w c
  generalize w.call c = w' at hserved
  cases hserved <;> rfl

theorem Workbench.program_call_of_edits {w : Workbench} {c : Call}
    (h : c.edits w.catalog = []) : (w.call c).program = w.program := by
  have hchanges : w.changes c = [] := by
    rw [changes]
    split
    · exact h
    · rfl
  rw [program_call, hchanges]
  rfl

namespace Play

/-! ## The rows that are shown -/

namespace Screen

variable {s s' : Screen} {i : Input} {c : Workbench.Call}

/-! ## What an input makes of the selections -/

/-- An input makes its call on the workbench, if it has one, and no selection is moved further down
than to the end of its list. -/
structure Steers (s : Screen) (i : Input) (s' : Screen) : Prop where
  workbench_eq : s'.workbench = (s.call? i).elim s.workbench s.workbench.call
  catalogIndex_le : s'.catalogIndex ≤ max s.catalogIndex (s.workbench.catalog.blocks.length - 1)
  programIndex_le : s'.programIndex ≤ s'.workbench.program.length - 1 ∨
    s'.programIndex ≤ s.programIndex ∧ s'.workbench.program = s.workbench.program

theorem steers_of_none (hcall : s.call? i = none) (hworkbench : s'.workbench = s.workbench)
    (hcatalogIndex : s'.catalogIndex ≤ s.catalogIndex)
    (hprogramIndex : s'.programIndex ≤ s.programIndex) : s.Steers i s' where
  workbench_eq := by rw [hcall, hworkbench, Option.elim_none]
  catalogIndex_le := Nat.le_trans hcatalogIndex (Nat.le_max_left _ _)
  programIndex_le := .inr ⟨hprogramIndex, by rw [hworkbench]⟩

/-- A call that is no edit leaves the selections where they are. -/
theorem steers_of_call (hcall : s.call? i = some c) (hedits : c.edits s.workbench.catalog = [])
    (hworkbench : s'.workbench = s.workbench.call c)
    (hcatalogIndex : s'.catalogIndex = s.catalogIndex)
    (hprogramIndex : s'.programIndex = s.programIndex) : s.Steers i s' where
  workbench_eq := by rw [hcall, hworkbench, Option.elim_some]
  catalogIndex_le := hcatalogIndex ▸ Nat.le_max_left _ _
  programIndex_le :=
    .inr ⟨Nat.le_of_eq hprogramIndex, by rw [hworkbench, Workbench.program_call_of_edits hedits]⟩

/-- An edit puts the selection of the program back into the program. -/
theorem steers_of_edit {done : Workbench → Screen} (hcall : s.call? i = some c)
    (hworkbench : ∀ w, (done w).workbench = w)
    (hcatalogIndex : ∀ w, (done w).catalogIndex ≤ s.catalogIndex)
    (hprogramIndex : ∀ w, (done w).programIndex ≤ w.program.length - 1) :
    s.Steers i (match s.workbench.attempt c with
      | (.error fault, w) => ({ s with workbench := w } : Screen).refuse fault
      | (.ok (), w) => done w) := by
  rcases s.workbench.attempt_cases c with hok | ⟨fault, hrefused⟩
  · rw [hok]
    refine ⟨by rw [hcall, Option.elim_some, hworkbench],
      Nat.le_trans (hcatalogIndex _) (Nat.le_max_left _ _), .inl ?_⟩
    rw [hworkbench]
    exact hprogramIndex _
  · rw [hrefused]
    have hkept : s.workbench.call c = s.workbench := Workbench.call_of_attempt hrefused
    exact ⟨by rw [hcall, Option.elim_some, hkept]; rfl, Nat.le_max_left _ _,
      .inr ⟨Nat.le_refl _, rfl⟩⟩

theorem steers_addSelected (s : Screen) : s.Steers (.key .enter) s.addSelected := by
  cases hfocus : s.focus with
  | program =>
    have hcall : s.call? (.key .enter) = none := by simp [call?, hfocus]
    rw [addSelected, hfocus]
    exact steers_of_none hcall rfl (Nat.le_refl _) (Nat.le_refl _)
  | catalog =>
    cases hb : s.workbench.catalog.blocks[s.catalogIndex]? with
    | none =>
      have hcall : s.call? (.key .enter) = none := by simp [call?, hfocus, hb]
      rw [addSelected, hfocus, hb]
      exact steers_of_none hcall rfl (Nat.le_refl _) (Nat.le_refl _)
    | some b =>
      have hcall : s.call? (.key .enter) = some (.append b.id) := by simp [call?, hfocus, hb]
      rw [addSelected_of_block hfocus hb]
      let added (w : Workbench) : Screen := ({ s with
        workbench := w, programIndex := w.program.length - 1 } : Screen).say s!"added {b.id}"
      have hadded : ∀ w, (added w).programIndex ≤ w.program.length - 1 := fun _ => Nat.le_refl _
      exact steers_of_edit hcall (fun _ => rfl) (fun _ => Nat.le_refl _) hadded

theorem steers_removeSelected
    (hcall : s.call? i = s.workbench.program.placed[s.programIndex]?.map
      (fun placed => .remove placed.number)) : s.Steers i s.removeSelected := by
  cases hplaced : s.workbench.program.placed[s.programIndex]? with
  | none =>
    rw [hplaced, Option.map_none] at hcall
    rw [removeSelected, hplaced]
    exact steers_of_none hcall rfl (Nat.le_refl _) (Nat.le_refl _)
  | some placed =>
    rw [hplaced, Option.map_some] at hcall
    rw [removeSelected_of_placed hplaced]
    exact steers_of_edit hcall (fun _ => rfl) (fun _ => Nat.min_le_left _ _)
      (fun _ => Nat.min_le_right _ _)

theorem steers_load (s : Screen) : s.Steers (.key (.char 'l')) s.load := by
  cases hread : SavedProgram.loadFor s.workbench.level.name s.path s.files with
  | error fault =>
    have hcall : s.call? (.key (.char 'l')) = none := by simp [call?, hread]
    rw [load, Workbench.loadFile, hread]
    exact steers_of_none hcall rfl (Nat.le_refl _) (Nat.le_refl _)
  | ok p =>
    have hcall : s.call? (.key (.char 'l')) = some (.load p.blocks) := by simp [call?, hread]
    rw [load_of_loadFor hread]
    exact steers_of_edit hcall (fun _ => rfl) (fun _ => Nat.min_le_left _ _)
      (fun _ => Nat.min_le_right _ _)

theorem steers_save (s : Screen) : s.Steers (.key (.char 's')) s.save := by
  unfold save
  split <;> exact steers_of_none rfl rfl (Nat.le_refl _) (Nat.le_refl _)

theorem steers_beginRun (s : Screen) : s.Steers (.key (.char 'r')) s.beginRun := by
  unfold beginRun
  split
  · rename_i hstart
    have hmade : s.workbench.start.2 = _ := congrArg Prod.snd hstart
    exact steers_of_call rfl rfl hmade.symm rfl rfl
  · rename_i hstart
    have hmade : s.workbench.start.2 = _ := congrArg Prod.snd hstart
    exact steers_of_call rfl rfl hmade.symm rfl rfl

theorem steers_moveUp (s : Screen) : s.Steers (.key .up) s.moveUp := by
  unfold moveUp
  split
  · exact steers_of_none rfl rfl (Nat.sub_le _ _) (Nat.le_refl _)
  · exact steers_of_none rfl rfl (Nat.le_refl _) (Nat.sub_le _ _)

theorem steers_moveDown (s : Screen) : s.Steers (.key .down) s.moveDown := by
  unfold moveDown
  split <;>
    exact ⟨rfl, Nat.le_trans (Nat.min_le_right _ _) (Nat.le_max_right _ _),
      .inl (Nat.min_le_right _ _)⟩

theorem steers_press (s : Screen) (k : Key) : s.Steers (.key k) (s.press k) := by
  unfold press
  -- The keys come in the order of `press`, and the last case is that of all other keys.
  split
  · exact steers_of_none rfl rfl (Nat.le_refl _) (Nat.le_refl _)
  · exact steers_of_none rfl rfl (Nat.le_refl _) (Nat.le_refl _)
  · exact s.steers_moveUp
  · exact s.steers_moveDown
  · exact s.steers_addSelected
  · exact steers_removeSelected rfl
  · exact steers_removeSelected rfl
  · exact steers_removeSelected rfl
  · rw [clear_eq]
    exact steers_of_edit rfl (fun _ => rfl) (fun _ => Nat.min_le_left _ _)
      (fun _ => Nat.min_le_right _ _)
  · exact s.steers_beginRun
  · exact steers_of_call rfl rfl rfl rfl rfl
  · exact steers_of_call rfl rfl rfl rfl rfl
  · exact s.steers_save
  · exact s.steers_load
  · have hcall : s.call? (.key k) = none := by
      unfold call?
      split <;> simp_all
    exact steers_of_none hcall rfl (Nat.le_refl _) (Nat.le_refl _)

theorem steers_tick (hrunning : s.running = true) : s.Steers (.tick true) s.tick := by
  have hcall := call?_tick hrunning
  unfold tick
  simp only [hrunning, Bool.not_true, Bool.false_eq_true, if_false]
  split
  all_goals
    rename_i hadvance
    have hmade : s.workbench.advance.2 = _ := congrArg Prod.snd hadvance
    exact steers_of_call hcall rfl hmade.symm rfl rfl

/-- All that an input can make of the selections is in `Steers`. -/
theorem steers_take (s : Screen) (i : Input) : s.Steers i (s.take i) := by
  cases i with
  | key k => exact s.steers_press k
  | tick due =>
    cases due with
    | false => exact steers_of_none rfl rfl (Nat.le_refl _) (Nat.le_refl _)
    | true =>
      cases hrunning : s.running with
      | true => exact steers_tick hrunning
      | false =>
        have hcall : s.call? (.tick true) = none := by simp [call?, hrunning]
        have hidle : s.take (.tick true) = s := by simp [take, tick, hrunning]
        rw [hidle]
        exact steers_of_none hcall rfl (Nat.le_refl _) (Nat.le_refl _)
  | elsewhere files => exact steers_of_none rfl rfl (Nat.le_refl _) (Nat.le_refl _)

theorem Steers.catalog_eq (h : s.Steers i s') :
    s'.workbench.catalog = s.workbench.catalog := by
  rw [h.workbench_eq]
  cases s.call? i with
  | none => rfl
  | some c => exact s.workbench.catalog_call c

/-! ## Inside the lists -/

/-- Each selection is inside its list.  That of an empty program is at its beginning. -/
structure InLists (s : Screen) : Prop where
  catalogIndex_lt : s.catalogIndex < s.workbench.catalog.blocks.length
  programIndex_le : s.programIndex ≤ s.workbench.program.length - 1

theorem Steers.inLists (h : s.Steers i s') (hs : s.InLists) : s'.InLists := by
  constructor
  · have hindex := h.catalogIndex_le
    have hlt := hs.catalogIndex_lt
    rw [h.catalog_eq]
    omega
  · rcases h.programIndex_le with hclamped | ⟨hkept, hprogram⟩
    · exact hclamped
    · rw [hprogram]
      exact Nat.le_trans hkept hs.programIndex_le

theorem InLists.after (h : s.InLists) (inputs : List Input) : (s.after inputs).InLists := by
  induction inputs generalizing s with
  | nil => exact h
  | cons i rest ih => exact ih ((s.steers_take i).inLists h)

end Screen

end Play

end Spellbook

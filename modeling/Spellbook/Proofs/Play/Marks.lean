import Mathlib.Data.List.Induction
import Spellbook.Play.View
import Spellbook.Proofs.Play.Mirror
set_option autoImplicit false

/-!
# Which block is shown as running

The row of the block that ran last begins with a mark.  A run that is stopped or found over
takes the mark away, but to reset the world does not: a block stays marked, though nothing runs,
exactly if the world was reset while it was shown as running and no run was begun or stopped
since then (`after_active`).
-/

namespace Spellbook.Play

/-- The row of a block that is shown as running begins so. -/
def Row.Marked (r : Row) : Prop := ['*', ' '] <+: r.text.toList

instance (r : Row) : Decidable r.Marked := inferInstanceAs (Decidable (_ <+: _))

theorem take_truncate {width : Nat} (h : 3 ≤ width) (text : String) :
    (Text.truncate width text).toList.take 2 = text.toList.take 2 := by
  unfold Text.truncate
  rw [if_neg (by omega)]
  split
  · rfl
  · rename_i hlong
    have hlength : 2 ≤ (text.toList.take (width - 1)).length := by
      rw [List.length_take, String.length_toList]
      omega
    rw [String.toList_append, String.toList_ofList, List.take_append_of_le_length hlength,
      List.take_take, Nat.min_eq_left (by omega)]

/-- Cutting a text to the width leaves its mark. -/
theorem marked_row_iff {width : Nat} {style : Style} {text : String} :
    (row width style text).Marked ↔ text.toList.take 2 = ['*', ' '] := by
  have hwidth : 3 ≤ contentWidth width := Nat.le_trans (by decide) (Nat.le_max_right _ 16)
  rw [Row.Marked, List.prefix_iff_eq_take, ← take_truncate hwidth text]
  exact eq_comm

namespace Screen

variable {s s' : Screen} {i : Input} {n : Nat}

theorem marked_programRow_iff {width index : Nat} {p : Placed} :
    (s.programRow width p index).Marked ↔ s.active = some p.number := by
  have hactive : (toString "* ").toList = ['*', ' '] := rfl
  have hselected : (toString "> ").toList = ['>', ' '] := rfl
  have hother : (toString "  ").toList = [' ', ' '] := rfl
  unfold programRow
  rw [marked_row_iff]
  simp only [String.toList_append, List.append_assoc]
  split
  · rename_i hp
    simp [hactive, hp]
  · rename_i hp
    split
    · simp [hselected, hp]
    · simp [hother, hp]

/-- The rows of the program with the mark are those of the block that is shown as running. -/
theorem exists_marked_iff (s : Screen) (width : Nat) :
    (∃ row ∈ s.programRows width, row.Marked) ↔
      ∃ shown ∈ window s.programIndex s.workbench.program.placed,
        s.active = some shown.1.number := by
  have hheading : ¬ (heading width "program" (s.focus = .program)).Marked := by
    rw [heading, marked_row_iff]
    decide
  have hempty : ¬ (⟨.of .gray, "  (empty)"⟩ : Row).Marked := by decide
  constructor
  · rintro ⟨row, hrow, hmarked⟩
    rcases List.mem_append.1 hrow with hrow | hrow
    · rcases List.mem_cons.1 hrow with rfl | hrow
      · exact absurd hmarked hheading
      · split at hrow
        · rw [List.mem_singleton.1 hrow] at hmarked
          exact absurd hmarked hempty
        · cases hrow
    · obtain ⟨shown, hshown, rfl⟩ := List.mem_map.1 hrow
      exact ⟨shown, hshown, marked_programRow_iff.1 hmarked⟩
  · rintro ⟨shown, hshown, hactive⟩
    refine ⟨_, List.mem_append_right _ (List.mem_map_of_mem hshown), ?_⟩
    exact marked_programRow_iff.2 hactive

/-! ## Where a mark is left -/

/-- A block is shown as running though no run is. -/
def Stale (s : Screen) (n : Nat) : Prop := s.running = false ∧ s.active = some n

/-- Only to begin or to stop a run takes the mark of a stale block away. -/
theorem Turns.stale (h : s.Turns i s') (hstale : s.Stale n) (hbegin : i ≠ .key (.char 'r'))
    (hstop : i ≠ .key (.char 'x')) : s'.Stale n := by
  obtain ⟨hrunning, hactive⟩ := hstale
  cases h with
  | kept hfault hkeeps htells hquiet =>
    obtain ⟨-, -, -, hrunning', hactive', -⟩ := Progress.mk.inj hkeeps
    exact ⟨hrunning'.trans hrunning, hactive'.trans hactive⟩
  | refused hfault => exact ⟨hrunning, hactive⟩
  | begun hidle => exact absurd rfl hbegin
  | stopped => exact absurd rfl hstop
  | reset => exact ⟨rfl, hactive⟩
  | stepped hgoing | finished hgoing | lost hgoing =>
    rw [hrunning] at hgoing
    cases hgoing

theorem Stale.after (h : s.Stale n) {inputs : List Input}
    (hbegin : .key (.char 'r') ∉ inputs) (hstop : .key (.char 'x') ∉ inputs) :
    (s.after inputs).Stale n := by
  induction inputs generalizing s with
  | nil => exact h
  | cons i rest ih =>
    rw [List.mem_cons, not_or] at hbegin hstop
    exact ih ((s.turns_take i).stale h (Ne.symm hbegin.1) (Ne.symm hstop.1)) hbegin.2 hstop.2

/-- A block is stale because it was before, or because the world was reset while it was shown
as running. -/
theorem Turns.of_stale (h : s.Turns i s') (hs : s.Mirrors) (hstale : s'.Stale n) :
    (s.Stale n ∧ i ≠ .key (.char 'r') ∧ i ≠ .key (.char 'x')) ∨
      (i = .key (.char 'z') ∧ s.running = true ∧ s.active = some n) := by
  obtain ⟨hrunning, hactive⟩ := hstale
  cases h with
  | kept hfault hkeeps htells hquiet =>
    obtain ⟨-, -, -, hrunning', hactive', -⟩ := Progress.mk.inj hkeeps
    exact .inl ⟨⟨hrunning'.symm.trans hrunning, hactive'.symm.trans hactive⟩, hquiet⟩
  | refused hfault =>
    refine .inl ⟨⟨hrunning, hactive⟩, ?_, ?_⟩
    · -- A run is not begun only while one is going on, and then the screen shows it.
      rintro rfl
      cases hidle : s.workbench.isRunning with
      | true =>
        have hgoing := hs.running_of_isRunning hidle
        rw [show s.running = false from hrunning] at hgoing
        cases hgoing
      | false =>
        rw [fault?_begin hidle] at hfault
        cases hfault
    · rintro rfl
      cases hfault
  | begun hidle => cases hrunning
  | stopped => cases hactive
  | reset =>
    cases hgoing : s.running with
    | true => exact .inr ⟨rfl, rfl, hactive⟩
    | false => exact .inl ⟨⟨hgoing, hactive⟩, by simp, by simp⟩
  | stepped hgoing hrun hstep =>
    rw [show s.running = false from hrunning] at hgoing
    cases hgoing
  | finished hgoing hrun hstep => cases hactive
  | lost hgoing hnone => cases hactive

/-- The world was reset at some point while this block was shown as running, and no run was
begun or stopped since. -/
def LeftMarked (s : Screen) (inputs : List Input) (n : Nat) : Prop :=
  ∃ before since, inputs = before ++ .key (.char 'z') :: since ∧
    (s.after before).running = true ∧ (s.after before).active = some n ∧
    .key (.char 'r') ∉ since ∧ .key (.char 'x') ∉ since

theorem LeftMarked.stale {inputs : List Input} (h : s.LeftMarked inputs n) :
    (s.after inputs).Stale n := by
  obtain ⟨before, since, rfl, hrunning, hactive, hbegin, hstop⟩ := h
  rw [after_append, after_cons]
  have hreset : ((s.after before).take (.key (.char 'z'))).Stale n := ⟨rfl, hactive⟩
  exact hreset.after hbegin hstop

theorem leftMarked_of_stale (hs : s.Mirrors) (hnone : s.active = none) {inputs : List Input}
    (h : (s.after inputs).Stale n) : s.LeftMarked inputs n := by
  induction inputs using List.reverseRecOn with
  | nil =>
    rw [after_nil, Stale, hnone] at h
    cases h.2
  | append_singleton inputs i ih =>
    rw [after_append] at h
    rcases ((s.after inputs).turns_take i).of_stale (hs.after inputs) h with
      ⟨hbefore, hbegin, hstop⟩ | ⟨rfl, hrunning, hactive⟩
    · obtain ⟨before, since, rfl, hrunning, hactive, hbegins, hstops⟩ := ih hbefore
      refine ⟨before, since ++ [i], by simp, hrunning, hactive, ?_, ?_⟩
      · simpa using ⟨hbegins, Ne.symm hbegin⟩
      · simpa using ⟨hstops, Ne.symm hstop⟩
    · exact ⟨inputs, [], rfl, hrunning, hactive, List.not_mem_nil, List.not_mem_nil⟩

/-- In the full-screen mode over a new workbench, whatever the inputs, a block is shown as
running though no run is exactly if the world was reset while it was shown as running, and no
run was begun or stopped since; the rows with the mark are those of the block that is shown as
running; and behind each tick that takes a step, this is the block of the event that the step
has added to the history. -/
theorem after_active {setup : Setup} {w : Workbench} (h : Workbench.create setup = .ok w)
    (files : FileSystem) (path : String) (inputs : List Input) :
    let opening := start w files path
    let s := opening.after inputs
    (∀ n, s.Stale n ↔ opening.LeftMarked inputs n) ∧
    (∀ width, (∃ row ∈ s.programRows width, row.Marked) ↔
      ∃ shown ∈ window s.programIndex s.workbench.program.placed,
        s.active = some shown.1.number) ∧
    ∀ e w', s.running = true → s.workbench.advance = (.ok (.step e), w') →
      s.tick.running = true ∧ s.tick.active = some e.number ∧
        s.tick.workbench.history = s.workbench.history ++ [e] := by
  intro opening s
  refine ⟨?_, s.exists_marked_iff, ?_⟩
  · intro n
    have hmirrors : opening.Mirrors := mirrors_start h files path
    exact ⟨leftMarked_of_stale hmirrors rfl, LeftMarked.stale⟩
  · intro e w' hrunning hadvance
    obtain ⟨r, r', scene, hrun, hstep⟩ := Workbench.exists_step_of_advance hadvance
    rw [tick_of_step hrunning hrun hstep]
    exact ⟨hrunning, rfl, rfl⟩

/-- The world is reset behind the first step of a run, and another block is added. -/
theorem after_active_reset :
    Workbench.create (.ofLevel .bridge) = .ok .bridge ∧
      let opening := start .bridge (.ofFolder [] .empty) "steps.json"
      let s := opening.after
        [.key .enter, .key (.char 'r'), .tick true, .key (.char 'z'), .key .enter]
      s.Stale 1 ∧ s.workbench.program.length = 2 ∧ ∃ row ∈ s.programRows 80, row.Marked := by
  refine ⟨Workbench.create_bridge, ?_⟩
  intro opening s
  obtain ⟨hstale, hmarked, -⟩ := after_active Workbench.create_bridge (.ofFolder [] .empty)
    "steps.json" [.key .enter, .key (.char 'r'), .tick true, .key (.char 'z'), .key .enter]
  have hleft : s.Stale 1 := (hstale 1).2
    ⟨[.key .enter, .key (.char 'r'), .tick true], [.key .enter], rfl, by decide +kernel,
      by decide +kernel, by simp, by simp⟩
  refine ⟨hleft, by decide +kernel, (hmarked 80).2 ?_⟩
  decide +kernel

/-- To reset the world in the middle of a run leaves a block marked, though nothing runs. -/
theorem reset_leaves_mark :
    let s := (start .bridge (.ofFolder [] .empty) "program.json").after
      [.key .enter, .key (.char 'r'), .tick true, .key (.char 'z')]
    s.running = false ∧ s.workbench.run? = none ∧ s.active = some 1 ∧
      ∃ row ∈ s.programRows 80, row.Marked := by
  decide +kernel

end Screen

end Spellbook.Play

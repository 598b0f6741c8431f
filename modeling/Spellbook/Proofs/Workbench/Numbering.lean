import Spellbook.Proofs.Program.Numbering
import Spellbook.Proofs.Workbench.Calls
import Spellbook.Proofs.Workbench.Locking
set_option autoImplicit false

/-!
# Numbers on a workbench

A call on a workbench is refused or makes some changes to its program (`program_call`), and the
numbers that it tells are those that the changes give (`tells_eq`).  So what holds of the numbers
of a program holds on a workbench, whatever is called (`numbers_never_reused`).
-/

namespace Spellbook

theorem Catalog.filterMap_find?_of_getAll {c : Catalog} {ids : List String} {bs : List Block}
    (h : c.getAll ids = .ok bs) : ids.filterMap c.find? = bs := by
  obtain ⟨rfl, hfound⟩ := of_getAll h
  rw [List.filterMap_map]
  exact (List.filterMap_congr hfound).trans List.filterMap_some

namespace Workbench

variable {w w' : Workbench} {c : Call}

/-- The changes to the program that a call makes unless it is refused. -/
def Call.edits (catalog : Catalog) : Call → List Program.Edit
  | append id => (catalog.find? id).toList.map .append
  | remove number => [.remove number]
  | clear | resetAll => [.clear]
  | load ids => .clear :: (ids.filterMap catalog.find?).map .append
  | reset | reseed _ | start | advance | abandon | play _ => []

/-- The changes that a call makes to the program of a workbench. -/
def changes (w : Workbench) (c : Call) : List Program.Edit :=
  match (w.attempt c).1 with
  | .ok _ => c.edits w.catalog
  | .error _ => []

/-- The changes that some calls make to the program of a workbench. -/
def edits (w : Workbench) : List Call → List Program.Edit
  | [] => []
  | c :: rest => w.changes c ++ (w.call c).edits rest

/-- The numbers that a call tells for the blocks that it adds. -/
def tells (w : Workbench) : Call → List Nat
  | .append id =>
    match (w.append id).1 with
    | .ok number => [number]
    | .error _ => []
  | .load ids =>
    match (w.load ids).1 with
    | .ok numbers => numbers
    | .error _ => []
  | _ => []

/-- The numbers that some calls tell, one call after the other. -/
def told (w : Workbench) : List Call → List Nat
  | [] => []
  | c :: rest => w.tells c ++ (w.call c).told rest

/-! ## One call -/

theorem program_of_attempt (h : w.attempt c = (.ok (), w')) :
    w'.program = w.program.after (c.edits w.catalog) := by
  cases c with
  | append id =>
    obtain ⟨n, happend⟩ := plain_eq_ok_iff.1 h
    obtain ⟨-, b, hfound, -, rfl⟩ := append_eq_ok_iff.1 happend
    rw [Call.edits, hfound]
    rfl
  | remove number =>
    obtain ⟨found, hremove⟩ := plain_eq_ok_iff.1 h
    obtain ⟨-, -, rfl⟩ := remove_eq_ok_iff.1 hremove
    rfl
  | clear =>
    obtain ⟨-, rfl⟩ := clear_eq_ok_iff.1 h
    rfl
  | load ids =>
    obtain ⟨numbers, hload⟩ := plain_eq_ok_iff.1 h
    obtain ⟨-, blocks, hget, rfl, -⟩ := load_eq_ok_iff.1 hload
    rw [Call.edits, Catalog.filterMap_find?_of_getAll hget]
    exact (Program.after_map_append _ _).symm
  | reset =>
    cases h
    rfl
  | resetAll =>
    cases h
    rfl
  | reseed seed =>
    have hidle := isRunning_of_attempt h rfl
    rw [attempt, reseed_eq hidle] at h
    cases h
    rfl
  | start =>
    have hidle := isRunning_of_attempt h rfl
    rw [attempt, start_eq hidle] at h
    cases h
    rfl
  | advance =>
    obtain ⟨a, hadvance⟩ := plain_eq_ok_iff.1 h
    have hprogram := w.program_advance
    rw [hadvance] at hprogram
    exact hprogram
  | abandon =>
    cases h
    exact w.program_abandon
  | play i =>
    have hidle := isRunning_of_attempt h rfl
    rw [attempt, play_eq hidle] at h
    cases h
    rfl

theorem changes_of_ok (h : w.attempt c = (.ok (), w')) : w.changes c = c.edits w.catalog := by
  rw [changes, h]

theorem changes_of_error {fault : Fault} (h : w.attempt c = (.error fault, w')) :
    w.changes c = [] := by
  rw [changes, h]

theorem program_call (w : Workbench) (c : Call) :
    (w.call c).program = w.program.after (w.changes c) := by
  rcases w.attempt_cases c with hdone | ⟨fault, hrefused⟩
  · rw [changes_of_ok hdone]
    exact program_of_attempt hdone
  · rw [call_of_attempt hrefused, changes_of_error hrefused]
    rfl

theorem tells_eq (w : Workbench) (c : Call) :
    w.tells c = (w.program.given (w.changes c)).map Placed.number := by
  cases c with
  | append id =>
    rw [tells]
    rcases h : w.append id with ⟨answer, w'⟩
    cases answer with
    | error fault =>
      have hrefused : w.attempt (.append id) = (.error fault, w') := plain_eq_error_iff.2 h
      rw [changes_of_error hrefused]
      rfl
    | ok n =>
      have hdone : w.attempt (.append id) = (.ok (), w') := plain_eq_ok_iff.2 ⟨n, h⟩
      rw [changes_of_ok hdone, Call.edits]
      obtain ⟨-, b, hfound, rfl, -⟩ := append_eq_ok_iff.1 h
      rw [hfound]
      rfl
  | load ids =>
    rw [tells]
    rcases h : w.load ids with ⟨answer, w'⟩
    cases answer with
    | error fault =>
      have hrefused : w.attempt (.load ids) = (.error fault, w') := plain_eq_error_iff.2 h
      rw [changes_of_error hrefused]
      rfl
    | ok numbers =>
      have hdone : w.attempt (.load ids) = (.ok (), w') := plain_eq_ok_iff.2 ⟨numbers, h⟩
      rw [changes_of_ok hdone, Call.edits]
      obtain ⟨-, blocks, hget, rfl, rfl⟩ := load_eq_ok_iff.1 h
      rw [Catalog.filterMap_find?_of_getAll hget]
      exact congrArg (List.map Placed.number) (Program.placed_appendAll _ _)
  | _ =>
    -- No other call adds a block, whether or not it is refused.
    unfold changes
    split <;> rfl

/-! ## Some calls -/

theorem program_after (w : Workbench) (calls : List Call) :
    (w.after calls).program = w.program.after (w.edits calls) := by
  induction calls generalizing w with
  | nil => rfl
  | cons c rest ih =>
    rw [after_cons, ih, program_call, edits, Program.after_append]

theorem told_eq (w : Workbench) (calls : List Call) :
    w.told calls = (w.program.given (w.edits calls)).map Placed.number := by
  induction calls generalizing w with
  | nil => rfl
  | cons c rest ih =>
    rw [told, ih, tells_eq, program_call, edits, Program.given_append, List.map_append]

/-- Whatever is added and dropped, no number stands for two blocks: this holds of a program that
starts with its counter at one or at zero, and of the program on a workbench, whatever is called
there.  What the workbench tells are the numbers that its program gives, and while no run is
going on, it removes what is listed. -/
theorem numbers_never_reused :
    (∀ edits, Program.empty.Numbered edits) ∧ (∀ edits, Program.blank.Numbered edits) ∧
    ∀ (setup : Setup) (w : Workbench) (calls : List Call), create setup = .ok w →
      (w.after calls).program = Program.empty.after (w.edits calls) ∧
      w.told calls = (Program.empty.given (w.edits calls)).map Placed.number ∧
      Program.empty.Numbered (w.edits calls) ∧
      ((w.after calls).isRunning = false → ∀ n,
        (w.after calls).remove n =
          (.ok (decide (n ∈ (w.after calls).program.numbers)),
            { w.after calls with program := (w.after calls).program.remove n })) := by
  refine ⟨Program.numbered_empty, Program.numbered_blank, ?_⟩
  intro setup w calls hcreate
  obtain ⟨-, rfl⟩ := create_eq_ok_iff.1 hcreate
  refine ⟨program_after _ calls, told_eq _ calls, Program.numbered_empty _, fun hidle n => ?_⟩
  refine remove_eq_ok_iff.2 ⟨hidle, ?_, rfl⟩
  rw [Bool.eq_iff_iff, decide_eq_true_iff, Program.has_eq_true_iff]

/-- One of three loaded blocks is removed, and a block is refused while a run is going on.  When
everything has been dropped, the next block is still the sixth, and it can be removed. -/
theorem numbers_never_reused_bridge :
    let calls : List Call :=
      [.append "step-forward", .load ["repeat-10", "celebrate", "end-loop"], .remove 3,
        .append "celebrate", .start, .append "step-forward", .resetAll, .append "repair-plank"]
    let w := bridge.after calls
    create (.ofLevel .bridge) = .ok bridge ∧ bridge.told calls = [1, 2, 3, 4, 5, 6] ∧
      (bridge.told calls).Pairwise (· < ·) ∧ w.program.next < wordLimit ∧
      w.program.numbers = [6] ∧
      w.remove 6 = (.ok true, { w with program := w.program.remove 6 }) := by
  intro calls w
  obtain ⟨hprogram, htold, hnumbered, hremove⟩ :=
    numbers_never_reused.2.2 (.ofLevel .bridge) bridge calls create_bridge
  have hgiven : bridge.told calls = [1, 2, 3, 4, 5, 6] := by decide +kernel
  have hidle : w.isRunning = false := by decide +kernel
  have hlisted : w.program.numbers = [6] := by decide +kernel
  have hcount : (Program.empty.given (bridge.edits calls)).length = 6 := by
    rw [← List.length_map Placed.number, ← htold, hgiven]
    rfl
  refine ⟨create_bridge, hgiven, ?_, ?_, hlisted, ?_⟩
  · rw [htold]
    exact hnumbered.increasing
  · rw [show w.program = _ from hprogram]
    exact (hnumbered.fits (by rw [hcount]; decide)).2
  · rw [show w.remove 6 = _ from hremove hidle 6]
    simp [w, show (bridge.after calls).program.numbers = [6] from hlisted]

end Workbench

end Spellbook

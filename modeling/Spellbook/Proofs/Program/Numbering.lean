import Mathlib.Data.List.Induction
import Spellbook.Program
import Spellbook.Proofs.Written.Ranges
set_option autoImplicit false

/-!
# Numbers that are not given twice

Whatever is added and dropped, a program gives one number after the other
(`Program.numbers_given`), and it lists those blocks that were added and not dropped since
(`Program.mem_placed_after_iff`), in the order in which they were added, which is that of their
numbers (`Program.Ordered.after`).  So a number stands for one block for good, and to remove a
number is to drop this block and no other (`Program.Ordered.remove_eq`).  All of it together is
`Program.Numbered`.
-/

namespace Spellbook.Program

/-- A change to a program. -/
inductive Edit where
  | append (b : Block)
  | remove (number : Nat)
  | clear
  deriving DecidableEq, Inhabited

/-- The program after a change. -/
def edit (p : Program) : Edit → Program
  | .append b => p.append b
  | .remove number => p.remove number
  | .clear => p.clear

/-- The program after some changes. -/
def after (p : Program) (edits : List Edit) : Program := edits.foldl edit p

/-- The block that a change adds, if it adds one, with the number that the block gets. -/
def gives (p : Program) : Edit → List Placed
  | .append b => [⟨p.nextNumber, b⟩]
  | .remove _ | .clear => []

/-- The blocks that some changes add, with the numbers that they get.  Blocks that are dropped
again are among them. -/
def given (p : Program) : List Edit → List Placed
  | [] => []
  | e :: rest => p.gives e ++ (p.edit e).given rest

/-- One of the changes adds this block with this number, and none of those after it drops it. -/
def Kept (p : Program) (edits : List Edit) (q : Placed) : Prop :=
  ∃ before later, edits = before ++ .append q.block :: later ∧
    q.number = (p.after before).nextNumber ∧ .clear ∉ later ∧ .remove q.number ∉ later

/-- How the numbers stand after some changes to a program that starts without blocks. -/
structure Numbered (start : Program) (edits : List Edit) : Prop where
  one_le : ∀ q ∈ start.given edits, 1 ≤ q.number
  increasing : ((start.given edits).map Placed.number).Pairwise (· < ·)
  listed_increasing : (start.after edits).numbers.Pairwise (· < ·)
  /-- The blocks are listed in the order in which they were added. -/
  sublist : (start.after edits).placed.Sublist (start.given edits)
  mem_iff : ∀ q, q ∈ (start.after edits).placed ↔ start.Kept edits q
  has_iff : ∀ n, (start.after edits).has n = true ↔ n ∈ (start.after edits).numbers
  /-- To remove a block that is listed drops this block and nothing else. -/
  remove_eq : ∀ front q back, (start.after edits).placed = front ++ q :: back →
    (start.after edits).remove q.number = { start.after edits with placed := front ++ back }
  remove_eq_self : ∀ n, n ∉ (start.after edits).numbers →
    (start.after edits).remove n = start.after edits
  /-- With few enough additions no number is too large for a machine word, and neither is the
  counter. -/
  fits : (start.given edits).length + 1 < wordLimit →
    (∀ q ∈ start.given edits, q.number < wordLimit) ∧ (start.after edits).next < wordLimit

variable {p : Program} {e : Edit} {edits : List Edit} {q : Placed}

/-! ## The counter -/

theorem nextNumber_append (p : Program) (b : Block) :
    (p.append b).nextNumber = p.nextNumber + 1 :=
  Nat.max_eq_left (Nat.le_add_left 1 _)

theorem nextNumber_edit (p : Program) (e : Edit) :
    (p.edit e).nextNumber = p.nextNumber + (p.gives e).length := by
  cases e with
  | append b => exact p.nextNumber_append b
  | remove number => rfl
  | clear => rfl

theorem numbers_gives (p : Program) (e : Edit) :
    (p.gives e).map Placed.number = List.range' p.nextNumber (p.gives e).length := by
  cases e with
  | append b => rfl
  | remove number => rfl
  | clear => rfl

theorem after_append (p : Program) (edits later : List Edit) :
    p.after (edits ++ later) = (p.after edits).after later :=
  List.foldl_append

theorem after_append_singleton (p : Program) (edits : List Edit) (e : Edit) :
    p.after (edits ++ [e]) = (p.after edits).edit e :=
  p.after_append edits [e]

theorem given_append (p : Program) (edits later : List Edit) :
    p.given (edits ++ later) = p.given edits ++ (p.after edits).given later := by
  induction edits generalizing p with
  | nil => rfl
  | cons e rest ih =>
    rw [List.cons_append, given, ih, given, List.append_assoc]
    rfl

theorem given_append_singleton (p : Program) (edits : List Edit) (e : Edit) :
    p.given (edits ++ [e]) = p.given edits ++ (p.after edits).gives e := by
  rw [given_append, given, given, List.append_nil]

theorem nextNumber_after (p : Program) (edits : List Edit) :
    (p.after edits).nextNumber = p.nextNumber + (p.given edits).length := by
  induction edits generalizing p with
  | nil => rfl
  | cons e rest ih =>
    have hrest := ih (p.edit e)
    rw [nextNumber_edit] at hrest
    rw [given, List.length_append, ← Nat.add_assoc]
    exact hrest

/-- The numbers are given one after the other. -/
theorem numbers_given (p : Program) (edits : List Edit) :
    (p.given edits).map Placed.number = List.range' p.nextNumber (p.given edits).length := by
  induction edits generalizing p with
  | nil => rfl
  | cons e rest ih =>
    rw [given, List.map_append, numbers_gives, ih, nextNumber_edit, List.length_append,
      List.range'_append_1]

theorem number_of_mem_given (h : q ∈ p.given edits) :
    p.nextNumber ≤ q.number ∧ q.number < p.nextNumber + (p.given edits).length := by
  rw [← List.mem_range'_1, ← numbers_given]
  exact List.mem_map_of_mem h

/-! ## What is listed -/

theorem mem_placed_edit_iff :
    q ∈ (p.edit e).placed ↔
      (q ∈ p.placed ∧ e ≠ .clear ∧ e ≠ .remove q.number) ∨
        e = .append q.block ∧ q.number = p.nextNumber := by
  cases e with
  | append b =>
    obtain ⟨number, block⟩ := q
    simp [edit, append, and_comm, eq_comm]
  | remove number => simp [edit, remove, eq_comm (a := number)]
  | clear => simp [edit, clear]

theorem kept_append_singleton_iff :
    p.Kept (edits ++ [e]) q ↔
      (p.Kept edits q ∧ e ≠ .clear ∧ e ≠ .remove q.number) ∨
        e = .append q.block ∧ q.number = (p.after edits).nextNumber := by
  constructor
  · rintro ⟨before, later, hedits, hnumber, hclear, hremove⟩
    rcases List.eq_nil_or_concat later with rfl | ⟨later, last, rfl⟩
    · obtain ⟨rfl, hlast⟩ := List.append_inj' hedits rfl
      cases hlast
      exact .inr ⟨rfl, hnumber⟩
    · rw [List.concat_eq_append] at hedits hclear hremove
      rw [← List.cons_append, ← List.append_assoc] at hedits
      obtain ⟨rfl, hlast⟩ := List.append_inj' hedits rfl
      cases hlast
      simp only [List.mem_append, List.mem_singleton, not_or] at hclear hremove
      exact .inl ⟨⟨before, later, rfl, hnumber, hclear.1, hremove.1⟩, Ne.symm hclear.2,
        Ne.symm hremove.2⟩
  · rintro (⟨⟨before, later, rfl, hnumber, hclear, hremove⟩, hother, hothers⟩ | ⟨rfl, hnumber⟩)
    · refine ⟨before, later ++ [e], by simp, hnumber, ?_, ?_⟩
      · simp [hclear, Ne.symm hother]
      · simp [hremove, Ne.symm hothers]
    · exact ⟨edits, [], rfl, hnumber, List.not_mem_nil, List.not_mem_nil⟩

/-- The blocks that are listed are those that were added and not dropped since. -/
theorem mem_placed_after_iff (hstart : p.placed = []) :
    q ∈ (p.after edits).placed ↔ p.Kept edits q := by
  induction edits using List.reverseRecOn with
  | nil => simp [after, hstart, Kept]
  | append_singleton edits e ih =>
    rw [after_append_singleton, mem_placed_edit_iff, ih, kept_append_singleton_iff]

theorem placed_edit_sublist (p : Program) (e : Edit) :
    (p.edit e).placed.Sublist (p.placed ++ p.gives e) := by
  cases e with
  | append b => exact List.Sublist.refl _
  | remove number =>
    rw [gives, List.append_nil]
    exact List.filter_sublist
  | clear => exact List.nil_sublist _

theorem placed_after_sublist (p : Program) (edits : List Edit) :
    (p.after edits).placed.Sublist (p.placed ++ p.given edits) := by
  induction edits using List.reverseRecOn with
  | nil =>
    rw [given, List.append_nil]
    exact List.Sublist.refl _
  | append_singleton edits e ih =>
    rw [after_append_singleton, given_append_singleton, ← List.append_assoc]
    exact (placed_edit_sublist _ e).trans (ih.append_right _)

theorem after_map_append (p : Program) (bs : List Block) :
    p.after (bs.map .append) = p.appendAll bs :=
  List.foldl_map

theorem placed_appendAll (p : Program) (bs : List Block) :
    (p.appendAll bs).placed = p.placed ++ p.given (bs.map .append) := by
  induction bs generalizing p with
  | nil => exact (List.append_nil _).symm
  | cons b rest ih =>
    rw [List.map_cons, given, ← List.append_assoc]
    exact ih (p.append b)

theorem length_given_map_append (p : Program) (bs : List Block) :
    (p.given (bs.map .append)).length = bs.length := by
  induction bs generalizing p with
  | nil => rfl
  | cons b rest ih =>
    rw [List.map_cons, given, List.length_append, ih, List.length_cons, Nat.add_comm]
    rfl

/-! ## Removing -/

theorem has_eq_true_iff {n : Nat} : p.has n = true ↔ n ∈ p.numbers := by
  simp [has, numbers]

theorem remove_eq_self_of_not_mem {n : Nat} (h : n ∉ p.numbers) : p.remove n = p := by
  have hother : p.placed.filter (fun q => q.number != n) = p.placed := by
    refine List.filter_eq_self.2 fun q hmem => ?_
    rw [bne_iff_ne]
    exact fun hsame => h (List.mem_map.2 ⟨q, hmem, hsame⟩)
  rw [remove, hother]

/-- Where each number is listed once, to remove one drops its block and nothing else. -/
theorem remove_of_placed_eq {front back : List Placed} (hnumbers : p.numbers.Nodup)
    (h : p.placed = front ++ q :: back) :
    p.remove q.number = { p with placed := front ++ back } := by
  rw [numbers, h, List.map_append, List.map_cons, List.nodup_middle, List.nodup_cons,
    ← List.map_append] at hnumbers
  have hrest : (front ++ back).filter (fun other => other.number != q.number) = front ++ back := by
    refine List.filter_eq_self.2 fun other hmem => ?_
    rw [bne_iff_ne]
    exact fun hsame => hnumbers.1 (List.mem_map.2 ⟨other, hmem, hsame⟩)
  rw [List.filter_append] at hrest
  rw [remove, h, List.filter_append, List.filter_cons, if_neg (by simp), hrest]

/-! ## In order -/

/-- Every block has a greater number than those before it, and the next number is greater still. -/
structure Ordered (p : Program) : Prop where
  increasing : p.numbers.Pairwise (· < ·)
  lt_nextNumber : ∀ n ∈ p.numbers, n < p.nextNumber

theorem ordered_of_placed_eq_nil (h : p.placed = []) : p.Ordered := by
  have hnumbers : p.numbers = [] := by
    rw [numbers, h]
    rfl
  constructor
  · rw [hnumbers]
    exact List.Pairwise.nil
  · rw [hnumbers]
    exact fun _ hmem => absurd hmem List.not_mem_nil

/-- Blocks may be dropped, and blocks with the next numbers may be added. -/
theorem Ordered.of_sublist {p' : Program} {count : Nat} (h : p.Ordered)
    (hnumbers : p'.numbers.Sublist (p.numbers ++ List.range' p.nextNumber count))
    (hnext : p'.nextNumber = p.nextNumber + count) : p'.Ordered where
  increasing := by
    refine List.Pairwise.sublist hnumbers
      (List.pairwise_append.2 ⟨h.increasing, List.pairwise_lt_range', ?_⟩)
    intro n hn m hm
    exact Nat.lt_of_lt_of_le (h.lt_nextNumber n hn) (List.mem_range'_1.1 hm).1
  lt_nextNumber := by
    intro n hn
    rw [hnext]
    rcases List.mem_append.1 (hnumbers.subset hn) with hold | hnew
    · exact Nat.lt_add_right _ (h.lt_nextNumber n hold)
    · exact (List.mem_range'_1.1 hnew).2

theorem Ordered.after (h : p.Ordered) (edits : List Edit) : (p.after edits).Ordered := by
  refine h.of_sublist ?_ (p.nextNumber_after edits)
  rw [← numbers_given, numbers, numbers, ← List.map_append]
  exact (p.placed_after_sublist edits).map Placed.number

theorem Ordered.remove_eq {front back : List Placed} (h : p.Ordered)
    (hplaced : p.placed = front ++ q :: back) :
    p.remove q.number = { p with placed := front ++ back } :=
  remove_of_placed_eq (h.increasing.imp Nat.ne_of_lt) hplaced

/-! ## Altogether -/

theorem numbered_of_placed_eq_nil (hplaced : p.placed = []) (hnumber : p.nextNumber = 1)
    (edits : List Edit) : p.Numbered edits := by
  have hincreasing : ((p.given edits).map Placed.number).Pairwise (· < ·) := by
    rw [numbers_given]
    exact List.pairwise_lt_range'
  have hsublist : (p.after edits).placed.Sublist (p.given edits) := by
    simpa [hplaced] using p.placed_after_sublist edits
  have hordered : (p.after edits).Ordered := (ordered_of_placed_eq_nil hplaced).after edits
  have hnumbers : ∀ q ∈ p.given edits, 1 ≤ q.number ∧ q.number < 1 + (p.given edits).length := by
    intro q hmem
    rw [← hnumber]
    exact number_of_mem_given hmem
  exact {
    one_le := fun q hmem => (hnumbers q hmem).1
    increasing := hincreasing
    listed_increasing := hordered.increasing
    sublist := hsublist
    mem_iff := fun _ => mem_placed_after_iff hplaced
    has_iff := fun _ => has_eq_true_iff
    remove_eq := fun _ _ _ => hordered.remove_eq
    remove_eq_self := fun _ => remove_eq_self_of_not_mem
    fits := by
      intro hcount
      have hnext : (p.after edits).next ≤ (p.after edits).nextNumber := Nat.le_max_left _ _
      rw [nextNumber_after, hnumber] at hnext
      refine ⟨fun q hmem => ?_, by omega⟩
      have hlt := (hnumbers q hmem).2
      omega }

theorem numbered_empty (edits : List Edit) : Program.empty.Numbered edits :=
  numbered_of_placed_eq_nil rfl rfl edits

theorem numbered_blank (edits : List Edit) : Program.blank.Numbered edits :=
  numbered_of_placed_eq_nil rfl rfl edits

end Spellbook.Program

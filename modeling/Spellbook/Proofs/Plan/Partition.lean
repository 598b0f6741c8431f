import Spellbook.Proofs.Plan.Layout
set_option autoImplicit false

/-!
# How a plan partitions its program

The lines of the items, one item behind the other, are the lines of the program, each
once and in its order, and a loop that stays open is the last item
(`partitions_of_ofProgram`).  A program without a plan has a first line on which a loop
begins inside another; that line is told, with the header that comes last before it
(`firstEnclosed_of_ofProgram`).
-/

namespace Spellbook

namespace Line

theorem map_index_ofProgram (program : List Placed) :
    (ofProgram program).map index = List.range program.length := by
  rw [ofProgram, List.map_map, List.range_eq_range', ← List.zipIdx_map_snd 0 program]
  rfl

theorem map_placed_ofProgram (program : List Placed) :
    (ofProgram program).map placed = program := by
  rw [ofProgram, List.map_map]
  exact List.zipIdx_map_fst 0 program

end Line

namespace Plan

/-- Only the last loop can stay open, and it takes all lines to the end. -/
theorem eq_nil_of_assemble_open {pending : Option (Line × List Line)} {lines : List Line}
    {front back : List Item} {l : Loop}
    (h : assemble pending lines = .ok (front ++ .loop l :: back)) (hopen : l.marker = none) :
    back = [] := by
  induction lines generalizing pending front with
  | nil =>
    cases pending with
    | none => simp [assemble] at h
    | some open_ =>
      have hlength := congrArg List.length (Except.ok.inj h)
      simp at hlength
      exact List.eq_nil_of_length_eq_zero (by omega)
  | cons line rest ih =>
    cases pending with
    | none =>
      simp only [assemble] at h
      split at h
      · exact ih h
      · obtain ⟨later, hlater, heq⟩ := map_eq_ok_iff.1 h
        cases front with
        | nil => cases heq
        | cons first front =>
          obtain ⟨-, rfl⟩ := List.cons.inj heq
          exact ih hlater
    | some open_ =>
      simp only [assemble] at h
      split at h
      · obtain ⟨later, hlater, heq⟩ := map_eq_ok_iff.1 h
        cases front with
        | nil =>
          cases heq
          cases hopen
        | cons first front =>
          obtain ⟨-, rfl⟩ := List.cons.inj heq
          exact ih hlater
      · cases h
      · exact ih h

/-- Where a loop begins inside another, the lines before have a plan that ends with the open
one. -/
theorem exists_open_of_assemble_error {pending : Option (Line × List Line)}
    {lines : List Line} {nested : NestedLoop} (h : assemble pending lines = .error nested) :
    ∃ front after items body, lines = front ++ nested.inner :: after ∧
      nested.inner.category = .loop ∧
      assemble pending front = .ok (items ++ [.loop ⟨nested.outer, body, none⟩]) := by
  induction lines generalizing pending with
  | nil => cases pending <;> cases h
  | cons line rest ih =>
    cases pending with
    | none =>
      simp only [assemble] at h
      split at h
      · rename_i hline
        obtain ⟨front, after, items, body, rfl, hinner, hfront⟩ := ih h
        refine ⟨line :: front, after, items, body, rfl, hinner, ?_⟩
        rw [assemble, if_pos hline, hfront]
      · rename_i hline
        obtain ⟨front, after, items, body, rfl, hinner, hfront⟩ := ih (map_eq_error_iff.1 h)
        refine ⟨line :: front, after, .single line :: items, body, rfl, hinner, ?_⟩
        rw [assemble, if_neg hline, hfront]
        rfl
    | some open_ =>
      obtain ⟨header, body⟩ := open_
      simp only [assemble] at h
      split at h
      · rename_i hline
        obtain ⟨front, after, items, inside, rfl, hinner, hfront⟩ := ih (map_eq_error_iff.1 h)
        refine ⟨line :: front, after, .loop ⟨header, body, some line⟩ :: items, inside, rfl,
          hinner, ?_⟩
        simp only [assemble, hline, hfront]
        rfl
      · rename_i hline
        cases h
        exact ⟨[], rest, [], body, rfl, hline, rfl⟩
      · rename_i hmarker hloop
        obtain ⟨front, after, items, inside, rfl, hinner, hfront⟩ := ih h
        refine ⟨line :: front, after, items, inside, rfl, hinner, ?_⟩
        simp only [assemble]
        exact hfront

/-! ## The first loop inside a loop -/

variable {program : List Placed}

/-- This line begins a loop inside another one: a loop has begun before, and no end marker
stands between the two. -/
def Enclosed (program : List Placed) (l : Line) : Prop :=
  l.category = .loop ∧ ∃ before outer between after,
    Line.ofProgram program = before ++ outer :: (between ++ l :: after) ∧
      outer.category = .loop ∧ ∀ m ∈ between, m.category ≠ .marker

/-- Of all lines that begin a loop inside another one this is the first, and of all headers
before it this is the last. -/
structure FirstEnclosed (program : List Placed) (nested : NestedLoop) : Prop where
  enclosed : Enclosed program nested.inner
  first : ∀ l, Enclosed program l → nested.inner.index ≤ l.index
  nearest : ∃ before between after,
    Line.ofProgram program = before ++ nested.outer :: (between ++ nested.inner :: after) ∧
      nested.outer.category = .loop ∧ ∀ m ∈ between, m.category ≠ .loop

/-- What a plan makes of the lines of its program. -/
structure Partitions (program : List Placed) (items : List Item) : Prop where
  index_eq : (items.flatMap Item.lines).map Line.index = List.range program.length
  placed_eq : (items.flatMap Item.lines).map Line.placed = program
  sound : ∀ item ∈ items, item.Sound
  /-- A loop without an end marker is the last item, and it reaches the end of the program. -/
  open_last : ∀ front l back, items = front ++ .loop l :: back → l.marker = none →
    back = [] ∧ l.header :: l.body <:+ Line.ofProgram program

theorem partitions_of_ofProgram {items : List Item} (h : ofProgram program = .ok items) :
    Partitions program items where
  index_eq := by rw [flatMap_lines_of_ofProgram h, Line.map_index_ofProgram]
  placed_eq := by rw [flatMap_lines_of_ofProgram h, Line.map_placed_ofProgram]
  sound := sound_of_ofProgram h
  open_last front l back heq hopen := by
    have hlines := flatMap_lines_of_ofProgram h
    rw [heq] at h hlines
    obtain rfl := eq_nil_of_assemble_open h hopen
    refine ⟨rfl, front.flatMap Item.lines, ?_⟩
    rw [← hlines]
    simp [Item.lines, hopen]

theorem not_unnested_of_headers {before between after : List Line} {outer inner : Line}
    (houter : outer.category = .loop) (hinner : inner.category = .loop)
    (hbetween : ∀ m ∈ between, m.category ≠ .marker) :
    ¬ Unnested ((before ++ outer :: (between ++ inner :: after)).map Line.category) := by
  intro hflat
  have hmarker := hflat (before.map Line.category) (between.map Line.category)
    (after.map Line.category) (by simp [houter, hinner])
  obtain ⟨m, hm, hcategory⟩ := List.mem_map.1 hmarker
  exact hbetween m hm hcategory

/-- No line of a plan begins a loop inside another one. -/
theorem not_enclosed_of_ofProgram {items : List Item} (h : ofProgram program = .ok items)
    (l : Line) : ¬ Enclosed program l := by
  rintro ⟨hinner, before, outer, between, after, hlines, houter, hbetween⟩
  have hflat := (exists_assemble_iff none _).1 ⟨items, h⟩
  rw [hlines] at hflat
  exact not_unnested_of_headers houter hinner hbetween hflat

/-- What stands before the first loop inside a loop has a plan, so an enclosed line comes no
earlier. -/
theorem index_le_of_enclosed {front after : List Line} {inner l : Line} {items : List Item}
    (hlines : Line.ofProgram program = front ++ inner :: after)
    (hfront : assemble none front = .ok items) (hl : Enclosed program l) :
    inner.index ≤ l.index := by
  obtain ⟨hinner, before, outer, between, behind, hsplit, houter, hbetween⟩ := hl
  have hindex : l.index = (before ++ outer :: between).length := by
    have hplace : Line.ofProgram program = (before ++ outer :: between) ++ l :: behind := by
      rw [hsplit, List.append_assoc, List.cons_append]
    exact Line.index_of_ofProgram hplace
  rw [Line.index_of_ofProgram hlines, hindex]
  apply Nat.le_of_not_lt
  intro hlt
  have hupto : before ++ outer :: between ++ [l] <+: Line.ofProgram program :=
    ⟨behind, by rw [hsplit]; simp⟩
  have hlength : (before ++ outer :: between ++ [l]).length ≤ front.length := by
    rw [List.length_append, List.length_singleton]
    exact hlt
  obtain ⟨rest, hrest⟩ :=
    List.prefix_of_prefix_length_le hupto ⟨inner :: after, hlines.symm⟩ hlength
  have hflat := (exists_assemble_iff none _).1 ⟨items, hfront⟩
  rw [← hrest, List.append_assoc, List.append_assoc, List.cons_append,
    List.singleton_append] at hflat
  exact not_unnested_of_headers houter hinner hbetween hflat

theorem firstEnclosed_of_ofProgram {nested : NestedLoop}
    (h : ofProgram program = .error nested) : FirstEnclosed program nested := by
  obtain ⟨front, after, items, body, hlines, hinner, hfront⟩ := exists_open_of_assemble_error h
  have houter : Loop.Sound ⟨nested.outer, body, none⟩ :=
    sound_of_assemble hfront (by simp) (.loop ⟨nested.outer, body, none⟩) (by simp)
  have hfrontLines : front = items.flatMap Item.lines ++ nested.outer :: body := by
    have hkept := flatMap_lines_of_assemble hfront
    simpa [pendingLines, Item.lines] using hkept.symm
  have hsplit : Line.ofProgram program =
      items.flatMap Item.lines ++ nested.outer :: (body ++ nested.inner :: after) := by
    rw [hlines, hfrontLines, List.append_assoc, List.cons_append]
  exact {
    enclosed := ⟨hinner, _, nested.outer, body, after, hsplit, houter.header,
      fun m hm => (houter.body m hm).2⟩
    first := fun l hl => index_le_of_enclosed hlines hfront hl
    nearest := ⟨_, body, after, hsplit, houter.header, fun m hm => (houter.body m hm).1⟩ }

/-- A program is either cut into items, which have all its blocks in their order, each where
it belongs, or it has a loop inside a loop, and then the first one is told, with the header
that comes last before it. -/
theorem ofProgram_partitions (program : List Placed) :
    match ofProgram program with
    | .ok items => Partitions program items ∧ ∀ l, ¬ Enclosed program l
    | .error nested => FirstEnclosed program nested := by
  cases h : ofProgram program with
  | ok items => exact ⟨partitions_of_ofProgram h, not_enclosed_of_ofProgram h⟩
  | error nested => exact firstEnclosed_of_ofProgram h

end Plan

end Spellbook

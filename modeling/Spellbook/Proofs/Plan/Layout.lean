import Spellbook.Plan
set_option autoImplicit false

/-!
# How a plan lies over its program

A plan keeps the lines of its program, all of them and in their order
(`flatMap_lines_of_ofProgram`), so a place in the plan is a place in the program.  The
open loop takes the lines up to the next end marker (`loop_of_assemble_some`), and each
line of a plan is of the kind that belongs there (`sound_of_ofProgram`).  A program has a
plan exactly if no loop begins inside another (`exists_ofProgram_iff`).
-/

namespace Spellbook

namespace Line

theorem getElem?_ofProgram (program : List Placed) (i : Nat) :
    (ofProgram program)[i]? = program[i]?.map (fun placed => ⟨i, placed⟩) := by
  simp [ofProgram, List.getElem?_zipIdx, Function.comp_def]

@[simp] theorem length_ofProgram (program : List Placed) :
    (ofProgram program).length = program.length := by
  simp [ofProgram]

/-- A line of a program stands where it says. -/
theorem getElem?_of_mem_ofProgram {program : List Placed} {l : Line}
    (h : l ∈ ofProgram program) : program[l.index]? = some l.placed := by
  obtain ⟨i, hi⟩ := List.mem_iff_getElem?.1 h
  rw [getElem?_ofProgram, Option.map_eq_some_iff] at hi
  obtain ⟨placed, hplaced, rfl⟩ := hi
  exact hplaced

/-- The places of the lines are counted from the first. -/
theorem index_of_ofProgram {program : List Placed} {before after : List Line} {l : Line}
    (h : ofProgram program = before ++ l :: after) : l.index = before.length := by
  have hl : (ofProgram program)[before.length]? = some l := by simp [h]
  rw [getElem?_ofProgram, Option.map_eq_some_iff] at hl
  obtain ⟨placed, -, rfl⟩ := hl
  rfl

theorem ofProgram_ascending (program : List Placed) :
    (ofProgram program).Pairwise (fun a b => a.index < b.index) := by
  have hindex : ∀ i (hi : i < (ofProgram program).length), (ofProgram program)[i].index = i := by
    intro i hi
    simp [ofProgram]
  rw [List.pairwise_iff_getElem]
  intro i j hi hj hlt
  rw [hindex i hi, hindex j hj]
  exact hlt

@[simp] theorem map_category_ofProgram (program : List Placed) :
    (ofProgram program).map category = program.map (fun placed => placed.block.category) := by
  apply List.ext_getElem?
  intro i
  simp [getElem?_ofProgram, Function.comp_def, category]

end Line

/-- A loop begins with a header and is closed by an end marker, if by any, and the lines inside
it are neither. -/
structure Loop.Sound (l : Loop) : Prop where
  header : l.header.category = .loop
  body : ∀ line ∈ l.body, line.category ≠ .loop ∧ line.category ≠ .marker
  marker : ∀ line ∈ l.marker, line.category = .marker

namespace Plan

/-! ## The lines of a plan -/

/-- The lines inside a loop that begins before these lines. -/
def inside (lines : List Line) : List Line := lines.takeWhile (fun l => l.category ≠ .marker)

/-- The lines from the next end marker on. -/
def beyond (lines : List Line) : List Line := lines.dropWhile (fun l => l.category ≠ .marker)

@[simp] theorem inside_append_beyond (lines : List Line) :
    inside lines ++ beyond lines = lines :=
  List.takeWhile_append_dropWhile

theorem inside_cons_of_marker {l : Line} (rest : List Line) (h : l.category = .marker) :
    inside (l :: rest) = [] := by
  simp [inside, h]

theorem beyond_cons_of_marker {l : Line} (rest : List Line) (h : l.category = .marker) :
    beyond (l :: rest) = l :: rest := by
  simp [beyond, h]

theorem inside_cons_of_ne {l : Line} (rest : List Line) (h : l.category ≠ .marker) :
    inside (l :: rest) = l :: inside rest := by
  simp [inside, h]

theorem beyond_cons_of_ne {l : Line} (rest : List Line) (h : l.category ≠ .marker) :
    beyond (l :: rest) = beyond rest := by
  simp [beyond, h]

theorem length_beyond_le (lines : List Line) : (beyond lines).length ≤ lines.length :=
  (List.dropWhile_sublist _).length_le

/-- The lines that are still to be put into items: those of the open loop come first. -/
def pendingLines : Option (Line × List Line) → List Line
  | none => []
  | some (header, body) => header :: body

theorem map_eq_ok_iff {ε α β : Type} {f : α → β} {x : Except ε α} {b : β} :
    f <$> x = .ok b ↔ ∃ a, x = .ok a ∧ f a = b := by
  cases x <;> simp [Functor.map, Except.map]

theorem map_eq_error_iff {ε α β : Type} {f : α → β} {x : Except ε α} {e : ε} :
    f <$> x = .error e ↔ x = .error e := by
  cases x <;> simp [Functor.map, Except.map]

theorem exists_map_eq_ok_iff {ε α β : Type} {f : α → β} {x : Except ε α} :
    (∃ b, f <$> x = .ok b) ↔ ∃ a, x = .ok a := by
  cases x <;> simp [Functor.map, Except.map]

theorem flatMap_lines_of_assemble {pending : Option (Line × List Line)} {lines : List Line}
    {items : List Item} (h : assemble pending lines = .ok items) :
    items.flatMap Item.lines = pendingLines pending ++ lines := by
  induction lines generalizing pending items with
  | nil =>
    cases pending <;> cases h <;> simp [pendingLines, Item.lines]
  | cons l rest ih =>
    cases pending with
    | none =>
      simp only [assemble] at h
      split at h
      · simpa [pendingLines] using ih h
      · obtain ⟨later, hlater, rfl⟩ := map_eq_ok_iff.1 h
        simpa [pendingLines, Item.lines] using ih hlater
    | some open_ =>
      obtain ⟨header, body⟩ := open_
      simp only [assemble] at h
      split at h
      · obtain ⟨later, hlater, rfl⟩ := map_eq_ok_iff.1 h
        simpa [pendingLines, Item.lines] using ih hlater
      · cases h
      · simpa [pendingLines] using ih h

/-- A plan keeps the lines of its program. -/
theorem flatMap_lines_of_ofProgram {program : List Placed} {items : List Item}
    (h : ofProgram program = .ok items) : items.flatMap Item.lines = Line.ofProgram program := by
  simpa [pendingLines] using flatMap_lines_of_assemble h

theorem getElem?_of_mem_lines {program : List Placed} {items : List Item} {item : Item}
    {l : Line} (h : ofProgram program = .ok items) (hitem : item ∈ items)
    (hl : l ∈ item.lines) : program[l.index]? = some l.placed := by
  apply Line.getElem?_of_mem_ofProgram
  rw [← flatMap_lines_of_ofProgram h]
  exact List.mem_flatMap.2 ⟨item, hitem, hl⟩

theorem flatMap_lines_ascending {program : List Placed} {items : List Item}
    (h : ofProgram program = .ok items) :
    (items.flatMap Item.lines).Pairwise (fun a b => a.index < b.index) := by
  rw [flatMap_lines_of_ofProgram h]
  exact Line.ofProgram_ascending program

/-- The open loop takes the lines up to the next end marker. -/
theorem loop_of_assemble_some {header : Line} {body lines : List Line} {items : List Item}
    (h : assemble (some (header, body)) lines = .ok items) :
    ∃ later, items = .loop ⟨header, body ++ inside lines, (beyond lines).head?⟩ :: later ∧
      assemble none (beyond lines).tail = .ok later := by
  induction lines generalizing body items with
  | nil =>
    cases h
    exact ⟨[], by simp [inside, beyond], rfl⟩
  | cons l rest ih =>
    simp only [assemble] at h
    split at h
    · rename_i hmarker
      obtain ⟨later, hlater, rfl⟩ := map_eq_ok_iff.1 h
      rw [inside_cons_of_marker rest hmarker, beyond_cons_of_marker rest hmarker]
      exact ⟨later, by simp, hlater⟩
    · cases h
    · rename_i hmarker _
      rw [inside_cons_of_ne rest hmarker, beyond_cons_of_ne rest hmarker]
      simpa using ih h

/-- The lines of an item are of the kinds that belong there. -/
def Item.Sound : Item → Prop
  | single line => line.category ≠ .loop
  | loop l => l.Sound

/-- The items of a plan are sound. -/
theorem sound_of_assemble {pending : Option (Line × List Line)} {lines : List Line}
    {items : List Item} (h : assemble pending lines = .ok items)
    (hpending : ∀ open_ ∈ pending, Loop.Sound ⟨open_.1, open_.2, none⟩) :
    ∀ item ∈ items, item.Sound := by
  induction lines generalizing pending items with
  | nil =>
    cases pending with
    | none =>
      cases h
      simp
    | some open_ =>
      cases h
      intro item hitem
      rw [List.mem_singleton.1 hitem]
      exact hpending open_ rfl
  | cons line rest ih =>
    cases pending with
    | none =>
      simp only [assemble] at h
      split at h
      · rename_i hline
        refine ih h ?_
        rintro open_ ⟨⟩
        exact ⟨hline, by simp, by simp⟩
      · rename_i hline
        obtain ⟨later, hlater, rfl⟩ := map_eq_ok_iff.1 h
        exact List.forall_mem_cons.2 ⟨hline, ih hlater (by simp)⟩
    | some open_ =>
      obtain ⟨header, body⟩ := open_
      obtain ⟨hheader, hbody, -⟩ := hpending _ rfl
      simp only [assemble] at h
      split at h
      · rename_i hline
        obtain ⟨later, hlater, rfl⟩ := map_eq_ok_iff.1 h
        refine List.forall_mem_cons.2 ⟨⟨hheader, hbody, ?_⟩, ih hlater (by simp)⟩
        rintro marker ⟨⟩
        exact hline
      · cases h
      · rename_i hmarker hloop
        refine ih h ?_
        rintro open_ ⟨⟩
        refine ⟨hheader, ?_, by simp⟩
        intro l hl
        rcases List.mem_append.1 hl with hl | hl
        · exact hbody l hl
        · rw [List.mem_singleton.1 hl]
          exact ⟨hloop, hmarker⟩

theorem sound_of_ofProgram {program : List Placed} {items : List Item}
    (h : ofProgram program = .ok items) : ∀ item ∈ items, item.Sound :=
  sound_of_assemble h (by simp)

/-- Lines without a loop are single items. -/
theorem assemble_of_ne_loop {lines : List Line} (h : ∀ l ∈ lines, l.category ≠ .loop) :
    assemble none lines = .ok (lines.map .single) := by
  induction lines with
  | nil => rfl
  | cons l rest ih =>
    have hl : l.category ≠ .loop := h l List.mem_cons_self
    have hrest := ih (fun m hm => h m (List.mem_cons_of_mem l hm))
    rw [assemble, if_neg hl, hrest]
    rfl

/-! ## Which programs have a plan -/

/-- No loop begins inside another: an end marker stands between any two headers. -/
def Unnested (categories : List Category) : Prop :=
  ∀ before between after,
    categories = before ++ .loop :: (between ++ .loop :: after) → .marker ∈ between

theorem unnested_nil : Unnested [] := by
  intro before between after h
  simp at h

theorem unnested_cons_iff_of_ne {c : Category} {cs : List Category} (hc : c ≠ .loop) :
    Unnested (c :: cs) ↔ Unnested cs := by
  constructor
  · intro h before between after heq
    exact h (c :: before) between after (by rw [heq]; rfl)
  · intro h before between after heq
    cases before with
    | nil => exact absurd (List.cons.inj heq).1 hc
    | cons b before => exact h before between after (List.cons.inj heq).2

theorem unnested_singleton (c : Category) : Unnested [c] := by
  intro before between after h
  have hlength := congrArg List.length h
  simp at hlength
  omega

theorem not_unnested_loop_loop (cs : List Category) : ¬ Unnested (.loop :: .loop :: cs) := by
  intro h
  exact absurd (h [] [] cs rfl) List.not_mem_nil

theorem unnested_loop_marker_iff {cs : List Category} :
    Unnested (.loop :: .marker :: cs) ↔ Unnested cs := by
  constructor
  · intro h before between after heq
    exact h (.loop :: .marker :: before) between after (by rw [heq]; rfl)
  · intro h before between after heq
    cases before with
    | nil =>
      cases between with
      | nil => simp at heq
      | cons b between =>
        have hb : .marker = b := (List.cons.inj (List.cons.inj heq).2).1
        exact hb ▸ List.mem_cons_self
    | cons b before =>
      have htail := (List.cons.inj heq).2
      exact (unnested_cons_iff_of_ne (by decide)).2 h before between after htail

theorem unnested_loop_cons_iff_of_ne {c : Category} {cs : List Category} (hloop : c ≠ .loop)
    (hmarker : c ≠ .marker) : Unnested (.loop :: c :: cs) ↔ Unnested (.loop :: cs) := by
  constructor
  · intro h before between after heq
    cases before with
    | nil =>
      have hmem := h [] (c :: between) after (by rw [(List.cons.inj heq).2]; rfl)
      exact (List.mem_cons.1 hmem).resolve_left (Ne.symm hmarker)
    | cons b before =>
      exact h (.loop :: c :: before) between after (by rw [(List.cons.inj heq).2]; rfl)
  · intro h before between after heq
    cases before with
    | nil =>
      cases between with
      | nil => exact absurd (List.cons.inj (List.cons.inj heq).2).1 hloop
      | cons b between =>
        have hcs := (List.cons.inj (List.cons.inj heq).2).2
        exact List.mem_cons_of_mem b (h [] between after (by rw [hcs]; rfl))
    | cons b before =>
      have htail := (List.cons.inj heq).2
      cases before with
      | nil => exact absurd (List.cons.inj htail).1 hloop
      | cons d before =>
        exact h (.loop :: before) between after (by rw [(List.cons.inj htail).2]; rfl)

/-- An open loop counts as its header. -/
theorem exists_assemble_iff (pending : Option (Line × List Line)) (lines : List Line) :
    (∃ items, assemble pending lines = .ok items) ↔
      Unnested (pending.toList.map (fun _ => .loop) ++ lines.map Line.category) := by
  induction lines generalizing pending with
  | nil =>
    cases pending with
    | none => simp [assemble, unnested_nil]
    | some open_ => simp [assemble, unnested_singleton]
  | cons l rest ih =>
    cases pending with
    | none =>
      by_cases hl : l.category = .loop
      · simpa [assemble, hl] using ih (some (l, []))
      · have hrest := ih none
        simp only [Option.toList_none, List.map_nil, List.nil_append] at hrest
        simp [assemble, hl, unnested_cons_iff_of_ne, exists_map_eq_ok_iff, ← hrest]
    | some open_ =>
      obtain ⟨header, body⟩ := open_
      simp only [Option.toList_some, List.map_cons, List.map_nil, List.singleton_append]
      have hnone := ih none
      simp only [Option.toList_none, List.map_nil, List.nil_append] at hnone
      simp only [assemble]
      split
      · rename_i hmarker
        simp [hmarker, unnested_loop_marker_iff, exists_map_eq_ok_iff, ← hnone]
      · rename_i hloop
        simp [hloop, not_unnested_loop_loop]
      · rename_i hmarker hloop
        rw [unnested_loop_cons_iff_of_ne hloop hmarker]
        simpa using ih (some (header, body ++ [l]))

/-- A program has a plan exactly if no loop begins inside another. -/
theorem exists_ofProgram_iff (program : List Placed) :
    (∃ items, ofProgram program = .ok items) ↔
      Unnested (program.map (fun placed => placed.block.category)) := by
  simpa [ofProgram] using exists_assemble_iff none (Line.ofProgram program)

end Plan

end Spellbook

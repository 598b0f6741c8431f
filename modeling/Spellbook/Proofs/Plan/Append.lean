import Spellbook.Proofs.Plan.Layout
set_option autoImplicit false

/-!
# Plans of programs put together

Behind a program whose loops are all closed, more blocks leave its plan as it is and are
planned on their own (`assemble_append`).  An open loop would take them in.
-/

namespace Spellbook

namespace Plan

/-- Every loop is closed: an end marker follows its header. -/
def Closed (categories : List Category) : Prop :=
  ∀ before after, categories = before ++ .loop :: after → .marker ∈ after

theorem closed_nil : Closed [] := by
  intro before after h
  simp at h

theorem closed_cons_iff {c : Category} {cs : List Category} :
    Closed (c :: cs) ↔ (c = .loop → .marker ∈ cs) ∧ Closed cs := by
  constructor
  · intro h
    constructor
    · intro hc
      exact h [] cs (by rw [hc]; rfl)
    · intro before after heq
      exact h (c :: before) after (by rw [heq]; rfl)
  · rintro ⟨hfirst, hrest⟩ before after heq
    cases before with
    | nil =>
      obtain ⟨hc, rfl⟩ := List.cons.inj heq
      exact hfirst hc
    | cons b before => exact hrest before after (List.cons.inj heq).2

/-! ## Parts of programs without nested loops -/

theorem Unnested.left {cs ds : List Category} (h : Unnested (cs ++ ds)) : Unnested cs := by
  intro before between after heq
  exact h before between (after ++ ds) (by simp [heq])

/-- Before a loop begins, every other one is closed. -/
theorem Unnested.closed_of_loop {cs ds : List Category} (h : Unnested (cs ++ .loop :: ds)) :
    Closed cs := by
  intro before after heq
  exact h before after ds (by simp [heq])

/-! ## Plans -/

theorem map_append_nil {ε α : Type} (x : Except ε (List α)) : ([] ++ ·) <$> x = x := by
  cases x <;> rfl

theorem map_cons_append {ε α : Type} (a : α) (as : List α) (x : Except ε (List α)) :
    (a :: ·) <$> ((as ++ ·) <$> x) = (a :: as ++ ·) <$> x := by
  cases x <;> rfl

/-- More lines behind closed loops are planned on their own. -/
theorem assemble_append {pending : Option (Line × List Line)} {lines : List Line}
    {items : List Item}
    (hclosed : Closed (pending.toList.map (fun _ => .loop) ++ lines.map Line.category))
    (h : assemble pending lines = .ok items) (more : List Line) :
    assemble pending (lines ++ more) = (items ++ ·) <$> assemble none more := by
  induction lines generalizing pending items with
  | nil =>
    cases pending with
    | none =>
      cases h
      exact (map_append_nil _).symm
    | some open_ => exact absurd (hclosed [] [] rfl) List.not_mem_nil
  | cons line rest ih =>
    cases pending with
    | none =>
      simp only [Option.toList_none, List.map_nil, List.nil_append, List.map_cons] at hclosed
      simp only [List.cons_append, assemble] at h ⊢
      split at h
      · rename_i hloop
        rw [if_pos hloop]
        exact ih (by simpa [hloop] using hclosed) h
      · rename_i hloop
        obtain ⟨later, hlater, rfl⟩ := map_eq_ok_iff.1 h
        rw [if_neg hloop, ih (by simpa using (closed_cons_iff.1 hclosed).2) hlater,
          map_cons_append]
    | some open_ =>
      obtain ⟨header, body⟩ := open_
      simp only [Option.toList_some, List.map_cons, List.map_nil, List.singleton_append,
        closed_cons_iff, forall_const] at hclosed
      obtain ⟨hopen, -, hrest⟩ := hclosed
      simp only [List.cons_append, assemble] at h ⊢
      split at h
      · obtain ⟨later, hlater, rfl⟩ := map_eq_ok_iff.1 h
        rw [ih (by simpa using hrest) hlater, map_cons_append]
      · cases h
      · rename_i hmarker hloop
        have hlater : .marker ∈ rest.map Line.category :=
          (List.mem_cons.1 hopen).resolve_left (fun heq => hmarker heq.symm)
        exact ih (closed_cons_iff.2 ⟨fun _ => hlater, hrest⟩) h

/-- More lines behind lines whose loops are closed. -/
theorem assemble_none_append {lines : List Line} {items : List Item}
    (hclosed : Closed (lines.map Line.category)) (h : assemble none lines = .ok items)
    (more : List Line) :
    assemble none (lines ++ more) = (items ++ ·) <$> assemble none more :=
  @assemble_append none lines items hclosed h more

/-- A program whose loops are closed keeps its plan in a longer one. -/
theorem exists_append_of_ofProgram {p q : List Placed} {items whole : List Item}
    (hclosed : Closed (p.map (fun placed => placed.block.category)))
    (hplan : ofProgram p = .ok items) (hwhole : ofProgram (p ++ q) = .ok whole) :
    ∃ later, whole = items ++ later := by
  have hlines : ∃ more, Line.ofProgram (p ++ q) = Line.ofProgram p ++ more :=
    ⟨_, by rw [Line.ofProgram, List.zipIdx_append, List.map_append]; rfl⟩
  obtain ⟨more, hmore⟩ := hlines
  rw [← Line.map_category_ofProgram] at hclosed
  rw [ofProgram, hmore, assemble_none_append hclosed hplan] at hwhole
  obtain ⟨later, -, heq⟩ := map_eq_ok_iff.1 hwhole
  exact ⟨later, heq.symm⟩

end Plan

end Spellbook

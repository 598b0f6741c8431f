import Spellbook.Proofs.Program.Numbering
import Spellbook.Proofs.Workbench.Residue
set_option autoImplicit false

/-!
# Looking up several blocks

Ids are looked up one after the other, and the first that is unknown is the fault
(`Catalog.getAll_eq_error_iff`); if all are known, all of their blocks are found
(`Catalog.exists_getAll_iff`).  So a workbench loads all of the blocks it is asked for or none of
them (`Workbench.load_eq_error_iff` and `Workbench.loaded_of_load`).
-/

namespace Spellbook

/-! ## The first that is unknown -/

/-- The first of some names that is not known, with known ones only before it. -/
def FirstUnknown (known : String → Prop) (names : List String) (name : String) : Prop :=
  ∃ before after, names = before ++ name :: after ∧ (∀ earlier ∈ before, known earlier) ∧
    ¬ known name

namespace FirstUnknown

variable {known : String → Prop} {names rest : List String} {first name other : String}

theorem not_nil : ¬ FirstUnknown known [] name := by
  rintro ⟨before, after, hnames, -, -⟩
  cases before <;> cases hnames

theorem cons_iff_of_known (h : known first) :
    FirstUnknown known (first :: rest) name ↔ FirstUnknown known rest name := by
  constructor
  · rintro ⟨before, after, hnames, hbefore, hname⟩
    cases before with
    | nil =>
      cases hnames
      exact absurd h hname
    | cons earlier before =>
      cases hnames
      exact ⟨before, after, rfl, fun e he => hbefore e (List.mem_cons_of_mem _ he), hname⟩
  · rintro ⟨before, after, rfl, hbefore, hname⟩
    exact ⟨first :: before, after, rfl, List.forall_mem_cons.2 ⟨h, hbefore⟩, hname⟩

theorem cons_iff_of_not_known (h : ¬ known first) :
    FirstUnknown known (first :: rest) name ↔ name = first := by
  constructor
  · rintro ⟨before, after, hnames, hbefore, -⟩
    cases before with
    | nil =>
      cases hnames
      rfl
    | cons earlier before =>
      cases hnames
      exact absurd (hbefore first List.mem_cons_self) h
  · rintro rfl
    exact ⟨[], rest, rfl, fun _ hmem => absurd hmem List.not_mem_nil, h⟩

/-- There is one first name that is unknown. -/
theorem unique (h : FirstUnknown known names name) (h' : FirstUnknown known names other) :
    name = other := by
  induction names with
  | nil => exact absurd h not_nil
  | cons first rest ih =>
    by_cases hfirst : known first
    · exact ih ((cons_iff_of_known hfirst).1 h) ((cons_iff_of_known hfirst).1 h')
    · rw [cons_iff_of_not_known hfirst] at h h'
      rw [h, h']

theorem not_of_forall (h : ∀ name ∈ names, known name) : ¬ FirstUnknown known names name := by
  rintro ⟨before, after, rfl, -, hname⟩
  exact hname (h name (by simp))

end FirstUnknown

/-! ## Blocks of a catalog -/

namespace Catalog

variable {c : Catalog} {id : String} {ids : List String} {fault : Fault}

/-- A block of the catalog has this id. -/
def Has (c : Catalog) (id : String) : Prop := id ∈ c.blocks.map Block.id

instance (c : Catalog) (id : String) : Decidable (c.Has id) :=
  inferInstanceAs (Decidable (id ∈ c.blocks.map Block.id))

theorem exists_find?_iff : (∃ b, c.find? id = some b) ↔ c.Has id := by
  rw [Has, List.mem_map]
  constructor
  · rintro ⟨b, h⟩
    exact ⟨b, mem_of_find? h, id_of_find? h⟩
  · rintro ⟨b, hmem, rfl⟩
    exact ⟨b, find?_of_mem hmem⟩

theorem get_eq_error_iff :
    c.get id = .error fault ↔ ¬ c.Has id ∧ fault = .blockUnknown id c.level := by
  rw [← exists_find?_iff, get]
  cases c.find? id with
  | some b => simp
  | none => simp [eq_comm]

/-- The fault of looking up several blocks is that of the first id that is unknown. -/
theorem getAll_eq_error_iff :
    c.getAll ids = .error fault ↔
      ∃ id, FirstUnknown c.Has ids id ∧ fault = .blockUnknown id c.level := by
  induction ids with
  | nil => simp [getAll, FirstUnknown.not_nil]
  | cons first rest ih =>
    rw [getAll]
    cases hget : c.get first with
    | error other =>
      obtain ⟨hfirst, rfl⟩ := get_eq_error_iff.1 hget
      simp [FirstUnknown.cons_iff_of_not_known hfirst, eq_comm]
    | ok b =>
      have hfirst : c.Has first := exists_find?_iff.1 ⟨b, get_eq_ok_iff.1 hget⟩
      simp only [FirstUnknown.cons_iff_of_known hfirst, ← ih]
      cases c.getAll rest <;> simp

theorem exists_getAll_iff : (∃ bs, c.getAll ids = .ok bs) ↔ ∀ id ∈ ids, c.Has id := by
  constructor
  · rintro ⟨bs, h⟩ id hmem
    obtain ⟨rfl, hfound⟩ := of_getAll h
    obtain ⟨b, hb, rfl⟩ := List.mem_map.1 hmem
    exact exists_find?_iff.1 ⟨b, hfound b hb⟩
  · intro h
    cases hget : c.getAll ids with
    | ok bs => exact ⟨bs, rfl⟩
    | error fault =>
      obtain ⟨id, hid, -⟩ := getAll_eq_error_iff.1 hget
      exact absurd hid (FirstUnknown.not_of_forall h)

end Catalog

/-! ## Programs of several blocks -/

namespace Program

theorem blockIds_appendAll (p : Program) (bs : List Block) :
    (p.appendAll bs).blockIds = p.blockIds ++ bs.map Block.id := by
  rw [blockIds_eq, map_block_appendAll, List.map_append, ← blockIds_eq]

/-- Blocks that are added get the next numbers, one after the other. -/
theorem numbers_appendAll (p : Program) (bs : List Block) :
    (p.appendAll bs).numbers = p.numbers ++ List.range' p.nextNumber bs.length := by
  rw [numbers, placed_appendAll, List.map_append, numbers_given, length_given_map_append, numbers]

end Program

namespace Workbench

variable {w w' : Workbench} {ids : List String} {fault : Fault}

/-- The program has been replaced by blocks with these ids, all with new numbers, and nothing
else is changed. -/
structure Loaded (w : Workbench) (ids : List String) (w' : Workbench) : Prop where
  blockIds_eq : w'.program.blockIds = ids
  numbers_eq : w'.program.numbers = List.range' w.program.nextNumber ids.length
  eq_program : w' = { w with program := w'.program }

/-- What is loaded is told by its numbers. -/
theorem loaded_of_load {numbers : List Nat} (h : w.load ids = (.ok numbers, w')) :
    w.Loaded ids w' ∧ numbers = w'.program.numbers := by
  obtain ⟨-, blocks, hblocks, rfl, rfl⟩ := load_eq_ok_iff.1 h
  obtain ⟨rfl, -⟩ := Catalog.of_getAll hblocks
  refine ⟨⟨?_, ?_, rfl⟩, rfl⟩
  · rw [Program.blockIds_appendAll]
    rfl
  · rw [Program.numbers_appendAll, List.length_map]
    rfl

theorem exists_load_iff (h : w.isRunning = false) :
    (∃ numbers w', w.load ids = (.ok numbers, w')) ↔ ∀ id ∈ ids, w.catalog.Has id := by
  rw [← Catalog.exists_getAll_iff]
  simp [load_eq_ok_iff, h]

/-- What is refused leaves the workbench as it was, with its program and the next number. -/
theorem load_eq_error_iff (h : w.isRunning = false) :
    w.load ids = (.error fault, w') ↔
      (∃ id, FirstUnknown w.catalog.Has ids id ∧ fault = .blockUnknown id w.catalog.level) ∧
        w' = w := by
  rw [← Catalog.getAll_eq_error_iff, load, if_neg (by simp [h])]
  cases w.catalog.getAll ids <;> simp [eq_comm]

end Workbench

end Spellbook

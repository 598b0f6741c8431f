import Spellbook.Fault
import Spellbook.Rules
set_option autoImplicit false

/-!
# Catalogs

A catalog is the fixed list of blocks of one level, with an index that leads from an id
to the place of its block.  It is made only from blocks that the level can run: no id
twice, no category but the operation's, no loop on a level without loops, no action that
the level cannot perform.  Blocks are taken in one after the other, and with each of them
the index stays in step with the list (`Catalog.agrees_add`).
-/

namespace Spellbook

/-- The blocks that a level offers, and where each of them stands. -/
structure Catalog where
  level : Level
  blocks : List Block
  /-- The places of the blocks by their ids. -/
  index : List (String × Nat)
  /-- The index leads to a place just if the block there has the id. -/
  agrees : ∀ id i, index.lookup id = some i ↔ blocks[i]?.map Block.id = some id
  deriving DecidableEq

namespace Catalog

/-- A catalog without blocks. -/
def empty (level : Level) : Catalog := ⟨level, [], [], by simp⟩

instance : Inhabited Catalog := ⟨empty default⟩

/-- Whether the index knows this id. -/
def has (c : Catalog) (id : String) : Bool := (c.index.lookup id).isSome

/-- A block with a new id behind the others is found in the last place. -/
theorem agrees_add {c : Catalog} {b : Block} (hnew : c.has b.id = false) (id : String) (i : Nat) :
    List.lookup id ((b.id, c.blocks.length) :: c.index) = some i ↔
      (c.blocks ++ [b])[i]?.map Block.id = some id := by
  have hagrees := c.agrees id i
  have hunknown : c.index.lookup b.id = none := by simpa [has] using hnew
  rw [List.lookup_cons]
  by_cases hid : id = b.id
  · subst hid
    rw [hunknown] at hagrees
    rcases Nat.lt_trichotomy i c.blocks.length with hlt | rfl | hgt
    · rw [List.getElem?_append_left hlt]
      simpa [Nat.ne_of_gt hlt] using hagrees
    · simp
    · have hbehind : (c.blocks ++ [b])[i]? = none := List.getElem?_eq_none (by simp; omega)
      simp [hbehind, Nat.ne_of_lt hgt]
  · have hother : (id == b.id) = false := by simpa using hid
    rw [hother, hagrees]
    rcases Nat.lt_trichotomy i c.blocks.length with hlt | rfl | hgt
    · rw [List.getElem?_append_left hlt]
    · simp [Ne.symm hid]
    · have hbehind : (c.blocks ++ [b])[i]? = none := List.getElem?_eq_none (by simp; omega)
      simp [hbehind, Nat.le_of_lt hgt]

/-- Puts a block with a new id behind the others. -/
def add (c : Catalog) (b : Block) (hnew : c.has b.id = false) : Catalog where
  level := c.level
  blocks := c.blocks ++ [b]
  index := (b.id, c.blocks.length) :: c.index
  agrees := agrees_add hnew

/-! ## Taking blocks in -/

/-- Whether an operation opens or closes a loop. -/
def isLoopPart (op : Op) : Bool := op.category = .loop || op.category = .marker

/-- Whether the level can perform this operation, if it is an action at all. -/
def canPerform (rules : Rules) (op : Op) : Bool :=
  op.category ≠ .action || op = .celebrate || rules.supports op

/-- What is wrong with taking a block in. -/
def objection? (rules : Rules) (c : Catalog) (b : Block) : Option Fault :=
  if c.has b.id then some (.blockRepeated b.id)
  else if b.category ≠ b.op.category then
    some (.categoryMismatch b.id b.category b.op.category)
  else if isLoopPart b.op && !rules.allowsLoops then
    some (.loopNotAllowed b.id rules.level)
  else if !canPerform rules b.op then some (.actionUnsupported b.id rules.level)
  else none

theorem has_eq_false_of_objection? {rules : Rules} {c : Catalog} {b : Block}
    (h : objection? rules c b = none) : c.has b.id = false := by
  cases hhas : c.has b.id with
  | false => rfl
  | true => simp [objection?, hhas] at h

/-- Takes blocks in one after the other, up to the first objection. -/
def addAll (rules : Rules) : Catalog → List Block → Except Fault Catalog
  | c, [] => .ok c
  | c, b :: rest =>
    match h : objection? rules c b with
    | some fault => .error fault
    | none => addAll rules (c.add b (has_eq_false_of_objection? h)) rest

/-- The catalog of these blocks, if there is no objection. -/
def ofBlocks (rules : Rules) (blocks : List Block) : Except Fault Catalog :=
  addAll rules (empty rules.level) blocks

/-! ## Looking up -/

theorem lt_length_of_lookup {c : Catalog} {id : String} {i : Nat}
    (h : c.index.lookup id = some i) : i < c.blocks.length := by
  obtain ⟨b, hb, -⟩ := Option.map_eq_some_iff.1 ((c.agrees id i).1 h)
  exact List.getElem?_eq_some_iff.1 hb |>.1

/-- The block with this id: the index tells where it stands, and there is a block. -/
def find? (c : Catalog) (id : String) : Option Block :=
  match h : c.index.lookup id with
  | none => none
  | some i =>
    have := lt_length_of_lookup h
    some c.blocks[i]

/-- The block with this id, or the fault that there is none. -/
def get (c : Catalog) (id : String) : Except Fault Block :=
  match c.find? id with
  | some b => .ok b
  | none => .error (.blockUnknown id c.level)

/-- The blocks with these ids, or the fault of the first id without one. -/
def getAll (c : Catalog) : List String → Except Fault (List Block)
  | [] => .ok []
  | id :: rest =>
    match c.get id with
    | .error fault => .error fault
    | .ok b =>
      match c.getAll rest with
      | .error fault => .error fault
      | .ok bs => .ok (b :: bs)

variable {c : Catalog} {id : String} {b : Block}

theorem find?_eq_some_iff :
    c.find? id = some b ↔ ∃ i, c.index.lookup id = some i ∧ c.blocks[i]? = some b := by
  unfold find?
  split
  · rename_i h
    simp [h]
  · rename_i i h
    simp [h, List.getElem?_eq_getElem (lt_length_of_lookup h)]

theorem id_of_find? (h : c.find? id = some b) : b.id = id := by
  obtain ⟨i, hindex, hb⟩ := find?_eq_some_iff.1 h
  have hid := (c.agrees id i).1 hindex
  rw [hb] at hid
  exact Option.some.inj hid

/-- The one block of the catalog with an id is found. -/
theorem find?_of_mem (h : b ∈ c.blocks) : c.find? b.id = some b := by
  obtain ⟨i, hi⟩ := List.mem_iff_getElem?.1 h
  exact find?_eq_some_iff.2 ⟨i, (c.agrees b.id i).2 (by rw [hi]; rfl), hi⟩

theorem mem_of_find? (h : c.find? id = some b) : b ∈ c.blocks := by
  obtain ⟨i, -, hb⟩ := find?_eq_some_iff.1 h
  exact List.mem_of_getElem? hb

theorem get_eq_ok_iff : c.get id = .ok b ↔ c.find? id = some b := by
  unfold get
  cases c.find? id <;> simp

/-- No other fault comes of looking up a block. -/
theorem fault_of_get {fault : Fault} (h : c.get id = .error fault) :
    fault = .blockUnknown id c.level := by
  unfold get at h
  split at h
  · cases h
  · exact (Except.error.inj h).symm

theorem fault_of_getAll {ids : List String} {fault : Fault} (h : c.getAll ids = .error fault) :
    ∃ id, fault = .blockUnknown id c.level := by
  induction ids with
  | nil => cases h
  | cons id rest ih =>
    unfold getAll at h
    split at h
    · rename_i hget
      cases h
      exact ⟨id, fault_of_get hget⟩
    · split at h
      · rename_i hrest
        cases h
        exact ih hrest
      · cases h

theorem getAll_map_id {bs : List Block} (h : ∀ b ∈ bs, c.find? b.id = some b) :
    c.getAll (bs.map Block.id) = .ok bs := by
  induction bs with
  | nil => rfl
  | cons b rest ih =>
    have hget : c.get b.id = .ok b := get_eq_ok_iff.2 (h b List.mem_cons_self)
    have hrest := ih (fun b' hmem => h b' (List.mem_cons_of_mem b hmem))
    simp [getAll, hget, hrest]

/-- The blocks with some ids have these ids, and each is found by its own. -/
theorem of_getAll {ids : List String} {bs : List Block} (h : c.getAll ids = .ok bs) :
    bs.map Block.id = ids ∧ ∀ b ∈ bs, c.find? b.id = some b := by
  induction ids generalizing bs with
  | nil =>
    cases h
    exact ⟨rfl, fun b hmem => absurd hmem List.not_mem_nil⟩
  | cons id rest ih =>
    unfold getAll at h
    cases hget : c.get id with
    | error fault =>
      rw [hget] at h
      cases h
    | ok b =>
      have hfound := get_eq_ok_iff.1 hget
      have hid := id_of_find? hfound
      cases hrest : c.getAll rest with
      | error fault =>
        rw [hget, hrest] at h
        cases h
      | ok later =>
        rw [hget, hrest] at h
        cases h
        obtain ⟨hids, hlater⟩ := ih hrest
        refine ⟨by rw [List.map_cons, hid, hids], fun b' hmem => ?_⟩
        rcases List.mem_cons.1 hmem with rfl | hmem
        · rw [hid]
          exact hfound
        · exact hlater b' hmem

end Catalog

end Spellbook

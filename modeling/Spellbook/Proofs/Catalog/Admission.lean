import Mathlib.Data.List.Nodup
import Spellbook.Level.Rules
import Spellbook.Proofs.Execution.Vocabulary
set_option autoImplicit false

/-!
# What a catalog takes in

A catalog is made just if no two blocks have the same id and the level speaks of them all
(`Catalog.exists_addAll_iff`).  Otherwise the fault is about the first block that something is
wrong with, and of all that is wrong with it the first in a fixed order
(`Catalog.exists_of_addAll_error`).  A catalog that is made holds the blocks as they were given,
its index leads from the id of each to its place and from no other id anywhere, and so each is
found by its id (`Catalog.ofBlocks_exact`).
-/

namespace Spellbook

/-- The place of a fault in the order in which blocks are looked at for one. -/
def Fault.rank : Fault → Nat
  | blockRepeated .. => 0
  | categoryMismatch .. => 1
  | loopNotAllowed .. => 2
  | actionUnsupported .. => 3
  | _ => 4

namespace Catalog

/-- Something that is wrong with a block behind others with these ids. -/
inductive Violation (rules : Rules) (earlier : List String) (b : Block) : Fault → Prop
  | repeated (hmem : b.id ∈ earlier) : Violation rules earlier b (.blockRepeated b.id)
  | misstated (hcategory : b.category ≠ b.op.category) :
      Violation rules earlier b (.categoryMismatch b.id b.category b.op.category)
  | looping (hpart : b.op.category = .loop ∨ b.op.category = .marker)
      (hallows : rules.allowsLoops = false) :
      Violation rules earlier b (.loopNotAllowed b.id rules.level)
  | unsupported (haction : b.op.category = .action) (hother : b.op ≠ .celebrate)
      (hsupports : rules.supports b.op = false) :
      Violation rules earlier b (.actionUnsupported b.id rules.level)

/-- This fault comes first among all that is wrong with a block. -/
structure FirstViolation (rules : Rules) (earlier : List String) (b : Block) (fault : Fault) :
    Prop where
  violation : Violation rules earlier b fault
  rank_le : ∀ other, Violation rules earlier b other → fault.rank ≤ other.rank

variable {rules : Rules} {earlier : List String} {b : Block} {blocks : List Block}
  {fault : Fault} {c c' : Catalog} {id : String}

/-- The ids of the blocks in their order. -/
def ids (c : Catalog) : List String := c.blocks.map Block.id

/-- The index knows the ids of the blocks and no others. -/
theorem has_iff : c.has id = true ↔ id ∈ c.ids := by
  rw [has, Option.isSome_iff_exists]
  simp [c.agrees, ids, List.mem_iff_getElem?]

/-! ## One block -/

theorem isLoopPart_iff {op : Op} :
    isLoopPart op = true ↔ op.category = .loop ∨ op.category = .marker := by
  simp [isLoopPart]

theorem canPerform_eq_false_iff {op : Op} :
    canPerform rules op = false ↔
      op.category = .action ∧ op ≠ .celebrate ∧ rules.supports op = false := by
  simp [canPerform, and_assoc]

theorem FirstViolation.of_objection? (h : objection? rules c b = some fault) :
    FirstViolation rules c.ids b fault := by
  unfold objection? at h
  split at h
  · rename_i hrepeated
    cases h
    exact ⟨.repeated (has_iff.1 hrepeated), fun _ _ => Nat.zero_le _⟩
  · rename_i hnew
    split at h
    · rename_i hcategory
      cases h
      refine ⟨.misstated hcategory, fun other hother => ?_⟩
      cases hother with
      | repeated hmem => exact absurd (has_iff.2 hmem) hnew
      | misstated _ => exact Nat.le_refl _
      | looping _ _ => exact Nat.le_succ _
      | unsupported _ _ _ => exact Nat.le_add_right _ 2
    · rename_i hcategory
      split at h
      · rename_i hloop
        simp only [Bool.and_eq_true, Bool.not_eq_true', isLoopPart_iff] at hloop
        cases h
        refine ⟨.looping hloop.1 hloop.2, fun other hother => ?_⟩
        cases hother with
        | repeated hmem => exact absurd (has_iff.2 hmem) hnew
        | misstated hother => exact absurd hother hcategory
        | looping _ _ => exact Nat.le_refl _
        | unsupported _ _ _ => exact Nat.le_succ _
      · rename_i hloop
        split at h
        · rename_i hperforms
          simp only [Bool.not_eq_true', canPerform_eq_false_iff] at hperforms
          obtain ⟨haction, hother, hsupports⟩ := hperforms
          cases h
          refine ⟨.unsupported haction hother hsupports, fun other hother => ?_⟩
          cases hother with
          | repeated hmem => exact absurd (has_iff.2 hmem) hnew
          | misstated hother => exact absurd hother hcategory
          | looping hpart _ => simp [haction] at hpart
          | unsupported _ _ _ => exact Nat.le_refl _
        · cases h

/-- Nothing is wrong with a new block that the level speaks of. -/
theorem Violation.elim (h : Violation rules earlier b fault) (hnew : b.id ∉ earlier)
    (hspeaks : rules.Speaks b) : False := by
  have hcategory := hspeaks.category_eq
  cases h with
  | repeated hmem => exact hnew hmem
  | misstated hother => exact hother hcategory
  | looping hpart hallows =>
    obtain ⟨hloop, hmarker⟩ := hspeaks.loops hallows
    rw [hcategory] at hloop hmarker
    exact hpart.elim hloop hmarker
  | unsupported haction hother hsupports =>
    rcases hspeaks.performs (hcategory.trans haction) with hcelebrate | hsupported
    · exact hother hcelebrate
    · rw [hsupports] at hsupported
      cases hsupported

theorem objection?_eq_none_iff :
    objection? rules c b = none ↔ b.id ∉ c.ids ∧ rules.Speaks b := by
  constructor
  · intro h
    have hnew := has_eq_false_of_objection? h
    exact ⟨fun hmem => by simp [has_iff.2 hmem] at hnew, speaks_of_objection? h⟩
  · rintro ⟨hnew, hspeaks⟩
    cases h : objection? rules c b with
    | none => rfl
    | some fault => exact ((FirstViolation.of_objection? h).violation.elim hnew hspeaks).elim

/-! ## A list of blocks -/

theorem ids_add (hnew : c.has b.id = false) : (c.add b hnew).ids = c.ids ++ [b.id] := by
  simp [ids, add]

theorem addAll_cons_of_none (h : objection? rules c b = none) :
    addAll rules c (b :: blocks) =
      addAll rules (c.add b (has_eq_false_of_objection? h)) blocks := by
  rw [addAll]
  split
  · rename_i hsome
    rw [h] at hsome
    cases hsome
  · rfl

theorem addAll_cons_of_some (h : objection? rules c b = some fault) :
    addAll rules c (b :: blocks) = .error fault := by
  rw [addAll]
  split
  · rename_i hsome
    rw [h] at hsome
    rw [Option.some.inj hsome]
  · rename_i hnone
    rw [h] at hnone
    cases hnone

theorem exists_addAll_iff :
    (∃ c', addAll rules c blocks = .ok c') ↔
      (∀ b ∈ blocks, b.id ∉ c.ids) ∧ (blocks.map Block.id).Nodup ∧
        ∀ b ∈ blocks, rules.Speaks b := by
  induction blocks generalizing c with
  | nil => simp [addAll]
  | cons b rest ih =>
    rw [List.map_cons, List.nodup_cons, List.forall_mem_cons, List.forall_mem_cons]
    cases hfirst : objection? rules c b with
    | some fault =>
      rw [addAll_cons_of_some hfirst]
      simp only [reduceCtorEq, exists_false, false_iff]
      rintro ⟨⟨hnew, -⟩, -, hspeaks, -⟩
      rw [objection?_eq_none_iff.2 ⟨hnew, hspeaks⟩] at hfirst
      cases hfirst
    | none =>
      obtain ⟨hnew, hspeaks⟩ := objection?_eq_none_iff.1 hfirst
      rw [addAll_cons_of_none hfirst, ih, ids_add]
      constructor
      · rintro ⟨hlater, hnodup, hrest⟩
        refine ⟨⟨hnew, fun b' hmem hearlier => ?_⟩, ⟨?_, hnodup⟩, hspeaks, hrest⟩
        · exact hlater b' hmem (List.mem_append_left _ hearlier)
        · intro hrepeated
          obtain ⟨b', hmem, hsame⟩ := List.mem_map.1 hrepeated
          exact hlater b' hmem (by simp [hsame])
      · rintro ⟨⟨-, hlater⟩, ⟨hunlike, hnodup⟩, -, hrest⟩
        refine ⟨fun b' hmem hearlier => ?_, hnodup, hrest⟩
        rcases List.mem_append.1 hearlier with hearlier | hsame
        · exact hlater b' hmem hearlier
        · exact hunlike (List.mem_map.2 ⟨b', hmem, List.mem_singleton.1 hsame⟩)

/-- The fault is an objection to some block behind others that are taken in. -/
theorem exists_of_addAll_error (h : addAll rules c blocks = .error fault) :
    ∃ before b after c', blocks = before ++ b :: after ∧ addAll rules c before = .ok c' ∧
      objection? rules c' b = some fault := by
  induction blocks generalizing c with
  | nil => cases h
  | cons b rest ih =>
    cases hfirst : objection? rules c b with
    | some first =>
      rw [addAll_cons_of_some hfirst] at h
      cases h
      exact ⟨[], b, rest, c, rfl, rfl, hfirst⟩
    | none =>
      rw [addAll_cons_of_none hfirst] at h
      obtain ⟨before, b', after, c', rfl, hbefore, hfault⟩ := ih h
      exact ⟨b :: before, b', after, c', rfl, by rw [addAll_cons_of_none hfirst, hbefore], hfault⟩

/-- Where no two blocks have the same id and the level speaks of them all, nothing is wrong
with any. -/
theorem not_violation_of_append {front back : List Block}
    (hnodup : ((front ++ b :: back).map Block.id).Nodup)
    (hspeaks : ∀ b' ∈ front ++ b :: back, rules.Speaks b') :
    ¬ Violation rules (front.map Block.id) b fault := by
  intro h
  refine h.elim (fun hmem => ?_) (hspeaks b (by simp))
  rw [List.map_append, List.map_cons, List.nodup_append] at hnodup
  exact hnodup.2.2 b.id hmem b.id List.mem_cons_self rfl

/-! ## The whole catalog -/

theorem find?_eq_none_of_not_mem (h : id ∉ c.ids) : c.find? id = none := by
  cases hfound : c.find? id with
  | none => rfl
  | some b =>
    have hid := id_of_find? hfound
    exact absurd (List.mem_map.2 ⟨b, mem_of_find? hfound, hid⟩) h

theorem exists_ofBlocks_iff :
    (∃ c, ofBlocks rules blocks = .ok c) ↔
      (blocks.map Block.id).Nodup ∧ ∀ b ∈ blocks, rules.Speaks b := by
  simp [ofBlocks, exists_addAll_iff, ids, empty]

/-- The places of ids of which none is there twice. -/
theorem lookup_reverse_zipIdx {ids : List String} (h : ids.Nodup) (id : String) (i : Nat) :
    ids.zipIdx.reverse.lookup id = some i ↔ ids[i]? = some id := by
  rw [lookup_eq_some_iff_mem, List.mem_reverse, List.mem_zipIdx_iff_getElem?]
  rw [List.map_reverse, List.zipIdx_map_fst]
  exact List.nodup_reverse.2 h

/-- The catalog of blocks of which no two have the same id. -/
def ofNodup (level : Level) (blocks : List Block) (h : (blocks.map Block.id).Nodup) : Catalog where
  level := level
  blocks := blocks
  index := (blocks.map Block.id).zipIdx.reverse
  agrees id i := by rw [lookup_reverse_zipIdx h, List.getElem?_map]

/-- Whatever the level and the blocks: the catalog is made just if no two of them have the same
id and the level speaks of them all.  If it is not, the fault is the first in its order of all
that is wrong with one of them, and nothing is wrong with those before.  If it is, it has the
blocks as they were given, and its index leads to a place just if the block there has the id;
each id leads to the one block that has it, and all others are unknown. -/
theorem ofBlocks_exact (rules : Rules) (blocks : List Block) :
    ((∃ c, ofBlocks rules blocks = .ok c) ↔
      (blocks.map Block.id).Nodup ∧ ∀ b ∈ blocks, rules.Speaks b) ∧
    (∀ fault, ofBlocks rules blocks = .error fault →
      ∃ before b after, blocks = before ++ b :: after ∧
        FirstViolation rules (before.map Block.id) b fault ∧
        ∀ front a back, before = front ++ a :: back →
          ∀ other, ¬ Violation rules (front.map Block.id) a other) ∧
    ∀ c, ofBlocks rules blocks = .ok c →
      c.level = rules.level ∧ c.blocks = blocks ∧
      (∀ id i, c.index.lookup id = some i ↔ ∃ b, blocks[i]? = some b ∧ b.id = id) ∧
      (∀ b ∈ blocks, c.find? b.id = some b ∧ c.get b.id = .ok b ∧
        ∀ b' ∈ blocks, b'.id = b.id → b' = b) ∧
      ∀ id, id ∉ blocks.map Block.id → c.find? id = none ∧
        c.get id = .error (.blockUnknown id rules.level) ∧
        (Fault.blockUnknown id rules.level).code = "CATALOG_BLOCK_NOT_FOUND" := by
  refine ⟨exists_ofBlocks_iff, ?_, ?_⟩
  · intro fault h
    obtain ⟨before, b, after, c, hblocks, hbefore, hfault⟩ := exists_of_addAll_error h
    obtain ⟨hnodup, hspeaks⟩ := exists_ofBlocks_iff.1 ⟨c, hbefore⟩
    refine ⟨before, b, after, hblocks, ?_, ?_⟩
    · have hids : c.ids = before.map Block.id :=
        congrArg (List.map Block.id) (blocks_of_addAll hbefore).2
      rw [← hids]
      exact .of_objection? hfault
    · rintro front a back rfl other
      exact not_violation_of_append hnodup hspeaks
  · intro c h
    obtain ⟨hnodup, -⟩ := exists_ofBlocks_iff.1 ⟨c, h⟩
    obtain ⟨hlevel, hsame⟩ := blocks_of_addAll h
    obtain rfl : c.blocks = blocks := hsame
    refine ⟨hlevel, rfl, fun id i => ?_, fun b hmem => ?_, fun id hother => ?_⟩
    · rw [c.agrees, Option.map_eq_some_iff]
    · have hfound := find?_of_mem hmem
      refine ⟨hfound, get_eq_ok_iff.2 hfound, fun b' hmem' hsame => ?_⟩
      exact List.inj_on_of_nodup_map hnodup hmem' hmem hsame
    · have hunknown := find?_eq_none_of_not_mem hother
      refine ⟨hunknown, ?_, rfl⟩
      rw [get, hunknown, hlevel]
      rfl

/-- Behind a step forward stand another one that is stated to be calculation, and a loop that
the workshop does not allow.  The fault is that the step forward is repeated.  Without these two
the catalog is made, and the dance stands in its second place. -/
theorem ofBlocks_exact_workshop :
    let misstated : Block := { Block.stepForward with category := .math }
    let loop := Block.ofOp "repeat-3" "Repeat 3" "" "" (.repeatTimes 3)
    (∃ before b after,
        [Block.stepForward, misstated, loop, Block.celebrate] = before ++ b :: after ∧
          FirstViolation Potion.rules (before.map Block.id) b (.blockRepeated "step-forward")) ∧
      ∃ c, ofBlocks Potion.rules [Block.stepForward, Block.celebrate] = .ok c ∧
        c.index.lookup "celebrate" = some 1 ∧ c.get "celebrate" = .ok Block.celebrate ∧
        c.get "repeat-3" = .error (.blockUnknown "repeat-3" .collection) := by
  intro misstated loop
  obtain ⟨-, hrefused, -⟩ :=
    ofBlocks_exact Potion.rules [Block.stepForward, misstated, loop, Block.celebrate]
  obtain ⟨-, -, haccepted⟩ := ofBlocks_exact Potion.rules [Block.stepForward, Block.celebrate]
  obtain ⟨c, hc⟩ : ∃ c, ofBlocks Potion.rules [Block.stepForward, Block.celebrate] = .ok c :=
    ⟨_, rfl⟩
  obtain ⟨-, -, hindex, hfound, hunknown⟩ := haccepted c hc
  refine ⟨?_, c, hc, ?_, ?_, ?_⟩
  · obtain ⟨before, b, after, hblocks, hfirst, -⟩ := hrefused (.blockRepeated "step-forward") rfl
    exact ⟨before, b, after, hblocks, hfirst⟩
  · exact (hindex "celebrate" 1).2 ⟨Block.celebrate, rfl, rfl⟩
  · exact (hfound Block.celebrate (by decide)).2.1
  · exact (hunknown "repeat-3" (by decide)).2.1

end Catalog

/-! ## The catalogs of the levels -/

/-- The blocks that a level offers, whatever is drawn for it. -/
def Level.blocks : Level → List Block
  | collection => Potion.blocks
  | crossroads => Crossroads.blocks
  | combat => Gauntlet.blocks
  | bridge => Bridge.blocks

/-- The catalog of a level, whatever is drawn for it. -/
def Level.catalog (level : Level) : Catalog :=
  .ofNodup level level.blocks (by cases level <;> decide)

/-- Every level can run the blocks that it offers. -/
theorem Setup.ofBlocks_rules (s : Setup) :
    Catalog.ofBlocks s.rules s.rules.blocks = .ok s.level.catalog := by
  rw [rules_eq]
  cases s.level <;> rfl

end Spellbook

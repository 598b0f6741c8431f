import Mathlib.Data.List.Nodup
import Spellbook.Json.Record
import Spellbook.Proofs.Json.Reading
set_option autoImplicit false

/-!
# What a JSON value holds

A JSON value holds a thing for a reader if the reader finds it there, and if the value is
`Neat`, so that it is still there when the value has been written and read (`Holds`).  The
lemmas follow the writers and readers of fields; a record holds what its fields hold
(`Holds.record` and `Holds.case_`).  What a reader can find at all is said by `Gives`.
-/

namespace Spellbook

/-- Names that are read back. -/
class LawfulNamed (α : Type) [Named α] : Prop where
  ofName?_name : ∀ a : α, Named.ofName? (Named.name a) = some a

namespace Json

variable {α : Type} {depth : Nat} {j : Json} {read : Json → Option α} {write : α → Json}

/-! ## Neat values -/

theorem Neat.mono {deeper : Nat} (h : Neat depth j) (hle : depth ≤ deeper) : Neat deeper j := by
  induction h generalizing deeper with
  | null => exact .null
  | bool b => exact .bool b
  | integer h => exact .integer h
  | text s => exact .text s
  | list h ih =>
    cases deeper with
    | zero => exact absurd hle (Nat.not_succ_le_zero _)
    | succ d => exact .list fun j hj => ih j hj (Nat.le_of_succ_le_succ hle)
  | object h ih =>
    cases deeper with
    | zero => exact absurd hle (Nat.not_succ_le_zero _)
    | succ d => exact .object fun f hf => ih f hf (Nat.le_of_succ_le_succ hle)

theorem areKept_iff {items : List Json} :
    areKept items = true ↔ ∀ j ∈ items, j.isKept = true := by
  induction items with
  | nil => simp [areKept]
  | cons j rest ih => simp [areKept, ih]

theorem fieldsKept_iff {fields : List (String × Json)} :
    fieldsKept fields = true ↔ ∀ f ∈ fields, f.2.isKept = true := by
  induction fields with
  | nil => simp [fieldsKept]
  | cons f rest ih => simp [fieldsKept, ih]

theorem Neat.isKept (h : Neat depth j) : j.isKept = true := by
  induction h with
  | list h ih => exact areKept_iff.2 ih
  | object h ih => exact fieldsKept_iff.2 ih
  | _ => rfl

/-! ## Fields of a record -/

theorem slot_of_mem {fields : List (String × Json)} {f : String × Json}
    (hnodup : (fields.map Prod.fst).Nodup) (hf : f ∈ fields) :
    slot fields f.1 = some (some f.2) := by
  have honly : fields.filter (fun g => g.1 == f.1) = [f] := by
    induction fields with
    | nil => exact absurd hf List.not_mem_nil
    | cons g rest ih =>
      obtain ⟨hnew, hrest⟩ := List.nodup_cons.1 hnodup
      rcases List.mem_cons.1 hf with rfl | hf
      · have hnone : rest.filter (fun g => g.1 == f.1) = [] := by
          apply List.filter_eq_nil_iff.2
          intro g hg hsame
          rw [beq_iff_eq] at hsame
          exact hnew (hsame ▸ List.mem_map_of_mem hg)
        rw [List.filter_cons_of_pos (by simp), hnone]
      · have hother : g.1 ≠ f.1 := fun hsame => hnew (hsame ▸ List.mem_map_of_mem hf)
        rw [List.filter_cons_of_neg (by simpa using hother)]
        exact ih hrest hf
  rw [slot, honly]

/-- A record is read field by field from an object that has its fields in their order. -/
theorem slots_object {names : List String} {fields : List (String × Json)}
    (hnames : fields.map Prod.fst = names) (hnodup : names.Nodup) (least : Nat) :
    slots names least (object fields) = some (fields.map (fun f => some f.2)) := by
  have hslots : ∀ part : List (String × Json), (∀ f ∈ part, f ∈ fields) →
      (part.map Prod.fst).mapM (slot fields) = some (part.map (fun f => some f.2)) := by
    intro part hpart
    induction part with
    | nil => rfl
    | cons f rest ih =>
      have hf := slot_of_mem (hnames ▸ hnodup) (hpart f List.mem_cons_self)
      have hrest := ih fun g hg => hpart g (List.mem_cons_of_mem f hg)
      rw [List.map_cons, List.mapM_cons, hf, hrest]
      rfl
  rw [← hnames]
  exact hslots fields fun f hf => hf

theorem bind_slots_object {names : List String} {least : Nat} {fields : List (String × Json)}
    {build : List (Option Json) → Option α} {a : α} (hnames : fields.map Prod.fst = names)
    (hnodup : names.Nodup) (hbuild : build (fields.map (fun f => some f.2)) = some a) :
    (slots names least (object fields)).bind build = some a := by
  rw [slots_object hnames hnodup, Option.bind_some, hbuild]

/-- A tagged record gives its case, and its fields without the tag. -/
theorem tagged_case_ {tag name : String} {fields : List (String × Json)}
    (hneat : ∀ f ∈ fields, Neat depth f.2) (htag : tag ∉ fields.map Prod.fst) :
    tagged tag (case_ tag name fields) = some (name, object fields) := by
  have hkept : (case_ tag name fields).isKept = true := by
    apply fieldsKept_iff.2
    intro f hf
    rcases List.mem_cons.1 hf with rfl | hf
    · rfl
    · exact (hneat f hf).isKept
  have hothers : ∀ f ∈ fields, f.1 ≠ tag := fun f hf hsame =>
    htag (hsame ▸ List.mem_map_of_mem hf)
  have hslot : slot ((tag, text name) :: fields) tag = some (some (text name)) := by
    have hnone : fields.filter (fun f => f.1 == tag) = [] :=
      List.filter_eq_nil_iff.2 fun f hf => by simpa using hothers f hf
    rw [slot, List.filter_cons_of_pos (by simp), hnone]
  have hrest : ((tag, text name) :: fields).filter (fun f => f.1 != tag) = fields := by
    rw [List.filter_cons_of_neg (by simp)]
    exact List.filter_eq_self.2 fun f hf => by simpa using hothers f hf
  rw [tagged, if_pos hkept, case_, untag]
  simp only [hslot, hrest]

/-! ## What values hold -/

/-- The value is nested at most so deep and read as it is written, and this is what the
reader finds in it. -/
structure Holds (read : Json → Option α) (depth : Nat) (j : Json) (a : α) : Prop where
  neat : Neat depth j
  read_eq : read j = some a

namespace Holds

theorem required {a : α} (h : Holds read depth j a) : required read (some j) = some a :=
  h.read_eq

theorem optional {o : Option α} (h : Holds (option? read) depth j o) :
    optional read (some j) = some o :=
  h.read_eq

theorem defaulting {a : α} (h : Holds read depth j a) (default_ : α) :
    defaulting read default_ (some j) = some a :=
  h.read_eq

theorem mono {deeper : Nat} {a : α} (h : Holds read depth j a) (hle : depth ≤ deeper) :
    Holds read deeper j a :=
  ⟨h.neat.mono hle, h.read_eq⟩

theorem text (s : String) : Holds text? depth (.text s) s := ⟨.text s, rfl⟩

theorem bool (b : Bool) : Holds bool? depth (.bool b) b := ⟨.bool b, rfl⟩

theorem nat64 {n : Nat} (h : n < 0x10000000000000000) : Holds nat64? depth (nat n) n :=
  ⟨.integer h, if_pos h⟩

theorem nat32 {n : Nat} (h : n < 0x100000000) : Holds nat32? depth (nat n) n :=
  ⟨.integer (Nat.lt_trans h (by decide)), if_pos h⟩

theorem named [Named α] [LawfulNamed α] (a : α) : Holds named? depth (ofNamed a) a :=
  ⟨.text _, LawfulNamed.ofName?_name a⟩

theorem taggedName [Named α] [LawfulNamed α] (a : α) : Holds taggedName? depth (ofNamed a) a :=
  ⟨.text _, LawfulNamed.ofName?_name a⟩

theorem list {as : List α} (h : ∀ a ∈ as, Holds read depth (write a) a) :
    Holds (listOf? read) (depth + 1) (.list (as.map write)) as where
  neat := by
    refine .list fun j hj => ?_
    obtain ⟨a, ha, rfl⟩ := List.mem_map.1 hj
    exact (h a ha).neat
  read_eq := by
    show (as.map write).mapM read = some as
    induction as with
    | nil => rfl
    | cons a rest ih =>
      rw [List.map_cons, List.mapM_cons, (h a List.mem_cons_self).read_eq,
        ih fun b hb => h b (List.mem_cons_of_mem a hb)]
      rfl

theorem texts (ss : List String) : Holds texts? (depth + 1) (.texts ss) ss :=
  list fun s _ => text s

/-- Nothing that is written as `null` may be absent. -/
theorem option {o : Option α} (h : ∀ a ∈ o, Holds read depth (write a) a)
    (hnull : ∀ a, write a ≠ .null) : Holds (option? read) depth (ofOption write o) o := by
  cases o with
  | none => exact ⟨.null, rfl⟩
  | some a =>
    obtain ⟨hneat, hread⟩ := h a rfl
    refine ⟨hneat, ?_⟩
    rw [ofOption, option?, hread]
    · rfl
    · exact hnull a

/-- A record is read from what its fields hold. -/
theorem record {names : List String} {least : Nat} {fields : List (String × Json)}
    {build : List (Option Json) → Option α} {a : α} (hnames : fields.map Prod.fst = names)
    (hnodup : names.Nodup) (hneat : ∀ f ∈ fields, Neat depth f.2)
    (hbuild : build (fields.map (fun f => some f.2)) = some a) :
    Holds (fun j => (slots names least j).bind build) (depth + 1) (.object fields) a :=
  ⟨.object hneat, bind_slots_object hnames hnodup hbuild⟩

/-- A tagged record is read by its case from what the fields of this case hold. -/
theorem case_ {tag name : String} {fields : List (String × Json)}
    {build : String × Json → Option α} {a : α} (hneat : ∀ f ∈ fields, Neat depth f.2)
    (htag : tag ∉ fields.map Prod.fst) (hbuild : build (name, .object fields) = some a) :
    Holds (fun j => (tagged tag j).bind build) (depth + 1) (.case_ tag name fields) a where
  neat := .object (List.forall_mem_cons.2 ⟨.text name, hneat⟩)
  read_eq := by
    rw [tagged_case_ hneat htag, Option.bind_some, hbuild]

theorem ofText?_compact {a : α} (h : Holds read depth j a) (hdepth : depth ≤ maxDepth) :
    (ofText? j.compact).bind read = some a := by
  rw [Json.ofText?_compact h.neat hdepth, Option.bind_some, h.read_eq]

theorem ofText?_pretty {a : α} (h : Holds read depth j a) (hdepth : depth ≤ maxDepth) :
    (ofText? j.pretty).bind read = some a := by
  rw [Json.ofText?_pretty h.neat hdepth, Option.bind_some, h.read_eq]

end Holds

/-! ## What readers give -/

/-- Whatever the reader finds is of this kind. -/
def Gives (read : Json → Option α) (p : α → Prop) : Prop := ∀ j a, read j = some a → p a

namespace Gives

variable {p : α → Prop}

theorem natBelow (limit : Nat) : Gives (natBelow? limit) (· < limit) := by
  intro j n h
  unfold natBelow? at h
  split at h
  · split at h
    · rename_i hlt
      exact Option.some.inj h ▸ hlt
    · cases h
  · cases h

theorem list (h : Gives read p) : Gives (listOf? read) (fun as => ∀ a ∈ as, p a) := by
  intro j as hread
  obtain ⟨items, -, hitems⟩ := Option.bind_eq_some_iff.1 hread
  clear hread
  induction items generalizing as with
  | nil =>
    obtain rfl : [] = as := Option.some.inj hitems
    exact fun a ha => absurd ha List.not_mem_nil
  | cons item rest ih =>
    rw [List.mapM_cons] at hitems
    obtain ⟨first, hfirst, hitems⟩ := Option.bind_eq_some_iff.1 hitems
    obtain ⟨others, hothers, hitems⟩ := Option.bind_eq_some_iff.1 hitems
    obtain rfl : first :: others = as := Option.some.inj hitems
    exact List.forall_mem_cons.2 ⟨h item first hfirst, ih others hothers⟩

theorem required (h : Gives read p) {slot : Option Json} {a : α}
    (hread : required read slot = some a) : p a := by
  obtain ⟨j, -, hj⟩ := Option.bind_eq_some_iff.1 hread
  exact h j a hj

theorem optional (h : Gives read p) {slot : Option Json} {o : Option α}
    (hread : optional read slot = some o) : ∀ a ∈ o, p a := by
  rintro a rfl
  cases slot with
  | none => cases hread
  | some j =>
    cases j with
    | null => cases hread
    | _ =>
      obtain ⟨b, hb, hsome⟩ := Option.map_eq_some_iff.1 hread
      cases hsome
      exact h _ _ hb

end Gives

end Json

end Spellbook

set_option autoImplicit false

/-!
# Closed lists of names

Levels, kinds of things, spells and the like are small closed types whose
members have fixed names.  `Named.ofName?` reads such a name; it accepts the
names of the members and nothing else.  At the end stand a few lemmas on what is
found by its name in a list.
-/

namespace Spellbook

/-- A type with finitely many members, each with a name of its own. -/
class Named (α : Type) where
  /-- The members, in their usual order. -/
  all : List α
  /-- The name of a member. -/
  name : α → String

namespace Named

variable {α : Type} [Named α]

/-- The member with this name. -/
def ofName? (s : String) : Option α :=
  (all : List α).find? (fun a => name a == s)

theorem name_of_ofName? {s : String} {a : α} (h : ofName? s = some a) : name a = s := by
  simpa using List.find?_some h

/-- No other names are read than those of the members. -/
theorem ofName?_eq_none_iff {s : String} :
    (ofName? s : Option α) = none ↔ s ∉ (all : List α).map name := by
  simp [ofName?]

/-- Names that are read back tell the members apart. -/
theorem name_injective (h : ∀ a : α, ofName? (name a) = some a) :
    Function.Injective (name : α → String) := by
  intro a a' heq
  have hread := h a'
  rw [← heq, h a] at hread
  exact Option.some.inj hread

/-- The names of the members between commas. -/
def listed (as : List α) : String :=
  ", ".intercalate (as.map name)

end Named

/-- Where no two members of a list have the same name, each is found by its own. -/
theorem find?_of_nodup_map {α : Type} {name : α → String} {as : List α} {a : α}
    (hnames : (as.map name).Nodup) (h : a ∈ as) :
    as.find? (fun other => name other == name a) = some a := by
  induction as with
  | nil => cases h
  | cons first rest ih =>
    obtain ⟨hnew, hrest⟩ := List.nodup_cons.1 hnames
    rcases List.mem_cons.1 h with rfl | hmem
    · exact List.find?_cons_of_pos (by simp)
    · have hother : name first ≠ name a := by
        intro hsame
        rw [hsame] at hnew
        exact hnew (List.mem_map_of_mem hmem)
      rw [List.find?_cons_of_neg (by simpa using hother)]
      exact ih hrest hmem

theorem lookup_cons_eq {β : Type} (name other : String) (b : β) (entries : List (String × β)) :
    ((name, b) :: entries).lookup other =
      if other = name then some b else entries.lookup other := by
  by_cases h : other = name
  · simp [h]
  · have hne : (other == name) = false := by simpa using h
    simp [List.lookup_cons, hne, h]

/-- Where no name is used twice, an entry is found by its name. -/
theorem lookup_eq_some_iff_mem {β : Type} {entries : List (String × β)} {name : String} {b : β}
    (hnodup : (entries.map Prod.fst).Nodup) :
    entries.lookup name = some b ↔ (name, b) ∈ entries := by
  induction entries with
  | nil => simp
  | cons e rest ih =>
    obtain ⟨hnew, hrest⟩ := List.nodup_cons.1 hnodup
    rw [lookup_cons_eq e.1 name e.2 rest, List.mem_cons]
    split
    · rename_i hsame
      subst hsame
      have hother : (e.1, b) ∉ rest := fun hmem => hnew (List.mem_map.2 ⟨_, hmem, rfl⟩)
      simp [hother, Prod.ext_iff, eq_comm]
    · rename_i hdiffers
      rw [ih hrest]
      simp [Prod.ext_iff, hdiffers]

end Spellbook

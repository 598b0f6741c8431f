import Spellbook.Json.Reader
import Spellbook.Proofs.Json.Scanning
set_option autoImplicit false

/-!
# Reading what is written

The tokens of a value lead a reading that waits for a value to one that has it, whatever is
open around it, if the value is not nested too deep there (`Reading.takes_of_neat`).  So a
value that is `Neat` is read back from both of its written forms (`ofText?_compact` and
`ofText?_pretty`).
-/

namespace Spellbook.Json

namespace Reading

variable {ts : List Token} {outer : List Frame} {j : Json}

theorem feedAll_cons {r r' : Reading} {t : Token} (h : r.feed t = some r') :
    r.feedAll (t :: ts) = r'.feedAll ts := by
  rw [feedAll, h, Option.bind_some]

theorem complete_of_lt (h : outer.length < maxDepth) (v : Json) :
    complete v outer = after v outer := by
  rw [complete, if_pos h]

/-- Where a value is waited for, its tokens lead to it. -/
def Takes (outer : List Frame) (j : Json) : Prop :=
  ∀ ts, (value outer).feedAll (j.tokens ++ ts) = (after j outer).feedAll ts

/-! ## Lists -/

/-- A value that is the first item of a list is read as any other item. -/
theorem feedAll_firstItem (j : Json) (ts : List Token) :
    (firstItem outer).feedAll (j.tokens ++ ts) =
      (value (.list [] :: outer)).feedAll (j.tokens ++ ts) := by
  have hstart : ∃ t more, j.tokens = t :: more ∧ t ≠ .endList := by
    cases j with
    | list items => cases items <;> exact ⟨.beginList, _, rfl, nofun⟩
    | object fields => cases fields <;> exact ⟨.beginObject, _, rfl, nofun⟩
    | _ => exact ⟨_, [], rfl, nofun⟩
  obtain ⟨t, more, htokens, hne⟩ := hstart
  have hfeed : (firstItem outer).feed t = (value (.list [] :: outer)).feed t := by
    cases t with
    | endList => exact absurd rfl hne
    | _ => rfl
  rw [htokens, List.cons_append, feedAll, feedAll, hfeed]

theorem feedAll_itemTokens {items : List Json} (hdepth : outer.length < maxDepth)
    (h : ∀ j ∈ items, ∀ before, Takes (.list before :: outer) j) (before : List Json)
    (last : Json) (ts : List Token) :
    (after last (.list before :: outer)).feedAll (itemTokens items ++ .endList :: ts) =
      (after (.list ((last :: before).reverse ++ items)) outer).feedAll ts := by
  induction items generalizing before last with
  | nil =>
    have hend : (after last (.list before :: outer)).feed .endList =
        some (after (.list (last :: before).reverse) outer) := by
      rw [← complete_of_lt hdepth]
      rfl
    rw [itemTokens, List.nil_append, feedAll_cons hend, List.append_nil]
  | cons j rest ih =>
    have hcomma : (after last (.list before :: outer)).feed .comma =
        some (value (.list (last :: before) :: outer)) := rfl
    have hlater := ih (fun j' hj' => h j' (List.mem_cons_of_mem j hj')) (last :: before) j
    rw [itemTokens, List.cons_append, List.cons_append, feedAll_cons hcomma, List.append_assoc,
      h j List.mem_cons_self, hlater]
    simp

theorem takes_list {items : List Json} (hdepth : outer.length < maxDepth)
    (h : ∀ j ∈ items, ∀ before, Takes (.list before :: outer) j) :
    Takes outer (.list items) := by
  intro ts
  have hbegin : (value outer).feed .beginList = some (firstItem outer) := rfl
  cases items with
  | nil =>
    have hend : (firstItem outer).feed .endList = some (after (.list []) outer) := by
      rw [← complete_of_lt hdepth]
      rfl
    exact (feedAll_cons hbegin).trans (feedAll_cons hend)
  | cons first rest =>
    have hrest := feedAll_itemTokens hdepth (fun j hj => h j (List.mem_cons_of_mem first hj))
      [] first ts
    have htokens : (list (first :: rest)).tokens ++ ts =
        .beginList :: (first.tokens ++ (itemTokens rest ++ .endList :: ts)) := by
      simp [tokens]
    rw [htokens, feedAll_cons hbegin, feedAll_firstItem, h first List.mem_cons_self, hrest]
    rfl

/-! ## Objects -/

/-- Fields with names that are known. -/
def known (fields : List (String × Json)) : List (Option String × Json) :=
  fields.map (fun f => (some f.1, f.2))

theorem known_reverse (fields : List (String × Json)) :
    known fields.reverse = (known fields).reverse :=
  List.map_reverse

theorem ofFields_known (fields : List (String × Json)) :
    ofFields (known fields) = object fields := by
  have hnames : (known fields).mapM (fun f => f.1.map (fun name => (name, f.2))) =
      some fields := by
    induction fields with
    | nil => rfl
    | cons f rest ih =>
      rw [known, List.map_cons, List.mapM_cons]
      simp only [known] at ih
      rw [ih]
      rfl
  rw [ofFields, hnames]

theorem feedAll_field {name : String} {before : List (String × Json)}
    (h : Takes (.field (known before) (some name) :: outer) j) (ts : List Token) :
    (Reading.name (known before) outer).feedAll (.text name :: .colon :: (j.tokens ++ ts)) =
      (after j (.field (known before) (some name) :: outer)).feedAll ts := by
  have hname : (Reading.name (known before) outer).feed (.text name) =
      some (colon (known before) (some name) outer) := rfl
  have hcolon : (colon (known before) (some name) outer).feed .colon =
      some (value (.field (known before) (some name) :: outer)) := rfl
  rw [feedAll_cons hname, feedAll_cons hcolon, h]

theorem feedAll_fieldTokens {fields : List (String × Json)} (hdepth : outer.length < maxDepth)
    (h : ∀ f ∈ fields, ∀ before name, Takes (.field (known before) (some name) :: outer) f.2)
    (before : List (String × Json)) (name : String) (last : Json) (ts : List Token) :
    (after last (.field (known before) (some name) :: outer)).feedAll
        (fieldTokens fields ++ .endObject :: ts) =
      (after (.object (((name, last) :: before).reverse ++ fields)) outer).feedAll ts := by
  induction fields generalizing before name last with
  | nil =>
    have hend : (after last (.field (known before) (some name) :: outer)).feed .endObject =
        some (after (.object ((name, last) :: before).reverse) outer) := by
      rw [← complete_of_lt hdepth, ← ofFields_known, known_reverse]
      rfl
    rw [fieldTokens, List.nil_append, feedAll_cons hend, List.append_nil]
  | cons f rest ih =>
    obtain ⟨next, j⟩ := f
    have hcomma : (after last (.field (known before) (some name) :: outer)).feed .comma =
        some (Reading.name (known ((name, last) :: before)) outer) := rfl
    have hfield := feedAll_field (h _ List.mem_cons_self ((name, last) :: before) next)
      (fieldTokens rest ++ .endObject :: ts)
    have hlater := ih (fun f hf => h f (List.mem_cons_of_mem _ hf)) ((name, last) :: before)
      next j
    have htokens : fieldTokens ((next, j) :: rest) ++ .endObject :: ts =
        .comma :: .text next :: .colon :: (j.tokens ++ (fieldTokens rest ++ .endObject :: ts)) := by
      simp [fieldTokens]
    rw [htokens, feedAll_cons hcomma, hfield, hlater]
    simp

theorem takes_object {fields : List (String × Json)} (hdepth : outer.length < maxDepth)
    (h : ∀ f ∈ fields, ∀ before name, Takes (.field (known before) (some name) :: outer) f.2) :
    Takes outer (.object fields) := by
  intro ts
  have hbegin : (value outer).feed .beginObject = some (firstName outer) := rfl
  cases fields with
  | nil =>
    have hend : (firstName outer).feed .endObject = some (after (.object []) outer) := by
      rw [← complete_of_lt hdepth]
      rfl
    exact (feedAll_cons hbegin).trans (feedAll_cons hend)
  | cons f rest =>
    obtain ⟨name, first⟩ := f
    have hrest := feedAll_fieldTokens hdepth (fun f hf => h f (List.mem_cons_of_mem _ hf))
      [] name first ts
    have hfield := feedAll_field (h _ List.mem_cons_self [] name)
      (fieldTokens rest ++ .endObject :: ts)
    have htokens : (object ((name, first) :: rest)).tokens ++ ts =
        .beginObject :: .text name :: .colon ::
          (first.tokens ++ (fieldTokens rest ++ .endObject :: ts)) := by
      simp [tokens]
    -- The first name of an object is read as any other name.
    have hfirst (ts : List Token) : (firstName outer).feedAll (.text name :: ts) =
        (Reading.name (known []) outer).feedAll (.text name :: ts) := rfl
    rw [htokens, feedAll_cons hbegin, hfirst, hfield, hrest]
    rfl

/-! ## Any value -/

theorem takes_of_neat {depth : Nat} (h : Neat depth j) {outer : List Frame}
    (hdepth : outer.length + depth ≤ maxDepth) : Takes outer j := by
  induction h generalizing outer with
  | null => exact fun ts => rfl
  | bool b => exact fun ts => rfl
  | integer h => exact fun ts => rfl
  | text s => exact fun ts => rfl
  | list h ih =>
    refine takes_list (by omega) fun j hj before => ih j hj ?_
    rw [List.length_cons]
    omega
  | object h ih =>
    refine takes_object (by omega) fun f hf before name => ih f hf ?_
    rw [List.length_cons]
    omega

end Reading

variable {depth : Nat} {j : Json}

theorem ofTokens?_tokens (h : Neat depth j) (hdepth : depth ≤ maxDepth) :
    ofTokens? j.tokens = some j := by
  have htakes : Reading.Takes [] j := Reading.takes_of_neat h (by simpa using hdepth)
  have hread := htakes []
  rw [List.append_nil] at hread
  rw [ofTokens?, hread]
  rfl

/-- A value is read back from its compact form. -/
theorem ofText?_compact (h : Neat depth j) (hdepth : depth ≤ maxDepth) :
    ofText? j.compact = some j := by
  rw [ofText?, scan_compact h, Option.bind_some, ofTokens?_tokens h hdepth]

/-- A value is read back from its laid-out form. -/
theorem ofText?_pretty (h : Neat depth j) (hdepth : depth ≤ maxDepth) :
    ofText? j.pretty = some j := by
  rw [ofText?, scan_pretty h, Option.bind_some, ofTokens?_tokens h hdepth]

end Spellbook.Json

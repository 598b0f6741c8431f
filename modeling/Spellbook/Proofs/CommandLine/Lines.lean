import Spellbook.CommandLine.Answer
set_option autoImplicit false

/-!
# Lines of an output

Texts without a line end in them are printed one a line, and the lines of the output are these
texts (`lines_printLines`).  No line of an answer has a line end in it, whatever messages it
tells, since they are written as JSON, where no control character stands as it is
(`Visible.quoted`).  Lines are found by the key that they begin with (`linesWith_printLines` and
`filter_begins_keyedLines`).
-/

namespace Spellbook

/-! ## Characters that are written -/

/-- There is no control character in the text. -/
def Visible (s : String) : Prop := ∀ c ∈ s.toList, 0x20 ≤ c.toNat

instance (s : String) : Decidable (Visible s) :=
  List.decidableBAll (fun c : Char => 0x20 ≤ c.toNat) s.toList

/-- There is no line end in the text. -/
def OneLine (s : String) : Prop := '\n' ∉ s.toList

instance (s : String) : Decidable (OneLine s) := inferInstanceAs (Decidable (_ ∉ _))

namespace Visible

variable {s t : String}

theorem append (hs : Visible s) (ht : Visible t) : Visible (s ++ t) := by
  rw [Visible, String.toList_append, List.forall_mem_append]
  exact ⟨hs, ht⟩

theorem nat (n : Nat) : Visible (toString n) := by
  intro c hc
  have hdigit := Text.isDigit_of_mem_toString hc
  simp only [Char.isDigit, Bool.and_eq_true, decide_eq_true_eq, UInt32.le_iff_toNat_le] at hdigit
  exact Nat.le_trans (by decide) hdigit.1

theorem all_escapeChar (c : Char) :
    (Json.escapeChar c).all (fun d => 0x20 ≤ d.toNat) = true := by
  have hhex : ∀ n < 0x10, 0x20 ≤ (Json.hexDigit n).toNat := by decide
  unfold Json.escapeChar
  iterate 7
    split
    · decide
  split
  · rename_i hcontrol
    have hfirst := hhex (c.toNat / 16) (by omega)
    have hsecond := hhex (c.toNat % 16) (by omega)
    simp only [List.all_cons, Bool.and_eq_true, decide_eq_true_eq]
    exact ⟨by decide, by decide, by decide, by decide, hfirst, hsecond, rfl⟩
  · rename_i hprinted
    simpa using hprinted

/-- Control characters within a text are not written as they are. -/
theorem quoted (s : String) : Visible (Json.quoted s) := by
  intro d hd
  rw [Json.quoted, String.toList_ofList, Json.quote, List.mem_cons, List.mem_append,
    List.mem_flatMap, List.mem_singleton] at hd
  rcases hd with rfl | ⟨c, -, hwritten⟩ | rfl
  · decide
  · simpa using List.all_eq_true.1 (all_escapeChar c) d hwritten
  · decide

theorem not_mem {c : Char} (h : Visible s) (hc : c.toNat < 0x20) : c ∉ s.toList :=
  fun hmem => Nat.not_lt_of_le (h c hmem) hc

theorem oneLine (h : Visible s) : OneLine s := h.not_mem (by decide)

end Visible

namespace OneLine

variable {s t : String}

theorem append (hs : OneLine s) (ht : OneLine t) : OneLine (s ++ t) := by
  rw [OneLine, String.toList_append, List.mem_append]
  exact fun h => h.elim hs ht

theorem nat (n : Nat) : OneLine (toString n) := (Visible.nat n).oneLine

/-- Line ends within a text are not written as they are. -/
theorem quoted (s : String) : OneLine (Json.quoted s) := (Visible.quoted s).oneLine

theorem code (f : Fault) : OneLine f.code := by
  cases f <;>
    rw [Fault.code] <;> decide

end OneLine

/-! ## Printing and reading lines -/

theorem lines_printLines_cons {line : String} (h : OneLine line) (rest : List String) :
    Text.lines (Play.Console.printLines (line :: rest)) =
      line :: Text.lines (Play.Console.printLines rest) := by
  have hprinted : (Play.Console.printLines (line :: rest)).toList =
      line.toList ++ '\n' :: (Play.Console.printLines rest).toList := by
    simp [Play.Console.printLines, String.toList_join]
  have hline : Text.piecesOf (· == '\n') line.toList = [line.toList] :=
    Text.piecesOf_of_not_mem h
  rw [Text.lines, Text.pieces, hprinted, Text.piecesOf_append_cons rfl, hline, List.map_append,
    List.map_singleton, String.ofList_toList]
  rfl

/-- The first lines of an output are those that were printed first. -/
theorem lines_printLines_append {lines : List String} (h : ∀ line ∈ lines, OneLine line)
    (rest : List String) :
    Text.lines (Play.Console.printLines (lines ++ rest)) =
      lines ++ Text.lines (Play.Console.printLines rest) := by
  induction lines with
  | nil => rfl
  | cons line others ih =>
    obtain ⟨hline, hothers⟩ := List.forall_mem_cons.1 h
    rw [List.cons_append, lines_printLines_cons hline, ih hothers, List.cons_append]

/-- The line begins with this key. -/
def Begins (key line : String) : Bool := key.toList.isPrefixOf line.toList

/-- The lines of an output that begin with this key. -/
def linesWith (key output : String) : List String := (Text.lines output).filter (Begins key)

theorem begins_append (key rest : String) : Begins key (key ++ rest) = true := by
  rw [Begins, List.isPrefixOf_iff_prefix, String.toList_append]
  exact List.prefix_append _ _

/-- A line with another key does not begin with this one, if neither key begins with the other. -/
theorem begins_append_eq_false {key other : String} (h : Begins key other = false)
    (h' : Begins other key = false) (rest : String) : Begins key (other ++ rest) = false := by
  rw [Begins, ← Bool.not_eq_true, List.isPrefixOf_iff_prefix] at h h' ⊢
  intro hprefix
  rw [String.toList_append] at hprefix
  rcases List.prefix_or_prefix_of_prefix hprefix (List.prefix_append _ _) with hkey | hother
  · exact h hkey
  · exact h' hother

/-- Lines made of a key and what it tells. -/
def keyedLines (pairs : List (String × String)) : List String := pairs.map (fun p => p.1 ++ p.2)

/-- Lines with keys of which none begins with another are found by their keys. -/
theorem filter_begins_keyedLines {key : String} {keys : List String}
    {pairs : List (String × String)} (hkeys : pairs.map Prod.fst = keys)
    (h : ∀ other ∈ keys, other = key ∨ (Begins key other = false ∧ Begins other key = false)) :
    (keyedLines pairs).filter (Begins key) = keyedLines (pairs.filter (fun p => p.1 == key)) := by
  subst hkeys
  induction pairs with
  | nil => rfl
  | cons p rest ih =>
    have hrest := ih fun other hmem => h other (List.mem_cons_of_mem _ hmem)
    rw [keyedLines, List.map_cons]
    rcases h p.1 List.mem_cons_self with hsame | ⟨hother, hother'⟩
    · rw [List.filter_cons_of_pos (by rw [hsame]; exact begins_append _ _),
        List.filter_cons_of_pos (by simpa using hsame)]
      exact congrArg _ hrest
    · have hne : p.1 ≠ key := by
        rintro rfl
        have hself := begins_append p.1 ""
        rw [String.append_empty, hother] at hself
        cases hself
      rw [List.filter_cons_of_neg (by rw [begins_append_eq_false hother hother']; exact nofun),
        List.filter_cons_of_neg (by simpa using hne)]
      exact hrest

/-- No line begins with a key that is none of theirs. -/
theorem begins_eq_false_of_mem_keyedLines {key line : String} {keys : List String}
    {pairs : List (String × String)} (hkeys : pairs.map Prod.fst = keys)
    (h : ∀ other ∈ keys, Begins key other = false ∧ Begins other key = false)
    (hline : line ∈ keyedLines pairs) : Begins key line = false := by
  obtain ⟨p, hp, rfl⟩ := List.mem_map.1 hline
  obtain ⟨hother, hother'⟩ := h p.1 (hkeys ▸ List.mem_map_of_mem hp)
  exact begins_append_eq_false hother hother' p.2

theorem oneLine_of_mem_keyedLines {pairs : List (String × String)}
    (h : ∀ p ∈ pairs, OneLine p.1 ∧ OneLine p.2) :
    ∀ line ∈ keyedLines pairs, OneLine line := by
  intro line hline
  obtain ⟨p, hp, rfl⟩ := List.mem_map.1 hline
  exact (h p hp).1.append (h p hp).2

/-- How the round of an event is told. -/
def Event.roundText (e : Event) : String := (e.round.map toString).getD "-"

/-- The line of an event, field by field. -/
theorem Event.line_eq (e : Event) :
    e.line = "STEP:" ++ (toString e.index ++ ("|" ++ (e.roundText ++ ("|" ++
      (e.severity.name ++ ("|" ++ Json.quoted e.message)))))) := by
  unfold Event.line
  simp only [String.append_assoc]
  rfl

theorem Event.visible_line (e : Event) : Visible e.line := by
  have hround : Visible e.roundText := by
    unfold Event.roundText
    cases e.round with
    | none => decide
    | some n => exact .nat n
  have hseverity : Visible e.severity.name := by
    cases e.severity <;> decide
  have hbar : Visible "|" := by decide
  have hkey : Visible "STEP:" := by decide
  rw [e.line_eq]
  exact hkey.append ((Visible.nat e.index).append (hbar.append (hround.append (hbar.append
    (hseverity.append (hbar.append (.quoted e.message)))))))

theorem Event.oneLine_line (e : Event) : OneLine e.line := e.visible_line.oneLine

theorem Event.begins_line (e : Event) : Begins "STEP:" e.line = true := by
  rw [e.line_eq]
  exact begins_append _ _

theorem Event.begins_line_eq_false {key : String} (h : Begins key "STEP:" = false)
    (h' : Begins "STEP:" key = false) (e : Event) : Begins key e.line = false := by
  rw [e.line_eq]
  exact begins_append_eq_false h h' _

/-- Among lines that all begin with a key, all are found by it. -/
theorem filter_begins_lines (events : List Event) :
    (events.map Event.line).filter (Begins "STEP:") = events.map Event.line := by
  apply List.filter_eq_self.2
  intro line hline
  obtain ⟨e, -, rfl⟩ := List.mem_map.1 hline
  exact e.begins_line

theorem filter_begins_lines_of_other {key : String} (h : Begins key "STEP:" = false)
    (h' : Begins "STEP:" key = false) (events : List Event) :
    (events.map Event.line).filter (Begins key) = [] := by
  apply List.filter_eq_nil_iff.2
  intro line hline
  obtain ⟨e, -, rfl⟩ := List.mem_map.1 hline
  rw [e.begins_line_eq_false h h']
  exact nofun

end Spellbook

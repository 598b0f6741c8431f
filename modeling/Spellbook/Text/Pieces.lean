set_option autoImplicit false

/-!
# Cutting text into pieces

`pieces p` cuts a text at every character that `p` accepts and drops those
characters.  Lines, list items and the parts of a path are pieces; words are the
pieces between blanks that are not empty.
-/

namespace Spellbook.Text

/-- Cuts at every character that `p` accepts; there is one piece more than cuts. -/
def piecesOf (p : Char → Bool) : List Char → List (List Char)
  | [] => [[]]
  | c :: rest =>
    if p c then [] :: piecesOf p rest
    else match piecesOf p rest with
      | [] => [[c]]
      | first :: others => (c :: first) :: others

theorem piecesOf_ne_nil (p : Char → Bool) (cs : List Char) : piecesOf p cs ≠ [] := by
  cases cs with
  | nil => simp [piecesOf]
  | cons c rest =>
    unfold piecesOf
    split
    · simp
    · split <;> simp

/-- At a separator the pieces before it end and those behind it begin. -/
theorem piecesOf_append_cons {p : Char → Bool} {sep : Char} (h : p sep = true)
    (front back : List Char) :
    piecesOf p (front ++ sep :: back) = piecesOf p front ++ piecesOf p back := by
  induction front with
  | nil => simp [piecesOf, h]
  | cons c rest ih =>
    obtain ⟨first, others, hrest⟩ := List.exists_cons_of_ne_nil (piecesOf_ne_nil p rest)
    rw [List.cons_append, piecesOf, piecesOf, ih, hrest]
    split <;> rfl

/-- Without a separator in it the front belongs to the first piece. -/
theorem piecesOf_append_of_forall {p : Char → Bool} {front back first : List Char}
    {others : List (List Char)} (h : ∀ c ∈ front, p c = false)
    (hback : piecesOf p back = first :: others) :
    piecesOf p (front ++ back) = (front ++ first) :: others := by
  induction front with
  | nil => exact hback
  | cons c rest ih =>
    obtain ⟨hc, hrest⟩ := List.forall_mem_cons.1 h
    rw [List.cons_append, piecesOf, hc, ih hrest]
    rfl

/-- A text without a separator is one piece. -/
theorem piecesOf_of_forall {p : Char → Bool} {cs : List Char} (h : ∀ c ∈ cs, p c = false) :
    piecesOf p cs = [cs] := by
  have hpieces : piecesOf p (cs ++ []) = [cs ++ []] := piecesOf_append_of_forall h rfl
  rwa [List.append_nil] at hpieces

theorem beq_eq_false_of_not_mem {sep : Char} {cs : List Char} (h : sep ∉ cs) :
    ∀ c ∈ cs, (c == sep) = false := by
  intro c hc
  rw [beq_eq_false_iff_ne]
  rintro rfl
  exact h hc

theorem piecesOf_of_not_mem {sep : Char} {cs : List Char} (h : sep ∉ cs) :
    piecesOf (· == sep) cs = [cs] :=
  piecesOf_of_forall (beq_eq_false_of_not_mem h)

/-- Putting the pieces back between single separators gives the text again. -/
theorem intercalate_piecesOf (sep : Char) (cs : List Char) :
    [sep].intercalate (piecesOf (· == sep) cs) = cs := by
  induction cs with
  | nil => rfl
  | cons c rest ih =>
    unfold piecesOf
    obtain ⟨first, others, h⟩ := List.exists_cons_of_ne_nil (piecesOf_ne_nil (· == sep) rest)
    rw [h] at ih ⊢
    split
    · rename_i hc
      simp only [beq_iff_eq] at hc
      simp [List.intercalate, hc] at ih ⊢
      exact ih
    · cases others with
      | nil => simp [List.intercalate] at ih ⊢; exact ih
      | cons o os => simp [List.intercalate] at ih ⊢; exact ih

/-- The pieces of a text as texts. -/
def pieces (p : Char → Bool) (s : String) : List String :=
  (piecesOf p s.toList).map String.ofList

/-- The lines of a text; the last one may be empty. -/
def lines (s : String) : List String := pieces (· == '\n') s

end Spellbook.Text

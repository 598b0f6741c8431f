import Mathlib.Data.List.Nodup
import Mathlib.Data.List.NodupEquivFin
import Mathlib.Data.List.Forall2
import Mathlib.Order.Fin.Basic
import Spellbook.Case
set_option autoImplicit false

/-!
# Texts found in messages

Each text that a case expects is looked for behind the message in which the one before it was
found, and the first message it occurs in is taken.  Taking the first loses nothing
(`Case.foundIn_cons_iff_of_occurs`): all texts are found just if they can be assigned to messages
in their order, no two to the same (`Case.firstMissing?_eq_none_iff`), and the text that is not
found is the first with which those up to it cannot be (`Case.firstMissing?_eq_some_iff`).
-/

namespace Spellbook

namespace Case

variable {part whole wanted message text : String} {rest before messages texts : List String}

/-! ## Texts in texts -/

/-- A text stands somewhere in another. -/
def Occurs (part whole : String) : Prop := ∃ before after, before ++ part ++ after = whole

theorem occurs_eq_true_iff {part whole : List Char} :
    occurs part whole = true ↔ part <:+: whole := by
  induction whole with
  | nil => rw [occurs, List.isEmpty_iff, List.infix_nil]
  | cons c rest ih =>
    rw [occurs, Bool.or_eq_true, List.isPrefixOf_iff_prefix, ih, List.infix_cons_iff]

theorem occursIn_eq_true_iff : occursIn part whole = true ↔ Occurs part whole := by
  rw [occursIn, occurs_eq_true_iff]
  constructor
  · rintro ⟨before, after, hwhole⟩
    refine ⟨.ofList before, .ofList after, String.toList_inj.1 ?_⟩
    simpa using hwhole
  · rintro ⟨before, after, rfl⟩
    exact ⟨before.toList, after.toList, by simp⟩

/-! ## Texts in messages -/

/-- Texts can be assigned to messages that they occur in, in their order and each to one of its
own. -/
def Assigned (texts messages : List String) : Prop :=
  ∃ place : Fin texts.length → Fin messages.length,
    StrictMono place ∧ ∀ i, Occurs texts[i] messages[place i]

/-- Texts are found in messages in their order. -/
abbrev FoundIn (texts messages : List String) : Prop :=
  List.SublistForall₂ Occurs texts messages

theorem assigned_iff_foundIn : Assigned texts messages ↔ FoundIn texts messages := by
  rw [FoundIn, List.sublistForall₂_iff]
  constructor
  · rintro ⟨place, hmono, hoccurs⟩
    refine ⟨List.ofFn fun i => messages[place i], ?_, ?_⟩
    · rw [List.forall₂_iff_get]
      exact ⟨by simp, fun i h₁ h₂ => by simpa using hoccurs ⟨i, h₁⟩⟩
    · rw [List.sublist_iff_exists_fin_orderEmbedding_get_eq]
      have hlength : (List.ofFn fun i => messages[place i]).length = texts.length :=
        List.length_ofFn
      refine ⟨(Fin.castOrderIso hlength).toOrderEmbedding.trans
        (OrderEmbedding.ofStrictMono place hmono), fun i => ?_⟩
      exact List.get_ofFn _ i
  · rintro ⟨taken, hoccurs, hsublist⟩
    obtain ⟨place, hplace⟩ := List.sublist_iff_exists_fin_orderEmbedding_get_eq.1 hsublist
    obtain ⟨hlength, hoccurs⟩ := List.forall₂_iff_get.1 hoccurs
    refine ⟨fun i => place (i.cast hlength), ?_, fun i => ?_⟩
    · exact place.strictMono.comp (Fin.castOrderIso hlength).strictMono
    · have hfound := hoccurs i i.isLt (i.cast hlength).isLt
      rwa [hplace] at hfound

/-! ## The first message is taken -/

theorem FoundIn.tail (h : FoundIn (wanted :: rest) messages) : FoundIn rest messages := by
  rw [FoundIn, List.sublistForall₂_iff] at h ⊢
  obtain ⟨taken, hoccurs, hsublist⟩ := h
  cases hoccurs with
  | cons _ hrest => exact ⟨_, hrest, (List.sublist_cons_self _ _).trans hsublist⟩

theorem foundIn_cons_iff_of_not_occurs (h : ¬ Occurs wanted message) :
    FoundIn (wanted :: rest) (message :: messages) ↔ FoundIn (wanted :: rest) messages := by
  refine ⟨fun hfound => ?_, .cons_right⟩
  cases hfound with
  | cons hoccurs _ => exact absurd hoccurs h
  | cons_right hfound => exact hfound

/-- If a text was assigned to a later message than the first it occurs in, the first may be taken
in its place. -/
theorem foundIn_cons_iff_of_occurs (h : Occurs wanted message) :
    FoundIn (wanted :: rest) (message :: messages) ↔ FoundIn rest messages := by
  refine ⟨fun hfound => ?_, .cons h⟩
  cases hfound with
  | cons _ hrest => exact hrest
  | cons_right hfound => exact FoundIn.tail hfound

theorem firstMissing?_of_not_occurs (h : ¬ Occurs wanted message) :
    firstMissing? (wanted :: rest) (message :: messages) =
      firstMissing? (wanted :: rest) messages := by
  have hnot : occursIn wanted message = false := by rwa [← Bool.not_eq_true, occursIn_eq_true_iff]
  rw [firstMissing?, List.dropWhile_cons_of_pos (by rw [hnot]; rfl), ← firstMissing?]

theorem firstMissing?_of_occurs (h : Occurs wanted message) :
    firstMissing? (wanted :: rest) (message :: messages) = firstMissing? rest messages := by
  rw [firstMissing?, List.dropWhile_cons_of_neg (by rw [occursIn_eq_true_iff.2 h]; decide)]

/-! ## The first text that is missing -/

/-- The first of some texts with which those up to it cannot be assigned to messages. -/
def FirstMissing (texts messages : List String) (text : String) : Prop :=
  ∃ before after, texts = before ++ text :: after ∧ Assigned before messages ∧
    ¬ Assigned (before ++ [text]) messages

theorem firstMissing_cons_iff_of_occurs (h : Occurs wanted message) :
    FirstMissing (wanted :: rest) (message :: messages) text ↔ FirstMissing rest messages text := by
  simp only [FirstMissing, assigned_iff_foundIn]
  constructor
  · rintro ⟨before, after, htexts, hbefore, htext⟩
    cases before with
    | nil =>
      cases htexts
      exact absurd (.cons h .nil) htext
    | cons first before =>
      cases htexts
      rw [List.cons_append, foundIn_cons_iff_of_occurs h] at htext
      exact ⟨before, after, rfl, (foundIn_cons_iff_of_occurs h).1 hbefore, htext⟩
  · rintro ⟨before, after, rfl, hbefore, htext⟩
    refine ⟨wanted :: before, after, rfl, .cons h hbefore, ?_⟩
    rwa [List.cons_append, foundIn_cons_iff_of_occurs h]

theorem firstMissing_cons_iff_of_not_occurs (h : ¬ Occurs wanted message) :
    FirstMissing (wanted :: rest) (message :: messages) text ↔
      FirstMissing (wanted :: rest) messages text := by
  simp only [FirstMissing, assigned_iff_foundIn]
  refine exists_congr fun before => exists_congr fun after => and_congr_right fun htexts => ?_
  cases before with
  | nil =>
    cases htexts
    simp only [List.nil_append, foundIn_cons_iff_of_not_occurs h]
    exact and_congr_left' (iff_of_true .nil .nil)
  | cons first before =>
    cases htexts
    simp only [List.cons_append, foundIn_cons_iff_of_not_occurs h]

theorem firstMissing_nil_iff : FirstMissing (wanted :: rest) [] text ↔ text = wanted := by
  simp only [FirstMissing, assigned_iff_foundIn]
  constructor
  · rintro ⟨before, after, htexts, hbefore, -⟩
    cases hbefore
    cases htexts
    rfl
  · rintro rfl
    exact ⟨[], rest, rfl, .nil, nofun⟩

theorem not_firstMissing_of_nil : ¬ FirstMissing [] messages text := by
  rintro ⟨before, after, htexts, -⟩
  cases before <;> cases htexts

theorem firstMissing?_eq_some_iff :
    firstMissing? texts messages = some text ↔ FirstMissing texts messages text := by
  induction messages generalizing texts with
  | nil =>
    cases texts with
    | nil => exact iff_of_false nofun not_firstMissing_of_nil
    | cons wanted rest => rw [firstMissing_nil_iff]; simp [firstMissing?, eq_comm]
  | cons message messages ih =>
    cases texts with
    | nil => exact iff_of_false nofun not_firstMissing_of_nil
    | cons wanted rest =>
      by_cases h : Occurs wanted message
      · rw [firstMissing?_of_occurs h, firstMissing_cons_iff_of_occurs h, ih]
      · rw [firstMissing?_of_not_occurs h, firstMissing_cons_iff_of_not_occurs h, ih]

/-- Both texts are in the first message, but only one of them may take it. -/
example : firstMissing? ["Step", "forward"] ["Step forward.", "Step back."] = some "forward" := by
  decide

theorem firstMissing?_eq_none_iff :
    firstMissing? texts messages = none ↔ Assigned texts messages := by
  rw [assigned_iff_foundIn]
  induction messages generalizing texts with
  | nil =>
    cases texts with
    | nil => exact iff_of_true rfl .nil
    | cons wanted rest => exact iff_of_false nofun nofun
  | cons message messages ih =>
    cases texts with
    | nil => exact iff_of_true rfl .nil
    | cons wanted rest =>
      by_cases h : Occurs wanted message
      · rw [firstMissing?_of_occurs h, foundIn_cons_iff_of_occurs h, ih]
      · rw [firstMissing?_of_not_occurs h, foundIn_cons_iff_of_not_occurs h, ih]

end Case

end Spellbook

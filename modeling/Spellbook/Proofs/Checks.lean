import Mathlib.Order.Defs.Unbundled
set_option autoImplicit false

/-!
# Checks made one after the other

Where checks are made in an order, an answer is given if all of them are passed, and else the fault
is the first of all that is wrong.  If nothing but one fault can be wrong with one check, what is
answered is thereby settled (`Checks.exists_ok_iff` and `Checks.eq_error_iff`).
-/

namespace Spellbook

variable {ε α : Type} {Wrong : ε → Prop} {rank : ε → Nat} {Passes : Nat → Prop}
  {answer : Except ε α} {fault other : ε}

/-- What is wrong fails the check in its place, where nothing else can be wrong. -/
structure Checks (Wrong : ε → Prop) (rank : ε → Nat) (Passes : Nat → Prop) : Prop where
  not_passes : ∀ {fault}, Wrong fault → ¬ Passes (rank fault)
  unique : ∀ {fault other}, Wrong fault → Wrong other → rank fault = rank other → fault = other

/-- Something is answered if all checks are passed, and else the first that is wrong. -/
def Settles (Wrong : ε → Prop) (rank : ε → Nat) (Passes : Nat → Prop) : Except ε α → Prop
  | .ok _ => ∀ place, Passes place
  | .error fault => MinimalFor Wrong rank fault

namespace Checks

/-- A fault is the first if all checks before its own are passed. -/
theorem minimalFor (h : Checks Wrong rank Passes) (hwrong : Wrong fault) {place : Nat}
    (hrank : rank fault = place) (hpasses : ∀ before < place, Passes before) :
    MinimalFor Wrong rank fault := by
  refine ⟨hwrong, fun other hother _ => Nat.le_of_not_lt fun hlt => ?_⟩
  exact h.not_passes hother (hpasses _ (hrank ▸ hlt))

/-- There is one first fault. -/
theorem eq_of_minimalFor (h : Checks Wrong rank Passes) (hfirst : MinimalFor Wrong rank fault)
    (hother : MinimalFor Wrong rank other) : fault = other := by
  have hrank : rank fault = rank other := by
    rcases Nat.le_total (rank fault) (rank other) with hle | hle
    · exact Nat.le_antisymm hle (hother.2 hfirst.1 hle)
    · exact Nat.le_antisymm (hfirst.2 hother.1 hle) hle
  exact h.unique hfirst.1 hother.1 hrank

theorem exists_ok_iff (h : Checks Wrong rank Passes) (hanswer : Settles Wrong rank Passes answer) :
    (∃ a, answer = .ok a) ↔ ∀ place, Passes place := by
  cases answer with
  | ok a => exact iff_of_true ⟨a, rfl⟩ hanswer
  | error fault => exact iff_of_false nofun fun hpasses => h.not_passes hanswer.1 (hpasses _)

theorem eq_error_iff (h : Checks Wrong rank Passes) (hanswer : Settles Wrong rank Passes answer) :
    answer = .error fault ↔ MinimalFor Wrong rank fault := by
  cases answer with
  | ok a => exact iff_of_false nofun fun hfirst => h.not_passes hfirst.1 (hanswer _)
  | error first =>
    rw [Except.error.injEq]
    constructor
    · rintro rfl
      exact hanswer
    · exact h.eq_of_minimalFor hanswer

end Checks

end Spellbook

import Spellbook.Proofs.Level.Victory
import Spellbook.Proofs.Workbench.Calls
import Spellbook.Proofs.Written.Ranges
set_option autoImplicit false

/-!
# Reports that fit

What a run reports of a program fits, whatever the program does, if the program has no more
blocks than there are numbers for them: an event is told by its place in the program, a round
that a loop can have, and a world that the opening scene leads to (`Workbench.reportOf_fits`).
-/

namespace Spellbook

open Run (start Trace Made)

/-! ## Worlds -/

/-- A world that fits, with the wizard on its track, leads only to worlds that fit. -/
theorem World.Fits.leadsTo {w w' : World} (hw : w.Fits) (hwizard : w.position < w.trackLength)
    (h : w.LeadsTo w') : w'.Fits where
  position := by
    have hon := h.position_lt hwizard
    rw [h.trackLength_eq] at hon
    exact Nat.lt_trans hon hw.trackLength
  trackLength := by
    rw [h.trackLength_eq]
    exact hw.trackLength
  things := h.forall_identity (P := fun identity => identity.2.2 < wordLimit) hw.things

variable {program : List Placed} {setup : Setup} {rules : Rules} {r r' last : Run}
  {s s' : Scene} {e : Event} {events : List Event} {line : Line} {round : Option Nat}

/-- A round that is told is one that a loop can have. -/
theorem Cursor.WellFormed.round_le {c : Cursor} (h : c.WellFormed program)
    (hline : c.line? = some (line, round)) : ∀ n ∈ round, n ≤ maxRounds := by
  rintro n rfl
  cases h with
  | done => cases hline
  | placed hplan hat hshown hshows =>
    cases hshown.symm.trans hline
    cases hshows with
    | body hitem hbody hfirst hlast => exact hlast

end Spellbook

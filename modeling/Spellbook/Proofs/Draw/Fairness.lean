import Mathlib.Data.FinEnum
import Mathlib.Data.Int.CardIntervalMod
import Spellbook.Draw
set_option autoImplicit false

/-!
# Draws end and favour no number

A draw answers the remainder of the first candidate below the limit, and takes no candidate
behind it from the source (`below?_eq_some_iff`).  From the seeded source it does so after at
most `2^32` candidates, whatever the state (`seeded_ends`).

The limit is a whole number of bounds, so each remainder stands for equally many candidates
(`card_hits`), and fewer are passed over than there are remainders (`card_misses`): no number is
drawn more easily than another (`favours_none`).
-/

namespace Spellbook.Draw

/-! ## The candidate that is taken -/

section Source

variable {σ : Type} {next : σ → UInt32 × σ} {bound number : UInt32} {source rest : σ} {most : Nat}

theorem TakesAt.unique {n m : Nat} (hn : TakesAt next bound source n)
    (hm : TakesAt next bound source m) : n = m := by
  rcases Nat.lt_trichotomy n m with hlt | heq | hlt
  · exact absurd hn.taken (UInt64.not_lt.2 (hm.passedOver n hlt))
  · exact heq
  · exact absurd hm.taken (UInt64.not_lt.2 (hn.passedOver m hlt))

theorem exists_takesAt_of_below? {drawn : UInt32 × σ}
    (h : below? next bound most source = some drawn) :
    ∃ n < most, TakesAt next bound source n := by
  induction most generalizing source with
  | zero => cases h
  | succ most ih =>
    by_cases hlimit : limit bound ≤ (next source).1.toUInt64
    · rw [below?_succ_of_le hlimit] at h
      obtain ⟨n, hn, htakes⟩ := ih h
      exact ⟨n + 1, Nat.succ_lt_succ hn, htakes.succ hlimit⟩
    · exact ⟨0, most.succ_pos, takesAt_zero (UInt64.not_le.1 hlimit)⟩

/-- However many candidates may be taken, a draw that ends has taken them up to the first one
below the limit, and no more. -/
theorem below?_eq_some_iff :
    below? next bound most source = some (number, rest) ↔
      ∃ n < most, TakesAt next bound source n ∧
        number = nth next n source % bound ∧ rest = behind next (n + 1) source := by
  constructor
  · intro h
    obtain ⟨n, hn, htakes⟩ := exists_takesAt_of_below? h
    have hdrawn := (htakes.below?_eq hn).symm.trans h
    cases hdrawn
    exact ⟨n, hn, htakes, rfl, rfl⟩
  · rintro ⟨n, hn, htakes, rfl, rfl⟩
    exact htakes.below?_eq hn

end Source

/-- Whatever the state: a draw below a positive bound passes over fewer than `2^32` candidates
of the seeded source, takes the next one and answers a number below the bound.  So of any
choices, if there are some and fewer than `2^32`, the one with the number drawn is picked. -/
theorem seeded_ends (state : UInt32) :
    (∀ bound : UInt32, 0 < bound → ∃ n < UInt32.size, TakesAt next bound state n ∧
      ∃ number < bound,
        below? next bound UInt32.size state = some (number, behind next (n + 1) state)) ∧
    ∀ {α : Type} (choices : List α), choices ≠ [] → choices.length < UInt32.size →
      ∃ (number after : UInt32) (h : number.toNat < choices.length),
        below? next (.ofNat choices.length) UInt32.size state = some (number, after) ∧
          pick? choices state = some (choices[number.toNat], after) := by
  constructor
  · intro bound hbound
    obtain ⟨n, hn, htakes⟩ := exists_takesAt_next hbound state
    have hfew : n < UInt32.size := Nat.lt_of_le_of_lt hn (UInt32.toNat_lt_size _)
    exact ⟨n, hfew, htakes, _, UInt32.mod_lt _ hbound, htakes.below?_eq hfew⟩
  · exact fun choices hne hfew => exists_pick?_eq hne hfew state

/-- Below a bound just above the middle of the words nearly half of the candidates are passed
over, here six in a row. -/
theorem seeded_ends_after_seven :
    (0 : UInt32) < 0x80000001 ∧ TakesAt next 0x80000001 11 6 ∧
      (∃ number < 0x80000001,
        below? next 0x80000001 UInt32.size 11 = some (number, behind next 7 11)) ∧
      ['a', 'b', 'c'] ≠ [] ∧ ['a', 'b', 'c'].length < UInt32.size ∧
      ∃ choice ∈ ['a', 'b', 'c'], ∃ after, pick? ['a', 'b', 'c'] 11 = some (choice, after) := by
  obtain ⟨hdraw, hpick⟩ := seeded_ends 11
  obtain ⟨n, -, htakes, hends⟩ := hdraw 0x80000001 (by decide)
  have hsix : n = 6 := htakes.unique ⟨by decide, by decide⟩
  subst hsix
  obtain ⟨number, after, hlt, -, hpicked⟩ := hpick ['a', 'b', 'c'] (by decide) (by decide)
  exact ⟨by decide, htakes, hends, by decide, by decide, _, List.getElem_mem hlt, after, hpicked⟩

/-! ## How many candidates stand for a number -/

/-- The candidates below the limit that leave the remainder `r`. -/
def hits (bound r : UInt32) : Finset UInt32 :=
  Finset.univ.filter fun c => c.toUInt64 < limit bound ∧ c % bound = r

/-- The candidates that are passed over. -/
def misses (bound : UInt32) : Finset UInt32 :=
  Finset.univ.filter fun c => limit bound ≤ c.toUInt64

/-- Words are counted by their numbers. -/
theorem card_filter_lt {m : Nat} (hm : m ≤ UInt32.size) (p : Nat → Prop) [DecidablePred p] :
    (Finset.univ.filter fun c : UInt32 => c.toNat < m ∧ p c.toNat).card = Nat.count p m := by
  rw [Nat.count_eq_card_filter_range]
  apply Finset.card_nbij UInt32.toNat
  · intro c hc
    simpa using hc
  · intro c _ d _ heq
    exact UInt32.toNat_inj.1 heq
  · intro k hk
    obtain ⟨hlt, hp⟩ : k < m ∧ p k := by simpa using hk
    have hword : (UInt32.ofNat k).toNat = k :=
      UInt32.toNat_ofNat_of_lt' (Nat.lt_of_lt_of_le hlt hm)
    exact ⟨.ofNat k, by simp [hword, hlt, hp], hword⟩

theorem toNat_limit_le (bound : UInt32) : (limit bound).toNat ≤ UInt32.size := by
  rw [toNat_limit]
  exact Nat.div_mul_le_self _ _

theorem isGreatest_limit {bound : UInt32} (h : 0 < bound) :
    IsGreatest {m | bound.toNat ∣ m ∧ m ≤ UInt32.size} (limit bound).toNat := by
  have hpos : 0 < bound.toNat := UInt32.lt_iff_toNat_lt.1 h
  refine ⟨⟨?_, toNat_limit_le bound⟩, ?_⟩
  · rw [toNat_limit]
    exact Nat.dvd_mul_left _ _
  · rintro m ⟨⟨q, rfl⟩, hm⟩
    rw [toNat_limit, Nat.mul_comm]
    exact Nat.mul_le_mul_right _ ((Nat.le_div_iff_mul_le hpos).2 (by rwa [Nat.mul_comm]))

/-- A bound that goes into `2^32` passes over no candidate: its limit is above all words. -/
example : limit 0x10000 = 0x100000000 := by decide

theorem card_hits {bound r : UInt32} (h : r < bound) :
    (hits bound r).card = (limit bound).toNat / bound.toNat := by
  have hr : r.toNat < bound.toNat := UInt32.lt_iff_toNat_lt.1 h
  have hpos : 0 < bound.toNat := Nat.zero_lt_of_lt hr
  have hhits : hits bound r = Finset.univ.filter fun c : UInt32 =>
      c.toNat < (limit bound).toNat ∧ c.toNat ≡ r.toNat [MOD bound.toNat] := by
    apply Finset.filter_congr
    intro c _
    rw [UInt64.lt_iff_toNat_lt, UInt32.toNat_toUInt64, ← UInt32.toNat_inj, UInt32.toNat_mod,
      Nat.ModEq, Nat.mod_eq_of_lt hr]
  -- The limit is a whole number of bounds, so no residue class is cut off by it.
  rw [hhits, card_filter_lt (toNat_limit_le bound) (· ≡ r.toNat [MOD bound.toNat]),
    Nat.count_modEq_card _ hpos, toNat_limit, Nat.mul_mod_left, if_neg (Nat.not_lt_zero _),
    Nat.add_zero]

theorem card_misses (bound : UInt32) : (misses bound).card = UInt32.size % bound.toNat := by
  have hbelow : (Finset.univ.filter fun c : UInt32 => ¬ limit bound ≤ c.toUInt64).card =
      (limit bound).toNat := by
    simp only [UInt64.le_iff_toNat_le, UInt32.toNat_toUInt64, Nat.not_le]
    simpa using card_filter_lt (toNat_limit_le bound) (fun _ => True)
  have hall : (misses bound).card + (limit bound).toNat = UInt32.size := by
    rw [← hbelow, misses, Finset.card_filter_add_card_filter_not, Finset.card_univ,
      ← FinEnum.card_eq_fintypeCard, FinEnum.card_UInt32]
    rfl
  have hdiv := Nat.div_add_mod' UInt32.size bound.toNat
  rw [toNat_limit] at hall
  omega

/-- For every positive bound.  From any source, a draw answers the remainder of the first
candidate below the limit and leaves the source behind that candidate.  No step of the
computation of the limit leaves the 64-bit words, and the limit is the greatest multiple of the
bound up to `2^32`.  Of the 32-bit candidates below it, equally many stand for each number, and
fewer than the bound are passed over. -/
theorem favours_none {bound : UInt32} (h : 0 < bound) :
    (∀ {σ : Type} (next : σ → UInt32 × σ) (most : Nat) (source rest : σ) (number : UInt32),
      below? next bound most source = some (number, rest) ↔
        ∃ n < most, TakesAt next bound source n ∧
          number = nth next n source % bound ∧ rest = behind next (n + 1) source) ∧
    (wholes bound).toNat = UInt32.size / bound.toNat ∧
    (limit bound).toNat = (wholes bound).toNat * bound.toNat ∧
    IsGreatest {m | bound.toNat ∣ m ∧ m ≤ UInt32.size} (limit bound).toNat ∧
    (∀ r < bound, (hits bound r).card = (limit bound).toNat / bound.toNat) ∧
    (misses bound).card < bound.toNat := by
  refine ⟨fun next most source rest number => below?_eq_some_iff, toNat_wholes bound, ?_,
    isGreatest_limit h, fun r hr => card_hits hr, ?_⟩
  · rw [toNat_limit, toNat_wholes]
  · rw [card_misses]
    exact Nat.mod_lt _ (UInt32.lt_iff_toNat_lt.1 h)

/-- A source whose first candidate is the highest word; the others are 7. -/
def highestFirst (place : Nat) : UInt32 × Nat :=
  (if place = 0 then 0xffffffff else 7, place + 1)

/-- A draw below 3 passes over the highest word and takes the candidate behind it. -/
theorem favours_none_of_three :
    (0 : UInt32) < 3 ∧ below? highestFirst 3 2 0 = some (1, 2) ∧
      (limit 3).toNat = 4294967295 ∧ (2 : UInt32) < 3 ∧ (hits 3 2).card = 1431655765 ∧
      (misses 3).card < 3 := by
  obtain ⟨hdraw, -, -, -, hhits, hmisses⟩ := favours_none (show (0 : UInt32) < 3 by decide)
  have htakes : TakesAt highestFirst 3 0 1 := ⟨by decide, by decide⟩
  have hlimit : (limit 3).toNat = 4294967295 := by decide
  have hcard := hhits 2 (by decide)
  rw [hlimit] at hcard
  exact ⟨by decide, (hdraw highestFirst 2 0 2 1).2 ⟨1, by decide, htakes, by decide, by decide⟩,
    hlimit, by decide, hcard, hmisses⟩

end Spellbook.Draw

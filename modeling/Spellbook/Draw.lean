set_option autoImplicit false

/-!
# Seeded draws

A source yields candidates, one after the other.  A draw below `b` takes the first
candidate below the greatest multiple of `b` up to `2^32` and answers its remainder,
so that every remainder is as likely as every other.

The seeded source moves its state on by a fixed odd stride.  A draw from it needs at
most `2^32` candidates (`exists_takesAt_next`), because an odd stride passes through
every state and the state 0 yields the candidate 0.  So one of some things can always
be picked.
-/

namespace Spellbook.Draw

/-! ## Drawing from a source -/

/-- How often `bound` goes into `2^32`. -/
def wholes (bound : UInt32) : UInt64 := (0xffffffff + 1) / bound.toUInt64

/-- The greatest multiple of `bound` that is at most `2^32`. -/
def limit (bound : UInt32) : UInt64 := wholes bound * bound.toUInt64

theorem toNat_wholes (bound : UInt32) :
    (wholes bound).toNat = UInt32.size / bound.toNat := by
  rw [wholes, UInt64.toNat_div, UInt32.toNat_toUInt64]
  rfl

/-- The product does not leave the 64-bit words. -/
theorem toNat_limit (bound : UInt32) :
    (limit bound).toNat = UInt32.size / bound.toNat * bound.toNat := by
  have hle : UInt32.size / bound.toNat * bound.toNat ≤ UInt32.size := Nat.div_mul_le_self _ _
  rw [limit, UInt64.toNat_mul, toNat_wholes, UInt32.toNat_toUInt64]
  exact Nat.mod_eq_of_lt (Nat.lt_of_le_of_lt hle (by decide))

theorem limit_pos {bound : UInt32} (h : 0 < bound) : 0 < limit bound := by
  rw [UInt64.lt_iff_toNat_lt, toNat_limit]
  have hpos : 0 < bound.toNat := UInt32.lt_iff_toNat_lt.1 h
  exact Nat.mul_pos (Nat.div_pos (Nat.le_of_lt bound.toNat_lt) hpos) hpos

section Source

variable {σ : Type} {next : σ → UInt32 × σ} {bound : UInt32} {source : σ} {n most : Nat}

/-- What a draw below `bound` answers if it takes at most so many candidates of a source:
a number, from the first candidate below the limit, and the source behind that candidate;
nothing if they are all too high. -/
def below? (next : σ → UInt32 × σ) (bound : UInt32) : Nat → σ → Option (UInt32 × σ)
  | 0, _ => none
  | most + 1, source =>
    let taken := next source
    if limit bound ≤ taken.1.toUInt64 then below? next bound most taken.2
    else some (taken.1 % bound, taken.2)

theorem below?_succ_of_le (h : limit bound ≤ (next source).1.toUInt64) :
    below? next bound (most + 1) source = below? next bound most (next source).2 := by
  rw [below?, if_pos h]

theorem below?_succ_of_lt (h : (next source).1.toUInt64 < limit bound) :
    below? next bound (most + 1) source =
      some ((next source).1 % bound, (next source).2) := by
  rw [below?, if_neg (UInt64.not_le.2 h)]

/-- The source behind its first `n` candidates. -/
def behind (next : σ → UInt32 × σ) : Nat → σ → σ
  | 0, source => source
  | n + 1, source => behind next n (next source).2

/-- The candidate behind the first `n` ones. -/
def nth (next : σ → UInt32 × σ) (n : Nat) (source : σ) : UInt32 :=
  (next (behind next n source)).1

/-- A draw takes the candidate behind the first `n` ones: these are all too high. -/
structure TakesAt (next : σ → UInt32 × σ) (bound : UInt32) (source : σ) (n : Nat) : Prop where
  passedOver : ∀ i < n, limit bound ≤ (nth next i source).toUInt64
  taken : (nth next n source).toUInt64 < limit bound

theorem takesAt_zero (h : (next source).1.toUInt64 < limit bound) :
    TakesAt next bound source 0 :=
  ⟨nofun, h⟩

theorem TakesAt.succ (h : limit bound ≤ (next source).1.toUInt64)
    (ht : TakesAt next bound (next source).2 n) : TakesAt next bound source (n + 1) where
  passedOver i hi := by
    cases i with
    | zero => exact h
    | succ i => exact ht.passedOver i (Nat.lt_of_succ_lt_succ hi)
  taken := ht.taken

theorem TakesAt.tail (h : TakesAt next bound source (n + 1)) :
    TakesAt next bound (next source).2 n where
  passedOver i hi := h.passedOver (i + 1) (Nat.succ_lt_succ hi)
  taken := h.taken

theorem TakesAt.below?_eq (h : TakesAt next bound source n) (hmost : n < most) :
    below? next bound most source =
      some (nth next n source % bound, behind next (n + 1) source) := by
  induction n generalizing source most with
  | zero =>
    obtain ⟨most, rfl⟩ := Nat.exists_eq_add_of_lt hmost
    exact below?_succ_of_lt h.taken
  | succ n ih =>
    obtain ⟨most, rfl⟩ := Nat.exists_eq_add_of_lt hmost
    have hhigh : limit bound ≤ (next source).1.toUInt64 := h.passedOver 0 n.succ_pos
    rw [below?_succ_of_le hhigh]
    exact ih h.tail (by omega)

end Source

/-! ## The seeded source -/

/-- How far the state moves from one candidate to the next. -/
def stride : UInt32 := 0x6d2b79f5

/-- The candidate that a state yields. -/
def candidate (n : UInt32) : UInt32 :=
  let a := (n ^^^ (n >>> 15)) * (n ||| 1)
  let b := a ^^^ (a + (a ^^^ (a >>> 7)) * (a ||| 61))
  b ^^^ (b >>> 14)

/-- The next candidate and the state that yields it. -/
def next (state : UInt32) : UInt32 × UInt32 :=
  (candidate (state + stride), state + stride)

/-- The inverse of the stride among 32-bit words. -/
def strideInverse : UInt32 := 0xdc58aa5d

/-- How many strides lead from a state to the state 0. -/
def stridesToZero (n : UInt32) : Nat := ((0 - n) * strideInverse).toNat

theorem stride_mul_inverse : stride * strideInverse = 1 := by decide

theorem candidate_zero : candidate 0 = 0 := by decide

theorem stridesToZero_lt {n : UInt32} (h : n ≠ 0) :
    stridesToZero (n + stride) < stridesToZero n := by
  have hs := stride_mul_inverse
  have hstep : (0 - (n + stride)) * strideInverse = (0 - n) * strideInverse - 1 := by grind
  have hne : (0 - n) * strideInverse ≠ 0 := by
    intro h0
    apply h
    have : n = (0 - ((0 - n) * strideInverse)) * stride := by grind
    rw [this, h0]; decide
  have hpos : 1 ≤ ((0 - n) * strideInverse).toNat := by
    apply Nat.pos_of_ne_zero
    intro h0
    exact hne (UInt32.toNat_inj.1 (by simpa using h0))
  unfold stridesToZero
  rw [hstep, UInt32.toNat_sub_of_le _ _ (by simpa [UInt32.le_iff_toNat_le] using hpos)]
  have : (1 : UInt32).toNat = 1 := rfl
  omega

/-- Each candidate that is passed over leads one stride closer to the state 0, whose
candidate is below any limit. -/
theorem exists_takesAt_next {bound : UInt32} (h : 0 < bound) (state : UInt32) :
    ∃ n ≤ stridesToZero (state + stride), TakesAt next bound state n := by
  by_cases hlimit : limit bound ≤ (candidate (state + stride)).toUInt64
  -- The search goes on, so it is not at 0 yet and the strides that are left get fewer.
  · have hne : state + stride ≠ 0 := by
      intro hzero
      rw [hzero, candidate_zero] at hlimit
      exact UInt64.not_le.2 (limit_pos h) hlimit
    have hcloser := stridesToZero_lt hne
    obtain ⟨n, hn, htakes⟩ := exists_takesAt_next h (state + stride)
    exact ⟨n + 1, by omega, htakes.succ hlimit⟩
  · exact ⟨0, Nat.zero_le _, takesAt_zero (UInt64.not_le.1 hlimit)⟩
termination_by stridesToZero (state + stride)

/-! ## One of some things -/

/-- One of the choices and the state behind the draw, which needs no more candidates than
there are states.  The choices are counted in 32 bits, and nothing is picked if that count
is 0. -/
def pick? {α : Type} (choices : List α) (state : UInt32) : Option (α × UInt32) :=
  (below? next (.ofNat choices.length) UInt32.size state).bind fun drawn =>
    choices[drawn.1.toNat]?.map fun choice => (choice, drawn.2)

theorem exists_pick?_eq {α : Type} {choices : List α} (hne : choices ≠ [])
    (hfew : choices.length < UInt32.size) (state : UInt32) :
    ∃ (number after : UInt32) (h : number.toNat < choices.length),
      below? next (.ofNat choices.length) UInt32.size state = some (number, after) ∧
        pick? choices state = some (choices[number.toNat], after) := by
  have hlength : (UInt32.ofNat choices.length).toNat = choices.length :=
    UInt32.toNat_ofNat_of_lt' hfew
  have hpos : 0 < choices.length := List.length_pos_iff.2 hne
  have hcount : 0 < UInt32.ofNat choices.length := by
    rw [UInt32.lt_iff_toNat_lt, hlength]
    exact hpos
  obtain ⟨n, hn, htakes⟩ := exists_takesAt_next hcount state
  have hdrawn := htakes.below?_eq (Nat.lt_of_le_of_lt hn (UInt32.toNat_lt_size _))
  have hlt : (nth next n state % .ofNat choices.length).toNat < choices.length := by
    rw [UInt32.toNat_mod, hlength]
    exact Nat.mod_lt _ hpos
  refine ⟨_, _, hlt, hdrawn, ?_⟩
  rw [pick?, hdrawn, Option.bind_some, List.getElem?_eq_getElem hlt, Option.map_some]

theorem isSome_pick? {α : Type} {choices : List α} (hne : choices ≠ [])
    (hfew : choices.length < UInt32.size) (state : UInt32) : (pick? choices state).isSome := by
  obtain ⟨_, _, _, -, hpick⟩ := exists_pick?_eq hne hfew state
  rw [hpick]
  rfl

/-- One of the given things and the state after the choice. -/
def pick {α : Type} (first : α) (rest : List α) (state : UInt32)
    (few : (first :: rest).length < UInt32.size := by decide) : α × UInt32 :=
  (pick? (first :: rest) state).get (isSome_pick? (List.cons_ne_nil _ _) few state)

theorem pick_mem {α : Type} (first : α) (rest : List α) (state : UInt32)
    {few : (first :: rest).length < UInt32.size} :
    (pick first rest state few).1 ∈ first :: rest := by
  obtain ⟨number, after, hlt, -, hpick⟩ := exists_pick?_eq (List.cons_ne_nil _ _) few state
  have heq : pick first rest state few = ((first :: rest)[number.toNat], after) :=
    Option.get_of_eq_some _ hpick
  rw [heq]
  exact List.getElem_mem hlt

end Spellbook.Draw

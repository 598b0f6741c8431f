set_option autoImplicit false

/-!
# Numbers the wizard can count

Every number in a program or a variable lies in the signed 64-bit range.  The
range is part of the type, so arithmetic is done on `Int` and a result is kept
only if `ofInt?` accepts it.
-/

namespace Spellbook

/-- A whole number from `-2^63` to `2^63 - 1`. -/
structure Number where
  val : Int
  lower : -0x8000000000000000 ≤ val
  upper : val < 0x8000000000000000
  deriving DecidableEq

namespace Number

/-- The whole numbers that are a `Number`. -/
def InRange (i : Int) : Prop := -0x8000000000000000 ≤ i ∧ i < 0x8000000000000000

instance (i : Int) : Decidable (InRange i) :=
  inferInstanceAs (Decidable (_ ∧ _))

/-- The number with this value, if the value is in range. -/
def ofInt? (i : Int) : Option Number :=
  if h : InRange i then some ⟨i, h.1, h.2⟩ else none

theorem ofInt?_eq_some_iff {i : Int} {n : Number} : ofInt? i = some n ↔ n.val = i := by
  unfold ofInt?
  split
  · constructor
    · intro h; cases h; rfl
    · intro h; cases n; simp_all
  · rename_i h
    constructor
    · intro h'; cases h'
    · intro h'; exact absurd (h' ▸ ⟨n.lower, n.upper⟩) h

theorem ofInt?_eq_none_iff {i : Int} : ofInt? i = none ↔ ¬ InRange i := by
  unfold ofInt?
  split <;> simp_all

@[simp] theorem ofInt?_val (n : Number) : ofInt? n.val = some n :=
  ofInt?_eq_some_iff.2 rfl

/-- A small literal number. -/
def ofNat (n : Nat) (h : (n : Int) < 0x8000000000000000 := by decide) : Number :=
  ⟨n, by omega, h⟩

@[simp] theorem val_ofNat (n : Nat) (h : (n : Int) < 0x8000000000000000) : (ofNat n h).val = n := rfl

/-- The number 0. -/
def zero : Number := ofNat 0

/-- The number 1. -/
def one : Number := ofNat 1

instance : Inhabited Number := ⟨zero⟩

/-- One more, staying at the largest number once there. -/
def succSat (n : Number) : Number :=
  if h : n.val + 1 < 0x8000000000000000 then ⟨n.val + 1, by have := n.lower; omega, h⟩ else n

theorem val_succSat (n : Number) : n.succSat.val = min (n.val + 1) 0x7fffffffffffffff := by
  have := n.upper
  unfold succSat
  split
  · show n.val + 1 = _
    omega
  · omega

/-- One more, going from the largest number round to the smallest. -/
def succWrap (n : Number) : Number :=
  if h : n.val + 1 < 0x8000000000000000 then ⟨n.val + 1, by have := n.lower; omega, h⟩
  else ⟨-0x8000000000000000, by decide, by decide⟩

theorem val_succWrap {n : Number} (h : n.val + 1 < 0x8000000000000000) :
    n.succWrap.val = n.val + 1 := by
  unfold succWrap
  rw [dif_pos h]

/-! ## Arithmetic that refuses a result out of range -/

/-- The sum, if it is in range. -/
def add? (a b : Number) : Option Number := ofInt? (a.val + b.val)

/-- The difference, if it is in range. -/
def sub? (a b : Number) : Option Number := ofInt? (a.val - b.val)

/-- Twice the number, if that is in range. -/
def double? (a : Number) : Option Number := ofInt? (a.val * 2)

/-- The quotient cut off toward zero, if there is one in range. -/
def div? (a b : Number) : Option Number :=
  if b.val = 0 then none else ofInt? (a.val.tdiv b.val)

instance : ToString Number := ⟨fun n => toString n.val⟩

end Number

end Spellbook

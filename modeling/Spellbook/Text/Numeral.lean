set_option autoImplicit false

/-!
# Numerals

A numeral is one or more digits with an optional sign in front.  Zeros in front
do not matter.
-/

namespace Spellbook.Text

/-- The number that these digits stand for. -/
def digits? (cs : List Char) : Option Nat :=
  if !cs.isEmpty && cs.all Char.isDigit then some (Nat.ofDigitChars 10 cs 0) else none

/-- The number that a text stands for, where a plus sign may stand in front. -/
def natural? (s : String) : Option Nat :=
  match s.toList with
  | '+' :: cs => digits? cs
  | cs => digits? cs

/-- The number that a text stands for, where a sign may stand in front. -/
def integer? (s : String) : Option Int :=
  match s.toList with
  | '-' :: cs => (digits? cs).map (fun n => -(n : Int))
  | _ => (natural? s).map (fun n => (n : Int))

/-- The natural number below a limit that a text stands for. -/
def naturalBelow? (limit : Nat) (s : String) : Option Nat :=
  (natural? s).filter (· < limit)

/-- A seed that may carry a plus sign. -/
def seed? (s : String) : Option UInt32 := (naturalBelow? 0x100000000 s).map Nat.toUInt32

/-- A seed that may carry any sign; only zero can be negative. -/
def signedSeed? (s : String) : Option UInt32 :=
  ((integer? s).filter (fun i => 0 ≤ i ∧ i < 0x100000000)).map (fun i => i.toNat.toUInt32)

/-! ## Numbers and their digits -/

theorem toList_toString (n : Nat) : (toString n).toList = Nat.toDigits 10 n := by
  rw [Nat.toString_eq_repr, Nat.toList_repr]

theorem isDigit_of_mem_toString {n : Nat} {c : Char} (h : c ∈ (toString n).toList) :
    c.isDigit = true := by
  rw [toList_toString] at h
  exact Nat.isDigit_of_mem_toDigits (by decide) (by decide) h

theorem digits?_toString (n : Nat) : digits? (toString n).toList = some n := by
  have hnonempty : (toString n).toList.isEmpty = false := by
    rw [toList_toString, List.isEmpty_eq_false_iff]
    exact Nat.toDigits_ne_nil
  have hdigits : (toString n).toList.all Char.isDigit = true :=
    List.all_eq_true.2 fun _ hc => isDigit_of_mem_toString hc
  rw [digits?, hnonempty, hdigits, if_pos (by decide), toList_toString,
    Nat.ofDigitChars_ten_toDigits]

/-- A number is read back from its digits. -/
theorem natural?_toString (n : Nat) : natural? (toString n) = some n := by
  unfold natural?
  split
  · rename_i cs hcs
    have hplus : Char.isDigit '+' = true := isDigit_of_mem_toString (n := n) (by rw [hcs]; simp)
    cases hplus
  · exact digits?_toString n

end Spellbook.Text

set_option autoImplicit false

/-!
# The order of bytes

Texts are ordered by their characters.  Ordered by the bytes that they are written with they come
in the same order (`Text.bytes_lt_iff`): of two characters the smaller one has the smaller byte
where their bytes first differ (`Text.append_lt_append_of_lt`).
-/

namespace Spellbook

namespace Text

variable {c d : Char} {s t : String}

/-- The bytes with which a text is written in UTF-8. -/
def bytes (s : String) : List UInt8 := s.toUTF8.data.toList

theorem bytes_eq_flatMap (s : String) : bytes s = s.toList.flatMap String.utf8EncodeChar := by
  show s.toByteArray.data.toList = _
  rw [← String.utf8Encode_toList, List.utf8Encode, List.toList_data_toByteArray]

/-- Bytes made of numbers compare as the numbers do. -/
theorem ofNat_cons_lt_ofNat_cons {m n : Nat} (hm : m < 256) (hn : n < 256) {u v : List UInt8} :
    UInt8.ofNat m :: u < UInt8.ofNat n :: v ↔ m < n ∨ m = n ∧ u < v := by
  rw [List.cons_lt_cons_iff, UInt8.lt_iff_toNat_lt, ← UInt8.toNat_inj,
    UInt8.toNat_ofNat_of_lt' hm, UInt8.toNat_ofNat_of_lt' hn]

/-- The bytes of a character hold the digits of its number in base 64, and the first of them tells
how many they are. -/
theorem utf8EncodeChar_cases {n : Nat} (hn : c.val.toNat = n) :
    (n < 0x80 ∧ String.utf8EncodeChar c = [.ofNat n]) ∨
      (0x80 ≤ n ∧ n < 0x800 ∧
        String.utf8EncodeChar c = [.ofNat (n / 64 + 0xc0), .ofNat (n % 64 + 0x80)]) ∨
      (0x800 ≤ n ∧ n < 0x10000 ∧
        String.utf8EncodeChar c =
          [.ofNat (n / 64 / 64 + 0xe0), .ofNat (n / 64 % 64 + 0x80), .ofNat (n % 64 + 0x80)]) ∨
      (0x10000 ≤ n ∧ n < 0x110000 ∧
        String.utf8EncodeChar c =
          [.ofNat (n / 64 / 64 / 64 + 0xf0), .ofNat (n / 64 / 64 % 64 + 0x80),
            .ofNat (n / 64 % 64 + 0x80), .ofNat (n % 64 + 0x80)]) := by
  have hmax : n < 0x110000 := by
    have hvalid := c.valid
    simp only [UInt32.isValidChar, Nat.isValidChar, hn] at hvalid
    omega
  have hsquare : n / 4096 = n / 64 / 64 := by omega
  have hcube : n / 262144 = n / 64 / 64 / 64 := by omega
  simp only [String.utf8EncodeChar, hn, hsquare, hcube]
  by_cases hone : n < 0x80
  · exact .inl ⟨hone, if_pos (by omega)⟩
  by_cases htwo : n < 0x800
  · have hfirst : n / 64 % 32 = n / 64 := by omega
    refine .inr (.inl ⟨by omega, htwo, ?_⟩)
    rw [if_neg (by omega), if_pos (by omega), hfirst]
  by_cases hthree : n < 0x10000
  · have hfirst : n / 64 / 64 % 16 = n / 64 / 64 := by omega
    refine .inr (.inr (.inl ⟨by omega, hthree, ?_⟩))
    rw [if_neg (by omega), if_neg (by omega), if_pos (by omega), hfirst]
  · have hfirst : n / 64 / 64 / 64 % 8 = n / 64 / 64 / 64 := by omega
    refine .inr (.inr (.inr ⟨by omega, hmax, ?_⟩))
    rw [if_neg (by omega), if_neg (by omega), if_neg (by omega), hfirst]

/-- The bytes of the smaller character come first, whatever stands behind them. -/
theorem append_lt_append_of_lt (h : c < d) (u v : List UInt8) :
    String.utf8EncodeChar c ++ u < String.utf8EncodeChar d ++ v := by
  have hlt : c.val.toNat < d.val.toNat := h
  generalize hm : c.val.toNat = m at hlt
  generalize hn : d.val.toNat = n at hlt
  rcases utf8EncodeChar_cases hm with ⟨_, hc⟩ | ⟨_, _, hc⟩ | ⟨_, _, hc⟩ | ⟨_, _, hc⟩ <;>
    rcases utf8EncodeChar_cases hn with ⟨_, hd⟩ | ⟨_, _, hd⟩ | ⟨_, _, hd⟩ | ⟨_, _, hd⟩ <;>
    simp (disch := omega) only [hc, hd, List.cons_append, List.nil_append,
      ofNat_cons_lt_ofNat_cons] <;>
    omega

theorem bytes_lt_of_lt (h : s < t) : bytes s < bytes t := by
  rw [bytes_eq_flatMap, bytes_eq_flatMap]
  have hlex : List.Lex (· < ·) s.toList t.toList := h
  generalize s.toList = cs at hlex
  generalize t.toList = ds at hlex
  induction hlex with
  | @nil d ds =>
    rw [List.flatMap_nil, List.flatMap_cons]
    exact List.not_le.1 fun hle => String.utf8EncodeChar_ne_nil (List.append_eq_nil_iff.1
      (List.le_nil.1 hle)).1
  | rel h => exact append_lt_append_of_lt h _ _
  | cons h ih => exact List.append_left_lt ih

theorem bytes_lt_iff : bytes s < bytes t ↔ s < t := by
  refine ⟨fun hbytes => Decidable.byContradiction fun hnot => ?_, bytes_lt_of_lt⟩
  have hle := String.not_lt.1 hnot
  by_cases hlt : t < s
  · exact List.lt_asymm hbytes (bytes_lt_of_lt hlt)
  · rw [String.le_antisymm hle (String.not_lt.1 hlt)] at hbytes
    exact List.lt_irrefl _ hbytes

theorem bytes_le_iff : bytes s ≤ bytes t ↔ s ≤ t := by
  rw [← List.not_lt, ← String.not_lt, bytes_lt_iff]

end Text

end Spellbook

import Mathlib.Data.List.TakeWhile
import Spellbook.Json.Writer
set_option autoImplicit false

/-!
# Scanning what is written

A text may spell a row of tokens with blanks anywhere between them (`Spells`); just behind a
number no character may stand that could belong to it.  Scanning such a text gives the tokens
back (`scan_of_spells`).  Both written forms of a value spell its tokens, if its numbers are in
range and it has none that is not whole (`Neat`); so its tokens are read back from both
(`scan_compact` and `scan_pretty`).
-/

namespace Spellbook.Json

variable {cs ds rest : List Char} {c : Char} {t : Token} {ts : List Token}

/-! ## Digits -/

theorem le_ofDigitChars (ds : List Char) (m : Nat) : m ≤ Nat.ofDigitChars 10 ds m := by
  induction ds generalizing m with
  | nil => exact Nat.le_of_eq Nat.ofDigitChars_nil.symm
  | cons d ds ih =>
    rw [Nat.ofDigitChars_cons]
    exact Nat.le_trans (by omega) (ih _)

/-- Digits of a number below `2^64` are all taken. -/
theorem takeDigits_eq {m : Nat} (h : Nat.ofDigitChars 10 ds m < 0x10000000000000000) :
    takeDigits m ds = (Nat.ofDigitChars 10 ds m, 0) := by
  induction ds generalizing m with
  | nil => rw [takeDigits, Nat.ofDigitChars_nil]
  | cons d ds ih =>
    rw [Nat.ofDigitChars_cons] at h ⊢
    have hbelow := Nat.lt_of_le_of_lt (le_ofDigitChars ds _) h
    rw [takeDigits, if_pos hbelow]
    exact ih h

theorem head?_toDigits_ne {n : Nat} (h : 0 < n) : (Nat.toDigits 10 n).head? ≠ some '0' := by
  have hdigit : ∀ d < 10, 0 < d → Nat.digitChar d ≠ '0' := by decide
  induction n using Nat.strongRecOn with
  | ind n ih =>
    rw [Nat.toDigits_eq_if (by decide)]
    split
    · rename_i hlt
      simpa using hdigit n hlt h
    · rename_i hge
      obtain ⟨d, rest, hdigits⟩ :=
        List.exists_cons_of_ne_nil (Nat.toDigits_ne_nil (n := n / 10) (b := 10))
      have hfirst := ih (n / 10) (by omega) (by omega)
      rw [hdigits] at hfirst ⊢
      exact hfirst

theorem isDigit_of_mem {n : Nat} (h : c ∈ Nat.toDigits 10 n) : c.isDigit = true :=
  Nat.isDigit_of_mem_toDigits (by decide) (by decide) h

/-- The digits of a number are written without a needless zero in front. -/
theorem isWhole_toDigits (n : Nat) : isWhole (Nat.toDigits 10 n) = true := by
  have hdigits : areDigits (Nat.toDigits 10 n) = true := by
    simp only [areDigits, Bool.and_eq_true, Bool.not_eq_true', List.isEmpty_eq_false_iff,
      List.all_eq_true]
    exact ⟨Nat.toDigits_ne_nil, fun c hc => isDigit_of_mem hc⟩
  have hfront : (Nat.toDigits 10 n).length = 1 ∨ (Nat.toDigits 10 n).head? ≠ some '0' := by
    by_cases hn : n = 0
    · subst hn
      exact .inl rfl
    · exact .inr (head?_toDigits_ne (Nat.pos_of_ne_zero hn))
  simp only [isWhole, hdigits, Bool.true_and, Bool.or_eq_true, decide_eq_true_eq]
  exact hfront

/-! ## Numbers -/

/-- Rounding at most doubles a number. -/
theorem roundBits_le (n : Nat) : Scaled.roundBits n ≤ 2 * n := by
  unfold Scaled.roundBits
  dsimp only
  by_cases hn : n = 0
  · subst hn
    decide
  · have hlog : 2 ^ n.log2 ≤ n := Nat.log2_self_le hn
    have hpow : 2 ^ (n.log2 - 52) ≤ 2 ^ n.log2 := Nat.pow_le_pow_right (by decide) (by omega)
    have hkept : n / 2 ^ (n.log2 - 52) * 2 ^ (n.log2 - 52) ≤ n := Nat.div_mul_le_self _ _
    rw [Nat.shiftLeft_eq, Nat.shiftRight_eq_div_pow]
    split
    · rw [Nat.add_mul, Nat.one_mul]
      omega
    · omega

theorem not_isVast {n : Nat} (h : n < 0x10000000000000000) :
    (Scaled.isVast ⟨n, 0⟩) = false := by
  have hround := roundBits_le n
  have hone : Scaled.roundBits (Nat.pow 10 0) = 1 := by decide
  have hlimit : 0x20000000000000000 < Scaled.overflow := by decide +kernel
  have hbelow : ¬ Scaled.overflow ≤ Scaled.roundBits n * Scaled.roundBits (Nat.pow 10 0) := by
    rw [hone]
    omega
  show (decide (n ≠ 0) && (decide (308 < 0) ||
    decide (Scaled.overflow ≤ Scaled.roundBits n * Scaled.roundBits (Nat.pow 10 0)))) = false
  rw [decide_eq_false hbelow]
  simp

theorem unsignedToken_toDigits {n : Nat} (h : n < 0x10000000000000000) (negative : Bool) :
    unsignedToken negative (Nat.toDigits 10 n) =
      if negative then
        if n = 0 then some (.decimal (String.ofList ('-' :: Nat.toDigits 10 n)))
        else some (.integer (-(n : Int)))
      else some (.integer n) := by
  have hdigits : ∀ c ∈ Nat.toDigits 10 n, c.isDigit = true := fun c hc => isDigit_of_mem hc
  have htake : (Nat.toDigits 10 n).takeWhile Char.isDigit = Nat.toDigits 10 n :=
    List.takeWhile_eq_self_iff.2 hdigits
  have hdrop : (Nat.toDigits 10 n).dropWhile Char.isDigit = [] :=
    List.dropWhile_eq_nil_iff.2 hdigits
  have htail : tail? [] = some ([], 0) := rfl
  have hvalue : Nat.ofDigitChars 10 (Nat.toDigits 10 n) 0 = n := Nat.ofDigitChars_ten_toDigits
  have hscaled : Scaled.ofDigits (Nat.toDigits 10 n) [] 0 = ⟨n, 0⟩ := by
    have htaken : takeDigits 0 (Nat.toDigits 10 n) =
        (Nat.ofDigitChars 10 (Nat.toDigits 10 n) 0, 0) := takeDigits_eq (by rw [hvalue]; exact h)
    simp only [Scaled.ofDigits, htaken, hvalue]
    rfl
  simp only [unsignedToken, htake, hdrop, htail, isWhole_toDigits, hscaled, not_isVast h, hvalue]
  cases negative <;> simp

theorem numberToken_integerChars {i : Int} (h : i.natAbs < 0x10000000000000000) :
    numberToken (integerChars i) = some (.integer i) := by
  cases i with
  | ofNat n =>
    obtain ⟨d, rest, hdigits⟩ :=
      List.exists_cons_of_ne_nil (Nat.toDigits_ne_nil (n := n) (b := 10))
    have hminus : d ≠ '-' := by
      rintro rfl
      have hdigit : Char.isDigit '-' = true := isDigit_of_mem (n := n) (by rw [hdigits]; simp)
      exact absurd hdigit (by decide)
    have htoken : numberToken (Nat.toDigits 10 n) = unsignedToken false (Nat.toDigits 10 n) := by
      rw [hdigits, numberToken]
      intro cs heq
      exact hminus (List.cons.inj heq).1
    have hbelow : n < 0x10000000000000000 := h
    rw [integerChars, htoken, unsignedToken_toDigits hbelow]
    rfl
  | negSucc n =>
    have hbelow : n + 1 < 0x10000000000000000 := h
    rw [integerChars, numberToken, unsignedToken_toDigits hbelow]
    rfl

theorem isNumberChar_of_mem_integerChars {i : Int} (h : c ∈ integerChars i) :
    isNumberChar c = true := by
  have hdigit {n : Nat} (hc : c ∈ Nat.toDigits 10 n) : isNumberChar c = true := by
    simp [isNumberChar, isDigit_of_mem hc]
  cases i with
  | ofNat n => exact hdigit h
  | negSucc n =>
    rw [integerChars] at h
    rcases List.mem_cons.1 h with rfl | h
    · rfl
    · exact hdigit h

/-- No number goes on in these characters. -/
def NumberEnds (cs : List Char) : Prop := ∀ c ∈ cs.head?, isNumberChar c = false

theorem numberEnds_cons (h : isNumberChar c = false) : NumberEnds (c :: cs) := by
  rintro d ⟨⟩
  exact h

theorem span_number (hds : ∀ c ∈ ds, isNumberChar c = true) (h : NumberEnds cs) :
    (ds ++ cs).takeWhile isNumberChar = ds ∧ (ds ++ cs).dropWhile isNumberChar = cs := by
  rw [List.takeWhile_append_of_pos hds, List.dropWhile_append_of_pos hds]
  cases cs with
  | nil => simp
  | cons c rest =>
    have hc : isNumberChar c = false := h c rfl
    simp [hc]

theorem scanPlain_number (hc : isNumberChar c = true) (hds : ∀ d ∈ ds, isNumberChar d = true)
    (hends : NumberEnds cs) (htoken : numberToken (c :: ds) = some t) :
    scanPlain (c :: (ds ++ cs)) = some (t, cs) := by
  obtain ⟨htake, hdrop⟩ := span_number hds hends
  have hletter {d : Char} (hd : isNumberChar d = false) : c ≠ d := by
    rintro rfl
    rw [hc] at hd
    cases hd
  rw [scanPlain, if_pos hc, htake, hdrop, htoken]
  · rfl
  · rintro rest' heq -
    exact hletter (by decide : isNumberChar 'n' = false) heq
  · rintro rest' heq -
    exact hletter (by decide : isNumberChar 't' = false) heq
  · rintro rest' heq -
    exact hletter (by decide : isNumberChar 'f' = false) heq

/-! ## Texts -/

theorem hexWord?_hexDigit {n : Nat} (h : n < 0x20) :
    hexWord? '0' '0' (hexDigit (n / 16)) (hexDigit (n % 16)) = some n := by
  have hall : ∀ n < 0x20,
      hexWord? '0' '0' (hexDigit (n / 16)) (hexDigit (n % 16)) = some n := by decide
  exact hall n h

theorem joinUnits_char (c : Char) (units : List Unit16) :
    joinUnits (.char c :: units) = (joinUnits units).map (c :: ·) := by
  rw [joinUnits]

/-- A unit below the pairs stands for its character. -/
theorem joinUnits_word {n : Nat} (h : n < 0xd800) (units : List Unit16) :
    joinUnits (.word n :: units) = (joinUnits units).map (Char.ofNat n :: ·) := by
  have hhigh : isHigh n = false := by
    simp only [isHigh, Bool.and_eq_false_iff, decide_eq_false_iff_not]
    omega
  have hlow : isLow n = false := by
    simp only [isLow, Bool.and_eq_false_iff, decide_eq_false_iff_not]
    omega
  cases units with
  | nil => simp [joinUnits, hhigh, hlow]
  | cons u rest =>
    cases u with
    | char c => simp [joinUnits, hhigh, hlow]
    | word m => simp [joinUnits, hhigh, hlow]

/-- The first unit is read, and the others after it. -/
def readUnit (u : Unit16) (read : Option (List Unit16 × List Char)) :
    Option (List Unit16 × List Char) :=
  read.map (fun read => (u :: read.1, read.2))

theorem scanUnits_short {d : Char} (h : unescape? c = some d) (cs : List Char) :
    scanUnits ('\\' :: c :: cs) = readUnit (.char d) (scanUnits cs) := by
  have hu : c ≠ 'u' := by
    rintro rfl
    cases h
  rw [scanUnits, h]
  · cases scanUnits cs <;> rfl
  · intro a b c' d' rest heq
    exact absurd heq hu

theorem scanUnits_word {a b c d : Char} {n : Nat} (h : hexWord? a b c d = some n)
    (cs : List Char) :
    scanUnits ('\\' :: 'u' :: a :: b :: c :: d :: cs) = readUnit (.word n) (scanUnits cs) := by
  rw [scanUnits, h]
  cases scanUnits cs <;> rfl

theorem scanUnits_plain (hquote : c ≠ '"') (hslash : c ≠ '\\') (hcontrol : ¬ c.toNat < 0x20)
    (cs : List Char) : scanUnits (c :: cs) = readUnit (.char c) (scanUnits cs) := by
  rw [scanUnits, if_neg (by simp [hslash, hcontrol])]
  · cases scanUnits cs <;> rfl
  · exact hquote
  · exact fun _ _ _ _ _ heq => absurd heq hslash
  · exact fun _ _ heq => absurd heq hslash

/-- A character that is written between quotes is read as one unit, which stands for it. -/
theorem exists_unit_escapeChar (c : Char) : ∃ u : Unit16,
    (∀ cs, scanUnits (escapeChar c ++ cs) = readUnit u (scanUnits cs)) ∧
      ∀ units, joinUnits (u :: units) = (joinUnits units).map (c :: ·) := by
  have hshort {letter : Char} (h : unescape? letter = some c) :
      ∃ u : Unit16, (∀ cs, scanUnits (['\\', letter] ++ cs) = readUnit u (scanUnits cs)) ∧
        ∀ units, joinUnits (u :: units) = (joinUnits units).map (c :: ·) :=
    ⟨.char c, fun cs => scanUnits_short h cs, joinUnits_char c⟩
  unfold escapeChar
  split
  · exact hshort (by subst_vars; rfl)
  split
  · exact hshort (by subst_vars; rfl)
  split
  · exact hshort (by subst_vars; rfl)
  split
  · exact hshort (by subst_vars; rfl)
  split
  · exact hshort (by subst_vars; rfl)
  split
  · exact hshort (by subst_vars; rfl)
  split
  · exact hshort (by subst_vars; rfl)
  split
  · rename_i hcontrol
    refine ⟨.word c.toNat, fun cs => scanUnits_word (hexWord?_hexDigit hcontrol) cs, ?_⟩
    intro units
    rw [joinUnits_word (by omega), Char.ofNat_toNat]
  · rename_i hquote hslash _ _ _ _ _ hcontrol
    exact ⟨.char c, fun cs => scanUnits_plain hquote hslash hcontrol cs, joinUnits_char c⟩

/-- A text between quotes is read as units that stand for it. -/
theorem exists_units_quote (text cs : List Char) :
    ∃ units, scanUnits (text.flatMap escapeChar ++ '"' :: cs) = some (units, cs) ∧
      joinUnits units = some text := by
  induction text with
  | nil => exact ⟨[], by simp [scanUnits], rfl⟩
  | cons c text ih =>
    obtain ⟨units, hscan, hjoin⟩ := ih
    obtain ⟨u, hread, hstands⟩ := exists_unit_escapeChar c
    refine ⟨u :: units, ?_, ?_⟩
    · rw [List.flatMap_cons, List.append_assoc, hread, hscan]
      rfl
    · rw [hstands, hjoin]
      rfl

/-! ## Tokens -/

theorem scan_of_isSpace (h : isSpace c = true) : scan (c :: cs) = scan cs := by
  rw [scan, if_pos h]

theorem scan_of_scanToken (hspace : isSpace c = false) (h : scanToken c cs = some (t, rest)) :
    scan (c :: cs) = (scan rest).map (t :: ·) := by
  rw [scan, if_neg (by simp [hspace])]
  split
  · rename_i hnone
    rw [h] at hnone
    cases hnone
  · rename_i hsome
    rw [h] at hsome
    cases hsome
    rfl

/-- A token that is read as it is written: its number, if it is one, is whole and in range. -/
def Token.Neat : Token → Prop
  | .decimal _ | .vastNumber | .brokenText => False
  | .integer i => i.natAbs < 0x10000000000000000
  | _ => True

theorem scan_punctuation (hspace : isSpace c = false) (h : punctuation? c = some t) :
    scan (c :: cs) = (scan cs).map (t :: ·) := by
  apply scan_of_scanToken hspace
  rw [scanToken, h]

theorem scan_integer {i : Int} (h : i.natAbs < 0x10000000000000000) (hends : NumberEnds cs) :
    scan (integerChars i ++ cs) = (scan cs).map (Token.integer i :: ·) := by
  have htoken := numberToken_integerChars h
  have hnumber : ∀ c ∈ integerChars i, isNumberChar c = true :=
    fun c hc => isNumberChar_of_mem_integerChars hc
  cases hchars : integerChars i with
  | nil =>
    rw [hchars] at htoken
    cases htoken
  | cons c ds =>
    rw [hchars] at htoken hnumber
    have hfirst : isNumberChar c = true := hnumber c List.mem_cons_self
    have hother {d : Char} (hd : isNumberChar d = false) : c ≠ d := by
      rintro rfl
      rw [hfirst] at hd
      cases hd
    have hspace : isSpace c = false := by
      simp [isSpace, hother (by decide : isNumberChar ' ' = false),
        hother (by decide : isNumberChar '\n' = false),
        hother (by decide : isNumberChar '\r' = false),
        hother (by decide : isNumberChar '\t' = false)]
    have hpunctuation : punctuation? c = none := by
      simp [punctuation?, hother (by decide : isNumberChar '[' = false),
        hother (by decide : isNumberChar ']' = false),
        hother (by decide : isNumberChar '\x7b' = false),
        hother (by decide : isNumberChar '\x7d' = false),
        hother (by decide : isNumberChar ',' = false),
        hother (by decide : isNumberChar ':' = false)]
    have hquote : c ≠ '"' := hother (by decide : isNumberChar '"' = false)
    apply scan_of_scanToken hspace
    rw [scanToken, hpunctuation]
    dsimp only
    rw [if_neg hquote]
    exact scanPlain_number hfirst (fun d hd => hnumber d (List.mem_cons_of_mem _ hd)) hends htoken

theorem scan_quote (s : String) :
    scan (quote s.toList ++ cs) = (scan cs).map (Token.text s :: ·) := by
  obtain ⟨units, hscan, hjoin⟩ := exists_units_quote s.toList cs
  have htoken : scanToken '"' (s.toList.flatMap escapeChar ++ '"' :: cs) =
      some (.text s, cs) := by
    have hpunctuation : punctuation? '"' = none := by decide
    rw [scanToken, hpunctuation]
    dsimp only
    rw [if_pos rfl, hscan]
    simp only [hjoin, String.ofList_toList]
  rw [quote, List.cons_append, List.append_assoc]
  exact scan_of_scanToken (by decide) htoken

/-- A token is read back from what it is written as. -/
theorem scan_chars (ht : t.Neat) (hends : ∀ i, t = .integer i → NumberEnds cs) :
    scan (t.chars ++ cs) = (scan cs).map (t :: ·) := by
  cases t with
  | beginList => exact scan_punctuation (by decide) rfl
  | endList => exact scan_punctuation (by decide) rfl
  | beginObject => exact scan_punctuation (by decide) rfl
  | endObject => exact scan_punctuation (by decide) rfl
  | comma => exact scan_punctuation (by decide) rfl
  | colon => exact scan_punctuation (by decide) rfl
  | null => exact scan_of_scanToken (by decide) rfl
  | bool b =>
    cases b with
    | true => exact scan_of_scanToken (by decide) rfl
    | false => exact scan_of_scanToken (by decide) rfl
  | integer i => exact scan_integer ht (hends i rfl)
  | text s => exact scan_quote s
  | decimal written => cases ht
  | vastNumber => cases ht
  | brokenText => cases ht

/-! ## Spellings -/

/-- These characters spell these tokens, with blanks anywhere between them. -/
inductive Spells : List Char → List Token → Prop
  | nil : Spells [] []
  | space {c : Char} {cs : List Char} {ts : List Token} (hspace : isSpace c = true)
      (h : Spells cs ts) : Spells (c :: cs) ts
  | token {t : Token} {cs : List Char} {ts : List Token} (ht : t.Neat)
      (hends : ∀ i, t = .integer i → NumberEnds cs) (h : Spells cs ts) :
      Spells (t.chars ++ cs) (t :: ts)

/-- Tokens are read back from any text that spells them. -/
theorem scan_of_spells (h : Spells cs ts) : scan cs = some ts := by
  induction h with
  | nil => rw [scan]
  | space hspace h ih => rw [scan_of_isSpace hspace, ih]
  | token ht hends h ih =>
    rw [scan_chars ht hends, ih]
    rfl

/-! ## The written forms of a value -/

/-- A value that is read as it is written: all of it is known, its numbers are whole and in
range, and its lists and objects are nested at most so deep. -/
inductive Neat : Nat → Json → Prop
  | null {depth : Nat} : Neat depth null
  | bool {depth : Nat} (b : Bool) : Neat depth (bool b)
  | integer {depth : Nat} {i : Int} (h : i.natAbs < 0x10000000000000000) :
      Neat depth (integer i)
  | text {depth : Nat} (s : String) : Neat depth (text s)
  | list {depth : Nat} {items : List Json} (h : ∀ j ∈ items, Neat depth j) :
      Neat (depth + 1) (list items)
  | object {depth : Nat} {fields : List (String × Json)} (h : ∀ f ∈ fields, Neat depth f.2) :
      Neat (depth + 1) (object fields)

/-- In front of a text that spells tokens, these characters spell more of them. -/
def SpellsMore (front : List Char) (more : List Token) : Prop :=
  ∀ cs ts, Spells cs ts → NumberEnds cs → Spells (front ++ cs) (more ++ ts)

namespace SpellsMore

variable {front later : List Char} {more others : List Token}

theorem token (ht : t.Neat) : SpellsMore t.chars [t] :=
  fun _ _ h hends => .token ht (fun _ _ => hends) h

theorem mark (ht : t.Neat) (hmark : ∀ i, t ≠ .integer i) (h : SpellsMore later others) :
    SpellsMore (t.chars ++ later) (t :: others) := by
  intro cs ts hcs hends
  rw [List.append_assoc]
  exact .token ht (fun i hi => absurd hi (hmark i)) (h cs ts hcs hends)

theorem blanks {gap : List Char} (hgap : ∀ c ∈ gap, isSpace c = true)
    (h : SpellsMore later others) : SpellsMore (gap ++ later) others := by
  induction gap with
  | nil => exact h
  | cons c gap ih =>
    have hlater := ih fun d hd => hgap d (List.mem_cons_of_mem c hd)
    exact fun cs ts hcs hends => .space (hgap c List.mem_cons_self) (hlater cs ts hcs hends)

end SpellsMore

/-- Whatever stands behind them, these characters end a number in front of them. -/
def Closes (cs : List Char) : Prop := ∀ rest, NumberEnds rest → NumberEnds (cs ++ rest)

theorem closes_cons (h : isNumberChar c = false) : Closes (c :: cs) :=
  fun _ _ => numberEnds_cons h

theorem closes_blanks {gap : List Char} (hgap : ∀ c ∈ gap, isSpace c = true)
    (h : isNumberChar c = false) : Closes (gap ++ c :: cs) := by
  cases gap with
  | nil => exact closes_cons h
  | cons d gap =>
    have hspace : isSpace d = true := hgap d List.mem_cons_self
    have hother : isNumberChar d = false := by
      simp only [isSpace, Bool.or_eq_true, decide_eq_true_eq] at hspace
      rcases hspace with ((rfl | rfl) | rfl) | rfl <;> rfl
    exact closes_cons hother

theorem SpellsMore.append {front later : List Char} {more others : List Token}
    (h : SpellsMore front more) (hlater : SpellsMore later others) (hcloses : Closes later) :
    SpellsMore (front ++ later) (more ++ others) := by
  intro cs ts hcs hends
  rw [List.append_assoc, List.append_assoc]
  exact h _ _ (hlater cs ts hcs hends) (hcloses cs hends)

section Forms

/- Both forms write a value in the same way, with other blanks: before an item or a field,
before the end of a list or an object, and behind a colon. -/

variable {write : Json → List Char} {gap blank later : List Char} {others : List Token}
  {items : List Json} {fields : List (String × Json)}

theorem spellsMore_items (hgap : ∀ c ∈ gap, isSpace c = true)
    (h : ∀ j ∈ items, SpellsMore (write j) j.tokens) (hlater : SpellsMore later others)
    (hcloses : Closes later) :
    SpellsMore (items.flatMap (fun j => ',' :: (gap ++ write j)) ++ later)
        (itemTokens items ++ others) ∧
      Closes (items.flatMap (fun j => ',' :: (gap ++ write j)) ++ later) := by
  induction items with
  | nil => exact ⟨hlater, hcloses⟩
  | cons j rest ih =>
    obtain ⟨hrest, hends⟩ := ih fun j' hj' => h j' (List.mem_cons_of_mem j hj')
    have hitem := (h j List.mem_cons_self).append hrest hends
    refine ⟨?_, closes_cons rfl⟩
    have hall := (hitem.blanks hgap).mark (t := .comma) trivial nofun
    simpa [itemTokens, Token.chars] using hall

theorem spellsMore_field (name : String) {j : Json} (hblank : ∀ c ∈ blank, isSpace c = true)
    (h : SpellsMore (write j) j.tokens) (hlater : SpellsMore later others)
    (hcloses : Closes later) :
    SpellsMore (quote name.toList ++ ':' :: (blank ++ (write j ++ later)))
      (.text name :: .colon :: (j.tokens ++ others)) := by
  have hvalue := (h.append hlater hcloses).blanks hblank
  exact (hvalue.mark (t := .colon) trivial nofun).mark (t := .text name) trivial nofun

theorem spellsMore_fields (hgap : ∀ c ∈ gap, isSpace c = true)
    (hblank : ∀ c ∈ blank, isSpace c = true)
    (h : ∀ f ∈ fields, SpellsMore (write f.2) f.2.tokens) (hlater : SpellsMore later others)
    (hcloses : Closes later) :
    SpellsMore (fields.flatMap (fun f =>
        ',' :: (gap ++ (quote f.1.toList ++ ':' :: (blank ++ write f.2)))) ++ later)
        (fieldTokens fields ++ others) ∧
      Closes (fields.flatMap (fun f =>
        ',' :: (gap ++ (quote f.1.toList ++ ':' :: (blank ++ write f.2)))) ++ later) := by
  induction fields with
  | nil => exact ⟨hlater, hcloses⟩
  | cons f rest ih =>
    obtain ⟨name, j⟩ := f
    obtain ⟨hrest, hends⟩ := ih fun f' hf' => h f' (List.mem_cons_of_mem _ hf')
    have hfield := spellsMore_field name hblank (h _ List.mem_cons_self) hrest hends
    refine ⟨?_, closes_cons rfl⟩
    have hall := (hfield.blanks hgap).mark (t := .comma) trivial nofun
    simpa [fieldTokens, Token.chars] using hall

theorem spellsMore_list {close : List Char} (write : Json → List Char)
    (hgap : ∀ c ∈ gap, isSpace c = true)
    (hclose : ∀ c ∈ close, isSpace c = true) {first : Json}
    (h : ∀ j ∈ first :: items, SpellsMore (write j) j.tokens) :
    SpellsMore ('[' :: (gap ++ (write first ++
        (items.flatMap (fun j => ',' :: (gap ++ write j)) ++ (close ++ [']'])))))
      (list (first :: items)).tokens := by
  have hend := (SpellsMore.token (t := .endList) trivial).blanks hclose
  obtain ⟨hrest, hends⟩ := spellsMore_items hgap
    (fun j hj => h j (List.mem_cons_of_mem first hj)) hend (closes_blanks hclose rfl)
  have hitems := ((h first List.mem_cons_self).append hrest hends).blanks hgap
  have hall := hitems.mark (t := .beginList) trivial nofun
  simpa [tokens, Token.chars] using hall

theorem spellsMore_object {close : List Char} (write : Json → List Char)
    (hgap : ∀ c ∈ gap, isSpace c = true)
    (hblank : ∀ c ∈ blank, isSpace c = true) (hclose : ∀ c ∈ close, isSpace c = true)
    {name : String} {first : Json}
    (h : ∀ f ∈ (name, first) :: fields, SpellsMore (write f.2) f.2.tokens) :
    SpellsMore ('\x7b' :: (gap ++ (quote name.toList ++ ':' :: (blank ++ (write first ++
        (fields.flatMap (fun f =>
          ',' :: (gap ++ (quote f.1.toList ++ ':' :: (blank ++ write f.2)))) ++
            (close ++ ['\x7d'])))))))
      (object ((name, first) :: fields)).tokens := by
  have hend := (SpellsMore.token (t := .endObject) trivial).blanks hclose
  obtain ⟨hrest, hends⟩ := spellsMore_fields hgap hblank
    (fun f hf => h f (List.mem_cons_of_mem _ hf)) hend (closes_blanks hclose rfl)
  have hfields := (spellsMore_field name hblank (h _ List.mem_cons_self) hrest
    hends).blanks hgap
  have hall := hfields.mark (t := .beginObject) trivial nofun
  simpa [tokens, Token.chars] using hall

end Forms

/-! ### The compact form -/

theorem chars_itemTokens (items : List Json) :
    (itemTokens items).flatMap Token.chars =
      items.flatMap (fun j => ',' :: ([] ++ j.tokens.flatMap Token.chars)) := by
  induction items with
  | nil => rfl
  | cons j rest ih => simp [itemTokens, Token.chars, ih]

theorem chars_fieldTokens (fields : List (String × Json)) :
    (fieldTokens fields).flatMap Token.chars =
      fields.flatMap (fun f => ',' :: ([] ++ (quote f.1.toList ++
        ':' :: ([] ++ f.2.tokens.flatMap Token.chars)))) := by
  induction fields with
  | nil => rfl
  | cons f rest ih => simp [fieldTokens, Token.chars, ih]

theorem spellsMore_compact {depth : Nat} {j : Json} (h : Neat depth j) :
    SpellsMore (j.tokens.flatMap Token.chars) j.tokens := by
  have hnone : ∀ c ∈ ([] : List Char), isSpace c = true := nofun
  induction h with
  | null => exact .token (t := .null) trivial
  | bool b => simpa [tokens] using SpellsMore.token (t := .bool b) trivial
  | @integer depth i h => simpa [tokens] using SpellsMore.token (t := .integer i) h
  | text s => simpa [tokens] using SpellsMore.token (t := .text s) trivial
  | @list depth items h ih =>
    cases items with
    | nil => exact (SpellsMore.token (t := .endList) trivial).mark (t := .beginList) trivial nofun
    | cons first rest =>
      have hall := spellsMore_list _ hnone hnone ih
      rw [← chars_itemTokens] at hall
      simpa [tokens, Token.chars] using hall
  | @object depth fields h ih =>
    cases fields with
    | nil =>
      exact (SpellsMore.token (t := .endObject) trivial).mark (t := .beginObject) trivial nofun
    | cons f rest =>
      obtain ⟨name, first⟩ := f
      have hall := spellsMore_object (fun j => j.tokens.flatMap Token.chars) hnone hnone hnone
        ih
      rw [← chars_fieldTokens] at hall
      simpa [tokens, Token.chars] using hall

/-! ### The laid-out form -/

theorem isSpace_of_mem_newLine {depth : Nat} (h : c ∈ newLine depth) : isSpace c = true := by
  rcases List.mem_cons.1 h with rfl | h
  · rfl
  · rw [List.eq_of_mem_replicate h]
    rfl

theorem layOutItems_eq (depth : Nat) (items : List Json) :
    layOutItems depth items =
      items.flatMap (fun j => ',' :: (newLine depth ++ layOut depth j)) := by
  induction items with
  | nil => rfl
  | cons j rest ih => simp [layOutItems, ih]

theorem layOutFields_eq (depth : Nat) (fields : List (String × Json)) :
    layOutFields depth fields =
      fields.flatMap (fun f => ',' :: (newLine depth ++ (quote f.1.toList ++
        ':' :: ([' '] ++ layOut depth f.2)))) := by
  induction fields with
  | nil => rfl
  | cons f rest ih => simp [layOutFields, ih]

theorem spellsMore_layOut {depth : Nat} {j : Json} (h : Neat depth j) (d : Nat) :
    SpellsMore (layOut d j) j.tokens := by
  have hline (d : Nat) : ∀ c ∈ newLine d, isSpace c = true := fun c hc =>
    isSpace_of_mem_newLine hc
  induction h generalizing d with
  | null => exact .token (t := .null) trivial
  | bool b => exact .token (t := .bool b) trivial
  | @integer depth i h => exact .token (t := .integer i) h
  | text s => exact .token (t := .text s) trivial
  | @list depth items h ih =>
    cases items with
    | nil => exact (SpellsMore.token (t := .endList) trivial).mark (t := .beginList) trivial nofun
    | cons first rest =>
      have hall := spellsMore_list _ (hline (d + 1)) (hline d) fun j hj => ih j hj (d + 1)
      rw [← layOutItems_eq] at hall
      simpa [layOut] using hall
  | @object depth fields h ih =>
    cases fields with
    | nil =>
      exact (SpellsMore.token (t := .endObject) trivial).mark (t := .beginObject) trivial nofun
    | cons f rest =>
      obtain ⟨name, first⟩ := f
      have hspace : ∀ c ∈ [' '], isSpace c = true := by
        intro c hc
        rw [List.mem_singleton.1 hc]
        rfl
      have hall := spellsMore_object (layOut (d + 1)) (hline (d + 1)) hspace (hline d)
        fun f hf => ih f hf (d + 1)
      rw [← layOutFields_eq] at hall
      simpa [layOut] using hall

/-! ### Both forms -/

theorem SpellsMore.scan_eq {front : List Char} {more : List Token} (h : SpellsMore front more) :
    scan front = some more := by
  have hspells := h [] [] .nil nofun
  rw [List.append_nil, List.append_nil] at hspells
  exact scan_of_spells hspells

/-- The tokens of a value are read back from its compact form. -/
theorem scan_compact {depth : Nat} {j : Json} (h : Neat depth j) :
    scan j.compact.toList = some j.tokens := by
  rw [compact, String.toList_ofList]
  exact (spellsMore_compact h).scan_eq

/-- The tokens of a value are read back from its laid-out form. -/
theorem scan_pretty {depth : Nat} {j : Json} (h : Neat depth j) :
    scan j.pretty.toList = some j.tokens := by
  rw [pretty, String.toList_ofList]
  exact (spellsMore_layOut h 0).scan_eq

end Spellbook.Json

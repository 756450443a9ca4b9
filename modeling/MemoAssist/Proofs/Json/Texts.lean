import MemoAssist.Json.Reader
import MemoAssist.Json.Writer
import MemoAssist.Proofs.Toml.Strings

namespace MemoAssist.Json

variable {rest s : List Char} {fuel : Nat} {c : Char}

/-! ### Numeric escapes -/

/-- What a unit is written as behind the backslash and the mark of a numeric escape. -/
theorem hex4?_hexOfWidth {n : Nat} (small : n < 0x10000) (rest : List Char) :
    hex4? (Text.hexOfWidth 4 n ++ rest) = some (n, rest) := by
  have digit (n : Nat) : Text.hexValue? (Text.hexDigit (n % 16)) = some (n % 16) :=
    Text.hexValue?_hexDigit (Nat.mod_lt _ (by decide))
  simp only [Text.hexOfWidth, List.nil_append, List.cons_append, hex4?, digit, Option.bind_eq_bind,
    Option.bind_some, Option.pure_def]
  congr 2
  omega

/-- The number of a character is within Unicode and no half of a pair. -/
theorem scalar (c : Char) : c.toNat < 0xD800 ∨ 0xDFFF < c.toNat ∧ c.toNat < 0x110000 := c.valid

/-- A unit that is no half of a pair stands for the character of its number. -/
theorem numericEscape?_single (valid : c.toNat < 0x10000) (rest : List Char) :
    numericEscape? (Text.hexOfWidth 4 c.toNat ++ rest) = some (c, rest) := by
  have scalar := scalar c
  have noHigh : ¬ (0xD800 ≤ c.toNat ∧ c.toNat ≤ 0xDBFF) := by omega
  have noLow : ¬ (0xDC00 ≤ c.toNat ∧ c.toNat ≤ 0xDFFF) := by omega
  rw [numericEscape?, hex4?_hexOfWidth valid]
  simp only [Option.bind_eq_bind, Option.bind_some, if_neg noHigh, if_neg noLow, Char.ofNat_toNat,
    Option.pure_def]

private theorem numericEscape?_halves {high low : Nat} (isHigh : 0xD800 ≤ high ∧ high ≤ 0xDBFF)
    (isLow : 0xDC00 ≤ low ∧ low ≤ 0xDFFF) (rest : List Char) :
    numericEscape? (Text.hexOfWidth 4 high ++ (unitEscape low ++ rest)) =
      some (Char.ofNat (0x10000 + 0x400 * (high - 0xD800) + (low - 0xDC00)), rest) := by
  rw [numericEscape?, hex4?_hexOfWidth (by omega)]
  simp only [unitEscape, List.cons_append, Option.bind_eq_bind, Option.bind_some, if_pos isHigh,
    hex4?_hexOfWidth (show low < 0x10000 by omega), if_pos isLow, Option.pure_def]

/-- The two halves of a pair stand for a character beyond U+FFFF. -/
theorem numericEscape?_pair (beyond : 0x10000 ≤ c.toNat) (rest : List Char) :
    numericEscape? (Text.hexOfWidth 4 (0xD800 + (c.toNat - 0x10000) / 0x400) ++
      (unitEscape (0xDC00 + (c.toNat - 0x10000) % 0x400) ++ rest)) = some (c, rest) := by
  have scalar := scalar c
  rw [numericEscape?_halves (by omega) (by omega)]
  have together : 0x10000 + 0x400 * (0xD800 + (c.toNat - 0x10000) / 0x400 - 0xD800) +
      (0xDC00 + (c.toNat - 0x10000) % 0x400 - 0xDC00) = c.toNat := by omega
  rw [together, Char.ofNat_toNat]

/-! ### Characters -/

/-- What is read before the rest of a text. -/
def before (c : Char) (read : List Char × List Char) : List Char × List Char := (c :: read.1, read.2)

private theorem stringTail_numeric (escape : numericEscape? s = some (c, rest)) :
    stringTail (fuel + 1) ('\\' :: 'u' :: s) = (stringTail fuel rest).map (before c) := by
  simp only [stringTail, escape, Option.bind_eq_bind, Option.bind_some]
  cases stringTail fuel rest <;> rfl

theorem stringTail_short {mark : Char} (other : mark ≠ 'u') (short : shortEscape? mark = some c) :
    stringTail (fuel + 1) ('\\' :: mark :: rest) = (stringTail fuel rest).map (before c) := by
  rw [stringTail.eq_5 _ _ _ other, short, Option.bind_eq_bind, Option.bind_some]
  cases stringTail fuel rest <;> rfl

private theorem stringTail_plain (printable : 0x20 ≤ c.toNat) (quote : c ≠ '"') (slash : c ≠ '\\') :
    stringTail (fuel + 1) (c :: rest) = (stringTail fuel rest).map (before c) := by
  have fine : ¬ (c.toNat < 0x20 ∨ c = '\\') := not_or.mpr ⟨Nat.not_lt.mpr printable, slash⟩
  rw [stringTail.eq_6 _ _ _ quote (by simp [slash]) (by simp [slash]), if_neg fine]
  cases stringTail fuel rest <;> rfl

/-- Each character is read back from what it is written as. -/
theorem stringTail_escaped (c : Char) (rest : List Char) (fuel : Nat) :
    stringTail (fuel + 1) (escaped c ++ rest) = (stringTail fuel rest).map (before c) := by
  unfold escaped
  split_ifs with quote slash feed ret tab page back printable near
  · subst quote; exact stringTail_short (by decide) rfl
  · subst slash; exact stringTail_short (by decide) rfl
  · subst feed; exact stringTail_short (by decide) rfl
  · subst ret; exact stringTail_short (by decide) rfl
  · subst tab; exact stringTail_short (by decide) rfl
  · subst page; exact stringTail_short (by decide) rfl
  · subst back; exact stringTail_short (by decide) rfl
  · exact stringTail_plain printable.1 quote slash
  · exact stringTail_numeric (numericEscape?_single near rest)
  · rw [List.append_assoc]
    exact stringTail_numeric (numericEscape?_pair (Nat.not_lt.mp near) rest)

/-! ### Whole texts -/

private theorem stringTail_text (text : List Char) (rest : List Char) (enough : text.length < fuel) :
    stringTail fuel (text.flatMap escaped ++ '"' :: rest) = some (text, rest) := by
  induction text generalizing fuel with
  | nil =>
    obtain ⟨fuel, rfl⟩ := Nat.exists_eq_add_one_of_ne_zero (Nat.ne_zero_of_lt enough)
    rfl
  | cons c text ih =>
    obtain ⟨fuel, rfl⟩ := Nat.exists_eq_add_one_of_ne_zero (Nat.ne_zero_of_lt enough)
    rw [List.flatMap_cons, List.append_assoc, stringTail_escaped, ih (Nat.lt_of_succ_lt_succ enough)]
    rfl

private theorem escaped_ne_nil (c : Char) : escaped c ≠ [] := by
  unfold escaped
  split_ifs <;> simp [unitEscape]

theorem length_le_escaped (text : List Char) : text.length ≤ (text.flatMap escaped).length := by
  induction text with
  | nil => exact Nat.le_refl _
  | cons c text ih =>
    have some := List.length_pos_iff.mpr (escaped_ne_nil c)
    rw [List.flatMap_cons, List.length_cons, List.length_append]
    omega

theorem toList_writeString (text : String) :
    (writeString text).toList = '"' :: (text.toList.flatMap escaped ++ ['"']) := by
  simp [writeString]

/-- A text is read back from behind its first quote, whatever follows the last. -/
theorem stringTail_writeString (text : String) (rest : List Char) :
    stringTail ((text.toList.flatMap escaped ++ '"' :: rest).length + 1)
      (text.toList.flatMap escaped ++ '"' :: rest) = some (text.toList, rest) := by
  refine stringTail_text _ _ ?_
  have grown := length_le_escaped text.toList
  rw [List.length_append]
  omega

end MemoAssist.Json

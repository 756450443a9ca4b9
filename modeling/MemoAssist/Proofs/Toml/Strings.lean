import MemoAssist.Setting.Document
import Mathlib.Tactic.IntervalCases
import Mathlib.Tactic.Ring

namespace MemoAssist

/-! ### Numeric escapes -/

theorem Text.hexValue?_hexDigit {n : Nat} (small : n < 16) : hexValue? (hexDigit n) = some n := by
  interval_cases n <;> rfl

namespace Toml

variable {rest : List Char}

private theorem hex?_cons {width value digit : Nat} {c : Char} (found : Text.hexValue? c = some digit) :
    hex? (width + 1) value (c :: rest) = hex? width (16 * value + digit) rest := by
  simp [hex?, found]

/-- To read some digits and then others is to read them all. -/
theorem hex?_add (first later value : Nat) (s : List Char) : hex? (first + later) value s =
    (hex? first value s).bind fun read => hex? later read.1 read.2 := by
  induction first generalizing value s with
  | zero =>
    rw [Nat.zero_add]
    rfl
  | succ first ih =>
    cases s with
    | nil =>
      rw [Nat.succ_add]
      rfl
    | cons c s =>
      rw [Nat.succ_add]
      cases found : Text.hexValue? c with
      | none => simp [hex?, found]
      | some digit =>
        rw [hex?_cons found, hex?_cons found]
        exact ih _ s

theorem hex?_hexOfWidth (width value n : Nat) (rest : List Char) :
    hex? width value (Text.hexOfWidth width n ++ rest) =
      some (value * 16 ^ width + n % 16 ^ width, rest) := by
  induction width generalizing n rest with
  | zero => simp [hex?, Text.hexOfWidth, Nat.mod_one]
  | succ width ih =>
    have digit : Text.hexValue? (Text.hexDigit (n % 16)) = some (n % 16) :=
      Text.hexValue?_hexDigit (Nat.mod_lt _ (by decide))
    rw [Text.hexOfWidth, List.append_assoc, hex?_add, ih, Option.bind_some, List.singleton_append,
      hex?_cons digit, hex?, Nat.pow_succ', Nat.mod_mul]
    congr 2
    ring

/-- The number of a character stands for the character. -/
theorem scalar?_hexOfWidth {c : Char} {width : Nat} (small : c.toNat < 16 ^ width)
    (rest : List Char) : scalar? width (Text.hexOfWidth width c.toNat ++ rest) = some ([c], rest) := by
  have read : hex? width 0 (Text.hexOfWidth width c.toNat ++ rest) = some (c.toNat, rest) := by
    rw [hex?_hexOfWidth, Nat.zero_mul, Nat.zero_add, Nat.mod_eq_of_lt small]
  have valid : c.toNat.isValidChar := c.valid
  have same := Char.ofNat_toNat c
  rw [Char.ofNat, dif_pos valid] at same
  rw [scalar?, read]
  exact (dif_pos valid).trans (by rw [same])

/-! ### Strings -/

/-- The characters with a short escape, and the marks that stand for them. -/
def shortEscapes : List (Char × Char) :=
  [('\x08', 'b'), ('\n', 'n'), ('\x0C', 'f'), ('\r', 'r'), ('"', '"'), ('\\', '\\')]

private theorem mem_shortEscapes {c mark : Char} (short : Setting.shortEscape? c = some mark) :
    (c, mark) ∈ shortEscapes := by
  unfold Setting.shortEscape? at short
  split_ifs at short with backspace feed form back other
  all_goals obtain rfl := Option.some.inj short
  · rw [backspace]; decide
  · rw [feed]; decide
  · rw [form]; decide
  · rw [back]; decide
  · rcases other with rfl | rfl <;> decide

/-- Each short escape has a mark of its own, which is read as the character again. -/
theorem escape?_short {c mark : Char} (short : Setting.shortEscape? c = some mark) :
    escape? false (mark :: rest) = some ([c], rest) := by
  have known := mem_shortEscapes short
  simp only [shortEscapes, List.mem_cons, Prod.mk.injEq, List.not_mem_nil, or_false] at known
  rcases known with ⟨rfl, rfl⟩ | ⟨rfl, rfl⟩ | ⟨rfl, rfl⟩ | ⟨rfl, rfl⟩ | ⟨rfl, rfl⟩ | ⟨rfl, rfl⟩ <;> rfl

/-- What has no short escape does not end a string and starts no escape. -/
theorem plain_of_short {c : Char} (plain : Setting.shortEscape? c = none) : c ≠ '\\' ∧ c ≠ '"' := by
  constructor <;> rintro rfl <;> cases plain

private theorem small_of_isControl {c : Char} (control : isControl c = true) : c.toNat < 16 ^ 4 := by
  simp only [isControl, Bool.or_eq_true, decide_eq_true_eq] at control
  omega

/-- What is read before the rest of a string. -/
def before (c : Char) (read : List Char × List Char) : List Char × List Char := (c :: read.1, read.2)

variable {fuel : Nat} {c : Char} {s : List Char}

private theorem basic?_escape (escape : escape? false s = some ([c], rest)) :
    basic? false (fuel + 1) ('\\' :: s) = (basic? false fuel rest).map (before c) := by
  simp only [basic?, escape, Option.bind_eq_bind, Option.bind_some]
  cases basic? false fuel rest <;> rfl

private theorem basic?_plain (slash : c ≠ '\\') (quote : c ≠ '"') (fits : fitsLine c = true) :
    basic? false (fuel + 1) (c :: rest) = (basic? false fuel rest).map (before c) := by
  have inside : after? ['"'] (c :: rest) = none := if_neg (by simp [quote.symm])
  rw [basic?.eq_4 _ _ _ _ (by simpa using slash)]
  simp only [Bool.false_eq_true, if_false, inside, fits, Bool.not_true, Option.bind_eq_bind]
  cases basic? false fuel rest <;> rfl

private theorem basic?_escaped (c : Char) (rest : List Char) (fuel : Nat) :
    basic? false (fuel + 1) (Setting.escaped c ++ rest) =
      (basic? false fuel rest).map (before c) := by
  rw [Setting.escaped]
  cases short : Setting.shortEscape? c with
  | some mark => exact basic?_escape (escape?_short short)
  | none =>
    obtain ⟨slash, quote⟩ := plain_of_short short
    dsimp only
    split
    · next control =>
      exact basic?_escape (scalar?_hexOfWidth (small_of_isControl control.1) rest)
    · next plain =>
      refine basic?_plain slash quote ?_
      rw [fitsLine, Bool.or_eq_true, Bool.not_eq_true', decide_eq_true_eq]
      by_cases tab : c = '\t'
      · exact .inr tab
      · exact .inl (Bool.eq_false_iff.mpr fun control => plain ⟨control, tab⟩)

/-- A text of any characters is read back up to the quote that ends it. -/
theorem basic?_text (text : List Char) (rest : List Char) (fuel : Nat)
    (enough : text.length < fuel) :
    basic? false fuel (text.flatMap Setting.escaped ++ '"' :: rest) = some (text, rest) := by
  obtain ⟨fuel, rfl⟩ := Nat.exists_eq_add_one_of_ne_zero (Nat.ne_zero_of_lt enough)
  induction text generalizing fuel with
  | nil => rfl
  | cons c text ih =>
    rw [List.flatMap_cons, List.append_assoc, basic?_escaped]
    rw [List.length_cons] at enough
    obtain ⟨fuel, rfl⟩ := Nat.exists_eq_add_one_of_ne_zero (show fuel ≠ 0 by omega)
    rw [ih fuel (by omega)]
    rfl

/-- What a character is written as starts with something other than a quote. -/
theorem escaped_eq (c : Char) : ∃ first more, Setting.escaped c = first :: more ∧ first ≠ '"' := by
  rw [Setting.escaped]
  cases short : Setting.shortEscape? c with
  | some mark => exact ⟨_, _, rfl, by decide⟩
  | none =>
    dsimp only
    split
    · exact ⟨_, _, rfl, by decide⟩
    · exact ⟨_, _, rfl, (plain_of_short short).2⟩

theorem length_le_escaped (text : List Char) :
    text.length ≤ (text.flatMap Setting.escaped).length := by
  induction text with
  | nil => exact Nat.le_refl _
  | cons c text ih =>
    obtain ⟨first, more, written, -⟩ := escaped_eq c
    rw [List.flatMap_cons, written, List.cons_append, List.length_cons, List.length_cons,
      List.length_append]
    omega

/-- Only three quotes in a row start a text of many lines. -/
theorem string?_line (single : ∀ rest, s ≠ '"' :: '"' :: rest) :
    string? ('"' :: s) = lineString? ('"' :: s) := by
  rw [string?.eq_def]
  split
  · next rest triple => exact absurd (List.cons.inj triple).2 (single rest)
  · next triple => cases triple
  · rfl

theorem toList_writeText (text : String) : (Setting.writeText text).toList =
    '"' :: (text.toList.flatMap Setting.escaped ++ ['"']) := by
  simp [Setting.writeText]

theorem string?_writeText (text : String) (rest : List Char) :
    string? ((Setting.writeText text).toList ++ '\n' :: rest) = some (text, '\n' :: rest) := by
  have written : (Setting.writeText text).toList ++ '\n' :: rest =
      '"' :: (text.toList.flatMap Setting.escaped ++ '"' :: '\n' :: rest) := by
    rw [toList_writeText]
    simp
  have single : ∀ more, text.toList.flatMap Setting.escaped ++ '"' :: '\n' :: rest ≠
      '"' :: '"' :: more := by
    intro more triple
    cases chars : text.toList with
    | nil => simp [chars] at triple
    | cons c others =>
      obtain ⟨first, tail, escaped, quote⟩ := escaped_eq c
      rw [chars, List.flatMap_cons, escaped] at triple
      exact quote (List.cons.inj triple).1
  have enough : text.toList.length <
      (text.toList.flatMap Setting.escaped ++ '"' :: '\n' :: rest).length + 1 := by
    rw [List.length_append]
    have grown := length_le_escaped text.toList
    omega
  rw [written, string?_line single, lineString?, basic?_text _ _ _ enough]
  exact congrArg (fun read => some (read, '\n' :: rest)) String.ofList_toList

/-! ### Carriage returns -/

private theorem return_hexOfWidth (width n : Nat) : '\r' ∉ Text.hexOfWidth width n := by
  induction width generalizing n with
  | zero => exact List.not_mem_nil
  | succ width ih =>
    have digit : '\r' ≠ Text.hexDigit (n % 16) := by
      have small : n % 16 < 16 := Nat.mod_lt _ (by decide)
      generalize n % 16 = digit at small
      interval_cases digit <;> decide
    rw [Text.hexOfWidth, List.mem_append, List.mem_singleton]
    rintro (there | here)
    · exact ih _ there
    · exact digit here

/-- A carriage return is written with an escape and by nothing else. -/
theorem return_escaped (c : Char) : '\r' ∉ Setting.escaped c := by
  rw [Setting.escaped]
  cases short : Setting.shortEscape? c with
  | some mark =>
    have apart : '\r' ≠ mark := by
      rintro rfl
      have known : '\r' ∈ shortEscapes.map Prod.snd := List.mem_map_of_mem (mem_shortEscapes short)
      exact absurd known (by decide)
    simpa using apart
  | none =>
    dsimp only
    split
    · simp [return_hexOfWidth]
    · rw [List.mem_singleton]
      rintro rfl
      cases short

theorem return_writeText (text : String) : '\r' ∉ (Setting.writeText text).toList := by
  rw [toList_writeText]
  simp [return_escaped]

theorem unixBreaks_bare {s : List Char} (bare : '\r' ∉ s) : unixBreaks s = s := by
  induction s with
  | nil => rfl
  | cons c s ih =>
    have apart : c ≠ '\r' := Ne.symm (List.ne_of_not_mem_cons bare)
    rw [unixBreaks, ih (List.not_mem_of_not_mem_cons bare)]
    rintro rest rfl -
    exact apart rfl

end Toml

end MemoAssist

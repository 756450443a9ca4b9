import Mathlib.Data.List.Induction
import Mathlib.Data.List.TakeWhile
import MemoAssist.Json.Display
import MemoAssist.Json.Loose
import MemoAssist.Proofs.Json.RoundTrip

namespace MemoAssist

namespace Json

/-! ### Whole numbers that are read -/

private theorem decimalValue_lt {digits : List Char} (all : ∀ c ∈ digits, Text.isDigit c = true) :
    Text.decimalValue digits < 10 ^ digits.length := by
  induction digits using List.reverseRecOn with
  | nil => exact Nat.one_pos
  | append_singleton digits c ih =>
    have before := ih fun d member => all d (List.mem_append_left _ member)
    have digit := all c (List.mem_append_right _ (List.mem_singleton.mpr rfl))
    have last : Text.decimalValue (digits ++ [c]) = 10 * Text.decimalValue digits + (c.toNat - 48) := by
      simp [Text.decimalValue]
    simp only [Text.isDigit, Bool.and_eq_true, decide_eq_true_eq] at digit
    rw [last, List.length_append, List.length_singleton, Nat.pow_succ]
    omega

private theorem isDigit_of_mem_wholePart {s : List Char} {c : Char} (member : c ∈ wholePart s) :
    Text.isDigit c = true := by
  unfold wholePart at member
  split at member
  · rw [List.mem_singleton.mp member]
    decide
  · exact List.mem_takeWhile_imp member

private theorem isTooLong_of_lt {n : Int} {digits : Nat} (few : digits ≤ Text.digitLimit)
    (small : n.natAbs < 10 ^ digits) : Text.isTooLong n = false := by
  unfold Text.isTooLong
  -- The limit is a number of digits that nothing should compute a power of.
  generalize Text.digitLimit = limit at few ⊢
  have bound : 10 ^ digits ≤ Nat.pow 10 limit := Nat.pow_le_pow_right (by decide) few
  exact decide_eq_false (by omega)

private theorem magnitude?_short {negative : Bool} {s rest : List Char} {n : Int}
    (read : magnitude? negative s = some (.int n, rest)) : Text.isTooLong n = false := by
  simp only [magnitude?] at read
  split at read
  · cases read
  · split at read
    · split at read
      · cases read
      · next fits =>
        obtain rfl : n = if negative then -(Text.decimalValue (wholePart s) : Int)
            else Text.decimalValue (wholePart s) := by
          cases read
          rfl
        refine isTooLong_of_lt (Nat.not_lt.mp fits) ?_
        have small := decimalValue_lt fun c member => isDigit_of_mem_wholePart (s := s) member
        split <;> simpa using small
    · cases read

private theorem number?_short {s rest : List Char} {n : Number} (read : number? s = some (n, rest)) :
    (Json.num n).hasLongNumber = false := by
  cases n with
  | float x => rfl
  | int n =>
    by_cases minus : ∃ more, s = '-' :: more
    · obtain ⟨more, rfl⟩ := minus
      exact magnitude?_short read
    · rw [number?_bare (not_exists.mp minus)] at read
      exact magnitude?_short read

/-! ### Values that are read -/

private theorem fieldsHaveLongNumber_put {name : String} {value : Json} {fields : List (String × Json)}
    (short : value.hasLongNumber = false) (others : fieldsHaveLongNumber fields = false) :
    fieldsHaveLongNumber (put name value fields) = false := by
  induction fields with
  | nil => simp [put, fieldsHaveLongNumber, short]
  | cons field rest ih =>
    obtain ⟨other, old⟩ := field
    simp only [fieldsHaveLongNumber, Bool.or_eq_false_iff] at others
    rw [put]
    split
    · simp [fieldsHaveLongNumber, short, others.2]
    · simp [fieldsHaveLongNumber, others.1, ih others.2]

mutual

private theorem value?_short : ∀ (fuel : Nat) {s rest : List Char} {v : Json},
    value? fuel s = some (v, rest) → v.hasLongNumber = false
  | 0, _, _, _ => fun read => nomatch read
  | fuel + 1, s, rest, v => fun read => by
    unfold value? at read
    split at read
    · obtain ⟨_, -, same⟩ := Option.map_eq_some_iff.mp read
      cases same
      rfl
    · split at read
      · cases read
        rfl
      · obtain ⟨_, inside, same⟩ := Option.map_eq_some_iff.mp read
        cases same
        exact fields?_short fuel rfl inside
    · split at read
      · cases read
        rfl
      · obtain ⟨_, inside, same⟩ := Option.map_eq_some_iff.mp read
        cases same
        exact items?_short fuel inside
    -- The words, which hold no whole number.
    · cases read; rfl
    · cases read; rfl
    · cases read; rfl
    · cases read; rfl
    · cases read; rfl
    · cases read; rfl
    · obtain ⟨_, found, same⟩ := Option.map_eq_some_iff.mp read
      cases same
      exact number?_short found

private theorem items?_short : ∀ (fuel : Nat) {s rest : List Char} {items : List Json},
    items? fuel s = some (items, rest) → haveLongNumber items = false
  | 0, _, _, _ => fun read => nomatch read
  | fuel + 1, s, rest, items => fun read => by
    rw [items?.eq_2, Option.bind_eq_bind, Option.bind_eq_some_iff] at read
    obtain ⟨⟨item, more⟩, first, read⟩ := read
    have short := value?_short fuel first
    dsimp only at read
    split at read
    · cases read
      simp [haveLongNumber, short]
    · rw [Option.bind_eq_bind, Option.bind_eq_some_iff] at read
      obtain ⟨⟨others, _⟩, later, read⟩ := read
      cases read
      simp [haveLongNumber, short, items?_short fuel later]
    · cases read

private theorem fields?_short : ∀ (fuel : Nat) {before fields : List (String × Json)} {s rest : List Char},
    fieldsHaveLongNumber before = false → fields? fuel before s = some (fields, rest) →
      fieldsHaveLongNumber fields = false
  | 0, _, _, _, _ => fun _ read => nomatch read
  | fuel + 1, before, fields, s, rest => fun known read => by
    obtain ⟨quoted, rfl⟩ : ∃ quoted, s = '"' :: quoted := by
      unfold fields? at read
      split at read
      · exact ⟨_, rfl⟩
      · cases read
    rw [fields?.eq_2, Option.bind_eq_bind, Option.bind_eq_some_iff] at read
    obtain ⟨⟨name, more⟩, -, read⟩ := read
    dsimp only at read
    split at read
    · rw [Option.bind_eq_bind, Option.bind_eq_some_iff] at read
      obtain ⟨⟨value, _⟩, first, read⟩ := read
      have short : fieldsHaveLongNumber (put (String.ofList name) value before) = false :=
        fieldsHaveLongNumber_put (value?_short fuel first) known
      dsimp only at read
      split at read
      · cases read
        exact short
      · exact fields?_short fuel short read
      · cases read
    · cases read

end

/-- Whatever is read can be written. -/
theorem read?_short {s : List Char} {v : Json} (read : read? s = some v) : v.hasLongNumber = false := by
  rw [read?] at read
  split at read
  · next value _ found =>
    split at read
    · obtain rfl := Option.some.inj read
      exact value?_short _ found
    · cases read
  · cases read

theorem find?_short {key : String} {fields : List (String × Json)} {v : Json}
    (short : fieldsHaveLongNumber fields = false) (found : find? key fields = some v) :
    v.hasLongNumber = false := by
  induction fields with
  | nil => cases found
  | cons field rest ih =>
    obtain ⟨name, value⟩ := field
    rw [fieldsHaveLongNumber, Bool.or_eq_false_iff] at short
    rw [find?] at found
    split at found
    · rw [← Option.some.inj found]
      exact short.1
    · exact ih short.2 found

end Json

/-! ### Texts that are shown -/

private theorem Decimal.layOut_ne_nil (d : Decimal.Digits) : Decimal.layOut d ≠ [] := by
  simp only [Decimal.layOut]
  split_ifs <;> simp

theorem Decimal.text_ne_empty (x : Float) : Decimal.text x ≠ "" := by
  simp only [Decimal.text]
  split_ifs <;> simp [Decimal.layOut_ne_nil]

namespace Json

private theorem shownNumber_ne_empty (n : Number) : shownNumber n ≠ "" := by
  cases n with
  | float x => exact Decimal.text_ne_empty x
  | int n =>
    cases n with
    | ofNat n => exact Nat.repr_ne_empty
    | negSucc n =>
      change "-" ++ (n + 1).repr ≠ ""
      simp

private theorem shown_ne_empty (v : Json) : v.shown ≠ "" := by
  cases v with
  | null => decide
  | bool b => cases b <;> decide
  | num n => exact shownNumber_ne_empty n
  | str s => simp [shown, Text.quoted]
  | arr items => simp [shown]
  | obj fields => simp [shown]

/-- What counts as a value is shown as more than nothing. -/
theorem text_ne_empty {v : Json} (set : v.isSet = true) : v.text ≠ "" := by
  cases v with
  | str s => exact of_decide_eq_true set
  | null | bool _ | num _ | arr _ | obj _ => exact shown_ne_empty _

end Json

end MemoAssist

import MemoAssist.Json.Reader
import MemoAssist.Json.Writer

/-! Numbers in JSON. What follows a number is left alone if it is a delimiter, so that a number is read
inside a document as it is read alone; and whole numbers are read back from their digits. -/
namespace MemoAssist

namespace Json

/-- Nothing, or a delimiter, with which no number goes on. -/
def Delimited : List Char → Prop
  | [] => True
  | c :: _ => c = ',' ∨ c = ']' ∨ c = '}'

/-- What is read of a number, with more behind it. -/
def followed {α : Type} (rest : List Char) (read : α × List Char) : α × List Char :=
  (read.1, read.2 ++ rest)

variable {rest : List Char}

@[elab_as_elim]
theorem Delimited.elim {motive : List Char → Prop} (delimited : Delimited rest) (nothing : motive [])
    (comma : ∀ more, motive (',' :: more)) (bracket : ∀ more, motive (']' :: more))
    (brace : ∀ more, motive ('}' :: more)) : motive rest := by
  match rest, delimited with
  | [], _ => exact nothing
  | c :: more, delimiter =>
    rcases delimiter with rfl | rfl | rfl
    · exact comma more
    · exact bracket more
    · exact brace more

theorem takeWhile_digits (delimited : Delimited rest) (s : List Char) :
    (s ++ rest).takeWhile Text.isDigit = s.takeWhile Text.isDigit := by
  induction s with
  | nil => exact delimited.elim rfl (fun _ => rfl) (fun _ => rfl) fun _ => rfl
  | cons c s ih => rw [List.cons_append, List.takeWhile_cons, List.takeWhile_cons, ih]

private theorem drop_digits (s : List Char) : (s ++ rest).drop (s.takeWhile Text.isDigit).length =
    s.drop (s.takeWhile Text.isDigit).length ++ rest :=
  List.drop_append_of_le_length (List.takeWhile_prefix _).length_le

private theorem fraction?_append (delimited : Delimited rest) (s : List Char) :
    fraction? (s ++ rest) = (fraction? s).map (followed rest) := by
  match s with
  | [] => exact delimited.elim rfl (fun _ => rfl) (fun _ => rfl) fun _ => rfl
  | c :: s =>
    by_cases point : c = '.'
    · subst point
      simp only [List.cons_append, fraction?, takeWhile_digits delimited, drop_digits]
      split <;> rfl
    · rw [List.cons_append, fraction?.eq_2 _ (by simpa using point),
        fraction?.eq_2 _ (by simpa using point)]
      rfl

/-- The digits of a power, behind its sign. -/
def power? (negative : Bool) (s : List Char) : Option (Int × List Char) :=
  let digits := s.takeWhile Text.isDigit
  if digits.isEmpty then none
  else
    let n : Int := Text.decimalValue digits
    some (if negative then -n else n, s.drop digits.length)

private theorem power?_append (delimited : Delimited rest) (negative : Bool) (s : List Char) :
    power? negative (s ++ rest) = (power? negative s).map (followed rest) := by
  simp only [power?, takeWhile_digits delimited, drop_digits]
  split <;> rfl

/-- The sign of a power, and what follows it. -/
def signed : List Char → Bool × List Char
  | '-' :: s => (true, s)
  | '+' :: s => (false, s)
  | s => (false, s)

private theorem signed_append (delimited : Delimited rest) (s : List Char) :
    signed (s ++ rest) = followed rest (signed s) := by
  match s with
  | [] => exact delimited.elim rfl (fun _ => rfl) (fun _ => rfl) fun _ => rfl
  | c :: s =>
    by_cases minus : c = '-'
    · subst minus; rfl
    · by_cases plus : c = '+'
      · subst plus; rfl
      · have bare (s : List Char) : signed (c :: s) = (false, c :: s) :=
          signed.eq_3 _ (by simp [minus]) (by simp [plus])
        rw [List.cons_append, bare, bare]
        rfl

private theorem exponent?_cons (e : Char) (s : List Char) : exponent? (e :: s) =
    if e = 'e' ∨ e = 'E' then power? (signed s).1 (signed s).2 else none := rfl

private theorem exponent?_append (delimited : Delimited rest) (s : List Char) :
    exponent? (s ++ rest) = (exponent? s).map (followed rest) := by
  match s with
  | [] => exact delimited.elim rfl (fun _ => rfl) (fun _ => rfl) fun _ => rfl
  | e :: s =>
    rw [List.cons_append, exponent?_cons, exponent?_cons, signed_append delimited]
    split
    · exact power?_append delimited _ _
    · rfl

/-- The digits before a point. A zero in front is the only one. -/
def wholePart : List Char → List Char
  | '0' :: _ => ['0']
  | s => s.takeWhile Text.isDigit

private theorem wholePart_append (delimited : Delimited rest) (s : List Char) :
    wholePart (s ++ rest) = wholePart s := by
  match s with
  | [] => exact delimited.elim rfl (fun _ => rfl) (fun _ => rfl) fun _ => rfl
  | c :: s =>
    by_cases zero : c = '0'
    · subst zero; rfl
    · have other (s : List Char) : wholePart (c :: s) = (c :: s).takeWhile Text.isDigit :=
        wholePart.eq_2 _ (by simp [zero])
      rw [List.cons_append, other, other]
      exact takeWhile_digits delimited (c :: s)

private theorem length_wholePart_le (s : List Char) : (wholePart s).length ≤ s.length := by
  unfold wholePart
  split
  · exact Nat.le_add_left _ _
  · exact (List.takeWhile_sublist _).length_le

/-- A number behind its sign. -/
def magnitude? (negative : Bool) (s : List Char) : Option (Number × List Char) :=
  let whole := wholePart s
  if whole.isEmpty then none
  else
    let afterWhole := s.drop whole.length
    let point := fraction? afterWhole
    let (places, afterPoint) := point.getD ([], afterWhole)
    let power := exponent? afterPoint
    if point.isNone && power.isNone then
      if whole.length > Text.digitLimit then none
      else
        let n : Int := Text.decimalValue whole
        some (.int (if negative then -n else n), afterWhole)
    else
      let (e, rest) := power.getD (0, afterPoint)
      let mantissa := Text.decimalValue (whole ++ places)
      some (.float (Decimal.read negative mantissa (e - places.length)), rest)

private theorem number?_minus (s : List Char) : number? ('-' :: s) = magnitude? true s := rfl

theorem number?_bare {s : List Char} (bare : ∀ more, s ≠ '-' :: more) :
    number? s = magnitude? false s := by
  match s with
  | [] => rfl
  | c :: s =>
    unfold number?
    split
    next negative digits sign =>
      split at sign
      · next more same => exact absurd same (bare more)
      · cases sign
        rfl

private theorem magnitude?_append (delimited : Delimited rest) (negative : Bool) (s : List Char) :
    magnitude? negative (s ++ rest) = (magnitude? negative s).map (followed rest) := by
  have behind : (s ++ rest).drop (wholePart s).length = s.drop (wholePart s).length ++ rest :=
    List.drop_append_of_le_length (length_wholePart_le s)
  simp only [magnitude?, wholePart_append delimited, behind, fraction?_append delimited]
  split
  · rfl
  · generalize s.drop (wholePart s).length = afterWhole
    cases fraction? afterWhole with
    | none =>
      simp only [Option.map_none, Option.getD_none, exponent?_append delimited]
      cases exponent? afterWhole with
      | none =>
        by_cases long : (wholePart s).length > Text.digitLimit <;> simp [long, followed]
      | some power => rfl
    | some point =>
      simp only [Option.map_some, Option.getD_some, followed, exponent?_append delimited]
      cases exponent? point.2 <;> rfl

/-- What follows a number is left alone. -/
theorem number?_append (delimited : Delimited rest) (s : List Char) :
    number? (s ++ rest) = (number? s).map (followed rest) := by
  match s with
  | [] => exact delimited.elim rfl (fun _ => rfl) (fun _ => rfl) fun _ => rfl
  | c :: s =>
    by_cases minus : c = '-'
    · subst minus
      exact magnitude?_append delimited true s
    · rw [number?_bare (by simp [minus]), number?_bare (by simp [minus])]
      exact magnitude?_append delimited false (c :: s)

/-! ### Whole numbers -/

theorem isDigit_iff {c : Char} : Text.isDigit c = c.isDigit := by
  rw [Bool.eq_iff_iff, Char.isDigit_iff_toNat]
  simp [Text.isDigit]

private theorem takeWhile_toDigits (n : Nat) :
    (Nat.toDigits 10 n).takeWhile Text.isDigit = Nat.toDigits 10 n := by
  rw [← List.append_nil (Nat.toDigits 10 n), List.takeWhile_append_of_pos]
  · rfl
  · intro c member
    rw [isDigit_iff]
    exact Nat.isDigit_of_mem_toDigits (by decide) (by decide) member

/-- The digits of a positive number do not start with a zero. -/
theorem head_toDigits {n : Nat} (positive : 0 < n) :
    ∃ c more, Nat.toDigits 10 n = c :: more ∧ c ≠ '0' := by
  induction n using Nat.strongRecOn with
  | ind n ih =>
    by_cases single : n < 10
    · refine ⟨n.digitChar, [], Nat.toDigits_of_lt_base single, ?_⟩
      revert positive
      clear ih
      revert n
      decide
    · obtain ⟨c, more, digits, nonzero⟩ := ih (n / 10) (by omega) (by omega)
      refine ⟨c, more ++ [(n % 10).digitChar], ?_, nonzero⟩
      rw [Nat.toDigits_of_base_le (by decide) (by omega), digits, List.cons_append]

private theorem wholePart_toDigits (n : Nat) : wholePart (Nat.toDigits 10 n) = Nat.toDigits 10 n := by
  rcases Nat.eq_zero_or_pos n with rfl | positive
  · rfl
  · obtain ⟨c, more, digits, nonzero⟩ := head_toDigits positive
    have other : wholePart (c :: more) = (c :: more).takeWhile Text.isDigit :=
      wholePart.eq_2 _ (by simp [nonzero])
    rw [digits, other, ← digits, takeWhile_toDigits]

private theorem length_toDigits {n : Int} (short : Text.isTooLong n = false) :
    (Nat.toDigits 10 n.natAbs).length ≤ Text.digitLimit := by
  unfold Text.isTooLong at short
  -- The limit is a number of digits that nothing should compute a power of.
  have positive : 0 < Text.digitLimit := by decide
  generalize Text.digitLimit = limit at short positive ⊢
  rw [Nat.length_toDigits_le_iff (by decide) positive]
  exact Nat.not_le.mp (of_decide_eq_false short)

private theorem magnitude?_toDigits (negative : Bool) {n : Nat}
    (short : (Nat.toDigits 10 n).length ≤ Text.digitLimit) :
    magnitude? negative (Nat.toDigits 10 n) = some (.int (if negative then -n else n), []) := by
  have some : (Nat.toDigits 10 n).isEmpty = false := by simp [Nat.toDigits_ne_nil]
  have value : Text.decimalValue (Nat.toDigits 10 n) = n := Nat.ofDigitChars_ten_toDigits
  have fits : ¬ (Nat.toDigits 10 n).length > Text.digitLimit := Nat.not_lt.mpr short
  simp only [magnitude?, wholePart_toDigits, some, List.drop_length, fraction?, exponent?,
    Option.getD_none, Option.isNone_none, Bool.and_self, if_true, if_neg fits, value]
  rfl

/-! ### Numbers as values -/

/-- A number that is read is read as a value: it does not start as any other value does. -/
theorem value?_of_number? {s more : List Char} {n : Number} (read : number? s = some (n, more))
    (fuel : Nat) : value? (fuel + 1) s = some (.num n, more) := by
  rw [value?.eq_11, read]
  · rfl
  all_goals
    rintro rest rfl
    cases read

/-- A number that is read alone is read before a delimiter. -/
theorem value?_append {s more : List Char} {n : Number} (read : value? 1 s = some (.num n, more))
    (delimited : Delimited rest) (fuel : Nat) :
    value? (fuel + 1) (s ++ rest) = some (.num n, more ++ rest) := by
  unfold value? at read
  split at read
  · obtain ⟨_, -, wrong⟩ := Option.map_eq_some_iff.mp read
    cases wrong
  · split at read
    · cases read
    · obtain ⟨_, -, wrong⟩ := Option.map_eq_some_iff.mp read
      cases wrong
  · split at read
    · cases read
    · obtain ⟨_, -, wrong⟩ := Option.map_eq_some_iff.mp read
      cases wrong
  · cases read
  · cases read
  · cases read
  · cases read
    rfl
  · cases read
    rfl
  · cases read
    rfl
  · obtain ⟨_, found, same⟩ := Option.map_eq_some_iff.mp read
    cases same
    apply value?_of_number?
    rw [number?_append delimited, found]
    rfl

end Json

namespace Number

/-- Written alone, the number is read back. -/
def Faithful (n : Number) : Prop := Json.value? 1 (Json.writeNumber n).toList = some (.num n, [])

/-- A whole number that is not too long to be written is read back. -/
theorem faithful_int {n : Int} (short : Text.isTooLong n = false) : Faithful (.int n) := by
  have short := Json.length_toDigits short
  apply Json.value?_of_number?
  cases n with
  | ofNat n =>
    have written : (Json.writeNumber (.int (.ofNat n))).toList = Nat.toDigits 10 n := String.toList_ofList
    rw [written, Json.number?_bare]
    · exact Json.magnitude?_toDigits false short
    · intro more minus
      have digit : '-' ∈ Nat.toDigits 10 n := minus ▸ List.mem_cons_self
      exact absurd (Nat.isDigit_of_mem_toDigits (by decide) (by decide) digit) (by decide)
  | negSucc n =>
    have written : (Json.writeNumber (.int (.negSucc n))).toList = '-' :: Nat.toDigits 10 (n + 1) := by
      change ("-" ++ String.ofList (Nat.toDigits 10 (n + 1))).toList = _
      simp
    rw [written, Json.number?_minus]
    exact Json.magnitude?_toDigits true short

/-- Whole numbers are read back in any case. Others have to be. -/
def Legible : Number → Prop
  | .int _ => True
  | .float x => Faithful (.float x)

theorem Legible.faithful {n : Number} (legible : n.Legible) (short : (Json.num n).hasLongNumber = false) :
    n.Faithful := by
  cases n with
  | int n => exact faithful_int short
  | float x => exact legible

theorem Faithful.value? {n : Number} (faithful : n.Faithful) {rest : List Char}
    (delimited : Json.Delimited rest) (fuel : Nat) :
    Json.value? (fuel + 1) ((Json.writeNumber n).toList ++ rest) = some (.num n, rest) :=
  Json.value?_append faithful delimited fuel

end Number

end MemoAssist

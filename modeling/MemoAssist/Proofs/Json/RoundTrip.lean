import MemoAssist.Proofs.Entries
import MemoAssist.Proofs.Json.Numbers
import MemoAssist.Proofs.Json.Texts

namespace MemoAssist.Json

mutual

/-- Its numbers are read back, and the keys of its objects are apart. -/
def Readable : Json → Prop
  | .num n => n.Faithful
  | .arr items => AllReadable items
  | .obj fields => (fields.map Prod.fst).Nodup ∧ FieldsReadable fields
  | .null | .bool _ | .str _ => True

def AllReadable : List Json → Prop
  | [] => True
  | item :: rest => Readable item ∧ AllReadable rest

def FieldsReadable : List (String × Json) → Prop
  | [] => True
  | (_, value) :: rest => Readable value ∧ FieldsReadable rest

end

theorem allReadable_iff {items : List Json} : AllReadable items ↔ ∀ item ∈ items, item.Readable := by
  induction items with
  | nil => simp [AllReadable]
  | cons item rest ih => rw [AllReadable, ih, List.forall_mem_cons]

theorem fieldsReadable_iff {fields : List (String × Json)} :
    FieldsReadable fields ↔ ∀ field ∈ fields, field.2.Readable := by
  induction fields with
  | nil => simp [FieldsReadable]
  | cons field rest ih => rw [FieldsReadable, ih, List.forall_mem_cons]

theorem fieldsHaveLongNumber_iff {fields : List (String × Json)} :
    fieldsHaveLongNumber fields = false ↔ ∀ field ∈ fields, field.2.hasLongNumber = false := by
  induction fields with
  | nil => simp [fieldsHaveLongNumber]
  | cons field rest ih => rw [fieldsHaveLongNumber, Bool.or_eq_false_iff, ih, List.forall_mem_cons]

/-! ### The characters that are written -/

def chars (v : Json) : List Char := v.write.toList

/-- The characters between the brackets of an array. -/
def itemChars (items : List Json) : List Char := (", ".intercalate (writeItems items)).toList

/-- The characters between the braces of an object. -/
def fieldChars (fields : List (String × Json)) : List Char :=
  (", ".intercalate (writeFields fields)).toList

/-- A key in front of its value. -/
def keyed (name : String) (rest : List Char) : List Char :=
  '"' :: (name.toList.flatMap escaped ++ '"' :: ':' :: ' ' :: rest)

variable {item next value : Json} {items : List Json} {name : String} {field : String × Json}
  {fields : List (String × Json)} {rest : List Char} {fuel : Nat}

private theorem itemChars_singleton : itemChars [item] = chars item :=
  congrArg String.toList String.intercalate_singleton

theorem itemChars_cons :
    itemChars (item :: next :: items) = chars item ++ ',' :: ' ' :: itemChars (next :: items) := by
  simp only [itemChars, writeItems, String.intercalate_cons_cons, String.toList_append,
    List.append_assoc]
  rfl

private theorem fieldChars_singleton : fieldChars [(name, value)] = keyed name (chars value) := by
  simp [fieldChars, writeFields, String.intercalate_singleton, keyed, toList_writeString, chars]

private theorem fieldChars_cons : fieldChars ((name, value) :: field :: fields) =
    keyed name (chars value ++ ',' :: ' ' :: fieldChars (field :: fields)) := by
  simp [fieldChars, writeFields, String.intercalate_cons_cons, keyed, toList_writeString, chars]

theorem chars_str (s : String) : chars (.str s) = '"' :: (s.toList.flatMap escaped ++ ['"']) :=
  toList_writeString s

private theorem chars_arr (items : List Json) : chars (.arr items) = '[' :: (itemChars items ++ [']']) := by
  rw [chars, write, String.toList_append, String.toList_append]
  rfl

private theorem chars_obj (fields : List (String × Json)) :
    chars (.obj fields) = '{' :: (fieldChars fields ++ ['}']) := by
  rw [chars, write, String.toList_append, String.toList_append]
  rfl

/-! ### One item and one field -/

variable {s after more : List Char} {c : Char} {v : Json} {known : List (String × Json)}

theorem skipSpace_solid (solid : isSpace c = false) : skipSpace (c :: s) = c :: s :=
  List.dropWhile_cons_of_neg (by simp [solid])

/-- What is written starts with neither a space nor the end of an array. -/
theorem chars_start (readable : v.Readable) :
    ∃ c more, chars v = c :: more ∧ isSpace c = false ∧ c ≠ ']' := by
  cases v with
  | null => exact ⟨_, _, rfl, by decide⟩
  | bool b => cases b <;> exact ⟨_, _, rfl, by decide⟩
  | str s => exact ⟨_, _, chars_str s, by decide⟩
  | arr items => exact ⟨_, _, chars_arr items, by decide⟩
  | obj fields => exact ⟨_, _, chars_obj fields, by decide⟩
  | num n =>
    have read : value? 1 (chars (.num n)) = some (.num n, []) := readable
    cases written : chars (.num n) with
    | nil =>
      rw [written] at read
      cases read
    | cons c more =>
      rw [written] at read
      refine ⟨c, more, rfl, Bool.eq_false_iff.mpr fun space => ?_, ?_⟩
      · simp only [isSpace, Bool.or_eq_true, decide_eq_true_eq] at space
        rcases space with ((rfl | rfl) | rfl) | rfl <;> cases read
      · rintro rfl
        cases read

theorem skipSpace_chars (readable : v.Readable) (rest : List Char) :
    skipSpace (chars v ++ rest) = chars v ++ rest := by
  obtain ⟨c, more, written, solid, -⟩ := chars_start readable
  rw [written]
  exact skipSpace_solid solid

private theorem skipSpace_itemChars (readable : item.Readable) (items : List Json) (rest : List Char) :
    skipSpace (itemChars (item :: items) ++ rest) = itemChars (item :: items) ++ rest := by
  cases items with
  | nil => rw [itemChars_singleton, skipSpace_chars readable]
  | cons next items => rw [itemChars_cons, List.append_assoc, skipSpace_chars readable]

private theorem items?_last (read : value? fuel s = some (item, ']' :: rest)) :
    items? (fuel + 1) s = some ([item], rest) := by
  rw [items?.eq_2, read]
  rfl

private theorem items?_next (read : value? fuel s = some (item, ',' :: ' ' :: more))
    (solid : skipSpace more = more) (later : items? fuel more = some (items, rest)) :
    items? (fuel + 1) s = some (item :: items, rest) := by
  have space : skipSpace (' ' :: more) = more := solid
  rw [items?.eq_2, read, Option.bind_eq_bind, Option.bind_some]
  simp only [skipSpace_solid (show isSpace ',' = false by decide), space, later]
  rfl

theorem name_read (name : String) (s : List Char) :
    stringTail ((name.toList.flatMap escaped ++ '"' :: ':' :: ' ' :: s).length + 1)
      (name.toList.flatMap escaped ++ '"' :: ':' :: ' ' :: s) = some (name.toList, ':' :: ' ' :: s) :=
  stringTail_writeString name _

theorem fields?_last (solid : skipSpace s = s) (read : value? fuel s = some (value, after))
    (closed : skipSpace after = '}' :: rest) :
    fields? (fuel + 1) known (keyed name s) = some (put name value known, rest) := by
  have space : skipSpace (' ' :: s) = s := solid
  rw [keyed, fields?.eq_2, name_read, Option.bind_eq_bind, Option.bind_some]
  simp only [skipSpace_solid (show isSpace ':' = false by decide), space, read, Option.bind_eq_bind,
    Option.bind_some, closed, String.ofList_toList]
  rfl

theorem fields?_next (solid : skipSpace s = s) (read : value? fuel s = some (value, after))
    (comma : skipSpace after = ',' :: more)
    (later : fields? fuel (put name value known) (skipSpace more) = some (fields, rest)) :
    fields? (fuel + 1) known (keyed name s) = some (fields, rest) := by
  have space : skipSpace (' ' :: s) = s := solid
  rw [keyed, fields?.eq_2, name_read, Option.bind_eq_bind, Option.bind_some]
  simp only [skipSpace_solid (show isSpace ':' = false by decide), space, read, Option.bind_eq_bind,
    Option.bind_some, comma, String.ofList_toList, later]

theorem puts : Puts put where
  empty _ _ := rfl
  here _ _ _ _ := if_pos rfl
  elsewhere _ _ _ _ _ apart := if_neg apart

private theorem delimited_comma (s : List Char) : Delimited (',' :: s) := .inl rfl

private theorem delimited_bracket (s : List Char) : Delimited (']' :: s) := .inr (.inl rfl)

private theorem delimited_brace (s : List Char) : Delimited ('}' :: s) := .inr (.inr rfl)

/-! ### Whole values -/

theorem length_keyed (name : String) (s : List Char) : s.length + 4 ≤ (keyed name s).length := by
  simp only [keyed, List.length_cons, List.length_append]
  omega

theorem keyed_append : keyed name s ++ rest = keyed name (s ++ rest) := by
  simp [keyed]

/-- What is written between brackets does not start with the closing one. -/
theorem itemChars_open (readable : item.Readable) (items : List Json) (rest more : List Char) :
    itemChars (item :: items) ++ rest ≠ ']' :: more := by
  obtain ⟨c, tail, written, -, open'⟩ := chars_start readable
  cases items with
  | nil =>
    rw [itemChars_singleton, written]
    exact fun same => open' (List.cons.inj same).1
  | cons next items =>
    rw [itemChars_cons, written]
    exact fun same => open' (List.cons.inj same).1

private theorem fieldChars_start (field : String × Json) (fields : List (String × Json)) :
    ∃ more, fieldChars (field :: fields) = '"' :: more := by
  cases fields with
  | nil => exact ⟨_, fieldChars_singleton⟩
  | cons next fields => exact ⟨_, fieldChars_cons⟩

private theorem skipSpace_fieldChars (field : String × Json) (fields : List (String × Json))
    (rest : List Char) :
    skipSpace (fieldChars (field :: fields) ++ rest) = fieldChars (field :: fields) ++ rest := by
  obtain ⟨more, quoted⟩ := fieldChars_start field fields
  rw [quoted]
  exact skipSpace_solid (by decide)

theorem new_of_apart (apart : ((known ++ (name, value) :: fields).map Prod.fst).Nodup) :
    name ∉ known.map Prod.fst := by
  rw [List.map_append, List.map_cons] at apart
  exact fun member => (List.nodup_append.mp apart).2.2 _ member _ List.mem_cons_self rfl

/-- A text is read back in front of anything. -/
theorem value?_str (s : String) (fuel : Nat) (rest : List Char) :
    value? (fuel + 1) (chars (.str s) ++ rest) = some (.str s, rest) := by
  have written : chars (.str s) ++ rest = '"' :: (s.toList.flatMap escaped ++ '"' :: rest) := by
    rw [chars_str]
    simp
  rw [written, value?.eq_2, stringTail_writeString]
  exact congrArg (fun read => some (Json.str read, rest)) String.ofList_toList

mutual

/-- A value is read back in front of a delimiter. Each step into it uses up a character at least, so
that its length is enough of fuel. -/
theorem value?_chars : ∀ (v : Json) (fuel : Nat) (rest : List Char), v.Readable →
    (chars v).length ≤ fuel → Delimited rest → value? fuel (chars v ++ rest) = some (v, rest)
  | v, 0, _ => fun readable enough _ => by
    obtain ⟨c, more, written, -⟩ := chars_start readable
    rw [written] at enough
    cases enough
  | .null, _ + 1, _ => fun _ _ _ => rfl
  | .bool true, _ + 1, _ => fun _ _ _ => rfl
  | .bool false, _ + 1, _ => fun _ _ _ => rfl
  | .num _, fuel + 1, _ => fun readable _ delimited => Number.Faithful.value? readable delimited fuel
  | .str s, fuel + 1, rest => fun _ _ _ => value?_str s fuel rest
  | .arr [], _ + 1, _ => fun _ _ _ => rfl
  | .obj [], _ + 1, _ => fun _ _ _ => rfl
  | .arr (item :: items), fuel + 1, rest => fun readable enough _ => by
    rw [chars_arr, List.length_cons, List.length_append, List.length_singleton] at enough
    have inside := items?_chars (item :: items) fuel rest (List.cons_ne_nil _ _) readable
      (Nat.lt_of_succ_le (Nat.le_of_succ_le_succ enough))
    rw [chars_arr, List.cons_append, List.append_assoc, value?.eq_4,
      skipSpace_itemChars readable.1 items, List.singleton_append]
    split
    · next closed => exact absurd closed (itemChars_open readable.1 items _ _)
    · rw [inside]
      rfl
  | .obj (field :: fields), fuel + 1, rest => fun readable enough _ => by
    rw [chars_obj, List.length_cons, List.length_append, List.length_singleton] at enough
    have inside := fields?_chars (field :: fields) fuel [] rest (List.cons_ne_nil _ _) readable.2
      readable.1 (Nat.lt_of_succ_le (Nat.le_of_succ_le_succ enough))
    obtain ⟨more, quoted⟩ := fieldChars_start field fields
    rw [chars_obj, List.cons_append, List.append_assoc, value?.eq_3, List.singleton_append]
    rw [quoted] at inside ⊢
    rw [List.cons_append, skipSpace_solid (by decide)]
    exact congrArg (Option.map _) inside

/-- The items of an array are read back up to its closing bracket. -/
theorem items?_chars : ∀ (items : List Json) (fuel : Nat) (rest : List Char), items ≠ [] →
    AllReadable items → (itemChars items).length < fuel →
      items? fuel (itemChars items ++ ']' :: rest) = some (items, rest)
  | [], _, _ => fun filled => absurd rfl filled
  | _ :: _, 0, _ => fun _ _ enough => absurd enough (Nat.not_lt_zero _)
  | [item], fuel + 1, rest => fun _ readable enough => by
    rw [itemChars_singleton] at enough ⊢
    exact items?_last (value?_chars item _ _ readable.1 (Nat.lt_succ_iff.mp enough)
      (delimited_bracket rest))
  | item :: next :: items, fuel + 1, rest => fun _ readable enough => by
    rw [itemChars_cons, List.length_append, List.length_cons, List.length_cons] at enough
    rw [itemChars_cons, List.append_assoc]
    have others := items?_chars (next :: items) fuel rest (List.cons_ne_nil _ _) readable.2 (by omega)
    exact items?_next (value?_chars item _ _ readable.1 (by omega) (delimited_comma _))
      (skipSpace_itemChars readable.2.1 items _) others

/-- The fields of an object are read back up to its closing brace. -/
theorem fields?_chars : ∀ (fields : List (String × Json)) (fuel : Nat) (known : List (String × Json))
    (rest : List Char), fields ≠ [] → FieldsReadable fields → ((known ++ fields).map Prod.fst).Nodup →
      (fieldChars fields).length < fuel →
        fields? fuel known (fieldChars fields ++ '}' :: rest) = some (known ++ fields, rest)
  | [], _, _, _ => fun filled => absurd rfl filled
  | _ :: _, 0, _, _ => fun _ _ _ enough => absurd enough (Nat.not_lt_zero _)
  | [(name, value)], fuel + 1, known, rest => fun _ readable apart enough => by
    have long := length_keyed name (chars value)
    rw [fieldChars_singleton] at enough ⊢
    rw [keyed_append, ← puts.put_new (new_of_apart apart)]
    exact fields?_last (skipSpace_chars readable.1 _)
      (value?_chars value _ _ readable.1 (by omega) (delimited_brace rest)) (skipSpace_solid (by decide))
  | (name, value) :: field :: fields, fuel + 1, known, rest => fun _ readable apart enough => by
    have long := length_keyed name (chars value ++ ',' :: ' ' :: fieldChars (field :: fields))
    rw [fieldChars_cons] at enough ⊢
    rw [List.length_append, List.length_cons, List.length_cons] at long
    rw [keyed_append, List.append_assoc]
    have others := fields?_chars (field :: fields) fuel (known ++ [(name, value)]) rest
      (List.cons_ne_nil _ _) readable.2 (by simpa using apart) (by omega)
    rw [List.append_assoc, ← puts.put_new (new_of_apart apart),
      ← skipSpace_fieldChars field fields] at others
    exact fields?_next (skipSpace_chars readable.1 _)
      (value?_chars value _ _ readable.1 (by omega) (delimited_comma _)) (skipSpace_solid (by decide))
      others

end

/-- What is written is read back. -/
theorem read?_write {v : Json} (readable : v.Readable) : read? v.write.toList = some v := by
  have start := skipSpace_chars readable []
  have enough : (chars v).length ≤ callsFor (chars v) := by
    rw [callsFor]
    omega
  have read := value?_chars v (callsFor (chars v)) [] readable enough trivial
  rw [List.append_nil] at start read
  change read? (chars v) = some v
  rw [read?, start, read]
  rfl

end MemoAssist.Json

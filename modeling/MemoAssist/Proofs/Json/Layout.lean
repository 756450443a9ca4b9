import MemoAssist.Proofs.Json.RoundTrip

namespace MemoAssist.Json

variable {depth : Nat} {v value : Json} {name : String} {field : String × Json}
  {fields : List (String × Json)} {s rest : List Char}

/-- The characters that a value is laid out in. -/
def laid (depth : Nat) (v : Json) : List Char := (v.writeIndented depth).toList

/-- The lines between the braces of an object. -/
def laidFields (depth : Nat) (fields : List (String × Json)) : List Char :=
  (("," ++ newLine depth).intercalate (indentedFields depth fields)).toList

private theorem laidFields_singleton :
    laidFields depth [(name, value)] = keyed name (laid depth value) := by
  simp [laidFields, indentedFields, String.intercalate_singleton, keyed, toList_writeString, laid]

private theorem laidFields_cons : laidFields depth ((name, value) :: field :: fields) =
    keyed name (laid depth value ++
      ',' :: ((newLine depth).toList ++ laidFields depth (field :: fields))) := by
  simp [laidFields, indentedFields, String.intercalate_cons_cons, keyed, toList_writeString, laid]

private theorem laid_obj : laid depth (.obj (field :: fields)) =
    '{' :: ((newLine (depth + 1)).toList ++ (laidFields (depth + 1) (field :: fields) ++
      ((newLine depth).toList ++ ['}']))) := by
  simp [laid, writeIndented, laidFields]

private theorem laidFields_start (depth : Nat) (field : String × Json) (fields : List (String × Json)) :
    ∃ more, laidFields depth (field :: fields) = '"' :: more := by
  cases fields with
  | nil => exact ⟨_, laidFields_singleton⟩
  | cons next fields => exact ⟨_, laidFields_cons⟩

/-- A new line is as good as nothing. -/
theorem skipSpace_newLine (depth : Nat) (s : List Char) :
    skipSpace ((newLine depth).toList ++ s) = skipSpace s := by
  have blanks : ∀ n, skipSpace (List.replicate n ' ' ++ s) = skipSpace s := by
    intro n
    induction n with
    | zero => rfl
    | succ n ih => exact ih
  have written : (newLine depth).toList = '\n' :: List.replicate (2 * depth) ' ' := by simp [newLine]
  rw [written]
  exact blanks (2 * depth)

private theorem skipSpace_laidFields (depth : Nat) (field : String × Json) (fields : List (String × Json))
    (s : List Char) :
    skipSpace ((newLine depth).toList ++ (laidFields depth (field :: fields) ++ s)) =
      laidFields depth (field :: fields) ++ s := by
  obtain ⟨more, quoted⟩ := laidFields_start depth field fields
  rw [skipSpace_newLine, quoted]
  exact skipSpace_solid (by decide)

/-- A value that is read back from its lines, whatever follows. -/
structure Legible (depth : Nat) (v : Json) : Prop where
  solid : ∃ c more, laid depth v = c :: more ∧ isSpace c = false
  read : ∀ fuel rest, (laid depth v).length ≤ fuel →
    value? fuel (laid depth v ++ rest) = some (v, rest)

theorem Legible.skipSpace (legible : Legible depth v) (rest : List Char) :
    skipSpace (laid depth v ++ rest) = laid depth v ++ rest := by
  obtain ⟨c, more, laid, solid⟩ := legible.solid
  rw [laid]
  exact skipSpace_solid solid

/-- A value whose first character needs one step at least to be read. -/
theorem Legible.of_start {c : Char} {more : List Char} (start : laid depth v = c :: more)
    (solid : isSpace c = false)
    (read : ∀ fuel rest, (laid depth v).length ≤ fuel + 1 →
      value? (fuel + 1) (laid depth v ++ rest) = some (v, rest)) : Legible depth v where
  solid := ⟨c, more, start, solid⟩
  read
    | 0, _, enough => by
      rw [start] at enough
      cases enough
    | fuel + 1, rest, enough => read fuel rest enough

theorem legible_str (depth : Nat) (s : String) : Legible depth (.str s) := by
  have same : laid depth (.str s) = chars (.str s) := by rw [laid, writeIndented, chars, write]
  refine .of_start (same.trans (chars_str s)) (by decide) fun fuel rest _ => ?_
  rw [same]
  exact value?_str s fuel rest

theorem legible_bool (depth : Nat) (b : Bool) : Legible depth (.bool b) := by
  have same : laid depth (.bool b) = chars (.bool b) := by rw [laid, writeIndented, chars, write]
  cases b with
  | false => exact .of_start (same.trans rfl) (by decide) fun _ _ _ => same ▸ rfl
  | true => exact .of_start (same.trans rfl) (by decide) fun _ _ _ => same ▸ rfl

/-- The fields of an object are read back from their lines, up to its closing brace. -/
theorem fields?_laid (closed : skipSpace s = '}' :: rest) :
    ∀ (fields : List (String × Json)) (fuel : Nat) (known : List (String × Json)), fields ≠ [] →
      (∀ field ∈ fields, Legible depth field.2) → ((known ++ fields).map Prod.fst).Nodup →
        (laidFields depth fields).length < fuel →
          fields? fuel known (laidFields depth fields ++ s) = some (known ++ fields, rest)
  | [], _, _ => fun filled => absurd rfl filled
  | _ :: _, 0, _ => fun _ _ _ enough => absurd enough (Nat.not_lt_zero _)
  | [(name, value)], fuel + 1, known => fun _ legible apart enough => by
    have long := length_keyed name (laid depth value)
    have first : Legible depth value := legible (name, value) List.mem_cons_self
    rw [laidFields_singleton] at enough ⊢
    rw [keyed_append, ← puts.put_new (new_of_apart apart)]
    exact fields?_last (first.skipSpace _) (first.read fuel _ (by omega)) closed
  | (name, value) :: field :: fields, fuel + 1, known => fun _ legible apart enough => by
    have long := length_keyed name (laid depth value ++
      ',' :: ((newLine depth).toList ++ laidFields depth (field :: fields)))
    have first : Legible depth value := legible (name, value) List.mem_cons_self
    rw [laidFields_cons] at enough ⊢
    rw [List.length_append, List.length_cons, List.length_append] at long
    have others := fields?_laid closed (field :: fields) fuel (known ++ [(name, value)])
      (List.cons_ne_nil _ _) (fun f member => legible f (List.mem_cons_of_mem _ member))
      (by simpa using apart) (by omega)
    rw [List.append_assoc, ← puts.put_new (new_of_apart apart),
      ← skipSpace_laidFields depth field fields] at others
    rw [keyed_append, List.append_assoc, List.cons_append, List.append_assoc]
    exact fields?_next (first.skipSpace _) (first.read fuel _ (by omega))
      (skipSpace_solid (by decide)) others

theorem legible_obj (apart : (fields.map Prod.fst).Nodup)
    (legible : ∀ field ∈ fields, Legible (depth + 1) field.2) : Legible depth (.obj fields) := by
  cases fields with
  | nil =>
    have start : laid depth (.obj []) = ['{', '}'] := by simp [laid, writeIndented]
    exact .of_start start (by decide) fun _ _ _ => start ▸ rfl
  | cons field fields =>
    refine .of_start laid_obj (by decide) fun fuel rest enough => ?_
    have closed : skipSpace ((newLine depth).toList ++ ('}' :: rest)) = '}' :: rest := by
      rw [skipSpace_newLine]
      exact skipSpace_solid (by decide)
    rw [laid_obj] at enough ⊢
    simp only [List.length_cons, List.length_append] at enough
    have inside := fields?_laid closed (field :: fields) fuel [] (List.cons_ne_nil _ _) legible apart
      (by omega)
    have opened := skipSpace_laidFields (depth + 1) field fields
      ((newLine depth).toList ++ '}' :: rest)
    obtain ⟨more, quoted⟩ := laidFields_start (depth + 1) field fields
    simp only [List.cons_append, List.append_assoc, List.nil_append]
    rw [value?.eq_3, opened]
    rw [quoted] at inside ⊢
    exact congrArg (Option.map _) inside

/-- A text that holds one value and ends its last line. -/
theorem read?_laid (legible : Legible 0 v) :
    read? (v.writeIndented 0 ++ "\n").toList = some v := by
  have enough : (laid 0 v).length ≤ callsFor (laid 0 v ++ ['\n']) := by
    rw [callsFor, List.length_append]
    omega
  have read := legible.read (callsFor (laid 0 v ++ ['\n'])) ['\n'] enough
  rw [String.toList_append]
  change read? (laid 0 v ++ ['\n']) = some v
  rw [read?, legible.skipSpace, read]
  rfl

end MemoAssist.Json

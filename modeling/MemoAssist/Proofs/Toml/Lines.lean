import MemoAssist.Proofs.Toml.Strings

namespace MemoAssist

namespace Toml

variable {name : String} {rest : List Char} {c : Char} {d : Document}

/-- A name that a key needs no quotes for. -/
structure IsBare (name : String) : Prop where
  set : name ≠ ""
  bare : ∀ c ∈ name.toList, isBareKey c = true

instance (name : String) : Decidable (IsBare name) :=
  decidable_of_iff (name ≠ "" ∧ name.toList.all isBareKey = true)
    ⟨fun both => ⟨both.1, List.all_eq_true.mp both.2⟩,
      fun bare => ⟨bare.set, List.all_eq_true.mpr bare.bare⟩⟩

/-! ### Keys -/

theorem IsBare.cons (bare : IsBare name) :
    ∃ first more, name.toList = first :: more ∧ isBareKey first = true := by
  cases chars : name.toList with
  | nil => exact absurd (String.toList_eq_nil_iff.mp chars) bare.set
  | cons first more =>
    exact ⟨first, more, rfl, bare.bare first (chars ▸ List.mem_cons_self ..)⟩

/-- No blanks stand in front of a name. -/
theorem skipBlanks_bare (bare : IsBare name) (rest : List Char) :
    skipBlanks (name.toList ++ rest) = name.toList ++ rest := by
  obtain ⟨first, more, chars, head⟩ := bare.cons
  have solid : ¬ isBlank first = true := by
    intro blank
    simp only [isBlank, Bool.or_eq_true, decide_eq_true_eq] at blank
    rcases blank with rfl | rfl <;> exact absurd head (by decide)
  rw [chars, List.cons_append, skipBlanks, List.dropWhile_cons_of_neg solid]

private theorem keyPart?_bare (bare : IsBare name) (stop : isBareKey c = false) :
    keyPart? (name.toList ++ c :: rest) = some (name, c :: rest) := by
  have taken : (name.toList ++ c :: rest).takeWhile isBareKey = name.toList := by
    rw [List.takeWhile_append_of_pos bare.bare, List.takeWhile_cons_of_neg (by simp [stop]),
      List.append_nil]
  obtain ⟨first, more, chars, -⟩ := bare.cons
  have some : name.toList.isEmpty = false := by rw [chars]; rfl
  rw [keyPart?]
  simp only [taken, some, Bool.false_eq_true, if_false, List.drop_left, String.ofList_toList]

/-- A name alone is a whole key, if no point follows. -/
theorem key?_bare (bare : IsBare name) (stop : isBareKey c = false) {next : Char} {more : List Char}
    (blanks : skipBlanks (c :: rest) = next :: more) (point : next ≠ '.') (fuel : Nat) :
    key? (fuel + 1) (name.toList ++ c :: rest) = some ([name], next :: more) := by
  rw [key?, keyPart?_bare bare stop]
  simp only [Option.bind_eq_bind, Option.bind_some, blanks]
  split
  · next same => exact absurd (List.cons.inj same).1 point
  · rfl

end Toml

/-! ### Values -/

/-- An entry as a reader of the file finds it. -/
def Entry.toml : Entry → Toml.Value
  | .word s => .text s
  | .flag b => .flag b
  | .fields all => .table (all.map fun f => (f.1, .text f.2))

/-- An entry that takes one line. -/
def Entry.IsLine : Entry → Prop
  | .fields _ => False
  | _ => True

namespace Toml

open Setting

variable {name : String} {rest : List Char} {d : Document} {e : Entry}

/-- A text or a flag is written so that it is read again up to the end of its line. -/
theorem value_written (name : String) (line : e.IsLine) :
    ∃ first more, (writeEntry name e).toList =
        name.toList ++ ' ' :: '=' :: ' ' :: first :: (more ++ ['\n']) ∧ isBlank first = false ∧
      ∀ fuel rest, value (fuel + 1) (first :: (more ++ '\n' :: rest)) = .ok (e.toml, '\n' :: rest) := by
  cases e with
  | word s =>
    refine ⟨'"', s.toList.flatMap escaped ++ ['"'], ?_, rfl, ?_⟩
    · simp [writeEntry, pairLine, toList_writeText]
    · intro fuel rest
      have read := string?_writeText s rest
      rw [toList_writeText, List.cons_append] at read
      rw [value, read]
      rfl
  | flag b =>
    cases b with
    | false => exact ⟨'f', ['a', 'l', 's', 'e'], by simp [writeEntry, pairLine], rfl, fun _ _ => rfl⟩
    | true => exact ⟨'t', ['r', 'u', 'e'], by simp [writeEntry, pairLine], rfl, fun _ _ => rfl⟩
  | fields all => exact line.elim

/-! ### Statements -/

/-- What begins with a name is a pair. -/
theorem statement_bare {first : Char} (bare : isBareKey first = true) (s : List Char) :
    d.statement (first :: s) = do
      let ((key, v), rest) ← pair (s.length + 2) (first :: s)
      return (← orMalformed (d.add key v), rest) := by
  rw [Document.statement.eq_def]
  split
  · next same =>
    obtain ⟨rfl, -⟩ := List.cons.inj same
    exact absurd bare (by decide)
  · next same =>
    obtain ⟨rfl, -⟩ := List.cons.inj same
    exact absurd bare (by decide)
  · next same =>
    obtain ⟨rfl, -⟩ := List.cons.inj same
    exact absurd bare (by decide)
  · next same =>
    obtain ⟨rfl, -⟩ := List.cons.inj same
    exact absurd bare (by decide)
  · next same => cases same
  · rfl

private theorem pair_written (bare : IsBare name) (line : e.IsLine) (fuel : Nat) (rest : List Char) :
    pair (fuel + 2) ((writeEntry name e).toList ++ rest) = .ok (([name], e.toml), '\n' :: rest) := by
  obtain ⟨first, more, written, solid, read⟩ := value_written name line
  have laid : (writeEntry name e).toList ++ rest =
      name.toList ++ ' ' :: '=' :: ' ' :: first :: (more ++ '\n' :: rest) := by
    rw [written]
    simp
  have blanks : skipBlanks (' ' :: first :: (more ++ '\n' :: rest)) =
      first :: (more ++ '\n' :: rest) := by
    rw [skipBlanks, List.dropWhile_cons_of_pos rfl, List.dropWhile_cons_of_neg (by simp [solid])]
  rw [laid, pair, key?_bare bare rfl rfl (by decide)]
  simp only [orMalformed, bind, Except.bind, blanks, read]
  rfl

theorem statement_line (bare : IsBare name) (line : e.IsLine) (rest : List Char) :
    d.statement ((writeEntry name e).toList ++ rest) =
      (orMalformed (d.add [name] e.toml)).map fun d => (d, '\n' :: rest) := by
  obtain ⟨first, more, chars, head⟩ := bare.cons
  obtain ⟨_, tail, written, -⟩ := value_written name line
  have laid : ∃ s, (writeEntry name e).toList ++ rest = first :: s := by
    rw [written, chars]
    exact ⟨_, rfl⟩
  obtain ⟨s, laid⟩ := laid
  have read := pair_written bare line s.length rest
  rw [laid] at read ⊢
  rw [statement_bare head, read]
  change (orMalformed (d.add [name] e.toml) >>= fun d => pure (d, '\n' :: rest)) = _
  cases d.add [name] e.toml <;> rfl

/-- A name in brackets opens a table. -/
theorem statement_headline (bare : IsBare name) (rest : List Char) :
    d.statement ('[' :: (name.toList ++ ']' :: '\n' :: rest)) =
      (orMalformed (d.beginPart.openTable [name])).map fun d => (d, '\n' :: rest) := by
  obtain ⟨first, more, chars, head⟩ := bare.cons
  have key : key? ((name.toList ++ ']' :: '\n' :: rest).length + 1)
      (name.toList ++ ']' :: '\n' :: rest) = some ([name], ']' :: '\n' :: rest) :=
    key?_bare bare rfl rfl (by decide) _
  rw [Document.statement.eq_def]
  split
  · next same =>
    rw [chars] at same
    obtain ⟨rfl, -⟩ := List.cons.inj (List.cons.inj same).2
    exact absurd head (by decide)
  · next same =>
    obtain ⟨-, rfl⟩ := List.cons.inj same
    dsimp only
    rw [skipBlanks_bare bare, key]
    change orMalformed (d.beginPart.openTable [name] >>= fun d => some (d, '\n' :: rest)) = _
    cases d.beginPart.openTable [name] <;> rfl
  · next same => cases same
  · next same => cases same
  · next same => cases same
  · next _ opening _ _ _ => exact (opening _ rfl).elim

/-! ### Documents -/

theorem read_blank (fuel : Nat) (s : List Char) :
    Document.read (fuel + 1) d ('\n' :: s) = Document.read fuel d s := rfl

/-- A statement that takes a line is followed by those on the lines after it. -/
theorem read_statement {s : List Char} {d' : Document} (solid : skipBlanks s = s)
    (statement : d.statement s = .ok (d', '\n' :: rest)) (fuel : Nat) :
    Document.read (fuel + 1) d s = Document.read fuel d' rest := by
  rw [Document.read, solid, statement]
  rfl

end Toml

end MemoAssist

import MemoAssist.Proofs.Setting.Table
import MemoAssist.Proofs.Toml.Lines

namespace MemoAssist

namespace Toml

open Setting

variable {name : String} {v : Value} {t before : Table} {d d' : Document} {e : Entry}
  {rest : List Char}

/-! ### Tables -/

theorem Table.puts : Puts Table.put where
  empty _ _ := rfl
  here _ _ _ _ := if_pos rfl
  elsewhere _ _ _ _ _ apart := if_neg apart

private theorem Table.get?_fresh (fresh : name ∉ t.map Prod.fst) : t.get? name = none := by
  rw [Table.get?, find?_eq_none_iff_key.mpr fresh]
  rfl

private theorem Table.addNew_fresh (fresh : name ∉ t.map Prod.fst) :
    t.addNew name v = some (t ++ [(name, v)]) := by
  rw [Table.addNew, Table.get?_fresh fresh, Table.puts.put_new fresh]
  rfl

/-- The table at a path is a part of the whole that can be changed by itself. -/
def Place (path : Path) (whole : Table → Table) : Prop :=
  ∀ change t, Table.changeAt true change path (whole t) = (change t).map whole

private theorem place_root : Place [] id := by
  intro change t
  rw [Table.changeAt, id_eq, Option.map_id]
  rfl

/-- The table that stands last, under a name of its own. -/
theorem place_last (fresh : name ∉ before.map Prod.fst) :
    Place [name] fun t => before ++ [(name, .table t)] := by
  intro change t
  have there : (before ++ [(name, Value.table t)] : Table).get? name = some (.table t) := by
    rw [Table.get?, List.find?_append, find?_eq_none_iff_key.mpr fresh, Option.none_or,
      List.find?_cons_of_pos (by simp)]
    rfl
  rw [Table.changeAt, there]
  simp only [Table.changeAt, Table.puts.put_there fresh]

/-! ### Statements -/

private theorem add_flat (closed : d.closed = []) (flat : isNested v = false) : d.add [name] v =
    (d.root.changeAt true (Table.addNew name v) d.header).map fun root => { d with root } := by
  have path : (d.header ++ [name]).dropLast = d.header := List.dropLast_concat
  have steps : Document.steps d.header [name] = [] := rfl
  simp only [Document.add, List.getLast?_singleton, steps, path, closed, flat, isUnder]
  cases d
  simp_all

private theorem openTable_fresh (closed : d.closed = []) (fresh : name ∉ d.root.map Prod.fst)
    (unopened : [name] ∉ d.opened) : d.openTable [name] =
      some { d with root := d.root ++ [(name, .table [])], header := [name]
                    opened := [name] :: d.opened } := by
  have added : d.root.changeAt true some [name] = some (d.root ++ [(name, .table [])]) := by
    rw [Table.changeAt, Table.get?_fresh fresh, ← Table.puts.put_new fresh]
    rfl
  have first : d.opened.contains [name] = false := by simpa using unopened
  rw [Document.openTable, added, first, closed]
  rfl

private theorem read_line (bare : IsBare name) (line : e.IsLine) (added : d.add [name] e.toml = some d')
    (fuel : Nat) : Document.read (fuel + 1) d ((writeEntry name e).toList ++ rest) =
      Document.read fuel d' rest := by
  have solid : skipBlanks ((writeEntry name e).toList ++ rest) =
      (writeEntry name e).toList ++ rest := by
    obtain ⟨first, more, written, -⟩ := value_written name line
    rw [written, List.append_assoc]
    exact skipBlanks_bare bare _
  refine read_statement solid ?_ fuel
  rw [statement_line bare line, added]
  rfl

private theorem read_headline (bare : IsBare name) (opened : d.beginPart.openTable [name] = some d')
    (fuel : Nat) : Document.read (fuel + 2) d ((writeEntry name (.fields [])).toList ++ rest) =
      Document.read fuel d' rest := by
  have written : (writeEntry name (.fields [])).toList ++ rest =
      '\n' :: '[' :: (name.toList ++ ']' :: '\n' :: rest) := by
    simp [writeEntry]
  rw [written, read_blank]
  refine read_statement rfl ?_ fuel
  rw [statement_headline bare, opened]
  rfl

/-! ### Whole documents -/

/-- A written table as a reader of its document finds it. -/
abbrev found (table : List (String × Entry)) : Table := embedded Entry.toml table

theorem toList_writeTable (table : List (String × Entry)) :
    (writeTable table).toList = table.flatMap fun entry => (writeEntry entry.1 entry.2).toList := by
  rw [writeTable, String.toList_join, List.flatMap_map]

/-- Entries of one line each, under names that need no quotes. -/
def Plain (entries : List (String × Entry)) : Prop := ∀ entry ∈ entries, IsBare entry.1 ∧ entry.2.IsLine

private theorem isNested_line (line : e.IsLine) : isNested e.toml = false := by
  cases e with
  | word s => rfl
  | flag b => rfl
  | fields all => exact line.elim

/-- Lines go to the table that is open, wherever in the document it stands. -/
theorem read_lines {entries : List (String × Entry)} {whole : Table → Table}
    (place : Place d.header whole) (closed : d.closed = []) (plain : Plain entries) (fuel : Nat) :
    ∀ t : Table, (t.map Prod.fst ++ entries.map Prod.fst).Nodup →
      Document.read (entries.length + fuel) { d with root := whole t }
          ((writeTable entries).toList ++ rest) =
        Document.read fuel { d with root := whole (t ++ found entries) } rest := by
  rw [toList_writeTable]
  induction entries with
  | nil =>
    intro t distinct
    rw [found, embedded, List.map_nil, List.append_nil, List.length_nil, Nat.zero_add]
    rfl
  | cons entry entries ih =>
    intro t distinct
    obtain ⟨bare, line⟩ := plain entry (List.mem_cons_self ..)
    have fresh : entry.1 ∉ t.map Prod.fst := fun there =>
      (List.nodup_append.mp distinct).2.2 _ there _ (List.mem_cons_self ..) rfl
    have added : ({ d with root := whole t } : Document).add [entry.1] entry.2.toml =
        some { d with root := whole (t ++ [(entry.1, entry.2.toml)]) } := by
      rw [add_flat (by exact closed) (isNested_line line)]
      dsimp only
      rw [place, Table.addNew_fresh fresh]
      rfl
    have others : Plain entries := fun other member => plain other (List.mem_cons_of_mem _ member)
    rw [List.length_cons, Nat.add_right_comm, List.flatMap_cons, List.append_assoc,
      read_line bare line added, ih others _ (by simpa using distinct), List.append_assoc]
    rfl

/-- Nothing inline and nothing under a longer name has been written, and what was opened is there. -/
structure Document.Simple (d : Document) : Prop where
  closed : d.closed = []
  made : d.made = []
  opened : ∀ path ∈ d.opened, ∃ name ∈ d.root.map Prod.fst, path = [name]

theorem Document.Simple.beginPart (simple : d.Simple) : d.beginPart = d := by
  cases d
  obtain rfl := simple.made
  rfl

/-- The lines of a section. -/
def words (all : List (String × String)) : List (String × Entry) := all.map fun f => (f.1, .word f.2)

private theorem toList_section (name : String) (all : List (String × String)) :
    (writeEntry name (.fields all)).toList =
      (writeEntry name (.fields [])).toList ++ (writeTable (words all)).toList := by
  simp [writeEntry, toList_writeTable, words, List.flatMap_map]

private theorem found_words (all : List (String × String)) :
    (Entry.fields all).toml = .table (found (words all)) := by
  rw [found, embedded, words, List.map_map]
  rfl

private theorem plain_words {all : List (String × String)} (bare : ∀ f ∈ all, IsBare f.1) :
    Plain (words all) := by
  intro entry member
  obtain ⟨f, inside, rfl⟩ := List.mem_map.mp member
  exact ⟨bare f inside, trivial⟩

private theorem keys_words (all : List (String × String)) : (words all).map Prod.fst = all.map Prod.fst := by
  rw [words, List.map_map]
  rfl

/-- A section goes to the end of the document and is open from then on. -/
theorem read_section (simple : d.Simple) {all : List (String × String)} (bare : IsBare name)
    (inner : ∀ f ∈ all, IsBare f.1) (distinct : (all.map Prod.fst).Nodup)
    (fresh : name ∉ d.root.map Prod.fst) (fuel : Nat) :
    Document.read (all.length + fuel + 2) d ((writeEntry name (.fields all)).toList ++ rest) =
      Document.read fuel { d with root := d.root ++ [(name, (Entry.fields all).toml)]
                                  header := [name], opened := [name] :: d.opened } rest := by
  have unopened : [name] ∉ d.opened := by
    intro there
    obtain ⟨other, known, same⟩ := simple.opened _ there
    obtain rfl := List.singleton_inj.mp same
    exact fresh known
  have opened := openTable_fresh simple.closed fresh unopened
  have count : (words all).length = all.length := List.length_map _
  rw [toList_section, List.append_assoc,
    read_headline bare (by rw [simple.beginPart]; exact opened), ← count]
  have lines := @read_lines
    { d with root := d.root ++ [(name, .table [])], header := [name], opened := [name] :: d.opened }
    rest (words all) _ (place_last fresh) simple.closed (plain_words inner) fuel []
    (by rw [keys_words]; exact distinct)
  rw [List.nil_append, ← found_words] at lines
  exact lines

/-- Sections under different names, each of it lines under different names. -/
structure Sections (sections : List (String × List (String × String))) : Prop where
  bare : ∀ part ∈ sections, IsBare part.1
  inner : ∀ part ∈ sections, ∀ f ∈ part.2, IsBare f.1
  distinct : ∀ part ∈ sections, (part.2.map Prod.fst).Nodup

/-- The entries of sections in a table. -/
def parts (sections : List (String × List (String × String))) : List (String × Entry) :=
  sections.map fun part => (part.1, .fields part.2)

/-- The lines that sections take, with a blank one and a headline for each. -/
def lineCount (sections : List (String × List (String × String))) : Nat :=
  (sections.map fun part => part.2.length + 2).sum

private theorem read_sections {sections : List (String × List (String × String))} (tidy : Sections sections)
    (fuel : Nat) : ∀ d : Document, d.Simple →
      (d.root.map Prod.fst ++ sections.map Prod.fst).Nodup →
      Document.read (lineCount sections + fuel + 1) d (writeTable (parts sections)).toList =
        .ok (d.root ++ found (parts sections)) := by
  rw [toList_writeTable]
  induction sections with
  | nil =>
    intro d simple distinct
    rw [parts, List.map_nil, found, embedded, List.map_nil, List.append_nil]
    rfl
  | cons part sections ih =>
    intro d simple distinct
    have fresh : part.1 ∉ d.root.map Prod.fst := fun there =>
      (List.nodup_append.mp distinct).2.2 _ there _ (List.mem_cons_self ..) rfl
    have inside : part ∈ part :: sections := List.mem_cons_self ..
    have later : Sections sections :=
      ⟨fun other member => tidy.bare other (List.mem_cons_of_mem _ member),
        fun other member => tidy.inner other (List.mem_cons_of_mem _ member),
        fun other member => tidy.distinct other (List.mem_cons_of_mem _ member)⟩
    have count : lineCount (part :: sections) + fuel + 1 =
        part.2.length + (lineCount sections + fuel + 1) + 2 := by
      rw [lineCount, List.map_cons, List.sum_cons, ← lineCount]
      omega
    have still : Document.Simple
        { d with root := d.root ++ [(part.1, (Entry.fields part.2).toml)]
                 header := [part.1], opened := [part.1] :: d.opened } := by
      refine ⟨simple.closed, simple.made, ?_⟩
      intro path opened
      rcases List.mem_cons.mp opened with rfl | opened
      · exact ⟨part.1, by simp, rfl⟩
      · obtain ⟨name, known, same⟩ := simple.opened path opened
        exact ⟨name, by simp [List.mem_map.mp known], same⟩
    rw [parts, List.map_cons, ← parts, List.flatMap_cons, count,
      read_section simple (tidy.bare _ inside) (tidy.inner _ inside) (tidy.distinct _ inside) fresh,
      ih later _ still (by simpa using distinct), List.append_assoc]
    rfl

/-! ### From the text to the table -/

private theorem return_line (bare : IsBare name) (line : e.IsLine) :
    '\r' ∉ (writeEntry name e).toList := by
  have names : '\r' ∉ name.toList := fun there => absurd (bare.bare _ there) (by decide)
  cases e with
  | word s => simp [writeEntry, pairLine, names, return_writeText]
  | flag b => cases b <;> simp [writeEntry, pairLine, names]
  | fields all => exact line.elim

private theorem return_lines {entries : List (String × Entry)} (plain : Plain entries) :
    '\r' ∉ (writeTable entries).toList := by
  rw [toList_writeTable, List.mem_flatMap]
  rintro ⟨entry, member, there⟩
  obtain ⟨bare, line⟩ := plain entry member
  exact return_line bare line there

private theorem return_sections {sections : List (String × List (String × String))}
    (tidy : Sections sections) : '\r' ∉ (writeTable (parts sections)).toList := by
  rw [toList_writeTable, List.mem_flatMap]
  rintro ⟨entry, member, there⟩
  obtain ⟨part, inside, rfl⟩ := List.mem_map.mp member
  have names : '\r' ∉ part.1.toList := fun there =>
    absurd ((tidy.bare part inside).bare _ there) (by decide)
  rw [toList_section, List.mem_append] at there
  rcases there with headline | lines
  · simp [writeEntry, names] at headline
  · exact return_lines (plain_words (tidy.inner part inside)) lines

private theorem length_lines (entries : List (String × Entry)) :
    entries.length ≤ (writeTable entries).toList.length := by
  rw [toList_writeTable]
  induction entries with
  | nil => exact Nat.le_refl _
  | cons entry entries ih =>
    have some : 1 ≤ (writeEntry entry.1 entry.2).toList.length := by
      cases entry.2 <;> simp [writeEntry, pairLine] <;> omega
    rw [List.flatMap_cons, List.length_append, List.length_cons]
    omega

private theorem length_sections (sections : List (String × List (String × String))) :
    lineCount sections ≤ (writeTable (parts sections)).toList.length := by
  rw [toList_writeTable]
  induction sections with
  | nil => exact Nat.zero_le _
  | cons part sections ih =>
    have lines := length_lines (words part.2)
    have headline : 2 ≤ (writeEntry part.1 (.fields [])).toList.length := by
      simp [writeEntry]
    have count : (words part.2).length = part.2.length := List.length_map _
    rw [lineCount, List.map_cons, List.sum_cons, ← lineCount, parts, List.map_cons, ← parts,
      List.flatMap_cons, List.length_append, toList_section, List.length_append]
    dsimp only
    omega

private theorem writeTable_append (table more : List (String × Entry)) :
    (writeTable (table ++ more)).toList = (writeTable table).toList ++ (writeTable more).toList := by
  rw [toList_writeTable, toList_writeTable, toList_writeTable, List.flatMap_append]

/-- A document of lines and sections after them is read back as the table that was written. -/
theorem read_writeTable {entries : List (String × Entry)}
    {sections : List (String × List (String × String))} (plain : Plain entries)
    (tidy : Sections sections) (distinct : (entries.map Prod.fst ++ sections.map Prod.fst).Nodup) :
    read (writeTable (entries ++ parts sections)) = .ok (found (entries ++ parts sections)) := by
  have bare : '\r' ∉ (writeTable (entries ++ parts sections)).toList := by
    rw [writeTable_append, List.mem_append]
    rintro (lines | later)
    · exact return_lines plain lines
    · exact return_sections tidy later
  have enough : ∃ fuel, (writeTable (entries ++ parts sections)).toList.length + 1 =
      entries.length + (lineCount sections + fuel + 1) := by
    have lines := length_lines entries
    have later := length_sections sections
    rw [writeTable_append, List.length_append]
    exact ⟨(writeTable entries).toList.length + (writeTable (parts sections)).toList.length -
      entries.length - lineCount sections, by omega⟩
  obtain ⟨fuel, enough⟩ := enough
  have simple : Document.Simple { root := found entries } := ⟨rfl, rfl, nofun⟩
  have known : ((found entries).map Prod.fst ++ sections.map Prod.fst).Nodup := by
    rw [keys_embedded]
    exact distinct
  have lines := @read_lines {} (writeTable (parts sections)).toList entries id place_root rfl plain
    (lineCount sections + fuel + 1) [] (List.nodup_append.mp distinct).1
  have later := read_sections tidy fuel _ simple known
  rw [read, unixBreaks_bare bare, enough, writeTable_append]
  refine (lines.trans later).trans (congrArg Except.ok ?_)
  simp only [found, embedded, List.map_append]

end Toml

end MemoAssist

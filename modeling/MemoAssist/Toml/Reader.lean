import MemoAssist.Toml.Scalar

namespace MemoAssist.Toml

abbrev Path := List String

/-- The text after a comment, if there is one. A comment ends before the line break. -/
def skipComment? (s : List Char) : Option (List Char) :=
  match s with
  | '#' :: rest =>
    if (rest.takeWhile (· ≠ '\n')).all fitsLine then some (rest.dropWhile (· ≠ '\n')) else none
  | s => some s

/-- The text after blanks, line breaks and comments. -/
def skipLoose? : (fuel : Nat) → List Char → Option (List Char)
  | 0, _ => none
  | fuel + 1, s =>
    match s.dropWhile isBlankOrBreak with
    | '#' :: rest => (skipComment? ('#' :: rest)).bind (skipLoose? fuel)
    | s => some s

namespace Table

def get? (name : String) (t : Table) : Option Value :=
  (List.find? (fun entry => entry.1 = name) t).map Prod.snd

/-- A name that is there keeps its place. -/
def put (name : String) (v : Value) : Table → Table
  | [] => [(name, v)]
  | (other, old) :: rest =>
    if other = name then (name, v) :: rest else (other, old) :: put name v rest

/-- Change the table at a path, opening tables that are missing. An array on the way stands for its
last table, where arrays may be entered at all. -/
def changeAt (intoArrays : Bool) (change : Table → Option Table) : Path → Table → Option Table
  | [], t => change t
  | name :: path, t =>
    match t.get? name with
    | none => (changeAt intoArrays change path []).map fun inner => t.put name (.table inner)
    | some (.table inner) =>
      (changeAt intoArrays change path inner).map fun inner => t.put name (.table inner)
    | some (.arr items) =>
      match intoArrays, items.getLast? with
      | true, some (.table inner) =>
        (changeAt intoArrays change path inner).map fun inner =>
          t.put name (.arr (items.dropLast ++ [.table inner]))
      | _, _ => none
    | some _ => none

/-- Add a value under a name that is new. -/
def addNew (name : String) (v : Value) (t : Table) : Option Table :=
  if (t.get? name).isSome then none else some (t.put name v)

/-- Add an empty table to the array under a name. -/
def extend (name : String) (t : Table) : Option Table :=
  match t.get? name with
  | none => some (t.put name (.arr [.table []]))
  | some (.arr items) => some (t.put name (.arr (items ++ [.table []])))
  | some _ => none

end Table

def isNested : Value → Bool
  | .table _ | .arr _ => true
  | _ => false

/-- Is a path under one that is closed, or closed itself? -/
def isUnder (closed : List Path) (path : Path) : Bool := closed.any fun c => c.isPrefixOf path

/-- Add a pair to an inline table, in which nested values close as soon as they are written. -/
def addInline (closed : List Path) (path : Path) (v : Value) (t : Table) : Option Table :=
  match path.getLast? with
  | none => none
  | some name =>
    if isUnder closed path then none
    else t.changeAt false (Table.addNew name v) path.dropLast

mutual

/-- One value. The program calls itself for a value inside another, and values nested deeper than calls
can be are left out here. -/
def value : (fuel : Nat) → Parse Value
  | 0, _ => .error .malformed
  | fuel + 1, s =>
    match s with
    | '"' :: _ | '\'' :: _ => orMalformed ((string? s).map fun (t, rest) => (.text t, rest))
    | 't' :: 'r' :: 'u' :: 'e' :: rest => .ok (.flag true, rest)
    | 'f' :: 'a' :: 'l' :: 's' :: 'e' :: rest => .ok (.flag false, rest)
    | '[' :: rest => do
      let (read, rest) ← items fuel (← orMalformed (skipLoose? (rest.length + 1) rest))
      return (.arr read, rest)
    | '{' :: rest =>
      match skipBlanks rest with
      | '}' :: rest => .ok (.table [], rest)
      | rest => do
        let (t, rest) ← pairs fuel [] [] rest
        return (.table t, rest)
    | s =>
      match datedMoment? s with
      | some dated => orMalformed (dated.map fun (m, rest) => (.moment m, rest))
      | none =>
        match time? s with
        | some (t, rest) => .ok (.moment (.time t), rest)
        | none => do
          let (n, rest) ← number s
          return (.number n, rest)

/-- The items of an array up to its closing bracket. A comma may follow the last. -/
def items : (fuel : Nat) → Parse (List Value)
  | 0, _ => .error .malformed
  | fuel + 1, s =>
    match s with
    | ']' :: rest => .ok ([], rest)
    | s => do
      let (item, rest) ← value fuel s
      match ← orMalformed (skipLoose? (rest.length + 1) rest) with
      | ']' :: rest => return ([item], rest)
      | ',' :: rest =>
        let (more, rest) ← items fuel (← orMalformed (skipLoose? (rest.length + 1) rest))
        return (item :: more, rest)
      | _ => throw .malformed

def pair : (fuel : Nat) → Parse (Path × Value)
  | 0, _ => .error .malformed
  | fuel + 1, s => do
    let (path, rest) ← orMalformed (key? (s.length + 1) s)
    match rest with
    | '=' :: rest =>
      let (v, rest) ← value fuel (skipBlanks rest)
      return ((path, v), rest)
    | _ => throw .malformed

/-- The pairs of an inline table up to its closing brace, added to those read before. -/
def pairs : (fuel : Nat) → (closed : List Path) → Table → Parse Table
  | 0, _, _, _ => .error .malformed
  | fuel + 1, closed, t, s => do
    let ((path, v), rest) ← pair fuel s
    let t ← orMalformed (addInline closed path v t)
    match skipBlanks rest with
    | '}' :: rest => return (t, rest)
    | ',' :: rest =>
      pairs fuel (if isNested v then path :: closed else closed) t (skipBlanks rest)
    | _ => throw .malformed

end

/-- A document while it is read. -/
structure Document where
  root : Table := []
  /-- The table that the pairs go to. -/
  header : Path := []
  /-- Tables that may not be opened again. -/
  opened : List Path := []
  /-- Tables that the keys of this part have made. They may not be opened in a later part. -/
  made : List Path := []
  /-- What was written inline. -/
  closed : List Path := []

namespace Document

/-- The tables on the way to the last part of a key. -/
def steps (header : Path) (key : Path) : List Path :=
  (List.range (key.length - 1)).map fun i => header ++ key.take (i + 1)

def add (key : Path) (v : Value) (d : Document) : Option Document :=
  let path := d.header ++ key
  let steps := steps d.header key
  match key.getLast? with
  | none => none
  | some name =>
    if steps.any d.opened.contains || isUnder d.closed path.dropLast then none
    else
      (d.root.changeAt true (Table.addNew name v) path.dropLast).map fun root =>
        { d with
          root
          made := steps ++ d.made
          closed := if isNested v then path :: d.closed else d.closed }

def beginPart (d : Document) : Document := { d with opened := d.made ++ d.opened, made := [] }

def openTable (key : Path) (d : Document) : Option Document :=
  if d.opened.contains key || isUnder d.closed key then none
  else
    (d.root.changeAt true some key).map fun root =>
      { d with root, header := key, opened := key :: d.opened }

/-- A new table at the end of an array; what was opened below the one before may be opened again. -/
def openItem (key : Path) (d : Document) : Option Document :=
  match key.getLast? with
  | none => none
  | some name =>
    if isUnder d.closed key then none
    else
      (d.root.changeAt true (Table.extend name) key.dropLast).map fun root =>
        { d with
          root
          header := key
          opened := key :: d.opened.filter fun path => !key.isPrefixOf path
          closed := d.closed.filter fun path => !key.isPrefixOf path }

/-- One statement, after the blanks in front of it. -/
def statement (d : Document) : Parse Document := fun s =>
  match s with
  | '[' :: '[' :: rest => orMalformed do
    let rest := skipBlanks rest
    let (key, rest) ← key? (rest.length + 1) rest
    let rest ← after? [']', ']'] rest
    return (← d.beginPart.openItem key, rest)
  | '[' :: rest => orMalformed do
    let rest := skipBlanks rest
    let (key, rest) ← key? (rest.length + 1) rest
    let rest ← past ']' rest
    return (← d.beginPart.openTable key, rest)
  | '#' :: _ | '\n' :: _ | [] => .ok (d, s)
  | s => do
    let ((key, v), rest) ← pair (s.length + 1) s
    return (← orMalformed (d.add key v), rest)

/-- All statements, one to a line. -/
def read : (fuel : Nat) → Document → List Char → Except Flaw Table
  | 0, _, _ => .error .malformed
  | fuel + 1, d, s => do
    let (d, rest) ← d.statement (skipBlanks s)
    match ← orMalformed (skipComment? (skipBlanks rest)) with
    | [] => return d.root
    | '\n' :: rest => read fuel d rest
    | _ => throw .malformed

end Document

/-- A carriage return before a line feed does not count. -/
def unixBreaks : List Char → List Char
  | [] => []
  | '\r' :: '\n' :: rest => '\n' :: unixBreaks rest
  | c :: rest => c :: unixBreaks rest

/-- The table a document denotes, or what is wrong at the first place where anything is. -/
def read (text : String) : Except Flaw Table :=
  let s := unixBreaks text.toList
  Document.read (s.length + 1) {} s

end MemoAssist.Toml

namespace MemoAssist.Cli

/-- How an option is written. -/
structure OptionForm where
  long : String
  short : Option Char := none
  /-- Does a value go with it? -/
  takesValue : Bool := true

/-- What is wrong with a command line. -/
inductive Misuse where
  | unknownOption (name : String)
  | valueMissing (name : String)
  | valueUnwanted (name : String)
  | wordMissing (name : String)
  | wordUnwanted (word : String)
  | commandMissing
  | unknownCommand (word : String)
  | badValue (name value : String)
deriving DecidableEq, Repr

namespace Misuse

def message : Misuse → String
  | .unknownOption name => "No such option: " ++ name
  | .valueMissing name => "Option " ++ name ++ " needs a value."
  | .valueUnwanted name => "Option " ++ name ++ " takes no value."
  | .wordMissing name => "Missing argument " ++ name ++ "."
  | .wordUnwanted word => "Unexpected argument: " ++ word
  | .commandMissing => "Missing command."
  | .unknownCommand word => "No such command: " ++ word
  | .badValue name value => "Bad value for " ++ name ++ ": " ++ value

end Misuse

/-- Options under their long names in the order in which they came, and the other words. The value
of an option that takes none is empty. -/
structure Words where
  options : List (String × String) := []
  rest : List String := []
deriving DecidableEq, Repr

/-- What one word says: the options in it, and the last one of them if its value is yet to come. -/
structure Spoken where
  options : List (String × String) := []
  open? : Option String := none

/-- The text up to the first equals sign, and the text behind it if there is one. -/
def cutAtEquals : List Char → List Char × Option (List Char)
  | [] => ([], none)
  | c :: s =>
    if c = '=' then ([], some s)
    else
      let (name, value) := cutAtEquals s
      (c :: name, value)

def readLong (forms : List OptionForm) (word : String) : Except Misuse Spoken :=
  let (name, value) := cutAtEquals word.toList
  let name := String.ofList name
  match forms.find? fun form => form.long = name, value with
  | none, _ => .error (.unknownOption name)
  | some form, some value =>
    if form.takesValue then .ok { options := [(name, String.ofList value)] }
    else .error (.valueUnwanted name)
  | some form, none =>
    if form.takesValue then .ok { open? := some name } else .ok { options := [(name, "")] }

/-- Letters behind one dash are options each; what follows one that takes a value is the value. -/
def readShort (forms : List OptionForm) : List Char → Except Misuse Spoken
  | [] => .ok {}
  | c :: rest =>
    match forms.find? fun form => form.short = some c with
    | none => .error (.unknownOption (String.ofList ['-', c]))
    | some form =>
      if form.takesValue then
        if rest.isEmpty then .ok { open? := some form.long }
        else .ok { options := [(form.long, String.ofList rest)] }
      else (readShort forms rest).map fun s => { s with options := (form.long, "") :: s.options }

/-- A dash alone is no option. -/
def isOption (word : String) : Bool :=
  match word.toList with
  | '-' :: _ :: _ => true
  | _ => false

def readOption (forms : List OptionForm) (word : String) : Except Misuse Spoken :=
  match word.toList with
  | '-' :: '-' :: _ => readLong forms word
  | _ :: letters => readShort forms letters
  | [] => .ok {}

/-- Two dashes end the options. Where options may not be mixed with other words, the first other
word ends them too. The value of an option may look like an option. -/
def readWords (forms : List OptionForm) (mixed : Bool) : List String → Except Misuse Words
  | [] => .ok {}
  | word :: rest =>
    if word = "--" then .ok { rest }
    else if isOption word then
      match readOption forms word with
      | .error e => .error e
      | .ok spoken =>
        match spoken.open?, rest with
        | none, rest => do
          let more ← readWords forms mixed rest
          return { more with options := spoken.options ++ more.options }
        | some name, [] => .error (.valueMissing name)
        | some name, value :: rest => do
          let more ← readWords forms mixed rest
          return { more with options := spoken.options ++ (name, value) :: more.options }
    else if mixed then do
      let more ← readWords forms mixed rest
      return { more with rest := word :: more.rest }
    else .ok { rest := word :: rest }

namespace Words

def has (w : Words) (name : String) : Bool := w.options.any fun o => o.1 = name

/-- All values of an option. -/
def values (w : Words) (name : String) : List String :=
  (w.options.filter fun o => o.1 = name).map Prod.snd

/-- Of several values the last one counts. -/
def value? (w : Words) (name : String) : Option String := (w.values name).getLast?

def value (w : Words) (name usual : String) : String := (w.value? name).getD usual

/-- Refuses any other word. -/
def requireNone (w : Words) : Except Misuse Unit :=
  match w.rest with
  | [] => .ok ()
  | word :: _ => .error (.wordUnwanted word)

/-- The only other word. -/
def only (w : Words) (name : String) : Except Misuse String :=
  match w.rest with
  | [] => .error (.wordMissing name)
  | [word] => .ok word
  | _ :: word :: _ => .error (.wordUnwanted word)

end Words

end MemoAssist.Cli

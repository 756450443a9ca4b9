import MemoAssist.Json.Reader

/-! Reading JSON on a stack that comes to an end. A bracket that would open one level more than there
is room for is a failure of its own, if nothing is wrong with the text in front of it. -/
namespace MemoAssist.Json

/-- How many arrays and objects may be open at once. The interpreter stops at a thousand calls, and
each of them is one; the others are those through which a reply comes to be read. There are about
ten, more or less with what the library is called from. -/
def deepest : Nat := 990

mutual

/-- Does the value that starts here open more than `room` levels, before a fault is met in it? -/
def valueOverruns : (room fuel : Nat) → List Char → Bool
  | _, 0, _ => false
  | room, fuel + 1, s =>
    match s, room with
    | '[' :: _, 0 | '\x7b' :: _, 0 => true
    | '[' :: rest, room + 1 =>
      match skipSpace rest with
      | ']' :: _ => false
      | rest => itemsOverrun room fuel rest
    | '\x7b' :: rest, room + 1 =>
      match skipSpace rest with
      | '\x7d' :: _ => false
      | rest => fieldsOverrun room fuel rest
    | _, _ => false

def itemsOverrun : (room fuel : Nat) → List Char → Bool
  | _, 0, _ => false
  | room, fuel + 1, s =>
    valueOverruns room fuel s ||
      match value? fuel s with
      | some (_, rest) =>
        match skipSpace rest with
        | ',' :: rest => itemsOverrun room fuel (skipSpace rest)
        | _ => false
      | none => false

def fieldsOverrun : (room fuel : Nat) → List Char → Bool
  | _, 0, _ => false
  | room, fuel + 1, s =>
    match s with
    | '"' :: rest =>
      match stringTail (rest.length + 1) rest with
      | some (_, rest) =>
        match skipSpace rest with
        | ':' :: rest =>
          valueOverruns room fuel (skipSpace rest) ||
            match value? fuel (skipSpace rest) with
            | some (_, rest) =>
              match skipSpace rest with
              | ',' :: rest => fieldsOverrun room fuel (skipSpace rest)
              | _ => false
            | none => false
        | _ => false
      | none => false
    | _ => false

end

/-- Does a text open more levels than there may be? -/
def isTooDeep (s : List Char) : Bool := valueOverruns deepest (callsFor s) (skipSpace s)

/-- The value that is read of a text, unless it is too deep. -/
def decoded? (s : List Char) : Option Json := if isTooDeep s then none else read? s

/-- The same for a document that is given as bytes. -/
def areTooDeep (bytes : Text.Bytes) : Bool := (Text.decodeDocument? bytes).any isTooDeep

/-- The value of a document given as bytes. -/
def readBytes? (bytes : Text.Bytes) : Option Json := (Text.decodeDocument? bytes).bind decoded?

end MemoAssist.Json

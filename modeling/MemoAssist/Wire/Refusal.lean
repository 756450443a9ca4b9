import MemoAssist.Json.Decoding
import MemoAssist.Json.Display
import MemoAssist.Json.Loose
import MemoAssist.Text.Lines

namespace MemoAssist.Refusal

/-- The first value under `message` that counts, in the error or beside it. -/
def told? (fields : List (String × Json)) : Option String :=
  let inError : Json := match Json.find? "error" fields with
    | some (.obj inner) => (Json.find? "message" inner).getD .null
    | some (.str s) => .str s
    | _ => .null
  let said := if inError.isSet then inError else (Json.find? "message" fields).getD .null
  if said.isSet then some said.text else none

/-- The message of an error body, and the whole body where it holds none. -/
def message (body : Text.Bytes) : String :=
  let whole := Text.decodeReplacing body
  match Json.decoded? whole with
  | some (.obj fields) => (told? fields).getD (String.ofList whole)
  | _ => String.ofList whole

/-- The phrases by which backends say that the input is too long. -/
def lengthMarks : List String :=
  ["context length", "context_length", "maximum context", "prompt is too long", "too many tokens"]

/-- The failure that a refusal is, if its body can be read or is not looked at. -/
def fault (status : Int) (body : Text.Bytes) : Fault :=
  if status = 401 then .of .invalidKey
  else if status = 429 then .of .rateLimited
  else if status = 502 ∨ status = 503 ∨ status = 504 then .of .unavailable
  else
    let said := message body
    let lower := Text.lowerForSearch said.toList
    if status = 404 ∧ Text.holds "model".toList lower then ⟨.modelNotFound, said⟩
    else if (status = 400 ∨ status = 413) ∧ lengthMarks.any fun m => Text.holds m.toList lower then
      ⟨.contextTooLong, said⟩
    else ⟨.refused status, said⟩

/-- The statuses that say all there is to say. -/
def tellsAll (status : Int) : Bool := [401, 429, 502, 503, 504].contains status

/-- The body has to be looked at and is too deep to be read. -/
def isTooDeep (status : Int) (body : Text.Bytes) : Bool :=
  !tellsAll status && Json.isTooDeep (Text.decodeReplacing body)

/-- What is made of a refusal. Only a body that cannot be read as JSON is taken as it stands; that
it is too deep is a failure which nobody expects. -/
def read (status : Int) (body : Text.Bytes) : Except Fault Fault :=
  if isTooDeep status body then .error (.of .tooDeep) else .ok (fault status body)

/-- Trying again is of no use: the request itself was refused, and not for its frequency. -/
def isFinal (status : Int) : Bool := status < 500 && status ≠ 429

end MemoAssist.Refusal

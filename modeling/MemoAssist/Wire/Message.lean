import MemoAssist.Fault
import MemoAssist.Json.Writer
import MemoAssist.Text.Encoding

namespace MemoAssist

abbrev Headers := List (String × String)

namespace Headers

/-- A header that is there keeps its place and takes the new value. -/
def set (name value : String) : Headers → Headers
  | [] => [(name, value)]
  | (other, old) :: rest =>
    if other = name then (name, value) :: rest else (other, old) :: set name value rest

def setAll (headers more : Headers) : Headers :=
  more.foldl (fun all h => set h.1 h.2 all) headers

end Headers

/-- What a request carries: a JSON value, or something that JSON cannot write. -/
inductive Payload where
  | value (v : Json)
  | unwritable

/-- A request as a provider asks for it. -/
structure Ask where
  method : String
  url : String
  payload : Option Payload := none
  headers : Headers := []

/-- One attempt as it goes to the client. -/
structure Sent (τ : Type) where
  method : String
  url : String
  headers : Headers
  body : Option String
  timeout : τ

/-- What an attempt comes to. -/
inductive Outcome where
  | answer (status : Int) (body : Text.Bytes)
  | timedOut (reason : String)
  /-- The exchange broke off for a reason other than time. -/
  | broken (reason : String)
  /-- The client failed in a way that is not the transport's to handle. -/
  | failed (fault : Fault)

/-- An outcome and the time that passes before it is known. -/
structure Reply (τ : Type) where
  outcome : Outcome
  delay : Option τ := none

/-- The replies of a client, by the number of requests made before. -/
abbrev Client (τ : Type) := Nat → Reply τ

/-- The replies come in order and the last is repeated; without any, nobody answers. -/
def Client.ofReplies {τ : Type} (replies : List (Reply τ)) : Client τ := fun made =>
  match replies[made]?, replies.getLast? with
  | some reply, _ => reply
  | none, some last => last
  | none, none => { outcome := .broken "no scripted response" }

end MemoAssist

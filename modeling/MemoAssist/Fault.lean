import MemoAssist.Text.Numeral

/-! What can go wrong, by kind, and what a person is told about it. Kinds form three trees: failures
of language-model work, failures of the key vault, and refused values; the rest stand alone. -/
namespace MemoAssist

inductive FaultKind where
  /-- Any failure of language-model work, and the root of their tree. -/
  | modelWork
  | notConfigured
  | notRegistered
  | invalidKey
  | rateLimited
  /-- The local quota of a user is used up; no request was sent. -/
  | quotaExceeded
  | unavailable
  | contextTooLong
  | modelNotFound
  /-- Any other refusal by a backend, with its status. -/
  | refused (status : Int)
  /-- The backend accepted the request and sent a body that cannot be read. -/
  | unreadableReply
  | unsupported
  | disabled
  | queueFull
  | cancelled
  | deadlineExceeded
  /-- Any failure of the key vault, and the root of their tree. -/
  | vault
  | masterTooShort
  | badCiphertext
  | keyNotFound
  | keyExists
  /-- A value that the library refuses with words of its own. -/
  | badValue
  | badKeyFormat
  /-- A word that names no provider, role or other fixed choice. -/
  | unknownName
  /-- A value without fields or methods was asked for one. -/
  | noSuchField
  /-- An operation on values of the wrong type. -/
  | illTyped
  | missingKey
  | outOfRange
  | notText
  /-- A text that holds half a surrogate pair has no bytes. -/
  | unencodable
  /-- A whole number has more digits than are read. -/
  | longNumber
  /-- A text of JSON opens more levels than there are calls for. -/
  | tooDeep
  /-- A path starts with a home directory that nobody knows. -/
  | noHome
  /-- A folder stands where a file has to be. -/
  | folder
  /-- A file stands where a folder has to be. -/
  | notFolder
  /-- A path, or a name in it, is too long. -/
  | badPath
  | badContentCoding
  | tooManyRedirects
  | badAddress
  /-- Raised by a partner of the library, under a name of its own. -/
  | foreign (name : String)
deriving DecidableEq, Repr

namespace FaultKind

/-- The kind that a kind is a special case of. -/
def broader? : FaultKind → Option FaultKind
  | .quotaExceeded => some .rateLimited
  | .deadlineExceeded => some .cancelled
  | .notConfigured | .notRegistered | .invalidKey | .rateLimited | .unavailable | .contextTooLong
  | .modelNotFound | .refused _ | .unreadableReply | .unsupported | .disabled | .queueFull
  | .cancelled => some .modelWork
  | .masterTooShort | .badCiphertext | .keyNotFound | .keyExists => some .vault
  | .badKeyFormat | .unknownName | .notText | .unencodable | .longNumber => some .badValue
  | _ => none

/-- The kind and all broader ones, the nearest first. No kind has more than two above it. -/
def lineage (kind : FaultKind) : List FaultKind :=
  match kind.broader? with
  | none => [kind]
  | some above =>
    match above.broader? with
    | none => [kind, above]
    | some top => [kind, above, top]

def isA (kind above : FaultKind) : Bool := kind.lineage.contains above

/-- What is said where nothing more particular is. -/
def usualNote : FaultKind → String
  | .notConfigured => "llm provider not configured"
  | .invalidKey => "invalid or missing API key"
  | .rateLimited => "rate limit exceeded"
  | .quotaExceeded => "rate limit exceeded for tag suggestions"
  | .unavailable => "provider service unavailable"
  | .contextTooLong => "input exceeds maximum context length"
  | .modelNotFound => "model not found"
  | .queueFull => "job queue is full"
  | .cancelled => "context cancelled"
  | .deadlineExceeded => "context deadline exceeded"
  | .masterTooShort => "encryption key too short"
  | .badCiphertext => "invalid ciphertext"
  | .keyNotFound => "API key not found"
  | .keyExists => "API key already exists for this provider"
  | _ => ""

end FaultKind

/-- A failure: its kind, and what was noted about this one. -/
structure Fault where
  kind : FaultKind
  note : String
deriving DecidableEq, Repr

namespace Fault

def of (kind : FaultKind) : Fault := ⟨kind, kind.usualNote⟩

/-- The text shown for a failure. -/
def message (f : Fault) : String :=
  match f.kind with
  | .notRegistered => "provider " ++ f.note ++ " not registered"
  | .refused status => "API error (status " ++ toString status ++ "): " ++ f.note
  | _ => f.note

def isA (f : Fault) (kind : FaultKind) : Bool := f.kind.isA kind

/-- Stands in a message for the words of an outside reader of JSON, TOML, base64 or UTF-8. -/
def unspoken : String := "<detail>"

/-- The words about a whole number that is longer than the limit. -/
def longNumberNote (found : String) : String :=
  "Exceeds the limit (" ++ toString Text.digitLimit ++ " digits) for integer string conversion"
    ++ found ++ "; use sys.set_int_max_str_digits() to increase the limit"

def tooLongToRead (digits : Nat) : Fault :=
  ⟨.longNumber, longNumberNote (": value has " ++ toString digits ++ " digits")⟩

def tooLongToWrite : Fault := ⟨.badValue, longNumberNote ""⟩

end Fault

/-- How a failure matters to the person at the editor. -/
inductive Concern where
  | notConfigured
  | disabled
  | rateLimited
  | busy
  | invalidKey
  | unavailable
  | error
deriving DecidableEq, Repr

namespace Concern

def word : Concern → String
  | .notConfigured => "not_configured"
  | .disabled => "disabled"
  | .rateLimited => "rate_limited"
  | .busy => "busy"
  | .invalidKey => "invalid_key"
  | .unavailable => "unavailable"
  | .error => "error"

def guidance : Concern → String
  | .notConfigured => "AI features require an LLM provider to be configured in settings."
  | .disabled => "AI tag suggestions are disabled in settings."
  | .rateLimited => "Rate limit exceeded. Please try again later."
  | .busy => "The server is handling too many AI requests. Please try again shortly."
  | .invalidKey =>
    "The configured API key was rejected by the provider. Check it in settings."
  | .unavailable => "The LLM provider is currently unavailable. Please try again later."
  | .error => "The AI request failed."

/-- The first concern that one of the failure's kinds belongs to. -/
def of (f : Fault) : Concern :=
  if f.isA .notConfigured then .notConfigured
  else if f.isA .disabled then .disabled
  else if f.isA .rateLimited then .rateLimited
  else if f.isA .queueFull then .busy
  else if f.isA .invalidKey then .invalidKey
  else if f.isA .unavailable || f.isA .deadlineExceeded then .unavailable
  else .error

end Concern

end MemoAssist

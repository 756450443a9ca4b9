import MemoAssist.Clock.Instant
import MemoAssist.Text.Quoted

namespace MemoAssist

namespace FaultKind

/-- The name of a kind that belongs to the library. -/
def ownName? : FaultKind → Option String
  | .modelWork => some "LLMError"
  | .notConfigured => some "ProviderNotConfiguredError"
  | .notRegistered => some "ProviderNotRegisteredError"
  | .invalidKey => some "InvalidAPIKeyError"
  | .rateLimited => some "RateLimitedError"
  | .quotaExceeded => some "RateLimitExceededError"
  | .unavailable => some "ProviderUnavailableError"
  | .contextTooLong => some "ContextTooLongError"
  | .modelNotFound => some "ModelNotFoundError"
  | .refused _ => some "APIError"
  | .unreadableReply => some "ResponseParseError"
  | .unsupported => some "CapabilityNotSupportedError"
  | .disabled => some "FeatureDisabledError"
  | .queueFull => some "JobQueueFullError"
  | .cancelled => some "CancelledError"
  | .deadlineExceeded => some "DeadlineExceededError"
  | .vault => some "VaultError"
  | .masterTooShort => some "KeyTooShortError"
  | .badCiphertext => some "InvalidCiphertextError"
  | .keyNotFound => some "KeyNotFoundError"
  | .keyExists => some "KeyAlreadyExistsError"
  | .badKeyFormat => some "InvalidAPIKeyFormatError"
  | _ => none

/-- The name of a kind that is not special to the library. -/
def commonName : FaultKind → String
  | .badValue | .unknownName | .longNumber => "ValueError"
  | .noSuchField => "AttributeError"
  | .illTyped => "TypeError"
  | .missingKey => "KeyError"
  | .outOfRange => "OverflowError"
  | .notText => "UnicodeDecodeError"
  | .unencodable => "UnicodeEncodeError"
  | .tooDeep => "RecursionError"
  | .noHome => "RuntimeError"
  | .folder => "IsADirectoryError"
  | .notFolder => "NotADirectoryError"
  | .badPath => "OSError"
  | .badContentCoding => "DecodingError"
  | .tooManyRedirects => "TooManyRedirects"
  | .badAddress => "InvalidURL"
  | .foreign name => name
  | _ => ""

def name (kind : FaultKind) : String := kind.ownName?.getD kind.commonName

/-- The name with the part of the library that it belongs to. -/
def fullName (kind : FaultKind) : String :=
  match kind.ownName? with
  | some name => "memoai.errors." ++ name
  | none => kind.commonName

end FaultKind

namespace ErrorLog

/-- Only the owner may read and write the log. -/
def mode : String := "0o600"

def rule : String := String.ofList (List.replicate 60 '=')

/-- What is missing is left out together with what would set it off. -/
def after (separator s : String) : String := if s = "" then "" else separator ++ s

def entry (moment : Instant) (doing : String) (fault : Fault) : String :=
  "\n" ++ rule ++ "\n[" ++ moment.text ++ "]" ++ after " " doing ++ "\n"
    ++ fault.kind.fullName ++ after ": " fault.message ++ "\n"

end ErrorLog

end MemoAssist

import MemoAssist.Octets
import MemoAssist.Cipher.Sha256
import MemoAssist.Clock.Scale
import MemoAssist.Fault

namespace MemoAssist

structure TaggingConfig (τ : Type) where
  /-- The number of tags that is asked for. -/
  maxTags : Int := 5
  /-- How long a result stays valid. -/
  cacheSpan : τ
  cacheCapacity : Int := 1000
  /-- Requests of one user in one window. -/
  quotaLimit : Int := 60
  quotaWindow : τ
  /-- Are jobs taken at all? -/
  jobsEnabled : Bool := true
  /-- Jobs that may wait; without a positive limit any number may. -/
  queueLimit : Int := 100
  enabled : Bool := true

namespace TaggingConfig

variable {τ : Type} [TimeScale τ]

/-- A quarter of an hour for results, and a minute for the quota. -/
def usual : TaggingConfig τ :=
  { cacheSpan := TimeScale.ofInt 900, quotaWindow := TimeScale.ofInt 60 }

def takesJobs (c : TaggingConfig τ) : Bool := c.jobsEnabled && c.enabled

end TaggingConfig

namespace Tagging

/-- The longest time that one request of the tagger may take, in seconds. -/
def requestTimeout : Int := 30

/-- A part with its length in front, so that parts cannot run together. -/
def framed (part : String) : Text.Bytes :=
  let bytes := Text.encode part
  Octets.ofNat 8 bytes.length ++ bytes

def cacheText (content : String) (existing : List String) : Text.Bytes :=
  (content :: existing).flatMap framed

/-- The mark of a content together with the tags that exist, in their order. -/
def cacheKey (content : String) (existing : List String) : String :=
  String.ofList ((Sha256.hexDigest (cacheText content existing)).take 32)

/-- The numbers of eight bytes with a sign. -/
def isWide (n : Int) : Bool := -9223372036854775808 ≤ n && n < 9223372036854775808

def jobText (memo : Int) (content : String) (nanos : Int) (salt : Text.Bytes) : Text.Bytes :=
  Text.encode content ++ Octets.ofInt 8 memo ++ Text.encode (toString nanos) ++ salt

def jobKey (memo : Int) (content : String) (nanos : Int) (salt : Text.Bytes) : String :=
  String.ofList ((Sha256.hexDigest (jobText memo content nanos salt)).take 16)

def saltSize : Nat := 8

end Tagging

end MemoAssist

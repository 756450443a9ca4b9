import MemoAssist.Cipher.Aes
import MemoAssist.Cipher.Base64
import MemoAssist.Cipher.Gcm
import MemoAssist.Cipher.Sha256
import MemoAssist.Octets
import MemoAssist.Fault
import MemoAssist.Provider.Kind

namespace MemoAssist

/-- A master secret, made ready for sealing. -/
structure KeyCipher where
  schedule : Array Text.Bytes

namespace KeyCipher

def shortestMaster : Nat := 16

/-- The key of the cipher is the digest of the secret. -/
def ofMaster (master : String) : Except Fault KeyCipher :=
  let bytes := Text.encode master
  if bytes.length < shortestMaster then .error (.of .masterTooShort)
  else .ok ⟨Aes.keySchedule (Sha256.digest bytes)⟩

def block (k : KeyCipher) : Text.Bytes → Text.Bytes := Aes.encrypt k.schedule

/-- The nonce and the sealed text behind it. -/
def sealed (k : KeyCipher) (nonce : Text.Bytes) (text : String) : String :=
  String.ofList (Base64.encode (nonce ++ Gcm.sealed k.block nonce (Text.encode text)))

/-- Seal a text under a fresh nonce. The empty text stays empty and needs none. -/
def encrypt (k : KeyCipher) (text : String) (e : Entropy) : String × Entropy :=
  if text = "" then ("", e)
  else
    let (nonce, e) := e.draw Gcm.nonceSize
    (k.sealed nonce text, e)

def undecodable : Fault := ⟨.badCiphertext, "failed to decode ciphertext: " ++ Fault.unspoken⟩

def notAuthentic : Fault := ⟨.badCiphertext, "failed to decrypt: authentication failed"⟩

/-- The text that was sealed; the empty text stands for itself. -/
def decrypt (k : KeyCipher) (blob : String) : Except Fault String :=
  if blob = "" then .ok ""
  else
    match Base64.decode? blob.toList with
    | none => .error undecodable
    | some bytes =>
      if bytes.length < Gcm.nonceSize then .error (.of .badCiphertext)
      else
        match Gcm.opened? k.block (bytes.take Gcm.nonceSize) (bytes.drop Gcm.nonceSize) with
        | none => .error notAuthentic
        | some text =>
          match Text.decode? text with
          | some s => .ok s
          | none => .error (.of .notText)

end KeyCipher

namespace ApiKey

/-- How many characters at the end of a key are shown. -/
def shownLength : Nat := 4

/-- A key with all but its end hidden; a key that is no longer than that is hidden altogether. -/
def masked (key : String) : String :=
  let chars := key.toList
  let hidden := if chars.length ≤ shownLength then chars.length else chars.length - shownLength
  String.ofList (List.replicate hidden '*' ++ chars.drop hidden)

/-- A short mark by which a key can be told from others. -/
def mark (key : String) : String :=
  if key = "" then "" else String.ofList ((Sha256.hexDigest (Text.encode key)).take 8)

def badFormat (note : String) : Fault := ⟨.badKeyFormat, note⟩

def startsWith (key start : String) : Bool := start.toList.isPrefixOf key.toList

/-- What is plainly no key of a family is refused. Of a family that is not known a key has ten
characters at least. -/
def check (kind : Option ProviderKind) (key : String) : Except Fault Unit :=
  if key = "" then .error (badFormat "API key cannot be empty")
  else
    match kind with
    | some .openai =>
      if !startsWith key "sk-" then .error (badFormat "OpenAI API key should start with 'sk-'")
      else if key.length < 20 then .error (badFormat "OpenAI API key appears too short")
      else .ok ()
    | some .anthropic =>
      if startsWith key "sk-ant-" then .ok ()
      else .error (badFormat "Anthropic API key should start with 'sk-ant-'")
    | some .gemini =>
      if key.length < 20 then .error (badFormat "Google API key appears too short") else .ok ()
    | some .ollama => .ok ()
    | none => if key.length < 10 then .error (badFormat "API key appears too short") else .ok ()

end ApiKey

end MemoAssist

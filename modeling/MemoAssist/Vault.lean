import MemoAssist.Cipher.Keys
import MemoAssist.Clock.Instant

namespace MemoAssist

/-- What is kept of a key. -/
structure StoredKey where
  mark : String
  kind : ProviderKind
  blob : String
  masked : String
  created : Instant
  updated : Instant
  lastUsed : Option Instant
  user : Int
deriving DecidableEq, Repr

/-- A place for a key. -/
structure Slot where
  user : Int
  kind : ProviderKind
deriving DecidableEq, Repr

/-- One sealed key for each user and family, in the order in which the places were first taken. -/
structure Vault where
  cipher : KeyCipher
  keys : List (Slot × StoredKey) := []

namespace Vault

def open? (master : String) : Except Fault Vault :=
  (KeyCipher.ofMaster master).map fun cipher => { cipher }

def find? (v : Vault) (slot : Slot) : Option StoredKey :=
  (v.keys.find? fun entry => entry.1 = slot).map Prod.snd

/-- A slot that is taken keeps its place. -/
def put (slot : Slot) (key : StoredKey) : List (Slot × StoredKey) → List (Slot × StoredKey)
  | [] => [(slot, key)]
  | (other, old) :: rest =>
    if other = slot then (slot, key) :: rest else (other, old) :: put slot key rest

def insert (slot : Slot) (key : StoredKey) (v : Vault) : Vault :=
  { v with keys := put slot key v.keys }

/-- The slot of a user and the family that a word names. -/
def slotOf (user : Int) (word : String) : Except Fault Slot :=
  (ProviderKind.ofWord word).map fun kind => ⟨user, kind⟩

/-- The slot together with the key in it. -/
def lookUp (user : Int) (word : String) (v : Vault) : Except Fault (Slot × StoredKey) := do
  let slot ← slotOf user word
  match v.find? slot with
  | some key => return (slot, key)
  | none => .error (.of .keyNotFound)

/-- Keep a new key in an empty slot. -/
def store (now : Instant) (user : Int) (word key : String) (v : Vault) (e : Entropy) :
    Except Fault (StoredKey × Vault × Entropy) := do
  ApiKey.check (ProviderKind.ofWord? word) key
  let slot ← slotOf user word
  if (v.find? slot).isSome then .error (.of .keyExists)
  else
    let (blob, e) := v.cipher.encrypt key e
    let kept : StoredKey :=
      { mark := ApiKey.mark key, kind := slot.kind, blob, masked := ApiKey.masked key
        created := now, updated := now, lastUsed := none, user }
    return (kept, v.insert slot kept, e)

/-- Put a new key in the place of one that is there. -/
def update (now : Instant) (user : Int) (word key : String) (v : Vault) (e : Entropy) :
    Except Fault (StoredKey × Vault × Entropy) := do
  ApiKey.check (ProviderKind.ofWord? word) key
  let (slot, old) ← v.lookUp user word
  let (blob, e) := v.cipher.encrypt key e
  let kept :=
    { old with mark := ApiKey.mark key, blob, masked := ApiKey.masked key, updated := now }
  return (kept, v.insert slot kept, e)

/-- The key itself. -/
def key (user : Int) (word : String) (v : Vault) : Except Fault String := do
  let (_, kept) ← v.lookUp user word
  v.cipher.decrypt kept.blob

/-- What is kept of the key. -/
def stored (user : Int) (word : String) (v : Vault) : Except Fault StoredKey :=
  (v.lookUp user word).map Prod.snd

def delete (user : Int) (word : String) (v : Vault) : Except Fault Vault := do
  let (slot, _) ← v.lookUp user word
  return { v with keys := v.keys.filter fun entry => entry.1 ≠ slot }

def has (user : Int) (word : String) (v : Vault) : Except Fault Bool :=
  (slotOf user word).map fun slot => (v.find? slot).isSome

/-- Note that a key was used. -/
def markUsed (now : Instant) (user : Int) (word : String) (v : Vault) : Except Fault Vault := do
  let (slot, kept) ← v.lookUp user word
  return v.insert slot { kept with lastUsed := some now }

/-- What is kept of the keys of one user. -/
def list (user : Int) (v : Vault) : List StoredKey :=
  (v.keys.filter fun entry => entry.1.user = user).map Prod.snd

end Vault

end MemoAssist

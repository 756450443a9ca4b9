import MemoAssist.Clock.Scale

/-! Results that are kept for a while. When the cache is full, what is out of date goes first, and
then the oldest tenth. -/
namespace MemoAssist

variable {τ : Type} [TimeScale τ]

structure CachedTags (τ : Type) where
  tags : List String
  created : τ

/-- Results under their keys, in the order in which the keys first came. -/
abbrev TagCache (τ : Type) := List (String × CachedTags τ)

namespace TagCache

def find? (key : String) (cache : TagCache τ) : Option (CachedTags τ) :=
  (List.find? (fun entry => entry.1 = key) cache).map Prod.snd

def isOutdated (span now : τ) (entry : CachedTags τ) : Bool := span < now - entry.created

/-- The tags under a key, unless they are out of date. -/
def lookUp (span now : τ) (key : String) (cache : TagCache τ) : Option (List String) :=
  ((cache.find? key).filter fun entry => !isOutdated span now entry).map CachedTags.tags

/-- Is any of these older than `created`? -/
def hasOlder (created : τ) (cache : TagCache τ) : Bool :=
  cache.any fun entry => entry.2.created < created

/-- Drop the first of the entries than which none is older. -/
def dropOldest : TagCache τ → TagCache τ
  | [] => []
  | entry :: rest =>
    if hasOlder entry.2.created rest then entry :: dropOldest rest else rest

def dropOldestOf : (count : Nat) → TagCache τ → TagCache τ
  | 0, cache => cache
  | count + 1, cache => dropOldestOf count (dropOldest cache)

def isFull (capacity : Int) (cache : TagCache τ) : Bool := capacity ≤ cache.length

/-- How many entries go when none is out of date: a tenth, and at least one. -/
def batch (capacity : Int) : Nat := (max 1 (capacity / 10)).toNat

def evict (capacity : Int) (span now : τ) (cache : TagCache τ) : TagCache τ :=
  let fresh := cache.filter fun entry => !isOutdated span now entry.2
  if isFull capacity fresh then dropOldestOf (batch capacity) fresh else fresh

/-- A key that is there keeps its place. -/
def put (key : String) (entry : CachedTags τ) : TagCache τ → TagCache τ
  | [] => [(key, entry)]
  | (other, old) :: rest =>
    if other = key then (key, entry) :: rest else (other, old) :: put key entry rest

/-- Keep a result, after making room if there is none. -/
def insert (capacity : Int) (span now : τ) (key : String) (tags : List String)
    (cache : TagCache τ) : TagCache τ :=
  put key ⟨tags, now⟩ (if isFull capacity cache then evict capacity span now cache else cache)

end TagCache

end MemoAssist

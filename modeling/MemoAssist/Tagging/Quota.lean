import MemoAssist.Clock.Scale

/-! The quota: each user has so many requests in a window of time, which opens with the first request
after the window before it. -/
namespace MemoAssist

variable {τ : Type} [TimeScale τ]

structure QuotaWindow (τ : Type) where
  count : Int
  ends : τ

/-- The latest window of every user. -/
abbrev QuotaTable (τ : Type) := List (Int × QuotaWindow τ)

namespace QuotaTable

def find? (user : Int) (table : QuotaTable τ) : Option (QuotaWindow τ) :=
  (List.find? (fun entry => entry.1 = user) table).map Prod.snd

def put (user : Int) (window : QuotaWindow τ) : QuotaTable τ → QuotaTable τ
  | [] => [(user, window)]
  | (other, old) :: rest =>
    if other = user then (user, window) :: rest else (other, old) :: put user window rest

/-- The window that a user is in. Its last moment belongs to it. -/
def current? (now : τ) (user : Int) (table : QuotaTable τ) : Option (QuotaWindow τ) :=
  (table.find? user).filter fun window => !(window.ends < now : Bool)

/-- Count a request of a user: is it admitted? The request that opens a window always is. -/
def grant (limit : Int) (span now : τ) (user : Int) (table : QuotaTable τ) :
    Bool × QuotaTable τ :=
  match table.current? now user with
  | none => (true, table.put user ⟨1, now + span⟩)
  | some window =>
    if limit ≤ window.count then (false, table)
    else (true, table.put user { window with count := window.count + 1 })

/-- The requests a user has left, and how long it is until the window ends. -/
def status (limit : Int) (span now : τ) (user : Int) (table : QuotaTable τ) : Int × τ :=
  match table.current? now user with
  | none => (limit, span)
  | some window => (max 0 (limit - window.count), window.ends - now)

end QuotaTable

end MemoAssist

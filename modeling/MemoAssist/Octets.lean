import MemoAssist.Text.Encoding

namespace MemoAssist

namespace Octets

open Text (Bytes)

def ofNat : (width : Nat) → Nat → Bytes
  | 0, _ => []
  | width + 1, n => ofNat width (n / 256) ++ [n.toUInt8]

def toNat (bytes : Bytes) : Nat := bytes.foldl (fun n b => 256 * n + b.toNat) 0

/-- A negative number is written as its distance below the next power of 256. -/
def ofInt (width : Nat) (n : Int) : Bytes := ofNat width (n % (Nat.pow 256 width : Nat)).toNat

end Octets

/-- The bytes of the source by their number, and how many are used up. -/
structure Entropy where
  supply : Nat → UInt8
  drawn : Nat := 0

namespace Entropy

/-- The source that counts up through all bytes, over and over. -/
def counting : Entropy := { supply := fun n => n.toUInt8 }

def draw (count : Nat) (e : Entropy) : Text.Bytes × Entropy :=
  ((List.range count).map fun i => e.supply (e.drawn + i), { e with drawn := e.drawn + count })

end Entropy

end MemoAssist

import MemoAssist.Text.Encoding

namespace MemoAssist.Base64

open Text (Bytes)

def pad : Char := '='

def digit (n : Nat) : Char :=
  if n < 26 then Char.ofNat (65 + n)
  else if n < 52 then Char.ofNat (71 + n)
  else if n < 62 then Char.ofNat (n - 4)
  else if n = 62 then '+'
  else '/'

def value? (c : Char) : Option Nat :=
  let n := c.toNat
  if 65 ≤ n ∧ n ≤ 90 then some (n - 65)
  else if 97 ≤ n ∧ n ≤ 122 then some (n - 71)
  else if 48 ≤ n ∧ n ≤ 57 then some (n + 4)
  else if c = '+' then some 62
  else if c = '/' then some 63
  else none

/-- Three bytes become four digits; pads fill the last group. -/
def encode : Bytes → List Char
  | [] => []
  | [a] =>
    let n := 16 * a.toNat
    [digit (n / 64), digit (n % 64), pad, pad]
  | [a, b] =>
    let n := 4 * (256 * a.toNat + b.toNat)
    [digit (n / 4096), digit (n / 64 % 64), digit (n % 64), pad]
  | a :: b :: c :: rest =>
    let n := 65536 * a.toNat + 256 * b.toNat + c.toNat
    digit (n / 262144) :: digit (n / 4096 % 64) :: digit (n / 64 % 64) :: digit (n % 64)
      :: encode rest

/-- The bytes of the digits' values. Bits that fill up no byte do not count. -/
def bytesOfValues : List Nat → Bytes
  | a :: b :: c :: d :: rest =>
    let n := 262144 * a + 4096 * b + 64 * c + d
    (n / 65536).toUInt8 :: (n / 256).toUInt8 :: n.toUInt8 :: bytesOfValues rest
  | [a, b, c] =>
    let n := (4096 * a + 64 * b + c) / 4
    [(n / 256).toUInt8, n.toUInt8]
  | [a, b] => [((64 * a + b) / 16).toUInt8]
  | _ => []

/-- Do the pads complete the last group? A group that is complete is not harmed by pads. -/
def completes (digits pads : Nat) : Bool :=
  match digits % 4 with
  | 0 => digits ≠ 0 || pads = 0
  | 2 => pads = 2
  | 3 => pads = 1
  | _ => false

/-- Digits and then pads, and nothing else. -/
def decode? (s : List Char) : Option Bytes := do
  let digits := s.takeWhile fun c => (value? c).isSome
  let pads := s.drop digits.length
  if pads.all (· = pad) && completes digits.length pads.length then
    return bytesOfValues (digits.filterMap value?)
  else none

end MemoAssist.Base64

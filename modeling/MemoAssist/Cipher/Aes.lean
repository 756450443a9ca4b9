import MemoAssist.Text.Encoding

namespace MemoAssist.Aes

open Text (Bytes)

/-- Multiplication by the unknown in the field of 256 elements. -/
def double (x : UInt8) : UInt8 := (x <<< 1) ^^^ (if x &&& 0x80 = 0 then 0 else 0x1B)

/-- Multiplication in the field, one bit of the second factor at a time. -/
def multiply (x y : UInt8) : (bits : Nat) → UInt8
  | 0 => 0
  | bits + 1 => (if y &&& 1 = 0 then 0 else x) ^^^ multiply (double x) (y >>> 1) bits

def power (x : UInt8) : Nat → UInt8
  | 0 => 1
  | n + 1 => multiply x (power x n) 8

def rotateLeft (x : UInt8) (n : UInt8) : UInt8 := (x <<< n) ||| (x >>> (8 - n))

/-- The inverse in the field, with zero for zero, followed by an affine map over the bits. -/
def substitution (x : UInt8) : UInt8 :=
  let y := power x 254
  y ^^^ rotateLeft y 1 ^^^ rotateLeft y 2 ^^^ rotateLeft y 3 ^^^ rotateLeft y 4 ^^^ 0x63

def substitutions : Array UInt8 := (Array.range 256).map fun n => substitution n.toUInt8

def substitute (x : UInt8) : UInt8 := substitutions.getD x.toNat 0

def xorBytes (xs ys : Bytes) : Bytes := List.zipWith (· ^^^ ·) xs ys

/-- The constant that goes into every eighth word of the key schedule. -/
def roundConstant (n : Nat) : UInt8 := (List.range n).foldl (fun x _ => double x) 1

/-- The change made to the word before, by the place of the new word. -/
def mixed (place : Nat) (word : Bytes) : Bytes :=
  if place % 8 = 0 then
    match word with
    | a :: rest =>
      xorBytes ((rest ++ [a]).map substitute) [roundConstant (place / 8 - 1), 0, 0, 0]
    | [] => []
  else if place % 8 = 4 then word.map substitute
  else word

/-- Sixty words of four bytes, the first eight of them the key itself. -/
def keySchedule (key : Bytes) : Array Bytes :=
  let own := (List.range 8).map fun i => (key.drop (4 * i)).take 4
  (List.range 52).foldl (fun ws _ =>
    ws.push (xorBytes (ws.getD (ws.size - 8) []) (mixed ws.size (ws.getD (ws.size - 1) []))))
    own.toArray

def roundKey (schedule : Array Bytes) (round : Nat) : Bytes :=
  (List.range 4).flatMap fun i => schedule.getD (4 * round + i) []

/-- Row `r` of the square moves by `r` columns; columns stand one behind the other. -/
def shiftRows (block : Bytes) : Bytes :=
  let bytes := block.toArray
  (List.range 16).map fun i => bytes.getD ((i + 4 * (i % 4)) % 16) 0

def mixColumn : Bytes → Bytes
  | [a, b, c, d] =>
    let all := a ^^^ b ^^^ c ^^^ d
    let mix (x next : UInt8) := x ^^^ all ^^^ double (x ^^^ next)
    [mix a b, mix b c, mix c d, mix d a]
  | column => column

def mixColumns (block : Bytes) : Bytes :=
  (List.range 4).flatMap fun i => mixColumn ((block.drop (4 * i)).take 4)

/-- Thirteen full rounds, and a last one that leaves the columns unmixed. -/
def encrypt (schedule : Array Bytes) (block : Bytes) : Bytes :=
  let inner := (List.range 13).foldl (fun state i =>
    xorBytes (mixColumns (shiftRows (state.map substitute))) (roundKey schedule (i + 1)))
    (xorBytes block (roundKey schedule 0))
  xorBytes (shiftRows (inner.map substitute)) (roundKey schedule 14)

end MemoAssist.Aes

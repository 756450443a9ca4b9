import MemoAssist.Octets

/-! Sealing with a block cipher in Galois/counter mode, with nonces of twelve bytes and nothing but
the text to protect. It is written for any function from blocks of sixteen bytes to such blocks. -/
namespace MemoAssist.Gcm

open Text (Bytes)

variable (cipher : Bytes → Bytes)

def nonceSize : Nat := 12

def tagSize : Nat := 16

def blockSize : Nat := 16

/-- One step of multiplication by the unknown, the coefficients being read from the top bit down. -/
def shifted (v : Nat) : Nat :=
  if v % 2 = 0 then v / 2 else (v / 2) ^^^ (0xE1 * Nat.pow 2 120)

/-- Multiplication in the field of 2 ^ 128 elements, from bit `bits` of `x` down. -/
def multiply (x : Nat) : (bits : Nat) → (v sum : Nat) → Nat
  | 0, _, sum => sum
  | bits + 1, v, sum =>
    multiply x bits (shifted v) (if x.testBit bits then sum ^^^ v else sum)

/-- The text in blocks, the last filled up with zeros. -/
def blocks : (count : Nat) → Bytes → List Bytes
  | 0, _ => []
  | count + 1, bytes =>
    let block := bytes.take blockSize
    (block ++ List.replicate (blockSize - block.length) 0) :: blocks count (bytes.drop blockSize)

def blockCount (length : Nat) : Nat := (length + 15) / blockSize

/-- The hash of a hidden text and its length in bits. -/
def hash (key : Nat) (text : Bytes) : Bytes :=
  let lengths := Octets.ofNat 16 (8 * text.length)
  let all := blocks (blockCount text.length) text ++ [lengths]
  Octets.ofNat 16 (all.foldl (fun y block => multiply (y ^^^ Octets.toNat block) 128 key 0) 0)

def counterBlock (nonce : Bytes) (counter : Nat) : Bytes := nonce ++ Octets.ofNat 4 counter

/-- `length` bytes to be combined with the text; the first counter is kept for the tag. -/
def keyStream (nonce : Bytes) (length : Nat) : Bytes :=
  ((List.range (blockCount length)).flatMap fun i => cipher (counterBlock nonce (i + 2))).take length

def combine (nonce text : Bytes) : Bytes :=
  List.zipWith (· ^^^ ·) text (keyStream cipher nonce text.length)

/-- What shows that a hidden text was not changed. -/
def tag (nonce hidden : Bytes) : Bytes :=
  let key := Octets.toNat (cipher (List.replicate blockSize 0))
  List.zipWith (· ^^^ ·) (hash key hidden) (cipher (counterBlock nonce 1))

/-- The hidden text followed by its tag. -/
def sealed (nonce text : Bytes) : Bytes :=
  let hidden := combine cipher nonce text
  hidden ++ tag cipher nonce hidden

/-- The text, if the tag is the one that the hidden text has. -/
def opened? (nonce bytes : Bytes) : Option Bytes :=
  if bytes.length < tagSize then none
  else
    let hidden := bytes.take (bytes.length - tagSize)
    if bytes.drop (bytes.length - tagSize) = tag cipher nonce hidden then
      some (combine cipher nonce hidden)
    else none

end MemoAssist.Gcm

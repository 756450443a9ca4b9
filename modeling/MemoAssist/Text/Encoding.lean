namespace MemoAssist.Text

abbrev Bytes := List UInt8

/-- The UTF-8 bytes of a text. -/
def encode (s : String) : Bytes := s.toUTF8.data.toList

/-- The text whose UTF-8 bytes these are, if there is one. -/
def decode? (bytes : Bytes) : Option String := String.fromUTF8? ⟨bytes.toArray⟩

def replacement : Char := '\uFFFD'

/-- Stands for half a surrogate pair, which is no character, in a text that a backend sent: a code
point of the fourteenth plane that no character was ever given. It is taken for granted that no
backend sends these code points themselves; in all other texts they have no such meaning. -/
def half (unit : Nat) : Char := Char.ofNat (0xE0000 + unit)

def isHalf (c : Char) : Bool := 0xED800 ≤ c.toNat && c.toNat ≤ 0xEDFFF

/-- The number of what a character of such a text stands for. -/
def codeSent (c : Char) : Nat := if isHalf c then c.toNat - 0xE0000 else c.toNat

/-- Such a text has no bytes. -/
def hasHalf (s : String) : Bool := s.toList.any isHalf

/-- What a leading byte promises: how many bytes follow, the bounds of the first of them, and the
bits it carries itself. -/
structure Lead where
  follow : Nat
  low : Nat
  high : Nat
  bits : Nat

def Lead.of? (b : Nat) : Option Lead :=
  if b < 0x80 then some ⟨0, 0, 0, b⟩
  else if 0xC2 ≤ b ∧ b ≤ 0xDF then some ⟨1, 0x80, 0xBF, b - 0xC0⟩
  else if b = 0xE0 then some ⟨2, 0xA0, 0xBF, 0⟩
  else if b = 0xED then some ⟨2, 0x80, 0x9F, 0xD⟩
  else if 0xE1 ≤ b ∧ b ≤ 0xEF then some ⟨2, 0x80, 0xBF, b - 0xE0⟩
  else if b = 0xF0 then some ⟨3, 0x90, 0xBF, 0⟩
  else if 0xF1 ≤ b ∧ b ≤ 0xF3 then some ⟨3, 0x80, 0xBF, b - 0xF0⟩
  else if b = 0xF4 then some ⟨3, 0x80, 0x8F, 4⟩
  else none

/-- Read the bytes that follow a leading byte: the code point if all are there, and how many were
acceptable. -/
def followed : (count low high bits : Nat) → Bytes → Option Nat × Nat
  | 0, _, _, bits, _ => (some bits, 0)
  | _ + 1, _, _, _, [] => (none, 0)
  | count + 1, low, high, bits, b :: rest =>
    if low ≤ b.toNat ∧ b.toNat ≤ high then
      let (code, used) := followed count 0x80 0xBF (64 * bits + (b.toNat - 0x80)) rest
      (code, used + 1)
    else (none, 0)

/-- UTF-8 with one replacement character for each longest run of bytes that begins a character
without completing it. -/
def decodeReplacing : Bytes → List Char
  | [] => []
  | b :: rest =>
    match Lead.of? b.toNat with
    | none => replacement :: decodeReplacing rest
    | some lead =>
      let (code, used) := followed lead.follow lead.low lead.high lead.bits rest
      (code.elim replacement Char.ofNat) :: decodeReplacing (rest.drop used)
termination_by bytes => bytes.length
decreasing_by
  · simp
  · simp only [List.length_cons, List.length_drop]; omega

/-- A scalar value as itself, half a surrogate pair as what stands for it, and nothing else. -/
def scalar? (n : Nat) : Option Char :=
  if h : n.isValidChar then some (Char.ofNatAux n h)
  else if 0xD800 ≤ n ∧ n ≤ 0xDFFF then some (half n)
  else none

inductive ByteOrder where
  | big
  | little
deriving DecidableEq

def ByteOrder.pair : ByteOrder → UInt8 → UInt8 → Nat
  | .big, a, b => 256 * a.toNat + b.toNat
  | .little, a, b => 256 * b.toNat + a.toNat

/-- The sixteen-bit units; an odd byte at the end is refused. -/
def units16? (order : ByteOrder) : Bytes → Option (List Nat)
  | [] => some []
  | [_] => none
  | a :: b :: rest => (units16? order rest).map (order.pair a b :: ·)

/-- Join surrogate pairs; a surrogate without its partner stands alone. -/
def joinUnits : List Nat → List Nat
  | [] => []
  | [u] => [u]
  | u :: v :: rest =>
    if 0xD800 ≤ u ∧ u ≤ 0xDBFF ∧ 0xDC00 ≤ v ∧ v ≤ 0xDFFF then
      (0x10000 + 0x400 * (u - 0xD800) + (v - 0xDC00)) :: joinUnits rest
    else u :: joinUnits (v :: rest)

def decode16? (order : ByteOrder) (bytes : Bytes) : Option (List Char) :=
  (units16? order bytes).bind fun units => (joinUnits units).mapM scalar?

def decode32? (order : ByteOrder) : Bytes → Option (List Char)
  | [] => some []
  | a :: b :: c :: d :: rest => do
    let code := match order with
      | .big => 65536 * order.pair a b + order.pair c d
      | .little => 65536 * order.pair c d + order.pair a b
    let first ← scalar? code
    let more ← decode32? order rest
    return first :: more
  | _ => none

/-- As `Lead.of?`, but what would encode a surrogate is let through as well. -/
def Lead.orSurrogate? (b : Nat) : Option Lead :=
  if b = 0xED then some ⟨2, 0x80, 0xBF, 0xD⟩ else Lead.of? b

/-- UTF-8 in which halves of surrogate pairs may be encoded as well; any other fault refuses the
whole. -/
def decode8? : Bytes → Option (List Char)
  | [] => some []
  | b :: rest => do
    let lead ← Lead.orSurrogate? b.toNat
    let (code, used) := followed lead.follow lead.low lead.high lead.bits rest
    let c ← code.bind scalar?
    let more ← decode8? (rest.drop used)
    return c :: more
termination_by bytes => bytes.length
decreasing_by simp only [List.length_cons, List.length_drop]; omega

/-- The text of a document that may be in UTF-8, UTF-16 or UTF-32. A byte order mark decides and is
dropped; without one, the zero bytes among the first four do. -/
def decodeDocument? (bytes : Bytes) : Option (List Char) :=
  match bytes with
  | 0x00 :: 0x00 :: 0xFE :: 0xFF :: rest => decode32? .big rest
  | 0xFF :: 0xFE :: 0x00 :: 0x00 :: rest => decode32? .little rest
  | 0xFE :: 0xFF :: rest => decode16? .big rest
  | 0xFF :: 0xFE :: rest => decode16? .little rest
  | 0xEF :: 0xBB :: 0xBF :: rest => decode8? rest
  | a :: b :: c :: d :: _ =>
    if a = 0 then if b = 0 then decode32? .big bytes else decode16? .big bytes
    else if b = 0 then
      if c = 0 ∧ d = 0 then decode32? .little bytes else decode16? .little bytes
    else decode8? bytes
  | [a, b] =>
    if a = 0 then decode16? .big bytes
    else if b = 0 then decode16? .little bytes
    else decode8? bytes
  | _ => decode8? bytes

end MemoAssist.Text

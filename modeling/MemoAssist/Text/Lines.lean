namespace MemoAssist.Text

def inRanges (ranges : List (Nat × Nat)) (c : Char) : Bool :=
  ranges.any fun r => r.1 ≤ c.toNat && c.toNat ≤ r.2

/-- White space: the characters with the Unicode property and the four separators U+001C to U+001F. -/
def blankRanges : List (Nat × Nat) :=
  [(0x09, 0x0D), (0x1C, 0x20), (0x85, 0x85), (0xA0, 0xA0), (0x1680, 0x1680), (0x2000, 0x200A),
   (0x2028, 0x2029), (0x202F, 0x202F), (0x205F, 0x205F), (0x3000, 0x3000)]

def isBlank (c : Char) : Bool := inRanges blankRanges c

/-- Drop what `p` accepts from the end. -/
def dropEndWhile (p : Char → Bool) (s : List Char) : List Char :=
  (s.reverse.dropWhile p).reverse

/-- Drop what `p` accepts from both ends; the inside stays as it is. -/
def trimWhere (p : Char → Bool) (s : List Char) : List Char :=
  dropEndWhile p (s.dropWhile p)

def trim (s : List Char) : List Char := trimWhere isBlank s

/-- Every character that ends a line; a carriage return and a line feed together end one. -/
def isLineBreak (c : Char) : Bool :=
  inRanges [(0x0A, 0x0D), (0x1C, 0x1E), (0x85, 0x85), (0x2028, 0x2029)] c

/-- The lines without their breaks. A break at the very end opens no further line. -/
def lines : List Char → List (List Char)
  | [] => []
  | '\r' :: '\n' :: rest => [] :: lines rest
  | c :: rest =>
    if isLineBreak c then [] :: lines rest
    else match lines rest with
      | [] => [[c]]
      | line :: more => (c :: line) :: more

/-- Put a character in front of the first piece. -/
def consFirst (c : Char) : List (List Char) → List (List Char)
  | [] => [[c]]
  | piece :: more => (c :: piece) :: more

/-- The pieces between the occurrences of a separator, found from the left and never overlapping.
There is one piece more than there are occurrences. -/
def splitOn (separator : List Char) : List Char → List (List Char)
  | [] => [[]]
  | c :: rest =>
    if separator ≠ [] ∧ separator.isPrefixOf (c :: rest) then
      [] :: splitOn separator (rest.drop (separator.length - 1))
    else consFirst c (splitOn separator rest)
termination_by s => s.length
decreasing_by
  · simp only [List.length_cons, List.length_drop]; omega
  · simp

/-- Does the text hold `part` anywhere? -/
def holds (part : List Char) : List Char → Bool
  | [] => part.isEmpty
  | c :: rest => part.isPrefixOf (c :: rest) || holds part rest

def withoutStart (start s : List Char) : List Char :=
  if start.isPrefixOf s then s.drop start.length else s

/-- Lower case as far as a search for ASCII words can tell: besides A to Z only the Kelvin sign
has an ASCII letter for its lower case. -/
def lowerForSearch (s : List Char) : List Char :=
  s.map fun c => if c = '\u212A' then 'k' else c.toLower

end MemoAssist.Text

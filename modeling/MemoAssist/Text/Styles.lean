namespace MemoAssist.Text

def isStyleMark (c : Char) : Bool := c = ';' || c = '?' || ('0' ≤ c && c ≤ '9')

def isAsciiLetter (c : Char) : Bool := ('a' ≤ c && c ≤ 'z') || ('A' ≤ c && c ≤ 'Z')

/-- What follows the marks of a sequence, if they end in a letter as they should. -/
def afterStyle? : List Char → Option (List Char)
  | [] => none
  | c :: rest =>
    if isStyleMark c then afterStyle? rest else if isAsciiLetter c then some rest else none

theorem afterStyle?_length {s rest : List Char} (h : afterStyle? s = some rest) :
    rest.length < s.length := by
  fun_induction afterStyle? s with
  | case1 => simp at h
  | case2 c s _ ih => have := ih h; simp only [List.length_cons]; omega
  | case3 c s => cases h; simp
  | case4 => simp at h

/-- Sequences of an escape character, a bracket, marks and a letter are left out. -/
def withoutStyles : List Char → List Char
  | '\x1B' :: '[' :: rest =>
    match _h : afterStyle? rest with
    | some left => withoutStyles left
    | none => '\x1B' :: withoutStyles ('[' :: rest)
  | c :: rest => c :: withoutStyles rest
  | [] => []
termination_by s => s.length
decreasing_by
  · have := afterStyle?_length _h; simp only [List.length_cons]; omega
  · simp
  · simp

end MemoAssist.Text

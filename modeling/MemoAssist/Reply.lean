import MemoAssist.Json.Decoding
import MemoAssist.Text.Lines

namespace MemoAssist.Reply

def fence : List Char := ['\x60', '\x60', '\x60']

/-- Without the line that opens a code fence, and without the closing marks if they are there. -/
def unfenced (s : List Char) : List Char :=
  let s := Text.trim s
  if fence.isPrefixOf s then
    let body := if s.contains '\n' then (s.dropWhile (· ≠ '\n')).drop 1 else s.drop 3
    let body := if fence.isSuffixOf body then body.take (body.length - 3) else body
    Text.trim body
  else Text.trim s

/-- The items that are texts and hold more than blanks, without the blanks around them. -/
def tagItems (items : List Json) : List String :=
  items.filterMap fun
    | .str s =>
      let t := Text.trim s.toList
      if t.isEmpty then none else some (String.ofList t)
    | _ => none

/-- A reply, fenced or not, that opens too many levels to be read at all. -/
def isTooDeep (reply : String) : Bool := Json.isTooDeep (unfenced reply.toList)

/-- The tags of a reply that is a JSON array, fenced or not, and can be read. -/
def tagArray? (reply : String) : Option (List String) :=
  match Json.decoded? (unfenced reply.toList) with
  | some (.arr items) => some (tagItems items)
  | _ => none

/-- What is cut off at both ends of a piece: blanks, quotes, brackets, braces, `#` and `-`. -/
def isTagEdge (c : Char) : Bool :=
  [' ', '\t', '\n', '\r', '"', '\'', '[', ']', '{', '}', '#', '-'].contains c

def trimTag (s : List Char) : List Char := Text.trimWhere isTagEdge s

/-- The pieces between separators, trimmed, without the empty ones. -/
def pieces (separator s : List Char) : List (List Char) :=
  ((Text.splitOn separator s).map trimTag).filter (· ≠ [])

def isLetter (c : Char) : Bool :=
  (65 ≤ c.toNat && c.toNat ≤ 90) || (97 ≤ c.toNat && c.toNat ≤ 122)

def isTagChar (c : Char) : Bool := isLetter c || Text.isDigit c || c = '-' || c = '_'

def longestTag : Nat := 50

/-- ASCII letters, digits, `-` and `_`, at least one of them a letter, and fifty at most. -/
def isTag (s : List Char) : Bool :=
  s.length ≤ longestTag && s.all isTagChar && s.any isLetter

def delimiters : List Char := [',', '\n', ';', ' ']

/-- The first delimiter that yields any tag decides; all its tags are taken. -/
def extractBy (s : List Char) : List Char → List (List Char)
  | [] => []
  | delimiter :: rest =>
    let tags := (pieces [delimiter] s).filter isTag
    if tags.isEmpty then extractBy s rest else tags

def extractedTags (reply : String) : List String :=
  (extractBy reply.toList delimiters).map String.ofList

/-- The first `count` items; a negative count leaves out that many at the end. -/
def upTo {α : Type} (count : Int) (items : List α) : List α :=
  match count with
  | .ofNat n => items.take n
  | .negSucc n => items.take (items.length - (n + 1))

def isBullet (c : Char) : Bool := c = '-' || c = '*' || c = '•'

/-- The point of one line: what follows a bullet and a space, if anything does. -/
def keyPoint? (line : List Char) : Option (List Char) :=
  match Text.trim line with
  | mark :: ' ' :: rest =>
    if isBullet mark then
      let point := Text.trim rest
      if point.isEmpty then none else some point
    else none
  | _ => none

def keyPoints (summary : String) : List String :=
  (Text.lines summary.toList).filterMap fun line => (keyPoint? line).map String.ofList

end MemoAssist.Reply

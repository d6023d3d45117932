/-!
# Characters of a YAML text

Line breaks and blanks part the words of a text; lines of three dashes or three points part its documents.
Every reader of this notation takes characters from the front of a text and leaves a shorter one.
-/

namespace CrateHeader.Yaml

/-- What is read from the front of a list, with the shorter list that is left. -/
abbrev Reading (α : Type) {β : Type} (s : List β) :=
  Option (α × { rest : List β // rest.length < s.length })

/-- The characters that a text may consist of. -/
def isAllowed (c : Char) : Bool :=
  let n := c.toNat
  c == '\t' || c == '\n' || (32 ≤ n && n ≤ 126) || n == 0x85 || (0xa0 ≤ n && n ≤ 0xfffd) || 0x10000 ≤ n

def isBreak (c : Char) : Bool := c == '\n' || c == '\x85' || c == '\u2028' || c == '\u2029'

/-- A line break as a scalar keeps it: the separators of lines and paragraphs stay what they are. -/
def keptBreak (c : Char) : Char := if c = '\x85' then '\n' else c

def isGap (c : Char) : Bool := c == ' ' || c == '\t'

def isSeparator (c : Char) : Bool := isGap c || isBreak c

/-- Is there an end of a word in front of a text? -/
def endsWord (s : List Char) : Bool := s.head?.all isSeparator

/-- Is there the end of a line or a space in front of a text? -/
def endsItem (s : List Char) : Bool := s.head?.all fun c => c == ' ' || isBreak c

def documentStart : List Char := ['-', '-', '-']

def documentEnd : List Char := ['.', '.', '.']

/-- Does a text, at the front of a line, start with a marker that parts documents? -/
def isMarker (s : List Char) : Bool :=
  (s.take 3 == documentStart || s.take 3 == documentEnd) && endsWord (s.drop 3)

/-- Letters, digits and signs that names are made of. -/
def isNameChar (c : Char) : Bool := c.isAlphanum || c == '-' || c == '_'

theorem length_lt_of_dropWhile {p : Char → Bool} {s rest : List Char} {c : Char}
    (h : s.dropWhile p = c :: rest) : rest.length < s.length := by
  have hle := (List.dropWhile_suffix p (l := s)).length_le
  rw [h, List.length_cons] at hle
  exact Nat.lt_of_succ_le hle

/-- Line breaks inside a scalar: a single one is a space, of more the first one is left out. -/
def folded (first : Char) (others : List Char) : List Char :=
  if first ≠ '\n' then first :: others else if others = [] then [' '] else others

/-- What is left behind the end of a line that has nothing but a comment. -/
def endOfLine? (s : List Char) : Option (List Char) :=
  let s := s.dropWhile (· == ' ')
  match if s.head? = some '#' then s.dropWhile fun c => !isBreak c else s with
  | [] => some []
  | c :: rest => if isBreak c then some rest else none

/-- Leaves out spaces, line breaks and comments. -/
def skipIgnored (inComment : Bool) : List Char → List Char
  | [] => []
  | c :: rest =>
    if inComment then if isBreak c then skipIgnored false rest else skipIgnored true rest
    else if c = '#' then skipIgnored true rest
    else if c = ' ' ∨ isBreak c then skipIgnored false rest
    else c :: rest

/-- The characters in front of what is left of a text. -/
def consumed (s rest : List Char) : List Char := s.take (s.length - rest.length)

end CrateHeader.Yaml

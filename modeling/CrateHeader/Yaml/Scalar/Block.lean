import CrateHeader.Yaml.Character

/-!
# Block scalars

A block scalar is made of the lines below its mark that are indented as far as the first of them. Literally
its line breaks stay; folded, a break between two lines that start with no blank is a space. A sign at the mark
tells what becomes of the line breaks at the end, a digit how far the lines are indented.
-/

namespace CrateHeader.Yaml

/-- What becomes of the line breaks at the end. -/
inductive Chomping where
  /-- The first one stays. -/
  | clip
  | strip
  | keep
  deriving DecidableEq, Repr

def Chomping.ofChar? : Char → Option Chomping
  | '-' => some strip
  | '+' => some keep
  | _ => none

def indentDigit? (c : Char) : Option Nat := if c.isDigit then some (c.toNat - '0'.toNat) else none

/-- The sign and the digit behind a mark, in either order, and the rest. -/
def blockIndicators : List Char → Chomping × Option Nat × List Char
  | [] => (.clip, none, [])
  | c :: rest =>
    match Chomping.ofChar? c, indentDigit? c with
    | some chomping, _ => match rest.head?.bind indentDigit? with
      | some n => (chomping, some n, rest.tail)
      | none => (chomping, none, rest)
    | none, some n => match rest.head?.bind Chomping.ofChar? with
      | some chomping => (chomping, some n, rest.tail)
      | none => (.clip, some n, rest)
    | none, none => (.clip, none, c :: rest)

/-- The blank lines at the front and the spaces of the line behind them: the line breaks, the most spaces of
any line, those of the last one, and the rest. -/
def leadingLines (column widest : Nat) : List Char → List Char × Nat × Nat × List Char
  | [] => ([], widest, column, [])
  | c :: rest =>
    if c = ' ' then leadingLines (column + 1) (max widest (column + 1)) rest
    else if isBreak c then
      let (breaks, widest, column, left) := leadingLines 0 widest rest
      (keptBreak c :: breaks, widest, column, left)
    else ([], widest, column, c :: rest)

/-- As `leadingLines`, but the spaces beyond a column stay. -/
def indentedLines (indent column : Nat) : List Char → List Char × Nat × List Char
  | [] => ([], column, [])
  | c :: rest =>
    if c = ' ' ∧ column < indent then indentedLines indent (column + 1) rest
    else if isBreak c then
      let (breaks, column, left) := indentedLines indent 0 rest
      (keptBreak c :: breaks, column, left)
    else ([], column, c :: rest)

theorem length_indentedLines_le (indent column : Nat) (s : List Char) :
    (indentedLines indent column s).2.2.length ≤ s.length := by
  fun_induction indentedLines indent column s <;> simp_all <;> omega

/-- The lines of a block scalar up to the last line break, that break, and the line breaks behind it. -/
structure BlockLines where
  chars : List Char
  lastBreak : List Char
  breaks : List Char

namespace BlockLines

/-- The line break between two lines, the first of which starts a text. -/
def joint (isFolded : Bool) (c : Char) (breaks line next : List Char) : List Char :=
  if isFolded ∧ keptBreak c = '\n' ∧ ¬ line.head?.any isGap ∧ ¬ next.head?.any isGap then
    if breaks = [] then [' '] else []
  else [keptBreak c]

/-- Reads lines from the first character of one. -/
def read (isFolded : Bool) (indent : Nat) (s : List Char) : BlockLines × List Char :=
  let line := s.takeWhile fun c => !isBreak c
  match h : s.dropWhile fun c => !isBreak c with
  | [] => (⟨line, [], []⟩, [])
  | c :: rest =>
    let below := indentedLines indent 0 rest
    have : below.2.2.length < s.length :=
      Nat.lt_of_le_of_lt (length_indentedLines_le indent 0 rest) (length_lt_of_dropWhile h)
    if below.2.1 = indent ∧ below.2.2 ≠ [] then
      let (more, left) := read isFolded indent below.2.2
      (⟨line ++ joint isFolded c below.1 s below.2.2 ++ below.1 ++ more.chars, more.lastBreak, more.breaks⟩, left)
    else (⟨line, [keptBreak c], below.1⟩, below.2.2)
termination_by s.length

def chomped (chomping : Chomping) (b : BlockLines) : List Char :=
  b.chars ++ (if chomping = .strip then [] else b.lastBreak) ++ (if chomping = .keep then b.breaks else [])

end BlockLines

/-- Reads a block scalar behind its mark. Its lines are indented by at least so many spaces. -/
def readBlock (isFolded : Bool) (least : Nat) (s : List Char) : Option (List Char × List Char) := do
  let (chomping, given, s) := blockIndicators s
  if given = some 0 ∨ ¬ endsItem s then none
  else
    let s ← endOfLine? s
    let (breaks, indent, column, left) := match given with
      | some n =>
        let (breaks, column, left) := indentedLines (least + n - 1) 0 s
        (breaks, least + n - 1, column, left)
      | none =>
        let (breaks, widest, column, left) := leadingLines 0 0 s
        (breaks, max least widest, column, left)
    if column = indent ∧ left ≠ [] then
      let (lines, left) := BlockLines.read isFolded indent left
      some (breaks ++ lines.chomped chomping, left)
    else some ((BlockLines.mk [] [] breaks).chomped chomping, left)

end CrateHeader.Yaml

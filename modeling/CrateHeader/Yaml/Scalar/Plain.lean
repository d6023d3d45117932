import CrateHeader.Yaml.Character

/-!
# Plain scalars

A plain scalar has no quotes. It is made of words, and it goes on over line breaks as long as the lines are
indented far enough. It ends in front of a comment, a colon that makes it a key, a marker between documents
and, inside brackets, in front of the signs that part the items.
-/

namespace CrateHeader.Yaml

/-- What ends a word inside brackets. -/
def flowIndicators : List Char := [',', '?', '[', ']', '\x7b', '\x7d']

/-- Does a colon in front of a text end a key? -/
def isKeyColon (inFlow : Bool) (rest : List Char) : Bool :=
  endsWord rest || (inFlow && rest.head?.any fun c => c != '?' && flowIndicators.contains c)

/-- The longest word at the front of a text, and the rest. -/
def plainWord (inFlow : Bool) : List Char → List Char × List Char
  | [] => ([], [])
  | c :: rest =>
    if isSeparator c || (c == ':' && isKeyColon inFlow rest) || (inFlow && flowIndicators.contains c) then
      ([], c :: rest)
    else
      let (word, left) := plainWord inFlow rest
      (c :: word, left)

theorem plainWord_append (inFlow : Bool) (s : List Char) :
    (plainWord inFlow s).1 ++ (plainWord inFlow s).2 = s := by
  induction s with
  | nil => rfl
  | cons c rest ih =>
    unfold plainWord
    split
    · rfl
    · simp [ih]

/-- What stands between two words: the characters that it counts for, none if the scalar ends. -/
structure PlainGap where
  chars : List Char
  isBroken : Bool
  /-- The column behind the gap, if there is a line break in it. -/
  column : Nat

/-- Blank lines and the indentation of the line behind them; their line breaks, unless a marker stands at the
front of one. -/
def plainLines (column : Nat) : List Char → Option (List Char) × Nat × List Char
  | [] => (some [], column, [])
  | c :: rest =>
    if c = ' ' then plainLines (column + 1) rest
    else if isBreak c then
      if isMarker rest then (none, 0, rest)
      else
        let (breaks, column, left) := plainLines 0 rest
        (breaks.map (keptBreak c :: ·), column, left)
    else (some [], column, c :: rest)

theorem length_plainLines_le (column : Nat) (s : List Char) :
    (plainLines column s).2.2.length ≤ s.length := by
  fun_induction plainLines column s <;> simp_all <;> omega

def plainGap (s : List Char) : PlainGap × List Char :=
  match s.dropWhile (· == ' ') with
  | [] => (⟨s, false, 0⟩, [])
  | c :: rest =>
    if isBreak c then
      if isMarker rest then (⟨[], true, 0⟩, rest)
      else
        let lines := plainLines 0 rest
        (⟨(lines.1.map (folded (keptBreak c))).getD [], true, lines.2.1⟩, lines.2.2)
    else (⟨s.takeWhile (· == ' '), false, 0⟩, c :: rest)

theorem length_plainGap_le (s : List Char) : (plainGap s).2.length ≤ s.length := by
  have h := (List.dropWhile_suffix (· == ' ') (l := s)).length_le
  unfold plainGap
  split
  · simp
  · next c rest heq =>
    have hl := length_plainLines_le 0 rest
    rw [heq, List.length_cons] at h
    split
    · split
      · simp only; omega
      · simp only; omega
    · simp only [List.length_cons]; omega

/-- A plain scalar: its text, and whether it goes up to a line break. -/
structure Plain where
  chars : List Char
  isBroken : Bool

/-- Does a scalar end behind a gap? -/
def PlainGap.isLast (inFlow : Bool) (indent : Nat) (g : PlainGap) (rest : List Char) : Bool :=
  g.chars.isEmpty || rest.head? == some '#' || (!inFlow && g.isBroken && g.column < indent)

/-- Reads a plain scalar whose lines are indented by so many spaces. -/
def readPlain (inFlow : Bool) (indent : Nat) (s : List Char) : Reading Plain s :=
  match hw : plainWord inFlow s with
  | ([], _) => none
  | (c :: word, left) =>
    have hlt : (plainGap left).2.length < s.length := by
      have h := plainWord_append inFlow s
      have := length_plainGap_le left
      rw [hw] at h
      rw [← h]
      simp only [List.length_append, List.length_cons]
      omega
    let gap := (plainGap left).1
    let alone : Reading Plain s := some (⟨c :: word, gap.isBroken⟩, ⟨(plainGap left).2, hlt⟩)
    if gap.isLast inFlow indent (plainGap left).2 then alone
    else match readPlain inFlow indent (plainGap left).2 with
      | none => alone
      | some (more, ⟨rest, hr⟩) =>
        some (⟨c :: word ++ gap.chars ++ more.chars, more.isBroken⟩, ⟨rest, by omega⟩)
termination_by s.length

end CrateHeader.Yaml

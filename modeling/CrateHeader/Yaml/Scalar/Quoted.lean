import CrateHeader.Yaml.Character

/-!
# Quoted scalars

A text in single quotes has its single quotes doubled. In double quotes a backslash writes a character by
a letter or by its number, or joins two lines. Line breaks in either are folded, with the blanks around them.
-/

namespace CrateHeader.Yaml

/-- The line breaks at the front of a text, with the blanks between them; a marker must not follow any. -/
def quotedBreaks (s : List Char) : Option (List Char × { rest : List Char // rest.length ≤ s.length }) :=
  if isMarker s then none
  else
    match h : s.dropWhile isGap with
    | [] => some ([], ⟨[], by simp⟩)
    | c :: rest =>
      have hlt : rest.length < s.length := length_lt_of_dropWhile h
      if isBreak c then do
        let (breaks, ⟨left, hl⟩) ← quotedBreaks rest
        some (keptBreak c :: breaks, ⟨left, Nat.le_of_lt (Nat.lt_of_le_of_lt hl hlt)⟩)
      else some ([], ⟨c :: rest, hlt⟩)
termination_by s.length

/-- Letters behind a backslash and the characters that they write. -/
def escapes : List (Char × Char) :=
  [('0', '\x00'), ('a', '\x07'), ('b', '\x08'), ('t', '\t'), ('\t', '\t'), ('n', '\n'), ('v', '\x0b'),
    ('f', '\x0c'), ('r', '\r'), ('e', '\x1b'), (' ', ' '), ('"', '"'), ('\\', '\\'), ('/', '/'),
    ('N', '\x85'), ('_', '\xa0'), ('L', '\u2028'), ('P', '\u2029')]

/-- Letters behind which a number follows, with its digits. -/
def escapeWidths : List (Char × Nat) := [('x', 2), ('u', 4), ('U', 8)]

def hexDigit? (c : Char) : Option Nat :=
  if c.isDigit then some (c.toNat - '0'.toNat)
  else if 'a' ≤ c ∧ c ≤ 'f' then some (c.toNat - 'a'.toNat + 10)
  else if 'A' ≤ c ∧ c ≤ 'F' then some (c.toNat - 'A'.toNat + 10)
  else none

def hexValue? (digits : List Char) : Option Nat :=
  digits.foldlM (fun n c => (hexDigit? c).map (16 * n + ·)) 0

/-- The character of a number, if there is one. -/
def charOfNumber? (n : Nat) : Option Char := if n.isValidChar then some (Char.ofNat n) else none

/-- What a backslash in front of a text writes. -/
def readEscape (s : List Char) : Reading (List Char) s :=
  match s with
  | [] => none
  | c :: rest =>
    if isBreak c then do
      let (breaks, ⟨left, h⟩) ← quotedBreaks rest
      some (breaks, ⟨left, Nat.lt_succ_of_le h⟩)
    else match escapes.lookup c, escapeWidths.lookup c with
      | some written, _ => some ([written], ⟨rest, by simp⟩)
      | none, some width => do
        let n ← if rest.length < width then none else hexValue? (rest.take width)
        let written ← charOfNumber? n
        some ([written], ⟨rest.drop width, Nat.lt_succ_of_le (List.drop_sublist width rest).length_le⟩)
      | none, none => none

/-- Reads a text up to the quote that ends it. -/
def readQuoted (quote : Char) (s : List Char) : Reading (List Char) s :=
  match s with
  | [] => none
  | c :: rest =>
    if c = quote then
      match rest with
      | '\'' :: rest =>
        if quote = '\'' then do
          let (chars, ⟨left, h⟩) ← readQuoted quote rest
          some ('\'' :: chars, ⟨left, Nat.lt_succ_of_lt (Nat.lt_succ_of_lt h)⟩)
        else some ([], ⟨'\'' :: rest, by simp⟩)
      | rest => some ([], ⟨rest, by simp⟩)
    else if c = '\\' ∧ quote = '"' then do
      let (written, ⟨left, h⟩) ← readEscape rest
      let (chars, ⟨left', h'⟩) ← readQuoted quote left
      some (written ++ chars, ⟨left', Nat.lt_succ_of_lt (Nat.lt_trans h' h)⟩)
    else
      match h : (c :: rest).dropWhile isGap with
      | [] => none
      | b :: behind =>
        if isBreak b then do
          have hb : behind.length < rest.length + 1 := length_lt_of_dropWhile h
          let (breaks, ⟨left, hl⟩) ← quotedBreaks behind
          let (chars, ⟨left', h'⟩) ← readQuoted quote left
          some (folded (keptBreak b) breaks ++ chars, ⟨left', Nat.lt_trans h' (Nat.lt_of_le_of_lt hl hb)⟩)
        else do
          let (chars, ⟨left, h⟩) ← readQuoted quote rest
          some (c :: chars, ⟨left, Nat.lt_succ_of_lt h⟩)
termination_by s.length

end CrateHeader.Yaml

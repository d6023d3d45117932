import CrateHeader.Text.Alphanumeric

/-!
# Literals in tags

What an action takes is a literal: a number, a quoted text, one of three words, or some of these between
brackets. Nothing depends on what a literal stands for, so it is only told from other texts. Every function
returns what it leaves of a text with the proof that this is shorter.
-/

namespace CrateHeader.Terminal.Literal

/-- What follows a literal at the front of a text. -/
abbrev Reading (s : List Char) := Option { rest : List Char // rest.length < s.length }

def isGap (c : Char) : Bool := c == ' ' || c == '\t' || c == '\n' || c == '\r' || c == '\x0c'

theorem length_of_dropWhile {p : Char → Bool} {s rest : List Char} {c : Char}
    (h : s.dropWhile p = c :: rest) : rest.length < s.length := by
  have := (List.dropWhile_suffix p (l := s)).length_le
  rw [h, List.length_cons] at this
  exact this

/-- A text behind its opening quote. A backslash takes the next character along. -/
def readText (quote : Char) : (s : List Char) → Reading s
  | [] => none
  | '\\' :: _ :: rest => do
    let ⟨left, h⟩ ← readText quote rest
    some ⟨left, by simp only [List.length_cons]; omega⟩
  | c :: rest =>
    if c = quote then some ⟨rest, Nat.lt_succ_self _⟩
    else if c = '\n' then none
    else do
      let ⟨left, h⟩ ← readText quote rest
      some ⟨left, Nat.lt_succ_of_lt h⟩

/-- The power of ten behind the digits of a number, if there is one, is left out. -/
def skipPower : List Char → List Char
  | c :: rest =>
    let digits := match rest with
      | sign :: digits => if sign = '+' ∨ sign = '-' then digits else sign :: digits
      | [] => []
    if (c = 'e' ∨ c = 'E') ∧ digits.head?.any Char.isDigit then digits.dropWhile Char.isDigit else c :: rest
  | [] => []

/-- A number without a sign. A whole number does not start with a zero, unless it is nothing but zeros. -/
def readNumber (s : List Char) : Reading s :=
  let whole := s.takeWhile Char.isDigit
  let behind := s.dropWhile Char.isDigit
  let fraction := match behind with
    | '.' :: digits => digits.takeWhile Char.isDigit
    | _ => []
  let left := skipPower (match behind with
    | '.' :: digits => digits.dropWhile Char.isDigit
    | behind => behind)
  if whole = [] ∧ fraction = [] then none
  else if left = behind ∧ whole.head? = some '0' ∧ whole.any (· != '0') then none
  else if h : left.length < s.length then some ⟨left, h⟩
  else none

def words : List String := ["None", "True", "False"]

def readWord (s : List Char) : Reading s :=
  let left := s.dropWhile Text.isNameChar
  if words.contains (String.ofList (s.takeWhile Text.isNameChar)) then
    if h : left.length < s.length then some ⟨left, h⟩ else none
  else none

/-- The bracket that closes what one opens. -/
def closing? : Char → Option Char
  | '(' => some ')'
  | '[' => some ']'
  | '\x7b' => some '\x7d'
  | _ => none

mutual

def readOne (s : List Char) : Reading s :=
  match h : s.dropWhile isGap with
  | [] => none
  | c :: rest =>
    have hc := length_of_dropWhile h
    match closing? c with
    | some close => do
      let ⟨left, h⟩ ← readItems close rest
      some ⟨left, by omega⟩
    | none =>
      if c = '"' ∨ c = '\'' then do
        let ⟨left, h⟩ ← readText c rest
        some ⟨left, by omega⟩
      else if c = '+' ∨ c = '-' then do
        let ⟨left, h⟩ ← readNumber (rest.dropWhile isGap)
        some ⟨left, by have := (List.dropWhile_suffix isGap (l := rest)).length_le; omega⟩
      else do
        let ⟨left, h⟩ ← (readNumber (c :: rest)).or (readWord (c :: rest))
        some ⟨left, by rw [List.length_cons] at h; omega⟩
termination_by 2 * s.length

/-- Literals up to and with the bracket that closes them, a comma between any two. In braces a literal may
have another one behind a colon. -/
def readItems (close : Char) (s : List Char) : Reading s :=
  match h : s.dropWhile isGap with
  | [] => none
  | c :: rest =>
    have hc := length_of_dropWhile h
    if c = close then some ⟨rest, hc⟩
    else do
      let ⟨left, h⟩ ← readOne s
      let ⟨left, h⟩ : { rest : List Char // rest.length < s.length } ←
        match hv : left.dropWhile isGap with
        | ':' :: value =>
          have hl := length_of_dropWhile hv
          if close = '\x7d' then do
            let ⟨left, h⟩ ← readOne value
            some ⟨left, by omega⟩
          else none
        | _ => some ⟨left, h⟩
      match hn : left.dropWhile isGap with
      | [] => none
      | c :: next =>
        have hl := length_of_dropWhile hn
        if c = close then some ⟨next, by omega⟩
        else if c = ',' then do
          let ⟨left, h⟩ ← readItems close next
          some ⟨left, by omega⟩
        else none
termination_by 2 * s.length + 1

end

end Literal

/-- Is a text one literal? -/
def isLiteral (s : List Char) : Bool :=
  match Literal.readOne s with
  | some ⟨left, _⟩ => left.all Literal.isGap
  | none => false

end CrateHeader.Terminal

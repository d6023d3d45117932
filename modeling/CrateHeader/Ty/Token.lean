import CrateHeader.Text.Alphanumeric
import CrateHeader.Text.Blank

/-!
# Tokens of type texts

A type text is a row of marks, words and quoted strings, with blanks between them. Lifetimes are read and
left out. A word is made of letters, digits and underscores of the basic alphabet; a lifetime may go on with
word characters of any script.
-/

namespace CrateHeader

inductive Mark where
  | scope
  | arrow
  | star
  | amp
  | openBracket
  | closeBracket
  | semicolon
  | less
  | greater
  | openParen
  | closeParen
  | comma
  | colon
  | bang
  deriving DecidableEq, Repr

def Mark.text : Mark → String
  | scope => "::"
  | arrow => "->"
  | star => "*"
  | amp => "&"
  | openBracket => "["
  | closeBracket => "]"
  | semicolon => ";"
  | less => "<"
  | greater => ">"
  | openParen => "("
  | closeParen => ")"
  | comma => ","
  | colon => ":"
  | bang => "!"

inductive TyToken where
  | mark (m : Mark)
  | word (w : String)
  /-- A quoted string, its quotes left out. -/
  | quoted (s : String)
  deriving DecidableEq, Repr

namespace TyToken

def text : TyToken → String
  | mark m => m.text
  | word w => w
  | quoted s => "\"" ++ s ++ "\""

/-- The mark that a text starts with, the longest one, and what follows it. -/
def readMark? : List Char → Option (Mark × List Char)
  | ':' :: ':' :: rest => some (.scope, rest)
  | '-' :: '>' :: rest => some (.arrow, rest)
  | '*' :: rest => some (.star, rest)
  | '&' :: rest => some (.amp, rest)
  | '[' :: rest => some (.openBracket, rest)
  | ']' :: rest => some (.closeBracket, rest)
  | ';' :: rest => some (.semicolon, rest)
  | '<' :: rest => some (.less, rest)
  | '>' :: rest => some (.greater, rest)
  | '(' :: rest => some (.openParen, rest)
  | ')' :: rest => some (.closeParen, rest)
  | ',' :: rest => some (.comma, rest)
  | ':' :: rest => some (.colon, rest)
  | '!' :: rest => some (.bang, rest)
  | _ => none

/-- A quoted string after its opening quote: what it holds, and what follows its closing quote. -/
def readQuoted? (s : List Char) : Option (List Char × List Char) :=
  match s.dropWhile (· != '"') with
  | _ :: rest => some (s.takeWhile (· != '"'), rest)
  | [] => none

/-- One token at the front of a text without leading blanks, `none` for a lifetime, and what follows. -/
def readOne? : List Char → Option (Option TyToken × List Char)
  | [] => none
  | c :: rest =>
    if c = '\'' then
      match rest with
      | d :: more => if Text.isNameStart d then some (none, more.dropWhile Text.isWordChar) else none
      | [] => none
    else if c = '"' then
      (readQuoted? rest).map fun (held, after) => (some (quoted (String.ofList held)), after)
    else if Text.isNameChar c then
      some (some (word (String.ofList (c :: rest.takeWhile Text.isNameChar))),
        rest.dropWhile Text.isNameChar)
    else (readMark? (c :: rest)).map fun (m, after) => (some (mark m), after)

theorem length_dropWhile_le {α : Type} (p : α → Bool) (l : List α) :
    (l.dropWhile p).length ≤ l.length := (List.dropWhile_suffix p).length_le

theorem length_readMark? {s r : List Char} {m : Mark} (h : readMark? s = some (m, r)) :
    r.length < s.length := by
  unfold readMark? at h
  split at h
  case h_15 => cases h
  all_goals
    cases h
    simp only [List.length_cons]
    omega

theorem length_readQuoted? {s held r : List Char} (h : readQuoted? s = some (held, r)) :
    r.length < s.length := by
  have hle := length_dropWhile_le (· != '"') s
  unfold readQuoted? at h
  split at h
  · next heq =>
    obtain ⟨-, rfl⟩ := Prod.mk.inj (Option.some.inj h)
    rw [heq, List.length_cons] at hle
    omega
  · simp at h

theorem length_readOne? {s r : List Char} {t : Option TyToken} (h : readOne? s = some (t, r)) :
    r.length < s.length := by
  cases s with
  | nil => simp [readOne?] at h
  | cons c rest =>
    simp only [readOne?] at h
    split at h
    · split at h
      · next d more =>
        split at h
        · have := length_dropWhile_le Text.isWordChar more
          simp at h; rw [← h.2]; simp; omega
        · simp at h
      · simp at h
    · split at h
      · simp only [Option.map_eq_some_iff] at h
        obtain ⟨⟨held, after⟩, hq, he⟩ := h
        have := length_readQuoted? hq
        simp at he; rw [← he.2]; simp; omega
      · split at h
        · have := length_dropWhile_le Text.isNameChar rest
          simp at h; rw [← h.2]; simp; omega
        · simp only [Option.map_eq_some_iff] at h
          obtain ⟨⟨m, after⟩, hm, he⟩ := h
          have := length_readMark? hm
          simp at he; rw [← he.2]; omega

/-- The tokens of a text. Where no token can be read, the number of characters that are left, the blanks
before them counted. -/
def readAll (s : List Char) : Except Nat (List TyToken) :=
  if s = [] then .ok []
  else
    match h : readOne? (Text.trimLeft s) with
    | none => .error s.length
    | some (token, rest) =>
      have : rest.length < s.length :=
        Nat.lt_of_lt_of_le (length_readOne? h) (length_dropWhile_le _ s)
      match readAll rest with
      | .error n => .error n
      | .ok tokens => .ok (token.toList ++ tokens)
termination_by s.length

end TyToken

end CrateHeader

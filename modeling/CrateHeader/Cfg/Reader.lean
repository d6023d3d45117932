import CrateHeader.Cfg
import CrateHeader.Text.Alphanumeric
import CrateHeader.Text.Blank
import CrateHeader.Text.Quoted

/-!
# Reading predicates

Predicate texts such as `all(unix, not(feature = "std"))`. `all`, `any` and `not` are operators only in
front of a parenthesis and are plain names elsewhere; a `cfg(...)` around the whole text is dropped.
-/

namespace CrateHeader

inductive CfgToken where
  | name (s : String)
  | quoted (s : String)
  | openParen
  | closeParen
  | comma
  | equals
  deriving DecidableEq, Repr

namespace CfgToken

def text : CfgToken → String
  | name s => s
  | quoted s => "\"" ++ s ++ "\""
  | openParen => "("
  | closeParen => ")"
  | comma => ","
  | equals => "="

/-- One token at the front of a text without leading blanks, and what follows it. -/
def readOne? : List Char → Option (CfgToken × List Char)
  | '(' :: rest => some (openParen, rest)
  | ')' :: rest => some (closeParen, rest)
  | ',' :: rest => some (comma, rest)
  | '=' :: rest => some (equals, rest)
  | '"' :: rest =>
    match rest.dropWhile (· != '"') with
    | _ :: after => some (quoted (String.ofList (rest.takeWhile (· != '"'))), after)
    | [] => none
  | c :: rest =>
    if Text.isNameStart c then
      some (name (String.ofList (c :: rest.takeWhile Text.isNameChar)), rest.dropWhile Text.isNameChar)
    else none
  | [] => none

theorem length_readOne? {s r : List Char} {t : CfgToken} (h : readOne? s = some (t, r)) :
    r.length < s.length := by
  unfold readOne? at h
  split at h
  case h_5 rest =>
    have hle := (List.dropWhile_suffix (l := rest) (· != '"')).length_le
    split at h
    · next heq =>
      obtain ⟨-, rfl⟩ := Prod.mk.inj (Option.some.inj h)
      rw [heq, List.length_cons] at hle
      rw [List.length_cons]
      omega
    · cases h
  case h_6 c rest _ _ _ _ _ =>
    have hle := (List.dropWhile_suffix (l := rest) Text.isNameChar).length_le
    split at h
    · obtain ⟨-, rfl⟩ := Prod.mk.inj (Option.some.inj h)
      exact Nat.lt_succ_of_le hle
    · cases h
  case h_7 => cases h
  all_goals
    obtain ⟨-, rfl⟩ := Prod.mk.inj (Option.some.inj h)
    exact Nat.lt_succ_self _

/-- The tokens of a text. Where no token can be read, the number of characters that are left, the blanks
before them counted. -/
def readAll (s : List Char) : Except Nat (List CfgToken) :=
  if s = [] then .ok []
  else
    match h : readOne? (Text.trimLeft s) with
    | none => .error s.length
    | some (token, rest) =>
      have : rest.length < s.length :=
        Nat.lt_of_lt_of_le (length_readOne? h) (List.dropWhile_suffix _).length_le
      match readAll rest with
      | .error n => .error n
      | .ok tokens => .ok (token :: tokens)
termination_by s.length

end CfgToken

inductive CfgSyntaxError where
  | invalidCharacter (trimmed : String) (offset : Nat)
  | unexpectedEnd
  | expected (wanted found : String)
  | noName (found : String)
  | noSeparator
  | notOne
  | noString (key : String)
  | trailing
  deriving DecidableEq, Repr

/-- What is wrong with a predicate text. -/
def CfgSyntaxError.message (text : String) : CfgSyntaxError → String
  | invalidCharacter trimmed offset =>
    "Invalid character in cfg " ++ Text.quoted trimmed ++ " at offset " ++ toString offset
  | unexpectedEnd => "Unexpected end of cfg: " ++ Text.quoted text
  | expected wanted found =>
    "Expected " ++ Text.quoted wanted ++ " but found " ++ Text.quoted found ++ " in cfg " ++
      Text.quoted text
  | noName found =>
    "Expected a name but found " ++ Text.quoted found ++ " in cfg " ++ Text.quoted text
  | noSeparator => "Expected ',' or ')' in cfg " ++ Text.quoted text
  | notOne => "not() takes exactly one predicate: " ++ Text.quoted text
  | noString key =>
    "Expected a string value for " ++ Text.quoted key ++ " in cfg " ++ Text.quoted text
  | trailing => "Unexpected trailing input in cfg: " ++ Text.quoted text

namespace Cfg

abbrev Reading (α : Type) (tokens : List CfgToken) :=
  Except CfgSyntaxError (α × { rest : List CfgToken // rest.length < tokens.length })

mutual
def readPredicate (tokens : List CfgToken) : Reading Cfg tokens :=
  match tokens with
  | [] => .error .unexpectedEnd
  | .name s :: .openParen :: rest =>
    if s = "all" ∨ s = "any" ∨ s = "not" then do
      let (items, ⟨left, h⟩) ← readItems rest
      if s = "all" then .ok (all items, ⟨left, by simp; omega⟩)
      else if s = "any" then .ok (any items, ⟨left, by simp; omega⟩)
      else match items with
        | [item] => .ok (not item, ⟨left, by simp; omega⟩)
        | _ => .error .notOne
    else .ok (flag s, ⟨.openParen :: rest, by simp⟩)
  | .name s :: .equals :: .quoted v :: rest => .ok (value s v, ⟨rest, by simp; omega⟩)
  | [.name _, .equals] => .error .unexpectedEnd
  | .name s :: .equals :: _ => .error (.noString s)
  | .name s :: rest => .ok (flag s, ⟨rest, by simp⟩)
  | token :: _ => .error (.noName token.text)
termination_by 2 * tokens.length

/-- Predicates up to and with the closing parenthesis. -/
def readItems (tokens : List CfgToken) : Reading (List Cfg) tokens :=
  match tokens with
  | .closeParen :: rest => .ok ([], ⟨rest, by simp⟩)
  | tokens => do
    let (item, ⟨rest₁, h₁⟩) ← readPredicate tokens
    match rest₁, h₁ with
    | .comma :: rest₂, h₁ => do
      have : rest₂.length < tokens.length := by simp at h₁; omega
      let (others, ⟨left, h⟩) ← readItems rest₂
      .ok (item :: others, ⟨left, by omega⟩)
    | .closeParen :: left, h₁ => .ok ([item], ⟨left, by simp at h₁; omega⟩)
    | _, _ => .error .noSeparator
termination_by 2 * tokens.length + 1
end

/-- The rest of a text after its predicate, which must be empty. -/
def finish (c : Cfg) : List CfgToken → Except CfgSyntaxError Cfg
  | [] => .ok c
  | _ :: _ => .error .trailing

/-- The predicate that a row of tokens writes, a `cfg(...)` around it dropped. -/
def ofTokens (tokens : List CfgToken) : Except CfgSyntaxError Cfg := do
  let (c, ⟨rest, _⟩) ← readPredicate tokens
  match c, rest with
  | flag "cfg", .openParen :: inside =>
    let (c, ⟨rest, _⟩) ← readPredicate inside
    match rest with
    | [] => .error .unexpectedEnd
    | .closeParen :: rest => finish c rest
    | token :: _ => .error (.expected ")" token.text)
  | c, rest => finish c rest

def read (text : String) : Except CfgSyntaxError Cfg :=
  let chars := Text.trimRight text.toList
  match CfgToken.readAll chars with
  | .error left => .error (.invalidCharacter (String.ofList chars) (chars.length - left))
  | .ok tokens => ofTokens tokens

end Cfg

end CrateHeader

import CrateHeader.Ty.Expr
import CrateHeader.Ty.Token
import CrateHeader.Text.Quoted

/-!
# Reading type texts

A reader by recursive descent. Every function returns what it leaves of the tokens with the proof that this
is shorter, so no bound on the work has to be given. Path segments in front of the last one are read
and forgotten, and so are the calling convention of a function type and its `unsafe` mark.
-/

namespace CrateHeader

inductive TySyntaxError where
  | invalidCharacter (trimmed : String) (offset : Nat)
  | unexpectedEnd
  | expected (wanted found : String)
  | noPointerQualifier
  | noLength
  | tuple
  | noTypeName (found : String)
  | noParameterSeparator
  | noArgumentSeparator
  | trailing (found : String)
  deriving DecidableEq, Repr

/-- What is wrong with a type text. -/
def TySyntaxError.message (text : String) : TySyntaxError → String
  | invalidCharacter trimmed offset =>
    "Invalid character in type " ++ Text.quoted trimmed ++ " at offset " ++ toString offset
  | unexpectedEnd => "Unexpected end of type " ++ Text.quoted text
  | expected wanted found =>
    "Expected " ++ Text.quoted wanted ++ " but found " ++ Text.quoted found ++ " in type " ++
      Text.quoted text
  | noPointerQualifier => "Raw pointer needs 'const' or 'mut' in type " ++ Text.quoted text
  | noLength => "Array without a length in type " ++ Text.quoted text
  | tuple => "Tuples are not supported across FFI: " ++ Text.quoted text
  | noTypeName found =>
    "Expected a type name but found " ++ Text.quoted found ++ " in " ++ Text.quoted text
  | noParameterSeparator => "Expected ',' or ')' in function type " ++ Text.quoted text
  | noArgumentSeparator => "Expected ',' or '>' in type " ++ Text.quoted text
  | trailing found => "Unexpected " ++ Text.quoted found ++ " after type in " ++ Text.quoted text

namespace Expr

/-- What reading tokens gives: a value and the tokens left, fewer than before. -/
abbrev Reading (α : Type) (tokens : List TyToken) :=
  Except TySyntaxError (α × { rest : List TyToken // rest.length < tokens.length })

/-- Takes the one token that may stand next. -/
def expect (wanted : TyToken) : (tokens : List TyToken) → Reading Unit tokens
  | [] => .error .unexpectedEnd
  | token :: rest =>
    if token = wanted then .ok ((), ⟨rest, by simp⟩) else .error (.expected wanted.text token.text)

/-- Passes over `extern "..."`. -/
def skipConvention : List TyToken → List TyToken
  | .word "extern" :: .quoted _ :: rest => rest
  | .word "extern" :: rest => rest
  | tokens => tokens

/-- Passes over `unsafe` and `extern "..."` in front of a function type. -/
def skipQualifiers : List TyToken → List TyToken
  | .word "unsafe" :: rest => skipConvention rest
  | tokens => skipConvention tokens

theorem length_skipConvention_le (tokens : List TyToken) :
    (skipConvention tokens).length ≤ tokens.length := by
  unfold skipConvention
  split <;> simp
  omega

theorem length_skipQualifiers_le (tokens : List TyToken) :
    (skipQualifiers tokens).length ≤ tokens.length := by
  unfold skipQualifiers
  split
  · exact Nat.le_succ_of_le (length_skipConvention_le _)
  · exact length_skipConvention_le _

/-- May a token stand for a parameter's name when a colon follows it? -/
def isParameterName : TyToken → Bool
  | .mark .star | .mark .amp | .mark .openBracket | .mark .openParen => false
  | _ => true

/-- The name in front of a parameter's type, if there is one; an underscore names nothing. -/
def readParameterName (tokens : List TyToken) :
    Option String × { rest : List TyToken // rest.length ≤ tokens.length } :=
  match tokens with
  | token :: .mark .colon :: rest =>
    if isParameterName token then
      (if token = .word "_" then none else some token.text, ⟨rest, by simp; omega⟩)
    else (none, ⟨token :: .mark .colon :: rest, Nat.le_refl _⟩)
  | tokens => (none, ⟨tokens, Nat.le_refl _⟩)

/-- The last segment of a path that starts with the segment given. -/
def readSegments (segment : String) : (tokens : List TyToken) →
    Except TySyntaxError (String × { rest : List TyToken // rest.length ≤ tokens.length })
  | .mark .scope :: next :: rest => do
    let (name, ⟨left, h⟩) ← readSegments next.text rest
    .ok (name, ⟨left, by simp; omega⟩)
  | [.mark .scope] => .error .unexpectedEnd
  | tokens => .ok (segment, ⟨tokens, Nat.le_refl _⟩)

/-- The first segment of a path: a word that does not start with a digit. -/
def readTypeName : (tokens : List TyToken) → Reading String tokens
  | [] => .error .unexpectedEnd
  | .word w :: rest =>
    if (w.toList.head?.map Text.isNameStart).getD false then .ok (w, ⟨rest, by simp⟩)
    else .error (.noTypeName w)
  | token :: _ => .error (.noTypeName token.text)

/-- An array's length and closing bracket: the texts of all tokens before it, put together. -/
def readLength (tokens : List TyToken) : Reading String tokens :=
  let isLength (t : TyToken) := t != .mark .closeBracket
  match h : tokens.dropWhile isLength with
  | [] => .error .unexpectedEnd
  | _ :: rest =>
    have : rest.length < tokens.length := by
      have := TyToken.length_dropWhile_le isLength tokens
      rw [h] at this; simp at this; omega
    match tokens.takeWhile isLength with
    | [] => .error .noLength
    | length => .ok (String.join (length.map TyToken.text), ⟨rest, this⟩)

mutual
def readType (tokens : List TyToken) : Reading Expr tokens :=
  match tokens with
  | [] => .error .unexpectedEnd
  | .mark .star :: [] => .error .unexpectedEnd
  | .mark .star :: .word qualifier :: rest =>
    if qualifier = "const" ∨ qualifier = "mut" then do
      let (target, ⟨left, h⟩) ← readType rest
      .ok (.pointer target (qualifier = "mut") false, ⟨left, by simp; omega⟩)
    else .error .noPointerQualifier
  | .mark .star :: _ :: _ => .error .noPointerQualifier
  | .mark .amp :: .word "mut" :: rest => do
    let (target, ⟨left, h⟩) ← readType rest
    .ok (.pointer target true true, ⟨left, by simp; omega⟩)
  | .mark .amp :: rest => do
    let (target, ⟨left, h⟩) ← readType rest
    .ok (.pointer target false true, ⟨left, by simp; omega⟩)
  | .mark .openBracket :: rest => do
    let (element, ⟨rest₁, h₁⟩) ← readType rest
    let ((), ⟨rest₂, h₂⟩) ← expect (.mark .semicolon) rest₁
    let (length, ⟨left, h⟩) ← readLength rest₂
    .ok (.array element length, ⟨left, by simp; omega⟩)
  | .mark .openParen :: .mark .closeParen :: rest => .ok (.unit, ⟨rest, by simp only [List.length_cons]; omega⟩)
  | .mark .openParen :: rest => do
    let (inner, ⟨rest₁, h₁⟩) ← readType rest
    match rest₁, h₁ with
    | .mark .comma :: _, _ => .error .tuple
    | rest₁, h₁ =>
      let ((), ⟨left, h⟩) ← expect (.mark .closeParen) rest₁
      .ok (inner, ⟨left, by simp; omega⟩)
  | .mark .bang :: rest => .ok (.never, ⟨rest, by simp⟩)
  | token :: rest =>
    if token = .word "unsafe" ∨ token = .word "extern" ∨ token = .word "fn" then
      readFunction (token :: rest)
    else readPath (token :: rest)
termination_by 3 * tokens.length + 1

def readFunction (tokens : List TyToken) : Reading Expr tokens := do
  have h₁ := length_skipQualifiers_le tokens
  let ((), ⟨rest₂, h₂⟩) ← expect (.word "fn") (skipQualifiers tokens)
  let ((), ⟨rest₃, h₃⟩) ← expect (.mark .openParen) rest₂
  let (params, ⟨rest₄, h₄⟩) ← readParameters rest₃
  match rest₄, h₄ with
  | .mark .arrow :: rest₅, h₄ => do
    have : rest₅.length < tokens.length := by simp at h₄; omega
    let (ret, ⟨left, h⟩) ← readType rest₅
    .ok (.function params (some ret), ⟨left, by omega⟩)
  | left, h₄ => .ok (.function params none, ⟨left, by omega⟩)
termination_by 3 * tokens.length + 0

/-- Parameters up to and with the closing parenthesis. -/
def readParameters (tokens : List TyToken) : Reading (List (Option String × Expr)) tokens :=
  match tokens with
  | .mark .closeParen :: rest => .ok ([], ⟨rest, by simp⟩)
  | tokens => do
    let (name, ⟨rest₁, h₁⟩) := readParameterName tokens
    let (type, ⟨rest₂, h₂⟩) ← readType rest₁
    match rest₂, h₂ with
    | .mark .comma :: rest₃, h₂ => do
      have : rest₃.length < tokens.length := by simp at h₂; omega
      let (others, ⟨left, h⟩) ← readParameters rest₃
      .ok ((name, type) :: others, ⟨left, by omega⟩)
    | .mark .closeParen :: left, h₂ => .ok ([(name, type)], ⟨left, by simp at h₂; omega⟩)
    | _, _ => .error .noParameterSeparator
termination_by 3 * tokens.length + 2

def readPath (tokens : List TyToken) : Reading Expr tokens := do
  let (first, ⟨rest₁, h₁⟩) ← readTypeName tokens
  let (name, ⟨rest₂, h₂⟩) ← readSegments first rest₁
  match rest₂, h₂ with
  | .mark .less :: rest₃, h₂ => do
    have : rest₃.length < tokens.length := by simp at h₂; omega
    let (args, ⟨left, h⟩) ← readArguments rest₃
    .ok (.path name args, ⟨left, by omega⟩)
  | left, h₂ => .ok (.path name [], ⟨left, by omega⟩)
termination_by 3 * tokens.length + 0

/-- Generic arguments up to and with the closing angle bracket. -/
def readArguments (tokens : List TyToken) : Reading (List Expr) tokens :=
  match tokens with
  | .mark .greater :: rest => .ok ([], ⟨rest, by simp⟩)
  | tokens => do
    let (type, ⟨rest₁, h₁⟩) ← readType tokens
    match rest₁, h₁ with
    | .mark .comma :: rest₂, h₁ => do
      have : rest₂.length < tokens.length := by simp at h₁; omega
      let (others, ⟨left, h⟩) ← readArguments rest₂
      .ok (type :: others, ⟨left, by omega⟩)
    | .mark .greater :: left, h₁ => .ok ([type], ⟨left, by simp at h₁; omega⟩)
    | _, _ => .error .noArgumentSeparator
termination_by 3 * tokens.length + 2
end

/-- The type expression that a row of tokens writes. -/
def ofTokens (tokens : List TyToken) : Except TySyntaxError Expr :=
  match readType tokens with
  | .error e => .error e
  | .ok (e, ⟨[], _⟩) => .ok e
  | .ok (_, ⟨token :: _, _⟩) => .error (.trailing token.text)

/-- The type expression that a text writes. -/
def read (text : String) : Except TySyntaxError Expr :=
  let chars := Text.trimRight text.toList
  match TyToken.readAll chars with
  | .error left => .error (.invalidCharacter (String.ofList chars) (chars.length - left))
  | .ok tokens => ofTokens tokens

end Expr

end CrateHeader

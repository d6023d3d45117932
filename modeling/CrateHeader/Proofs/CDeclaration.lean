import CrateHeader.Identifier.RenameRule
import CrateHeader.Text.Alphanumeric
import Mathlib

/-!
# Reading C declarations

The part of C's grammar by which one thing is declared: specifiers, then a declarator of prefix pointers
around an identifier, around nothing or around a declarator in parentheses, with array lengths and parameter
lists behind it. What is read is the identifier and its type as written, no parameter adjusted to a pointer.
The text between the brackets of an array counts as one token, and of the specifiers only `const` and those of
types are known.
-/

namespace CrateHeader

/-- A type of C; `const` belongs to the type itself, not to what it points to. -/
inductive CType where
  | base (isConst : Bool) (name : String)
  | pointer (isConst : Bool) (target : CType)
  | array (element : CType) (length : String)
  | function (params : List (Option String × CType)) (variadic : Bool) (result : CType)
  deriving Inhabited, Repr

inductive CToken where
  | word (s : String)
  | bracketed (length : String)
  | star
  | openParen
  | closeParen
  | comma
  | ellipsis
  deriving DecidableEq, Repr

namespace CToken

/-- One token at the front of a text without leading white space, and what follows it. -/
def readOne? : List Char → Option (CToken × List Char)
  | '*' :: rest => some (star, rest)
  | '(' :: rest => some (openParen, rest)
  | ')' :: rest => some (closeParen, rest)
  | ',' :: rest => some (comma, rest)
  | '.' :: '.' :: '.' :: rest => some (ellipsis, rest)
  | '[' :: rest =>
    match rest.dropWhile (· != ']') with
    | _ :: after => some (bracketed (String.ofList (rest.takeWhile (· != ']'))), after)
    | [] => none
  | c :: rest =>
    if Text.isNameStart c then
      some (word (String.ofList (c :: rest.takeWhile Text.isNameChar)), rest.dropWhile Text.isNameChar)
    else none
  | [] => none

theorem length_readOne? {s r : List Char} {t : CToken} (h : readOne? s = some (t, r)) :
    r.length < s.length := by
  unfold readOne? at h
  split at h
  case h_5 =>
    cases h
    simp only [List.length_cons]
    omega
  case h_6 rest =>
    have hsuffix := (List.dropWhile_suffix (l := rest) (· != ']')).length_le
    split at h
    · next after hafter =>
      cases h
      rw [hafter] at hsuffix
      simp only [List.length_cons] at hsuffix ⊢
      omega
    · cases h
  case h_7 c rest _ _ _ _ _ _ =>
    have hsuffix := (List.dropWhile_suffix (l := rest) Text.isNameChar).length_le
    split at h
    · cases h
      simp only [List.length_cons]
      omega
    · cases h
  case h_8 => cases h
  -- Stars, parentheses and commas are one character each.
  all_goals
    cases h
    simp

/-- The tokens of a text. -/
def readAll (s : List Char) : Option (List CToken) :=
  if s.dropWhile Char.isWhitespace = [] then some []
  else
    match h : readOne? (s.dropWhile Char.isWhitespace) with
    | none => none
    | some (token, rest) =>
      have : rest.length < s.length :=
        Nat.lt_of_lt_of_le (length_readOne? h) (List.dropWhile_suffix _).length_le
      (readAll rest).map (token :: ·)
termination_by s.length

end CToken

/-- Does a text have the form of a name? -/
def isWord (s : String) : Bool :=
  match s.toList with
  | c :: rest => Text.isNameStart c && rest.all Text.isNameChar
  | [] => false

/-- A name that C leaves to its users. -/
def isCIdentifier (s : String) : Bool := isWord s && !cKeywords.contains s

namespace CType

/-- The keywords that name types, alone or several together. -/
def typeWords : List String :=
  ["void", "bool", "_Bool", "char", "short", "int", "long", "float", "double", "signed", "unsigned"]

/-- Does a word go on naming the type that the words so far name? Only type keywords go together. -/
def continues (held : List String) (s : String) : Bool :=
  if typeWords.contains s then held.all typeWords.contains else held.isEmpty && !cKeywords.contains s

/-- The specifiers in front of a declarator, `const` apart from the words that name the type. -/
def readSpecifiers (isConst : Bool) (held : List String) :
    List CToken → (Bool × List String) × List CToken
  | .word s :: rest =>
    if s = "const" then readSpecifiers true held rest
    else if continues held s then readSpecifiers isConst (held ++ [s]) rest
    else ((isConst, held), .word s :: rest)
  | tokens => ((isConst, held), tokens)

theorem length_readSpecifiers (isConst : Bool) (held : List String) (tokens : List CToken) :
    (readSpecifiers isConst held tokens).2.length ≤ tokens.length := by
  induction tokens generalizing isConst held with
  | nil => exact Nat.le_refl _
  | cons t rest ih =>
    unfold readSpecifiers
    split
    · next s tail heq =>
      cases heq
      split
      · exact Nat.le_succ_of_le (ih _ _)
      · split
        · exact Nat.le_succ_of_le (ih _ _)
        · exact Nat.le_refl _
    · exact Nat.le_refl _

/-- Do tokens behind a parenthesis belong to a parameter list rather than to a declarator? That depends on
which names are those of types. -/
def startsParams (types : String → Bool) : List CToken → Bool
  | .word s :: _ => s == "const" || typeWords.contains s || types s
  | .closeParen :: _ => true
  | .ellipsis :: _ => true
  | _ => false

/-- A parameter list that consists of `void` alone is empty. -/
def withoutVoid : List (Option String × CType) → List (Option String × CType)
  | [(none, base false "void")] => []
  | params => params

abbrev Reading (α : Type) (tokens : List CToken) :=
  Option (α × { rest : List CToken // rest.length ≤ tokens.length })

mutual
/-- A declarator: the identifier in it and what it makes of the type in front of it. -/
def readDeclarator (types : String → Bool) (tokens : List CToken) :
    Reading (Option String × (CType → CType)) tokens :=
  match tokens with
  | .star :: .word "const" :: rest => do
    let ((ident, make), ⟨left, h⟩) ← readDeclarator types rest
    some ((ident, fun t => make (pointer true t)), ⟨left, by simp; omega⟩)
  | .star :: rest => do
    let ((ident, make), ⟨left, h⟩) ← readDeclarator types rest
    some ((ident, fun t => make (pointer false t)), ⟨left, by simp; omega⟩)
  | tokens => readDirect types tokens
termination_by 5 * tokens.length + 2

/-- A declarator that begins with no pointer. -/
def readDirect (types : String → Bool) (tokens : List CToken) :
    Reading (Option String × (CType → CType)) tokens :=
  match tokens with
  | .word s :: rest =>
    if cKeywords.contains s then none
    else do
      let (make, ⟨left, h⟩) ← readPostfix types rest
      some ((some s, make), ⟨left, by simp; omega⟩)
  | .openParen :: rest =>
    if startsParams types rest then do
      let (make, left) ← readPostfix types (.openParen :: rest)
      some ((none, make), left)
    else do
      let ((ident, inner), ⟨rest₁, h₁⟩) ← readDeclarator types rest
      match rest₁, h₁ with
      | .closeParen :: rest₂, h₁ => do
        have : rest₂.length < rest.length := by simp at h₁; omega
        let (outer, ⟨left, h⟩) ← readPostfix types rest₂
        some ((ident, fun t => inner (outer t)), ⟨left, by simp; omega⟩)
      | _, _ => none
  | tokens => do
    let (make, left) ← readPostfix types tokens
    some ((none, make), left)
termination_by 5 * tokens.length + 1

/-- Array lengths and parameter lists. -/
def readPostfix (types : String → Bool) (tokens : List CToken) : Reading (CType → CType) tokens :=
  match tokens with
  | .bracketed length :: rest => do
    let (make, ⟨left, h⟩) ← readPostfix types rest
    some (fun t => array (make t) length, ⟨left, by simp; omega⟩)
  | .openParen :: rest => do
    let ((params, variadic), ⟨rest₁, h₁⟩) ← readParams types rest
    let (make, ⟨left, h⟩) ← readPostfix types rest₁
    some (fun t => function (withoutVoid params) variadic (make t), ⟨left, by simp; omega⟩)
  | tokens => some (id, ⟨tokens, Nat.le_refl _⟩)
termination_by 5 * tokens.length

/-- Parameters up to and with the closing parenthesis, and whether any number of others may follow. -/
def readParams (types : String → Bool) (tokens : List CToken) :
    Reading (List (Option String × CType) × Bool) tokens :=
  match tokens with
  | .ellipsis :: .closeParen :: rest => some (([], true), ⟨rest, by simp; omega⟩)
  | tokens => do
    let (param, ⟨rest₁, h₁⟩) ← readDeclaration types tokens
    match rest₁, h₁ with
    | .comma :: rest₂, h₁ => do
      have : rest₂.length < tokens.length := by simp at h₁; omega
      let ((params, variadic), ⟨left, h⟩) ← readParams types rest₂
      some ((param :: params, variadic), ⟨left, by omega⟩)
    | .closeParen :: left, h₁ => some (([param], false), ⟨left, by simp at h₁; omega⟩)
    | _, _ => none
termination_by 5 * tokens.length + 4

/-- Specifiers with their declarator. -/
def readDeclaration (types : String → Bool) (tokens : List CToken) :
    Reading (Option String × CType) tokens :=
  have := length_readSpecifiers false [] tokens
  if (readSpecifiers false [] tokens).1.2 = [] then none
  else do
    let ((ident, make), ⟨left, h⟩) ← readDeclarator types (readSpecifiers false [] tokens).2
    let (isConst, words) := (readSpecifiers false [] tokens).1
    some ((ident, make (base isConst (" ".intercalate words))), ⟨left, by omega⟩)
termination_by 5 * tokens.length + 3
end

/-- The identifier, if there is one, and the type that a text declares. -/
def read? (types : String → Bool) (text : String) : Option (Option String × CType) := do
  let tokens ← CToken.readAll text.toList
  let (declared, ⟨rest, _⟩) ← readDeclaration types tokens
  if rest = [] then some declared else none

example : read? (· == "Plug") "int (*(*f)(Plug, const char *, ...))[3]" =
    some (some "f", pointer false (function [(none, base false "Plug"),
      (none, pointer false (base true "char"))] true (pointer false (array (base false "int") "3")))) := by
  cbv

end CType

end CrateHeader

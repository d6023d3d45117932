import CrateHeader.Terminal.Emoji
import CrateHeader.Terminal.Literal
import CrateHeader.Terminal.Style
import CrateHeader.Text.Alphanumeric

/-!
# Markup

Text for a terminal may hold tags in brackets, which open a style or close one that is open. Of the
backslashes in front of a tag every second one is shown, and with an odd number of them the tag is text.
Escaping doubles these backslashes and adds one, so that every tag is text.
-/

namespace CrateHeader.Terminal

/-- A part of a text: what stands between tags, or a tag behind some backslashes. -/
inductive Segment where
  | plain (chars : List Char)
  | tag (slashes : Nat) (body : List Char)
  deriving DecidableEq, Repr

namespace Segment

def bracketed (body : List Char) : List Char := '[' :: (body ++ [']'])

def isTagStart (c : Char) : Bool := ('a' ≤ c && c ≤ 'z') || c == '#' || c == '/' || c == '@'

def isBracket (c : Char) : Bool := c == '[' || c == ']'

/-- The inside of a tag behind its opening bracket, and what follows the closing one. -/
def readTag? : List Char → Option (List Char × List Char)
  | [] => none
  | c :: rest =>
    if isTagStart c then
      match rest.dropWhile fun c => !isBracket c with
      | ']' :: left => some (c :: rest.takeWhile fun c => !isBracket c, left)
      | _ => none
    else none

theorem eq_of_readTag? {s body left : List Char} (h : readTag? s = some (body, left)) :
    s = body ++ ']' :: left := by
  cases s with
  | nil => cases h
  | cons c rest =>
    simp only [readTag?] at h
    split at h
    · split at h
      · next heq =>
        cases h
        rw [List.cons_append, ← heq, List.takeWhile_append_dropWhile]
      · cases h
    · cases h

theorem length_lt_of_readTag? {s body left : List Char} (h : readTag? s = some (body, left)) :
    left.length < s.length := by
  rw [eq_of_readTag? h, List.length_append, List.length_cons]
  omega

/-- A text in its segments. `held` has the characters in front, last one first, and `slashes` counts the
backslashes behind them. -/
def split (held : List Char) (slashes : Nat) : List Char → List Segment
  | [] => [plain (held.reverse ++ List.replicate slashes '\\')]
  | c :: rest =>
    if c = '\\' then split held (slashes + 1) rest
    else if c = '[' then
      match h : readTag? rest with
      | some (body, left) =>
        have : left.length < rest.length := length_lt_of_readTag? h
        plain held.reverse :: tag slashes body :: split [] 0 left
      | none => split (c :: (List.replicate slashes '\\' ++ held)) 0 rest
    else split (c :: (List.replicate slashes '\\' ++ held)) 0 rest
termination_by s => s.length

end Segment

def segments (s : List Char) : List Segment := Segment.split [] 0 s

/-! ### Escaping -/

def Segment.escaped : Segment → List Char
  | plain chars => chars
  | tag slashes body => List.replicate (2 * slashes + 1) '\\' ++ bracketed body

/-- A text as markup that shows it. A single backslash at the end is doubled too, for the tag that may
follow. -/
def escape (s : String) : String :=
  let escaped := (segments s.toList).flatMap Segment.escaped
  String.ofList <| match escaped.reverse with
    | '\\' :: '\\' :: _ => escaped
    | '\\' :: _ => escaped ++ ['\\']
    | _ => escaped

/-! ### Showing -/

/-- What is wrong with a closing tag. -/
inductive MarkupError where
  | nothingOpen
  | notOpen (style : String)
  /-- A tag that names an action is closed, and what the action takes cannot be read. -/
  | malformedAction (parameters : String)
  deriving DecidableEq, Repr

/-- A style that is open, with what stands behind the equals sign of its tag. -/
structure OpenStyle where
  name : String
  parameters : List Char
  deriving DecidableEq, Repr

/-- A dotted word, perhaps with a literal in parentheses behind it, or a literal alone. -/
def isAction (parameters : List Char) : Bool :=
  let action := Text.trim parameters
  let taken := action.dropWhile fun c => Text.isWordChar c || c == '.'
  if taken = [] then true
  else if taken.head? = some '(' ∧ taken.getLast? = some ')' ∧ '\n' ∉ taken then isLiteral taken
  else isLiteral action

def OpenStyle.close (o : OpenStyle) : Except MarkupError Unit :=
  if o.name.toList.head? = some '@' ∧ o.parameters ≠ [] ∧ ¬ isAction o.parameters then
    .error (.malformedAction (String.ofList o.parameters))
  else .ok ()

/-- The open styles without the one that was opened last under a name. -/
def takeOpen? (name : String) : List OpenStyle → Option (OpenStyle × List OpenStyle)
  | [] => none
  | o :: rest =>
    if o.name = name then some (o, rest)
    else (takeOpen? name rest).map fun (found, others) => (found, o :: others)

/-- The styles that are open behind a tag, the last one first. -/
def applyTag (stack : List OpenStyle) (body : List Char) : Except MarkupError (List OpenStyle) := do
  let name := body.takeWhile (· != '=')
  match name with
  | '/' :: closed =>
    let closed := Text.trim closed
    let left := if closed = [] then stack.head?.map fun o => (o, stack.tail)
      else takeOpen? (Style.normalized closed) stack
    match left with
    | some (o, left) =>
      o.close
      .ok left
    | none => .error (if closed = [] then .nothingOpen else .notOpen (String.ofList closed))
  | name => .ok (⟨Style.normalized name, (body.dropWhile (· != '=')).tail⟩ :: stack)

/-- Controls that are not shown: bell, backspace, the two vertical feeds and the return. -/
def isHidden (c : Char) : Bool := [7, 8, 11, 12, 13].contains c.toNat

/-- An opening bracket that starts no tag may have a backslash in front. -/
def unescapeBrackets : List Char → List Char
  | '\\' :: '[' :: rest => '[' :: unescapeBrackets rest
  | c :: rest => c :: unescapeBrackets rest
  | [] => []

def shownChars (s : List Char) : List Char :=
  (Emoji.substitute (unescapeBrackets s)).filter fun c => !isHidden c

/-- What is shown of a text, with the styles that are open. -/
def render (stack : List OpenStyle) : List Segment → Except MarkupError (List Char)
  | [] => .ok []
  | .plain chars :: rest => (render stack rest).map (shownChars chars ++ ·)
  | .tag slashes body :: rest => do
    let shown := List.replicate (slashes / 2) '\\'
    if slashes % 2 = 1 then
      let left ← render stack rest
      .ok (shown ++ shownChars (Segment.bracketed body) ++ left)
    else
      let left ← render (← applyTag stack body) rest
      .ok (shown ++ left)

/-- What a terminal shows of a text with markup. -/
def shown (s : String) : Except MarkupError String :=
  (render [] (segments s.toList)).map String.ofList

end CrateHeader.Terminal

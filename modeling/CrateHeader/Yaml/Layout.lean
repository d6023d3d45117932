import CrateHeader.Yaml.Token

/-!
# The layout of a text

Blocks are opened and closed by indentation, and a key is known only by the colon behind it. So the tokens of
a text are found together with the columns of the open blocks and with the places where a key may have
started; when its colon comes, the marks of the key, and of the mapping that it may be the first key of, are
put in at that place. A key without brackets or a question mark fits on one line and is not very long.
-/

namespace CrateHeader.Yaml

/-- A place in a text. -/
structure Place where
  index : Nat
  line : Nat
  column : Nat
  deriving DecidableEq, Repr

namespace Place

def start : Place := ⟨0, 0, 0⟩

/-- The mark of byte order takes no column. -/
def step (p : Place) (c : Char) : Place :=
  if isBreak c then ⟨p.index + 1, p.line + 1, 0⟩
  else ⟨p.index + 1, p.line, if c = '\ufeff' then p.column else p.column + 1⟩

def past (p : Place) (chars : List Char) : Place := chars.foldl step p

end Place

/-- What may turn out to be a key, and how many tokens are in front of it. A key is required where a block
mapping can go on with nothing else. -/
structure PendingKey where
  position : Nat
  isRequired : Bool
  place : Place
  deriving DecidableEq, Repr

/-- The most characters of a key. -/
def keyLimit : Nat := 1024

/-- Is it too late for a key to end? -/
def PendingKey.isOver (here : Place) (k : PendingKey) : Bool :=
  k.place.line != here.line || keyLimit < here.index - k.place.index

/-- The state of reading tokens. -/
structure Layout where
  place : Place
  /-- The tokens so far, the last one first. -/
  tokens : List Token
  /-- The columns of the open blocks, the innermost first. -/
  columns : List Nat
  /-- What may turn out to be a key inside the innermost brackets, or outside of all. -/
  pending : Option PendingKey
  /-- The same for the open brackets further out. -/
  outer : List (Option PendingKey)
  /-- May a key start here? -/
  keyAllowed : Bool

namespace Layout

def start : Layout := ⟨.start, [], [], none, [], true⟩

def inFlow (l : Layout) : Bool := !l.outer.isEmpty

def push (t : Token) (l : Layout) : Layout := { l with tokens := t :: l.tokens }

/-- Puts a token behind the first few. -/
def insert (t : Token) (position : Nat) (l : Layout) : Layout :=
  let behind := l.tokens.length - position
  { l with tokens := l.tokens.take behind ++ t :: l.tokens.drop behind }

def allow (isAllowed : Bool) (l : Layout) : Layout := { l with keyAllowed := isAllowed }

/-! ### Blocks -/

/-- Closes the blocks that are open at some columns. Brackets keep them open. -/
def closeBlocks (isOver : Nat → Bool) (l : Layout) : Layout :=
  if l.inFlow then l
  else { l with
    tokens := List.replicate (l.columns.takeWhile isOver).length .blockEnd ++ l.tokens
    columns := l.columns.dropWhile isOver }

/-- Does a block open at a column? -/
def opensAt (column : Nat) (l : Layout) : Bool := !l.inFlow && l.columns.head?.all fun c => decide (c < column)

/-- Opens a block at a column, with a token behind the first few, unless one is open there. -/
def openBlock (t : Token) (position column : Nat) (l : Layout) : Layout :=
  if l.opensAt column then { l.insert t position with columns := column :: l.columns } else l

/-- Opens a block at the place that has been reached. -/
def openHere (t : Token) (l : Layout) : Layout := l.openBlock t l.tokens.length l.place.column

/-! ### Keys -/

/-- Gives up what may turn out to be a key. -/
def dropKey (l : Layout) : Option Layout :=
  if l.pending.any (·.isRequired) then none else some { l with pending := none }

/-- Notes that a key may start here. -/
def noteKey (l : Layout) : Option Layout :=
  if l.keyAllowed then
    let isRequired := !l.inFlow && l.columns.head? == some l.place.column
    l.dropKey.map fun l => { l with pending := some ⟨l.tokens.length, isRequired, l.place⟩ }
  else some l

/-- Gives up what can no longer become a key, one of those noted. -/
def forget (here : Place) : Option PendingKey → Option (Option PendingKey)
  | none => some none
  | some k => if k.isOver here then if k.isRequired then none else some none else some (some k)

def forgetKeys (l : Layout) : Option Layout := do
  let pending ← forget l.place l.pending
  let outer ← l.outer.mapM (forget l.place)
  some { l with pending, outer }

/-! ### Tokens -/

def openFlow (t : Token) (l : Layout) : Option Layout :=
  l.noteKey.map fun l => { l.push t with pending := none, outer := l.pending :: l.outer, keyAllowed := true }

def closeFlow (t : Token) (l : Layout) : Option Layout :=
  match l.outer with
  | [] => none
  | pending :: outer =>
    l.dropKey.map fun l => { l.push t with pending, outer, keyAllowed := false }

def addFlowEntry (l : Layout) : Option Layout := l.dropKey.map fun l => (l.push .flowEntry).allow true

def addBlockEntry (l : Layout) : Option Layout :=
  if !l.inFlow && !l.keyAllowed then none
  else (l.openHere .blockSequenceStart).dropKey.map fun l => (l.push .blockEntry).allow true

def addKey (l : Layout) : Option Layout :=
  if !l.inFlow && !l.keyAllowed then none
  else (l.openHere .blockMappingStart).dropKey.map fun l => (l.push .key).allow !l.inFlow

/-- The colon behind a key, which may have no text. -/
def addValue (l : Layout) : Option Layout :=
  match l.pending with
  | some k =>
    let keyed := { l.insert .key k.position with pending := none }
    some (((keyed.openBlock .blockMappingStart k.position k.place.column).push .value).allow false)
  | none =>
    if !l.inFlow && !l.keyAllowed then none
    else some (((l.openHere .blockMappingStart).push .value).allow !l.inFlow)

/-- A token that may be a key or the front of one. -/
def addNode (t : Token) (l : Layout) : Option Layout := l.noteKey.map fun l => (l.push t).allow false

/-- A marker between documents, or a directive; all blocks are closed by it. -/
def addMark (t : Token) (l : Layout) : Option Layout :=
  (l.closeBlocks fun _ => true).dropKey.map fun l => (l.push t).allow false

/-- How far the lines of a scalar have to be indented, at least. -/
def indent (l : Layout) : Nat := (l.columns.head?.map (· + 1)).getD 0

/-- The signs that no plain scalar starts with. -/
def indicators : List Char := "-?:,[]\x7b\x7d#&*!|>'\"%@\x60".toList

def startsPlain (inFlow : Bool) (c : Char) (rest : List Char) : Bool :=
  (!isSeparator c && !indicators.contains c) ||
    (!endsWord rest && (c == '-' || (!inFlow && (c == '?' || c == ':'))))

/-- Reads a token of several characters from its first one on. -/
def readLong (l : Layout) (c : Char) (rest : List Char) : Option (Layout × List Char) :=
  if c = '*' then do
    let (name, ⟨left, _⟩) ← readName rest
    some (← l.addNode (.alias name), left)
  else if c = '&' then do
    let (name, ⟨left, _⟩) ← readName rest
    some (← l.addNode (.anchor name), left)
  else if c = '!' then do
    let (t, left) ← readTag (c :: rest)
    some (← l.addNode (.tag t), left)
  else if (c = '|' ∨ c = '>') ∧ ¬ l.inFlow then do
    let (chars, left) ← readBlock (c == '>') (max l.indent 1) rest
    some ((← l.dropKey).push (.scalar false (String.ofList chars)) |>.allow true, left)
  else if c = '\'' ∨ c = '"' then do
    let (chars, ⟨left, _⟩) ← readQuoted c rest
    some (← l.addNode (.scalar false (String.ofList chars)), left)
  else if startsPlain l.inFlow c rest then do
    let (plain, ⟨left, _⟩) ← readPlain l.inFlow l.indent (c :: rest)
    some ((← l.addNode (.scalar true (String.ofList plain.chars))).allow plain.isBroken, left)
  else none

/-- Reads one token, from its first character on. -/
def readToken (l : Layout) (c : Char) (rest : List Char) : Option (Layout × List Char) :=
  let isWord := endsWord rest
  if c = '%' ∧ l.place.column = 0 then do
    let (d, left) ← readDirective rest
    some (← l.addMark (.directive d), left)
  else if l.place.column = 0 ∧ isMarker (c :: rest) then
    (l.addMark (if c = '-' then .documentStart else .documentEnd)).map fun l => (l, rest.drop 2)
  else if c = '[' then (l.openFlow .flowSequenceStart).map (·, rest)
  else if c = '\x7b' then (l.openFlow .flowMappingStart).map (·, rest)
  else if c = ']' then (l.closeFlow .flowSequenceEnd).map (·, rest)
  else if c = '\x7d' then (l.closeFlow .flowMappingEnd).map (·, rest)
  else if c = ',' then l.addFlowEntry.map (·, rest)
  else if c = '-' ∧ isWord then l.addBlockEntry.map (·, rest)
  else if c = '?' ∧ (l.inFlow ∨ isWord) then l.addKey.map (·, rest)
  else if c = ':' ∧ (l.inFlow ∨ isWord) then l.addValue.map (·, rest)
  else l.readLong c rest

/-- Leaves out blanks and comments. Behind a line break a key may start. -/
def skip (l : Layout) (s : List Char) : Layout × List Char :=
  let left := skipIgnored false s
  let skipped := consumed s left
  ({ l with
      place := l.place.past skipped
      keyAllowed := l.keyAllowed || (!l.inFlow && skipped.any isBreak) }, left)

/-- Reads all tokens. -/
def readAll (l : Layout) (s : List Char) : Option (List Token) := do
  let (l, left) := l.skip s
  let l ← l.forgetKeys
  let l := l.closeBlocks fun column => decide (l.place.column < column)
  match left with
  | [] => (l.closeBlocks fun _ => true).dropKey.map (·.tokens.reverse)
  | c :: rest =>
    let (next, behind) ← l.readToken c rest
    if behind.length < s.length then
      readAll { next with place := l.place.past (consumed left behind) } behind
    else none
termination_by s.length

end Layout

/-- The tokens of a text. -/
def tokens? (s : List Char) : Option (List Token) :=
  if s.all isAllowed then
    Layout.start.readAll (if s.head? = some '\ufeff' then s.tail else s)
  else none

end CrateHeader.Yaml

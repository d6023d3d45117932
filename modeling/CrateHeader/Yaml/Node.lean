import CrateHeader.Yaml.Token

/-!
# Nodes

A document is a node: a scalar, a sequence or a mapping, perhaps with an anchor and a tag, or an alias for
a node with an anchor. Collections are written in blocks or in brackets. A part that is missing, such as the
value of a key with nothing behind its colon, is an empty scalar.
-/

namespace CrateHeader.Yaml

structure Properties where
  anchor : Option String
  tag : Option Tag
  deriving DecidableEq, Repr

def Properties.bare : Properties := ⟨none, none⟩

inductive Node where
  | alias (name : String)
  | scalar (properties : Properties) (isPlain : Bool) (text : String)
  | sequence (properties : Properties) (items : List Node)
  | mapping (properties : Properties) (entries : List (Node × Node))
  deriving Inhabited

namespace Node

/-- A node that is not there. -/
def empty : Node := .scalar .bare true ""

/-- Anchor and tag at the front of some tokens, in either order, and the rest. -/
def readProperties : List Token → Properties × List Token
  | .anchor name :: .tag t :: rest => (⟨some name, some t⟩, rest)
  | .tag t :: .anchor name :: rest => (⟨some name, some t⟩, rest)
  | .anchor name :: rest => (⟨some name, none⟩, rest)
  | .tag t :: rest => (⟨none, some t⟩, rest)
  | rest => (.bare, rest)

theorem length_readProperties_le (ts : List Token) : (readProperties ts).2.length ≤ ts.length := by
  unfold readProperties
  split <;> simp <;> omega

/-- Is the next token one of some? -/
def isNext (wanted : List Token) (ts : List Token) : Bool := ts.head?.any wanted.contains

/-- What is left behind the comma in front of every item of a collection in brackets but the first. -/
def behindComma (isFirst : Bool) (ts : List Token) : Option { rest : List Token // rest.length ≤ ts.length } :=
  if isFirst then some ⟨ts, by simp⟩
  else match ts with
    | .flowEntry :: rest => some ⟨rest, by simp⟩
    | _ => none

/-- How a node may be written where it stands. -/
inductive Position where
  | flow
  | block
  /-- In a block mapping, where the items of a sequence need no block of their own. -/
  | entry
  deriving DecidableEq, Repr

/-- What comes behind the key of a block mapping's entry, or behind its value, when that is missing. -/
def entryEnds : List Token := [.key, .value, .blockEnd]

mutual

/-- Reads a node. -/
def read (position : Position) (ts : List Token) : Reading Node ts :=
  match ts with
  | .alias name :: rest => some (.alias name, ⟨rest, by simp⟩)
  | ts =>
    let properties := (readProperties ts).1
    have hle := length_readProperties_le ts
    let bare : Reading Node ts :=
      if h : (readProperties ts).2.length < ts.length then
        some (.scalar properties true "", ⟨(readProperties ts).2, h⟩)
      else none
    match hp : (readProperties ts).2 with
    | .scalar isPlain text :: rest =>
      have hlt : rest.length < ts.length := by rw [hp, List.length_cons] at hle; omega
      some (.scalar properties isPlain text, ⟨rest, hlt⟩)
    | .flowSequenceStart :: rest => do
      have hlt : rest.length < ts.length := by rw [hp, List.length_cons] at hle; omega
      let (items, ⟨left, h⟩) ← readFlowItems true rest
      some (.sequence properties items, ⟨left, by omega⟩)
    | .flowMappingStart :: rest => do
      have hlt : rest.length < ts.length := by rw [hp, List.length_cons] at hle; omega
      let (entries, ⟨left, h⟩) ← readFlowEntries true rest
      some (.mapping properties entries, ⟨left, by omega⟩)
    | .blockSequenceStart :: rest =>
      have hlt : rest.length < ts.length := by rw [hp, List.length_cons] at hle; omega
      if position = .flow then bare
      else do
        let (items, ⟨left, h⟩) ← readBlockItems rest
        some (.sequence properties items, ⟨left, by omega⟩)
    | .blockMappingStart :: rest =>
      have hlt : rest.length < ts.length := by rw [hp, List.length_cons] at hle; omega
      if position = .flow then bare
      else do
        let (entries, ⟨left, h⟩) ← readBlockEntries rest
        some (.mapping properties entries, ⟨left, by omega⟩)
    | .blockEntry :: rest =>
      have hlt : rest.length < ts.length := by rw [hp, List.length_cons] at hle; omega
      if position = .entry then do
        let (item, ⟨left, h⟩) ← readPart .block (.blockEntry :: entryEnds) rest
        let (items, ⟨left', h'⟩) ← readMoreItems left
        some (.sequence properties (item :: items), ⟨left', by omega⟩)
      else bare
    | _ => bare
termination_by 4 * ts.length

/-- Reads a node that may be missing in front of some tokens. -/
def readPart (position : Position) (ends : List Token) (ts : List Token) :
    Option (Node × { rest : List Token // rest.length ≤ ts.length }) :=
  if isNext ends ts then some (.empty, ⟨ts, by simp⟩)
  else do
    let (node, ⟨left, h⟩) ← read position ts
    some (node, ⟨left, by omega⟩)
termination_by 4 * ts.length + 1

/-- Reads the value of a key. -/
def readValue (position : Position) (ends : List Token) (ts : List Token) :
    Option (Node × { rest : List Token // rest.length ≤ ts.length }) :=
  match ts with
  | .value :: rest => do
    let (node, ⟨left, h⟩) ← readPart position ends rest
    some (node, ⟨left, by simp; omega⟩)
  | ts => some (.empty, ⟨ts, by simp⟩)
termination_by 4 * ts.length + 2

/-- Reads the items of a block sequence up to its end. -/
def readBlockItems (ts : List Token) : Reading (List Node) ts :=
  match ts with
  | .blockEnd :: rest => some ([], ⟨rest, by simp⟩)
  | .blockEntry :: rest => do
    let (item, ⟨left, h⟩) ← readPart .block [.blockEntry, .blockEnd] rest
    let (items, ⟨left', h'⟩) ← readBlockItems left
    some (item :: items, ⟨left', by simp; omega⟩)
  | _ => none
termination_by 4 * ts.length + 3

/-- Reads the items but the first of a sequence that has no block of its own. -/
def readMoreItems (ts : List Token) : Option (List Node × { rest : List Token // rest.length ≤ ts.length }) :=
  match ts with
  | .blockEntry :: rest => do
    let (item, ⟨left, h⟩) ← readPart .block (.blockEntry :: entryEnds) rest
    let (items, ⟨left', h'⟩) ← readMoreItems left
    some (item :: items, ⟨left', by simp; omega⟩)
  | ts => some ([], ⟨ts, by simp⟩)
termination_by 4 * ts.length + 3

/-- Reads the entries of a block mapping up to its end. -/
def readBlockEntries (ts : List Token) : Reading (List (Node × Node)) ts :=
  match ts with
  | .blockEnd :: rest => some ([], ⟨rest, by simp⟩)
  | .key :: rest => do
    let (key, ⟨left, h⟩) ← readPart .entry entryEnds rest
    let (value, ⟨left', h'⟩) ← readValue .entry entryEnds left
    let (entries, ⟨left₂, h₂⟩) ← readBlockEntries left'
    some ((key, value) :: entries, ⟨left₂, by simp; omega⟩)
  | _ => none
termination_by 4 * ts.length + 3

/-- Reads the items of a sequence in brackets up to its end. An item may be a mapping of a single entry. -/
def readFlowItems (isFirst : Bool) (ts : List Token) : Reading (List Node) ts :=
  match ts with
  | .flowSequenceEnd :: rest => some ([], ⟨rest, by simp⟩)
  | ts => do
    let ⟨here, hh⟩ ← behindComma isFirst ts
    match here, hh with
    | .flowSequenceEnd :: rest, hh => some ([], ⟨rest, Nat.lt_of_succ_le hh⟩)
    | .key :: rest, hh => do
      have hlt : rest.length < ts.length := Nat.lt_of_succ_le hh
      let (key, ⟨left, h⟩) ← readPart .flow [.value, .flowEntry, .flowSequenceEnd] rest
      let (value, ⟨left', h'⟩) ← readValue .flow [.flowEntry, .flowSequenceEnd] left
      let (items, ⟨left₂, h₂⟩) ← readFlowItems false left'
      some (.mapping .bare [(key, value)] :: items, ⟨left₂, by omega⟩)
    | here, hh => do
      let (item, ⟨left, h⟩) ← read .flow here
      let (items, ⟨left', h'⟩) ← readFlowItems false left
      some (item :: items, ⟨left', by omega⟩)
termination_by 4 * ts.length + 3

/-- Reads the entries of a mapping in braces up to its end. -/
def readFlowEntries (isFirst : Bool) (ts : List Token) : Reading (List (Node × Node)) ts :=
  match ts with
  | .flowMappingEnd :: rest => some ([], ⟨rest, by simp⟩)
  | ts => do
    let ⟨here, hh⟩ ← behindComma isFirst ts
    match here, hh with
    | .flowMappingEnd :: rest, hh => some ([], ⟨rest, Nat.lt_of_succ_le hh⟩)
    | .key :: rest, hh => do
      have hlt : rest.length < ts.length := Nat.lt_of_succ_le hh
      let (key, ⟨left, h⟩) ← readPart .flow [.value, .flowEntry, .flowMappingEnd] rest
      let (value, ⟨left', h'⟩) ← readValue .flow [.flowEntry, .flowMappingEnd] left
      let (entries, ⟨left₂, h₂⟩) ← readFlowEntries false left'
      some ((key, value) :: entries, ⟨left₂, by omega⟩)
    | here, hh => do
      let (key, ⟨left, h⟩) ← read .flow here
      let (entries, ⟨left', h'⟩) ← readFlowEntries false left
      some ((key, .empty) :: entries, ⟨left', by omega⟩)
termination_by 4 * ts.length + 3

end

end Node

/-! ### Documents -/

/-- Longer names of the handles of tags. -/
abbrev TagHandles := List (String × String)

def defaultHandles : TagHandles := [("!", "!"), ("!!", "tag:yaml.org,2002:")]

/-- The directives in front of a document; no two may be about the same thing. -/
def readDirectives (versions : Nat) (handles : TagHandles) : List Token → Option (TagHandles × List Token)
  | .directive (.version major) :: rest =>
    if versions = 0 ∧ major = 1 then readDirectives 1 handles rest else none
  | .directive (.tagStart handle start) :: rest =>
    if (handles.lookup handle).isSome then none
    else readDirectives versions ((handle, start) :: handles) rest
  | .directive .other :: rest => readDirectives versions handles rest
  | rest => some (handles ++ defaultHandles, rest)

/-- Does the content of a document end before it has begun? -/
def isContentEnd : List Token → Bool
  | [] | .directive _ :: _ | .documentStart :: _ | .documentEnd :: _ => true
  | _ => false

/-- The only document of a text, with the handles of its tags. -/
def readDocument (ts : List Token) : Option (TagHandles × Node) := do
  let (handles, content) ← match ts with
    | .directive _ :: _ | .documentStart :: _ => do
      let (handles, rest) ← readDirectives 0 [] ts
      match rest with
      | .documentStart :: rest => some (handles, rest)
      | _ => none
    | ts => some (defaultHandles, ts)
  let (node, left) ← if isContentEnd content ∧ (ts = [] ∨ content.length < ts.length) then
      some (Node.empty, content)
    else (Node.read .block content).map fun (node, left) => (node, left.val)
  if left.all (· = .documentEnd) then some (handles, node) else none

end CrateHeader.Yaml

import CrateHeader.Number.Decimal
import CrateHeader.Sorting
import CrateHeader.Text.Quoted

/-!
# Documents

Module files, manifests and settings arrive as documents: nested values of seven kinds, with mappings
in written order. A floating-point number is kept as the decimal that writes it. Where a text is wanted any
value will do, shown as in a message; where a document is used in a way its kind does not support, the
answer is a `Misuse`.
-/

namespace CrateHeader

inductive Document where
  | null
  | bool (value : Bool)
  | int (value : Int)
  | float (text : String)
  | text (value : String)
  | list (items : List Document)
  | mapping (entries : List (Document × Document))
  deriving Inhabited, Repr, BEq

/-- A use that a document's kind does not support. -/
inductive Misuse where
  /-- Null, a boolean or a number taken for a collection. -/
  | iterated
  /-- A mapping or text operation on a value of another kind. -/
  | wrongOperation
  /-- Keys put in order that do not compare. -/
  | incomparable
  /-- A value of another kind joined with texts, or taken for a path. -/
  | notText
  deriving DecidableEq, Repr

namespace Document

def truthy : Document → Bool
  | null => false
  | bool b => b
  | int n => n ≠ 0
  | float t => !t.toList.all fun c => c == '0' || c == '.' || c == '-'
  | text s => s ≠ ""
  | list items => !items.isEmpty
  | mapping entries => !entries.isEmpty

mutual
/-- A value as messages show it, texts in quotes. -/
def shown : Document → String
  | null => "None"
  | bool true => "True"
  | bool false => "False"
  | int n => toString n
  | float t => t
  | text s => Text.quoted s
  | list items => "[" ++ ", ".intercalate (shownItems items) ++ "]"
  | mapping entries => "\x7b" ++ ", ".intercalate (shownEntries entries) ++ "\x7d"

def shownItems : List Document → List String
  | [] => []
  | d :: rest => shown d :: shownItems rest

def shownEntries : List (Document × Document) → List String
  | [] => []
  | (k, v) :: rest => (shown k ++ ": " ++ shown v) :: shownEntries rest
end

/-- A value taken as text: a text stands for itself. -/
def asText : Document → String
  | text s => s
  | d => d.shown

@[simp] theorem asText_text (s : String) : (text s).asText = s := rfl

def isMapping : Document → Bool
  | mapping _ => true
  | _ => false

/-- The value under a text key of a list of entries. -/
def lookup? (entries : List (Document × Document)) (key : String) : Option Document :=
  entries.findSome? fun (k, v) => match k with
    | text s => if s = key then some v else none
    | _ => none

/-- The value under a key, null when the key is missing. -/
def valueAt (entries : List (Document × Document)) (key : String) : Document :=
  (lookup? entries key).getD null

/-- The members of a collection: a text has its characters, a mapping its keys. -/
def members : Document → Except Misuse (List Document)
  | list items => .ok items
  | text s => .ok (s.toList.map fun c => text (String.singleton c))
  | mapping entries => .ok (entries.map Prod.fst)
  | _ => .error .iterated

/-- As `members`, with every empty value standing for no members at all. -/
def membersIfAny (d : Document) : Except Misuse (List Document) :=
  if d.truthy then d.members else .ok []

/-- The entries of a mapping, with every empty value standing for an empty one. -/
def entriesIfAny (d : Document) : Except Misuse (List (Document × Document)) :=
  if d.truthy then
    match d with
    | mapping entries => .ok entries
    | _ => .error .wrongOperation
  else .ok []

/-! ### Order of keys -/

/-- What a number is worth for comparison: a whole number times a power of two, or an infinity. -/
inductive Magnitude where
  | finite (mantissa exponent : Int)
  | infinite (negative : Bool)
  | undefined

/-- The number nearest to a decimal, with its sign. -/
def Magnitude.ofDecimal (negative : Bool) (d : Decimal) : Magnitude :=
  match d.nearest? with
  | some b => finite (if negative then -b.mantissa else b.mantissa) b.exponent
  | none => infinite negative

def magnitude? : Document → Option Magnitude
  | bool b => some (.finite (if b then 1 else 0) 0)
  | int n => some (.finite n 0)
  | float "inf" => some (.infinite false)
  | float "-inf" => some (.infinite true)
  | float "nan" => some .undefined
  | float t => match t.toList with
    | '-' :: l => some (.ofDecimal true (Decimal.read l))
    | l => some (.ofDecimal false (Decimal.read l))
  | _ => none

def Magnitude.less : Magnitude → Magnitude → Bool
  | undefined, _ => false
  | _, undefined => false
  | infinite a, infinite b => a && !b
  | infinite negative, finite _ _ => negative
  | finite _ _, infinite negative => !negative
  | finite m e, finite n f =>
    let low := min e f
    m * Int.pow 2 (e - low).toNat < n * Int.pow 2 (f - low).toNat

/-- Are two keys one and the same? Truth values and numbers are compared by what they are worth. -/
def isSameKey (a b : Document) : Bool :=
  match a.magnitude?, b.magnitude? with
  | some .undefined, _ => false
  | some m, some n => !m.less n && !n.less m
  | _, _ => a == b

/-- The keys of a mapping in rising order: all texts, or all numbers, or a single key. -/
def sortedKeys (entries : List (Document × Document)) : Except Misuse (List Document) :=
  let keys := entries.map Prod.fst
  if keys.length < 2 then .ok keys
  else match keys.mapM fun | text s => some s | _ => none with
    | some texts => .ok ((sortTexts texts).map text)
    | none => match keys.mapM fun k => k.magnitude?.map fun m => (m, k) with
      | some pairs => .ok ((sortByHalving (fun a b => a.1.less b.1) pairs).map Prod.snd)
      | none => .error .incomparable

end Document

end CrateHeader

import CrateHeader.Text.Printable

/-!
# Quoted text

Messages quote the text they talk about. Single quotes stand around it, or double quotes when it has
a single but no double one; the backslash and the chosen quote are escaped, and so is every character
that does not print.
-/

namespace CrateHeader.Text

/-- The last `width` hexadecimal digits of a number. -/
def hexDigits : Nat → Nat → List Char
  | 0, _ => []
  | width + 1, n => hexDigits width (n / 16) ++ [Nat.digitChar (n % 16)]

@[simp] theorem length_hexDigits (width n : Nat) : (hexDigits width n).length = width := by
  induction width generalizing n with
  | zero => rfl
  | succ w ih => simp [hexDigits, ih]

/-- A character by its number, in the shortest of the three widths that holds it. -/
def escapeByNumber (c : Char) : List Char :=
  if c.toNat < 0x100 then '\\' :: 'x' :: hexDigits 2 c.toNat
  else if c.toNat < 0x10000 then '\\' :: 'u' :: hexDigits 4 c.toNat
  else '\\' :: 'U' :: hexDigits 8 c.toNat

def escapeChar (quote c : Char) : List Char :=
  if c = quote ∨ c = '\\' then ['\\', c]
  else if c = '\n' then ['\\', 'n']
  else if c = '\r' then ['\\', 'r']
  else if c = '\t' then ['\\', 't']
  else if isPrintable c then [c]
  else escapeByNumber c

def quoteFor (s : List Char) : Char :=
  if s.contains '\'' && !s.contains '"' then '"' else '\''

def quotedChars (s : List Char) : List Char :=
  let quote := quoteFor s
  quote :: (s.flatMap (escapeChar quote) ++ [quote])

def quoted (s : String) : String := String.ofList (quotedChars s.toList)

end CrateHeader.Text

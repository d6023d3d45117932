import CrateHeader.Text.Intervals

/-!
# Blank characters and trimming

Blanks are the spaces, line ends and separators that Unicode marks as white space, the four
information separators U+001C to U+001F among them. The zero-width space U+200B is not one.
-/

namespace CrateHeader.Text

def isBlank (c : Char) : Bool :=
  inIntervals [9, 14, 28, 33, 133, 134, 160, 161, 5760, 5761,
    8192, 8203, 8232, 8234, 8239, 8240, 8287, 8288, 12288, 12289] c.toNat

def trimLeft (s : List Char) : List Char := s.dropWhile isBlank

def trimRight (s : List Char) : List Char := (s.reverse.dropWhile isBlank).reverse

def trim (s : List Char) : List Char := trimRight (trimLeft s)

@[simp] theorem trimLeft_nil : trimLeft [] = [] := rfl
@[simp] theorem trimRight_nil : trimRight [] = [] := rfl

/-- The runs of characters between blanks; `held` has the characters of the current one, last one first. -/
def wordsFrom (held : List Char) : List Char → List String
  | [] => if held = [] then [] else [String.ofList held.reverse]
  | c :: rest =>
    if isBlank c then (if held = [] then [] else [String.ofList held.reverse]) ++ wordsFrom [] rest
    else wordsFrom (c :: held) rest

def words (s : List Char) : List String := wordsFrom [] s

def strip (s : String) : String := String.ofList (trim s.toList)

def stripRight (s : String) : String := String.ofList (trimRight s.toList)

end CrateHeader.Text

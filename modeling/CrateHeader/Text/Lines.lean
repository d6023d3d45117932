/-!
# Lines and pieces

A text splits at every occurrence of a character, so one that ends in it has an empty last piece. Split at line
ends, the pieces are the lines.
-/

namespace CrateHeader.Text

/-- The pieces of a text between the occurrences of a character; there is always a first one. -/
def splitChars (sep : Char) : List Char → List Char × List (List Char)
  | [] => ([], [])
  | c :: rest =>
    let (piece, pieces) := splitChars sep rest
    if c = sep then ([], piece :: pieces) else (c :: piece, pieces)

def pieces (sep : Char) (s : String) : List String :=
  let (piece, rest) := splitChars sep s.toList
  (piece :: rest).map String.ofList

def lines (s : String) : List String := pieces '\n' s

/-- The text without the line ends at its end. -/
def dropFinalNewlines (s : String) : String :=
  String.ofList (s.toList.reverse.dropWhile (· == '\n')).reverse

/-- Every way to end a line is read as the one line end. -/
def plainLineEnds : List Char → List Char
  | [] => []
  | '\r' :: '\n' :: rest => '\n' :: plainLineEnds rest
  | '\r' :: rest => '\n' :: plainLineEnds rest
  | c :: rest => c :: plainLineEnds rest

end CrateHeader.Text

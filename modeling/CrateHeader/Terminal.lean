import CrateHeader.Terminal.Markup
import CrateHeader.Terminal.Width

/-!
# Terminal output

What a run says is markup. It is printed line by line, without its tags and with spaces for its tabs. Text
that is no markup is printed as it is, but for the codes in it that would change how letters look.
-/

namespace CrateHeader.Terminal

/-- Text in a style. -/
def styled (style text : String) : String := "[" ++ style ++ "]" ++ escape text ++ "[/]"

/-- A text with markup as it is printed on lines of its own. -/
def printed (markup : String) : Except MarkupError String :=
  (shown markup).map fun s => String.ofList (expandTabs 0 s.toList) ++ "\n"

/-! ### Codes -/

/-- May a character stand in a code, between its start and the letter that ends it? -/
def isCodeParameter (c : Char) : Bool := c.isDigit || c == ';' || c == '?'

/-- What follows the code at the front of a text behind its escape character. -/
def afterCode? : List Char → Option (List Char)
  | '[' :: rest =>
    match rest.dropWhile isCodeParameter with
    | c :: left => if c.isAlpha then some left else none
    | [] => none
  | _ => none

theorem length_afterCode?_lt {s left : List Char} (h : afterCode? s = some left) :
    left.length < s.length := by
  unfold afterCode? at h
  split at h
  · next rest =>
    have := (List.dropWhile_suffix isCodeParameter (l := rest)).length_le
    split at h
    · next c after heq =>
      split at h
      · cases h
        rw [heq, List.length_cons] at this
        exact Nat.lt_succ_of_lt this
      · cases h
    · cases h
  · cases h

def dropCodes (s : List Char) : List Char :=
  match s with
  | [] => []
  | c :: rest =>
    if c = '\x1b' then
      match h : afterCode? rest with
      | some left =>
        have := length_afterCode?_lt h
        dropCodes left
      | none => c :: dropCodes rest
    else c :: dropCodes rest
termination_by s.length
decreasing_by all_goals simp only [List.length_cons]; omega

def withoutCodes (s : String) : String := String.ofList (dropCodes s.toList)

end CrateHeader.Terminal

import CrateHeader.Text.Digits

/-!
# Words of an identifier

An identifier splits at underscores and where the case changes. A word is a run of capitals less the last
one, when that starts a word of small letters; a run of small letters with at most one capital in front;
a run of capitals; or a run of digits. All other characters are passed over. Letters are those of the
basic alphabet, digits those of any script.
-/

namespace CrateHeader.Identifier

/-- The word at the front of a text, and what follows it. -/
def takeWord (s : List Char) : List Char × List Char :=
  let capitals := s.takeWhile Char.isUpper
  let rest := s.dropWhile Char.isUpper
  let small := rest.takeWhile Char.isLower
  if small = [] then
    if capitals = [] then (s.takeWhile Text.isDecimalDigit, s.dropWhile Text.isDecimalDigit)
    else (capitals, rest)
  else if capitals.length < 2 then (capitals ++ small, rest.dropWhile Char.isLower)
  else (capitals.dropLast, capitals.getLast?.toList ++ rest)

/-- May a word start with the character? -/
def startsWord (c : Char) : Bool := c.isUpper || c.isLower || Text.isDecimalDigit c

theorem takeWord_append (s : List Char) : (takeWord s).1 ++ (takeWord s).2 = s := by
  have hs := List.takeWhile_append_dropWhile (p := Char.isUpper) (l := s)
  have hr := List.takeWhile_append_dropWhile (p := Char.isLower) (l := s.dropWhile Char.isUpper)
  unfold takeWord
  dsimp only
  split
  · split
    · exact List.takeWhile_append_dropWhile
    · exact hs
  · split
    · rw [List.append_assoc, hr, hs]
    · rcases List.eq_nil_or_concat (s.takeWhile Char.isUpper) with h | ⟨l, c, h⟩
      · rw [h] at hs ⊢; exact hs
      · rw [h] at hs ⊢; simpa using hs

theorem takeWord_ne_nil {c : Char} {s : List Char} (h : startsWord c = true) :
    (takeWord (c :: s)).1 ≠ [] := by
  unfold takeWord
  dsimp only
  split
  · next hsmall =>
    split
    · next hcapitals =>
      have hu : c.isUpper = false := by
        by_cases hu : c.isUpper
        · simp [hu] at hcapitals
        · simpa using hu
      have hl : c.isLower = false := by
        by_cases hl : c.isLower
        · simp [hu, hl] at hsmall
        · simpa using hl
      have hd : Text.isDecimalDigit c = true := by simpa [startsWord, hu, hl] using h
      simp [hd]
    · next hcapitals => exact hcapitals
  · next hsmall =>
    split
    · simp [hsmall]
    · next hlength =>
      intro hnil
      have := congrArg List.length hnil
      simp at this
      omega

/-- The words of a text in order. -/
def words : List Char → List (List Char)
  | [] => []
  | c :: rest =>
    if h : startsWord c then
      have : (takeWord (c :: rest)).2.length < (c :: rest).length := by
        have hlen := congrArg List.length (takeWord_append (c :: rest))
        have hpos := List.length_pos_iff.2 (takeWord_ne_nil (s := rest) h)
        rw [List.length_append] at hlen
        omega
      (takeWord (c :: rest)).1 :: words (takeWord (c :: rest)).2
    else words rest
termination_by s => s.length
decreasing_by
  · exact this
  · exact Nat.lt_succ_self _

/-- The words of an identifier. -/
def splitWords (name : String) : List String := (words name.toList).map String.ofList

end CrateHeader.Identifier

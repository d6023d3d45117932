import CrateHeader.Number.Binary64

/-!
# Decimal numbers

Floating-point numbers are written in decimal digits. Many decimals stand for one number, those that it is
the nearest number of. It is written with the fewest digits of any, and of several such with those nearest to
it. The point stands among the digits when it is not too far away, otherwise a power of ten follows.
-/

namespace CrateHeader

/-- A number `digits * 10 ^ power`. -/
structure Decimal where
  digits : Nat
  power : Int
  deriving DecidableEq, Repr

namespace Decimal

/-! ### Reading -/

def ofDigits (digits : List Char) : Nat := digits.foldl (fun n c => 10 * n + (c.toNat - 48)) 0

/-- A power of ten as it stands behind the letter. -/
def readPower : List Char → Int
  | '-' :: digits => -ofDigits digits
  | '+' :: digits => ofDigits digits
  | digits => ofDigits digits

/-- Digits, perhaps with a point among them and a power of ten behind them. -/
def read (s : List Char) : Decimal :=
  let body := s.takeWhile (· != 'e')
  let whole := body.takeWhile (· != '.')
  let fraction := (body.dropWhile (· != '.')).tail
  ⟨ofDigits (whole ++ fraction), readPower (s.dropWhile (· != 'e')).tail - fraction.length⟩

/-! ### The nearest number -/

def digitCount (d : Decimal) : Nat := (Nat.toDigits 10 d.digits).length

/-- The floating-point number nearest to a decimal, unless that is too large to have one. A decimal of far
too many or too few places is not computed. -/
def nearest? (d : Decimal) : Option Binary64 :=
  let places := d.power + d.digitCount
  if d.digits = 0 ∨ places < -400 then some .zero
  else if 400 < places then none
  else
    let b := Binary64.ofQuotient (d.digits * Nat.pow 10 d.power.toNat) (Nat.pow 10 (-d.power).toNat)
    if b.exponent ≤ Binary64.greatestExponent then some b else none

/-! ### The shortest decimal -/

/-- The power of ten of a number's leading digit. -/
def leadingPower (b : Binary64) : Int :=
  let guess := Binary64.leadingExponent b.numerator b.denominator * 30103 / 100000
  let reached (p : Int) : Bool := b.denominator * Nat.pow 10 p.toNat ≤ b.numerator * Nat.pow 10 (-p).toNat
  ([guess + 1, guess].find? reached).getD (guess - 1)

/-- A decimal with a given power of ten that stands for a number: the one that is nearest to it, or the one on
its other side. -/
def withPower? (b : Binary64) (power : Int) : Option Decimal :=
  let (n, d) := (b.numerator * Nat.pow 10 (-power).toNat, b.denominator * Nat.pow 10 power.toNat)
  let near := Binary64.roundQuotient n d
  let far := if near = n / d then near + 1 else n / d
  ([near, far].map (Decimal.mk · power)).find? fun c => c.nearest? = some b

theorem nearest?_of_withPower? {b : Binary64} {power : Int} {d : Decimal} (h : withPower? b power = some d) :
    d.nearest? = some b := by
  simpa using List.find?_some h

/-- All digits of a number. -/
def exact (b : Binary64) : Decimal :=
  if 0 ≤ b.exponent then ⟨b.numerator, 0⟩
  else ⟨b.mantissa * Nat.pow 5 (-b.exponent).toNat, b.exponent⟩

/-- The shortest decimal that stands for a number; seventeen digits are enough. -/
def shortest (b : Binary64) : Decimal :=
  ((List.range 17).findSome? fun more : Nat => withPower? b (leadingPower b - more)).getD (exact b)

/-! ### Writing -/

/-- The digits without the zeros at their end. -/
def significant (d : Decimal) : List Char :=
  match ((Nat.toDigits 10 d.digits).reverse.dropWhile (· == '0')).reverse with
  | [] => ['0']
  | digits => digits

/-- Numbers from `10 ^ leastPlain` on and below `10 ^ plainLimit` are written without a power of ten. -/
def leastPlain : Int := -4

def plainLimit : Int := 16

/-- A power of ten has at least two digits. -/
def powerText (power : Int) : String :=
  let digits := toString power.natAbs
  (if power < 0 then "-" else "+") ++ (if digits.length < 2 then "0" else "") ++ digits

/-- A decimal in writing, with digits on both sides of its point. -/
def text (d : Decimal) : String :=
  let digits := d.significant
  let lead : Int := if d.digits = 0 then 0 else d.power + d.digitCount - 1
  let whole := (lead + 1).toNat
  if lead < leastPlain ∨ plainLimit ≤ lead then
    let (first, others) := (digits.take 1, digits.drop 1)
    String.ofList first ++ (if others = [] then "" else "." ++ String.ofList others) ++ "e" ++ powerText lead
  else if lead < 0 then
    "0." ++ String.ofList (List.replicate (-lead - 1).toNat '0' ++ digits)
  else
    let padded := digits ++ List.replicate (whole - digits.length) '0'
    String.ofList (padded.take whole) ++ "." ++
      (if padded.length = whole then "0" else String.ofList (padded.drop whole))

end Decimal

end CrateHeader

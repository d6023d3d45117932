/-!
# Floating-point numbers

A floating-point number of 64 bits is a whole number of at most 53 binary digits times a power of two. The
number nearest to a quotient has the quotient's leading binary digits, rounded; a half goes to the even
neighbour. All of it is whole-number arithmetic, so comparisons are exact. A power is written `Nat.pow` rather
than `^`, which would mean the power of a monoid wherever Mathlib is in scope.
-/

namespace CrateHeader

/-- A number `mantissa * 2 ^ exponent` that is not negative. -/
structure Binary64 where
  mantissa : Nat
  exponent : Int
  deriving DecidableEq, Repr

namespace Binary64

def bits : Nat := 53

def leastExponent : Int := -1074

def greatestExponent : Int := 971

def zero : Binary64 := ⟨0, leastExponent⟩

/-- A quotient as a whole number, rounded to nearest, a half to the even neighbour. -/
def roundQuotient (n d : Nat) : Nat :=
  let (q, r) := (n / d, n % d)
  if 2 * r < d ∨ (2 * r = d ∧ q % 2 = 0) then q else q + 1

/-- Rounding goes at most half a unit up or down. -/
theorem roundQuotient_near {n d : Nat} (hd : 0 < d) :
    2 * n ≤ 2 * (d * roundQuotient n d) + d ∧ 2 * (d * roundQuotient n d) ≤ 2 * n + d := by
  have hn := Nat.div_add_mod n d
  have hr := Nat.mod_lt n hd
  simp only [roundQuotient]
  split
  · omega
  · simp only [Nat.mul_add, Nat.mul_one]; omega

/-- The power of two in front of a quotient's leading binary digit. -/
def leadingExponent (n d : Nat) : Int :=
  let k : Int := Nat.log2 n - Nat.log2 d
  if d * Nat.pow 2 k.toNat ≤ n * Nat.pow 2 (-k).toNat then k else k - 1

/-- The number nearest to a quotient, with as large an exponent as rounding wants. -/
def ofQuotient (n d : Nat) : Binary64 :=
  let e := max leastExponent (leadingExponent n d - (bits - 1))
  let m := roundQuotient (n * Nat.pow 2 (-e).toNat) (d * Nat.pow 2 e.toNat)
  if m = Nat.pow 2 bits then ⟨Nat.pow 2 (bits - 1), e + 1⟩ else ⟨m, e⟩

/-- The value as a quotient. -/
def numerator (b : Binary64) : Nat := b.mantissa * Nat.pow 2 b.exponent.toNat

def denominator (b : Binary64) : Nat := Nat.pow 2 (-b.exponent).toNat

end Binary64

end CrateHeader

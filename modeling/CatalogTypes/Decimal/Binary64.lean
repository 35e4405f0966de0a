/-! # Double-precision numbers

A finite double is an integer below `2 ^ 53` times a power of two from `2 ^ -1074` to `2 ^ 971`.
A decimal numeral is read as the nearest double, the even one of two that are equally near.
-/
namespace CatalogTypes

inductive Binary64 where
  | nan
  | infinity (negative : Bool)
  | finite (negative : Bool) (significand : Nat) (exponent : Int)
  deriving DecidableEq, Repr

namespace Binary64

def lowestExponent : Int := -1074
def highestExponent : Int := 971

/-- The quotient rounded to the nearest integer, a half to the even neighbour. -/
def roundedQuotient (num den : Nat) : Nat :=
  let q := num / den
  let r := num % den
  if den < 2 * r ∨ (2 * r = den ∧ q % 2 = 1) then q + 1 else q

/-- The numerator and denominator of `num / den * 2 ^ e`. -/
def scaled (num den : Nat) (e : Int) : Nat × Nat :=
  (num * Nat.pow 2 e.toNat, den * Nat.pow 2 (-e).toNat)

/-- The power of two at or below a positive quotient. -/
def binaryExponent (num den : Nat) : Int :=
  let guess : Int := (Nat.log2 num : Int) - Nat.log2 den
  let s := scaled num den (-guess)
  if s.2 ≤ s.1 then guess else guess - 1

def nearest (negative : Bool) (num den : Nat) : Binary64 :=
  let e := max lowestExponent (binaryExponent num den - 52)
  let s := scaled num den (-e)
  let m := roundedQuotient s.1 s.2
  let (m, e) := if m = Nat.pow 2 53 then (Nat.pow 2 52, e + 1) else (m, e)
  if highestExponent < e then .infinity negative else .finite negative m e

def digitCount (n : Nat) : Nat := (Nat.toDigits 10 n).length

/-- The double nearest to `digits * 10 ^ exponent`. Numerals far outside the range of doubles
are settled by their number of digits, so that no power of ten grows without bound. -/
def ofDecimal (negative : Bool) (digits : Nat) (exponent : Int) : Binary64 :=
  let top := exponent + digitCount digits
  if digits = 0 ∨ top < -330 then .finite negative 0 lowestExponent
  else if 310 < top then .infinity negative
  else nearest negative (digits * Nat.pow 10 exponent.toNat) (Nat.pow 10 (-exponent).toNat)

def isZero : Binary64 → Bool
  | .finite _ 0 _ => true
  | _ => false

end Binary64
end CatalogTypes

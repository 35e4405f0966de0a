import CatalogTypes.Decimal.Binary64

/-! # Shortest decimals

Of the decimals that read back as a given double, the one with the fewest digits is chosen, and
of those the nearest to the double. Decimals with few digits lie on coarse grids, so the grids
are tried from the coarsest on, and on each only the two neighbours of the double can be it.
-/
namespace CatalogTypes.Binary64

/-- A positive double with the quarters of its last place that still round to it. -/
structure Rounding where
  significand : Nat
  exponent : Int
  deriving Repr

namespace Rounding

/-- Below a power of two the doubles lie twice as close. -/
def quartersBelow (x : Rounding) : Nat :=
  if x.significand = Nat.pow 2 52 ∧ lowestExponent < x.exponent then 1 else 2

/-- Compares `d * 10 ^ p` with a number of quarters, both as integers of one scale. -/
def comparands (x : Rounding) (p : Int) (d quarters : Nat) : Nat × Nat :=
  let e := x.exponent - 2
  (d * Nat.pow 10 p.toNat * Nat.pow 2 (-e).toNat,
    quarters * Nat.pow 2 e.toNat * Nat.pow 10 (-p).toNat)

/-- Does `d * 10 ^ p` read back as the double? The ends count when the significand is even. -/
def admits (x : Rounding) (p : Int) (d : Nat) : Bool :=
  let low := x.comparands p d (4 * x.significand - x.quartersBelow)
  let high := x.comparands p d (4 * x.significand + 2)
  if x.significand % 2 = 0 then low.2 ≤ low.1 && high.1 ≤ high.2
  else low.2 < low.1 && high.1 < high.2

def distance (x : Rounding) (p : Int) (d : Nat) : Nat :=
  let c := x.comparands p d (4 * x.significand)
  max (c.1 - c.2) (c.2 - c.1)

/-- The largest integer whose multiple of `10 ^ p` does not exceed the double. -/
def below (x : Rounding) (p : Int) : Nat :=
  let c := x.comparands p 1 (4 * x.significand)
  c.2 / c.1

/-- The neighbour of the double on the grid of `10 ^ p` that reads back, the nearer of two, and
of two that are equally near the even one. -/
def onGrid? (x : Rounding) (p : Int) : Option Nat :=
  let d := x.below p
  match x.admits p d, x.admits p (d + 1) with
  | false, false => none
  | true, false => some d
  | false, true => some (d + 1)
  | true, true =>
    if x.distance p d < x.distance p (d + 1) ∨ (x.distance p d = x.distance p (d + 1) ∧ d % 2 = 0)
    then some d else some (d + 1)

def decimalExponent (x : Rounding) : Int :=
  let c := x.comparands 0 1 (4 * x.significand)
  if c.1 ≤ c.2 then digitCount (c.2 / c.1) - 1
  else -(digitCount ((c.1 - 1) / c.2) : Int)

/-- Tries finer and finer grids. -/
def search (x : Rounding) (p : Int) : Nat → Nat × Int
  | 0 => (x.below p, p)
  | tries + 1 =>
    match x.onGrid? p with
    | some d => (d, p)
    | none => search x (p - 1) tries

def dropZeros (d : Nat) (p : Int) : Nat → Nat × Int
  | 0 => (d, p)
  | tries + 1 => if d % 10 = 0 then dropZeros (d / 10) (p + 1) tries else (d, p)

/-- The digits of the shortest decimal and the power of ten of the last of them. -/
def shortest (x : Rounding) : Nat × Int :=
  let (d, p) := x.search x.decimalExponent 17
  dropZeros d p 17

end Rounding
end CatalogTypes.Binary64

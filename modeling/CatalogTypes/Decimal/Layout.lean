import CatalogTypes.Decimal.Shortest
import CatalogTypes.Text

/-! # Written doubles

A double is written with its shortest digits, positionally when the point falls near them and
with an exponent of at least two digits otherwise. Formats differ only in the names that they
give to the values that are no numbers.
-/
namespace CatalogTypes.Binary64

/-- The names of infinity and of the undefined value in a format. -/
structure SpecialNames where
  infinity : Text
  nan : Text

def positional (digits : Text) (point : Int) : Text :=
  let n := point.toNat
  if point ≤ 0 then "0." ++ List.replicate (-point).toNat ('0' : CodePoint) ++ digits
  else if digits.length ≤ n then
    digits ++ List.replicate (n - digits.length) ('0' : CodePoint) ++ ".0"
  else digits.take n ++ "." ++ digits.drop n

def scientific (digits : Text) (point : Int) : Text :=
  let fraction : Text := if digits.length = 1 then [] else "." ++ digits.drop 1
  let e := point - 1
  let written := Text.ofNat e.natAbs
  digits.take 1 ++ fraction ++ "e" ++ (if e < 0 then "-" else "+") ++
    (if written.length = 1 then "0" ++ written else written)

/-- The written form is positional from `0.0001` up to, but not with, `10 ^ 16`. -/
def layOut (digits : Nat) (p : Int) : Text :=
  let written := Text.ofNat digits
  let point := written.length + p
  if -4 < point ∧ point ≤ 16 then positional written point else scientific written point

def render (names : SpecialNames) : Binary64 → Text
  | .nan => names.nan
  | .infinity negative => if negative then "-" ++ names.infinity else names.infinity
  | .finite negative m e =>
    let unsigned : Text :=
      if m = 0 then "0.0" else
        let (d, p) := Rounding.shortest ⟨m, e⟩
        layOut d p
    if negative then "-" ++ unsigned else unsigned

end CatalogTypes.Binary64

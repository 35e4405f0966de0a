import CatalogTypes.Identifier.Basic
import CatalogTypes.Log

/-! # Fresh identifiers

A pool hands out identifiers and never the same one twice. A name whose identifier is taken gets
the least number from two on that makes it fresh.
-/
namespace CatalogTypes.Identifier

/-- The identifiers handed out so far, the latest first. -/
structure Pool where
  taken : List Text

def Pool.empty : Pool := ⟨[]⟩

namespace Pool

def contains (pool : Pool) (identifier : Text) : Bool := pool.taken.contains identifier

def size (pool : Pool) : Nat := pool.taken.length

def numbered (base : Text) (n : Nat) : Text := base ++ Text.ofNat n

/-- The first fresh identifier among the base with the numbers from `n` on. A pool of as many
identifiers as there are tries cannot hold all of the candidates. -/
def firstFresh (pool : Pool) (base : Text) (n : Nat) : (tries : Nat) → Text
  | 0 => numbered base n
  | tries + 1 =>
    if pool.contains (numbered base n) then firstFresh pool base (n + 1) tries else numbered base n

def fresh (pool : Pool) (base : Text) : Text :=
  if pool.contains base then pool.firstFresh base 2 pool.size else base

/-- What a name was given, and what it would have been given in an empty pool. -/
structure Assignment where
  name : Text
  identifier : Text
  base : Text

namespace Assignment

def collides (a : Assignment) : Bool := a.identifier ≠ a.base

def warning (a : Assignment) : Text :=
  "Identifier collision for '" ++ a.name ++ "': using " ++ a.identifier ++ " instead of " ++ a.base

/-- Only collisions are reported. -/
def report (a : Assignment) : Log := if a.collides then [⟨.warning, a.warning⟩] else []

end Assignment

def assign (pool : Pool) (name : Text) : Assignment × Pool :=
  let base := ofName name
  let identifier := pool.fresh base
  (⟨name, identifier, base⟩, ⟨identifier :: pool.taken⟩)

end Pool
end CatalogTypes.Identifier

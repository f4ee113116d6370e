import QueryTutor.Decimal.Shortest

/-!
# Quantities

Limits and pass marks as they are set: whole numbers or doubles, compared without rounding.
-/

namespace QueryTutor

/-- A whole number or a double. -/
inductive Quantity where
  | whole (n : Int)
  | real (x : Float)

namespace Quantity

open Decimal

/-- The value of a quantity. -/
def exact : Quantity → Exact
  | whole n => .finite (n < 0) n.natAbs 0
  | real x => Decimal.exact x

/-- A signed significand over the power of two `2 ^ e`, scaled to the unit `2 ^ least`. -/
def scaled (negative : Bool) (m : Nat) (e least : Int) : Int :=
  let size : Int := (m * Nat.pow 2 (e - least).toNat : Nat)
  if negative then -size else size

/-- One value is at most the other; nothing is compared with what is no number. -/
def atMost (a b : Exact) : Bool :=
  match a, b with
  | .undefined, _ => false
  | _, .undefined => false
  | .infinite true, _ => true
  | _, .infinite false => true
  | .infinite false, _ => false
  | _, .infinite true => false
  | .finite s m e, .finite s' m' e' =>
    let least := min e e'
    scaled s m e least ≤ scaled s' m' e' least

/-- The order of quantities. -/
protected def le (a b : Quantity) : Bool :=
  match a, b with
  | whole m, whole n => m ≤ n
  | a, b => atMost a.exact b.exact

/-- The strict order of quantities. -/
protected def lt (a b : Quantity) : Bool :=
  match a, b with
  | whole m, whole n => m < n
  | a, b => atMost a.exact b.exact && !atMost b.exact a.exact

/-- The quantity as it is written in a message. -/
def text : Quantity → String
  | whole n => toString n
  | real x => Decimal.text x

end Quantity

end QueryTutor

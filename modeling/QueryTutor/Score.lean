import QueryTutor.Arithmetic
import QueryTutor.Mistake.Basic
import QueryTutor.Quantity

/-!
# Scores

From 100 points a query loses up to 40 for tests that fail, points for each mistake by its severity,
and ten for each missing element and each forbidden pattern.
-/

namespace QueryTutor.Score

open Arithmetic

variable {R : Type} [Arithmetic R]

/-- The points a query starts with. -/
def full : Nat := 100

/-- The points that the tests can cost. -/
def testShare : Nat := 40

/-- The points that a missing element or a forbidden pattern costs. -/
def faultCost : Nat := 10

/-- The score from which a query passes unless another one is set. -/
def standardMark : Nat := 70

/-- The points that a mistake costs. -/
def cost : Severity → Nat
  | .critical => 30
  | .high => 15
  | .medium => 8
  | .low => 4

/-- The points that all mistakes cost together. -/
def penalty (ms : List Mistake) : Nat :=
  ms.foldr (fun d rest => cost d.severity + rest) 0

/-- The sum of numbers, from left to right. -/
def total (ws : List R) : R :=
  ws.foldl add (ofNat 0)

/-- The share of the weight of all tests that lies on those passed, of tests given as pass and
weight.  It is whole if there is no weight. -/
def passRatio (tests : List (Bool × R)) : R :=
  let weight := total (tests.map (·.2))
  if lt (ofNat 0) weight then div (total ((tests.filter (·.1)).map (·.2))) weight else ofNat 1

/-- The points before they are rounded. -/
def points (ratio : R) (penalty missing violations : Nat) : R :=
  let lost := mul (sub (ofNat 1) ratio) (ofNat testShare)
  let left := sub (sub (ofNat full) lost) (ofNat penalty)
  let left := sub (sub left (ofNat (missing * faultCost))) (ofNat (violations * faultCost))
  atLeast (ofNat 0) (Arithmetic.atMost (ofNat full) left)

/-- The score of a query with these tests, mistakes, and numbers of missing elements and forbidden
patterns. -/
def score (tests : List (Bool × R)) (ms : List Mistake) (missing violations : Nat) : Nat :=
  round (points (passRatio tests) (penalty ms) missing violations)

/-- One of the mistakes is critical. -/
def hasCritical (ms : List Mistake) : Bool :=
  ms.any (·.severity == .critical)

/-- The score reaches the mark and no mistake is critical. -/
def passes (score : Quantity) (ms : List Mistake) (mark : Quantity) : Bool :=
  mark.le score && !hasCritical ms

end QueryTutor.Score

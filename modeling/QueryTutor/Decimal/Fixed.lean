import QueryTutor.Decimal.Exact

/-!
# Fixed places

Numbers written with a fixed number of places behind the point, rounded to the nearest, a half to
the even neighbour.
-/

namespace QueryTutor.Decimal

/-- The quotient rounded to the nearest natural number, a half to the even neighbour. -/
def roundHalfEven (num den : Nat) : Nat :=
  let q := num / den
  let twice := 2 * (num % den)
  if twice < den || (twice == den && q % 2 == 0) then q else q + 1

/-- A number of units of the last of `places` places, with its point. -/
def placed (places units : Nat) : String :=
  let behind := toString (units % Nat.pow 10 places)
  let zeros := String.ofList (List.replicate (places - behind.length) '0')
  toString (units / Nat.pow 10 places) ++ "." ++ zeros ++ behind

/-- The double written with the given number of places. -/
def fixed (places : Nat) (x : Float) : String :=
  let sign := fun negative => if negative then "-" else ""
  match exact x with
  | .finite negative m e =>
    sign negative
      ++ placed places (roundHalfEven (numerator m e * Nat.pow 10 places) (denominator e))
  | .infinite negative => sign negative ++ "inf"
  | .undefined => "nan"

end QueryTutor.Decimal

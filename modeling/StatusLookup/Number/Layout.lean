import StatusLookup.Number.Shortest

/-!
# How decimal digits are laid out

Digits are written positionally, with at least one on either side of the point, or as one digit
before the point with a power of ten behind it. A format says by the position of the point where
it changes from one to the other.
-/

namespace StatusLookup

/-- Positional notation is used when the position of the point is above `above` and at most
`upTo`; without bounds it is always used. -/
structure DecimalLayout where
  bounds : Option (Int × Int)

namespace DecimalLayout

def isPositional (layout : DecimalLayout) (position : Int) : Bool :=
  match layout.bounds with
  | none => true
  | some (above, upTo) => above < position && position ≤ upTo

/-- Digits around a point at the given position. -/
def positional (digits : List Char) (position : Int) : List Char :=
  if position ≤ 0 then
    ['0', '.'] ++ List.replicate (-position).toNat '0' ++ digits
  else
    let whole := position.toNat
    if digits.length ≤ whole then
      digits ++ List.replicate (whole - digits.length) '0' ++ ['.', '0']
    else
      digits.take whole ++ ['.'] ++ digits.drop whole

/-- One digit before the point, and the power of ten. -/
def scientific (digits : List Char) (position : Int) : List Char :=
  let exponent := (toString (position - 1)).toList
  match digits with
  | [digit] => digit :: 'e' :: exponent
  | digit :: rest => digit :: '.' :: rest ++ 'e' :: exponent
  | [] => []

def render (layout : DecimalLayout) (negative : Bool) (x : Binary64) : String :=
  let text :=
    if x.isZero then ['0', '.', '0']
    else
      let d := x.shortest
      let digits := Nat.toDigits 10 d.digits
      let position := (digits.length : Int) + d.exponent
      if layout.isPositional position then positional digits position
      else scientific digits position
  String.ofList (if negative then '-' :: text else text)

end DecimalLayout

end StatusLookup

import Watchpost.Double.Decimal

/-! How doubles are written.

A `Notation` holds the decisions that tell one way of writing doubles from
another: between which powers of ten the digits stand around a plain point, and
what an exponent looks like. Plain numbers always show a fraction. -/
namespace Watchpost

structure FloatNotation where
  /-- Values whose leading digit has an exponent in this range are written plainly. -/
  plainFrom : Int
  plainBelow : Int
  /-- A lone digit before an exponent gets a fraction, too. -/
  fraction : Bool
  /-- What stands before the exponent. -/
  mark : String
  /-- Exponents from zero up carry a sign. -/
  plus : Bool
  tie : Decimal.Tie
  nan : String
  infinity : String

namespace FloatNotation

def zeros (n : Nat) : List Char := List.replicate n '0'

/-- The point stands within the digits, or zeros reach to it. -/
def plain (digits : List Char) (exponent : Int) : List Char :=
  if 0 ≤ exponent then digits ++ zeros exponent.toNat ++ ['.', '0']
  else
    let fraction := (-exponent).toNat
    if fraction < digits.length then
      let whole := digits.length - fraction
      digits.take whole ++ '.' :: digits.drop whole
    else '0' :: '.' :: (zeros (fraction - digits.length) ++ digits)

def scientific (n : FloatNotation) (digits : List Char) (leading : Int) : List Char :=
  let mantissa := match digits with
    | [d] => if n.fraction then [d, '.', '0'] else [d]
    | d :: rest => d :: '.' :: rest
    | [] => []
  let sign := if leading < 0 then ['-'] else if n.plus then ['+'] else []
  mantissa ++ n.mark.toList ++ sign ++ Decimal.digitsOf leading.natAbs

def writeMagnitude (n : FloatNotation) (magnitude : Nat) : List Char :=
  if magnitude = 0 then ['0', '.', '0']
  else
    let d := Decimal.shortest n.tie magnitude
    let digits := Decimal.digitsOf d.digits
    let leading := d.exponent + digits.length - 1
    if n.plainFrom ≤ leading ∧ leading < n.plainBelow then plain digits d.exponent
    else n.scientific digits leading

def write (n : FloatNotation) (d : Double) : String :=
  if d.isNaN then n.nan
  else
    let sign := if d.negative then ['-'] else []
    if d.isInfinite then String.ofList (sign ++ n.infinity.toList)
    else String.ofList (sign ++ n.writeMagnitude d.magnitude)

end FloatNotation
end Watchpost

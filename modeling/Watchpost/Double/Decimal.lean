import Watchpost.Double.Basic

/-! Decimals: digits times a power of ten.

`Decimal.toMagnitude` reads a decimal as the nearest double, and
`Decimal.shortest` goes back with the fewest digits that read as the same
double. -/
namespace Watchpost

/-- `digits * 10 ^ exponent`. -/
structure Decimal where
  digits : Nat
  exponent : Int
  deriving DecidableEq

/-- A power of ten. -/
def tenTo (exponent : Nat) : Nat := Nat.pow 10 exponent

namespace Decimal

/-- The decimal digits of a natural number, most significant first. -/
def digitsOf (n : Nat) : List Char := Nat.toDigits 10 n

/-! ### Reading -/

/-- A decimal of `10 ^ 310` or more is beyond every double, and one below
`10 ^ -330` is nearer to zero than to any other. -/
def toMagnitude (d : Decimal) : Nat :=
  let leading := d.exponent + (digitsOf d.digits).length
  if d.digits = 0 ∨ leading < -330 then 0
  else if 311 < leading then Double.infinite
  else Double.nearestMagnitude (d.digits * tenTo d.exponent.toNat) (tenTo (-d.exponent).toNat)

/-! ### Shortest digits -/

/-- Which of two equally close decimals stands for a double. -/
inductive Tie where
  | toEven
  | up

/-- What reads as a magnitude lies between the midpoints to its neighbours; the
midpoints themselves read as it when it is even. Both sides are counted in half
least doubles, over a common denominator. -/
def readsAs (magnitude unit den digits : Nat) : Bool :=
  let value := digits * unit
  let lo := (Double.scaled (magnitude - 1) + Double.scaled magnitude) * den
  let hi := (Double.scaled magnitude + Double.scaled (magnitude + 1)) * den
  if magnitude % 2 = 0 then lo ≤ value && value ≤ hi else lo < value && value < hi

/-- The closest decimal with this exponent that reads as the magnitude. Only the
two multiples of `10 ^ exponent` next to the value come into question. -/
def atExponent (tie : Tie) (magnitude : Nat) (exponent : Int) : Option Decimal :=
  let unit := tenTo exponent.toNat <<< 1075
  let den := tenTo (-exponent).toNat
  let value := 2 * Double.scaled magnitude * den
  let below := value / unit
  let above := below + 1
  let takeAbove := match compare (2 * value) ((below + above) * unit), tie with
    | .lt, _ => false
    | .gt, _ => true
    | .eq, .toEven => below % 2 = 1
    | .eq, .up => true
  let reads digits := digits ≠ 0 && readsAs magnitude unit den digits
  match reads below, reads above with
  | true, true => some ⟨if takeAbove then above else below, exponent⟩
  | true, false => some ⟨below, exponent⟩
  | false, true => some ⟨above, exponent⟩
  | false, false => none

/-- Tries one exponent after the other, downwards. -/
def firstFrom (tie : Tie) (magnitude : Nat) : Nat → Int → Option Decimal
  | 0, _ => none
  | tries + 1, exponent =>
    atExponent tie magnitude exponent <|> firstFrom tie magnitude tries (exponent - 1)

/-- The decimal with the fewest digits that reads as a finite magnitude other
than zero. The search starts above the value and needs at most seventeen digits. -/
def shortest (tie : Tie) (magnitude : Nat) : Decimal :=
  let bits : Int := (Double.scaled magnitude).log2 - 1074
  (firstFrom tie magnitude 24 (((bits + 1) * 30103).fdiv 100000 + 2)).getD
    ⟨Double.scaled magnitude * Nat.pow 5 1074, -1074⟩

end Decimal
end Watchpost

import Watchpost.Double.Reading
import Watchpost.Json.Basic

/-! Numbers in JSON text.

A numeral is read as 64 bits of digits and a power of ten. Digits that no longer
fit are dropped and counted as places. The digits become a double first, which is
then multiplied or divided by the power of ten, so the result may be next to the
double nearest to the numeral. -/
namespace Watchpost.Json

/-- The parts of a number as it is written. An exponent has a sign or none. -/
structure Numeral where
  negative : Bool
  whole : List Char
  fraction : Option (List Char)
  exponent : Option (Option Char × List Char)

namespace Numeral

/-! ### Reading -/

/-- Digits at the front of a text that may have gaps. -/
def digits : List (Option Char) → List Char × List (Option Char)
  | some c :: rest =>
    if isDigit c then
      let (more, left) := digits rest
      (c :: more, left)
    else ([], some c :: rest)
  | cs => ([], cs)

/-- The digits after a point, if there is one; at least one has to follow it. -/
def readFraction : List (Option Char) → Option (Option (List Char) × List (Option Char))
  | some '.' :: rest =>
    match digits rest with
    | ([], _) => none
    | (ds, rest) => some (some ds, rest)
  | cs => some (none, cs)

def readMark : List (Option Char) → Option (List (Option Char))
  | some 'e' :: rest | some 'E' :: rest => some rest
  | _ => none

/-- The sign and the digits after a mark, if there is one. -/
def readExponent (cs : List (Option Char)) :
    Option (Option (Option Char × List Char) × List (Option Char)) :=
  match readMark cs with
  | none => some (none, cs)
  | some rest =>
    let (sign, rest) := match rest with
      | some '-' :: rest => (some '-', rest)
      | some '+' :: rest => (some '+', rest)
      | rest => (none, rest)
    match digits rest with
    | ([], _) => none
    | (ds, rest) => some (some (sign, ds), rest)

/-- The number at the front of a text. A zero is not followed by digits. -/
def read? (cs : List (Option Char)) : Option Numeral :=
  let (negative, cs) := match cs with
    | some '-' :: rest => (true, rest)
    | cs => (false, cs)
  match digits cs with
  | ([], _) | ('0' :: _ :: _, _) => none
  | (whole, cs) =>
    (readFraction cs).bind fun (fraction, cs) =>
      (readExponent cs).map fun (exponent, _) => ⟨negative, whole, fraction, exponent⟩

/-- The number of characters a numeral is written with. -/
def width (n : Numeral) : Nat :=
  (if n.negative then 1 else 0) + n.whole.length +
    (match n.fraction with
      | some ds => 1 + ds.length
      | none => 0) +
    (match n.exponent with
      | some (sign, ds) => 1 + sign.toList.length + ds.length
      | none => 0)

/-! ### Values -/

/-- Takes digits into a number as long as it stays below a bound. -/
def accumulate (bound n : Nat) : List Char → Nat × List Char
  | [] => (n, [])
  | c :: rest =>
    let next := 10 * n + digitValue c
    if next < bound then accumulate bound next rest else (n, c :: rest)

def power (exponent : Nat) : Double := Double.ofNat (tenTo exponent)

/-- Moves a double by places, at most 308 at a time. What grows beyond the doubles
is no number; what becomes zero stays zero. -/
def shift (d : Double) (places : Int) : Nat → Option Double
  | 0 => some Double.zero
  | fuel + 1 =>
    if places.natAbs ≤ 308 then
      if 0 ≤ places then
        let product := d.mul (power places.toNat)
        if product.isInfinite then none else some product
      else some (d.div (power places.natAbs))
    else if d.magnitude = 0 then some d
    else if 0 ≤ places then none
    else shift (d.div (power 308)) (places + 308) fuel

/-- The places that an exponent asks for; `none` if they are beyond all bounds. -/
def places : Option (Option Char × List Char) → Option Int
  | none => some 0
  | some (sign, ds) =>
    match accumulate 0x80000000 0 ds with
    | (n, []) => some (if sign = some '-' then -n else n)
    | _ => none

/-- The double of a numeral without its sign. -/
def magnitude? (n : Numeral) : Option Double :=
  let (digits, dropped) := accumulate 0x10000000000000000 0 n.whole
  let fraction := n.fraction.getD []
  let (digits, ignored) := accumulate 0x10000000000000000 digits fraction
  let start : Int := dropped.length - (fraction.length - ignored.length : Nat)
  match places n.exponent with
  | some exponent => shift (Double.ofNat digits) (start + exponent) 8
  | none =>
    if digits ≠ 0 ∧ (n.exponent.any fun e => e.1 != some '-') then none else some Double.zero

/-- The value of a numeral; `none` if it is too large for a double. A negative zero
is a double. -/
def value? (n : Numeral) : Option Json :=
  let double := n.magnitude?.map fun d => Json.double { d with negative := n.negative }
  if n.fraction.isSome || n.exponent.isSome then double
  else
    match accumulate 0x10000000000000000 0 n.whole with
    | (i, []) =>
      if !n.negative then some (.integer i)
      else if i = 0 ∨ 0x8000000000000000 < i then double
      else some (.integer (-i))
    | _ => double

end Numeral
end Watchpost.Json

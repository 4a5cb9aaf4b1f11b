/-! Doubles: 64-bit binary floating point numbers.

A double is a sign and a `magnitude`, the other 63 bits read as one natural
number. Magnitudes are ordered as the values they stand for, so the neighbours
of a value are the neighbours of its magnitude and a comparison of values is a
comparison of integers (`Double.key`).

Every value is a whole number of the least positive doubles (`Double.scaled`).
`nearestMagnitude` rounds a quotient of naturals to the nearest magnitude, ties
to even; integers, decimals and products all become doubles through it. -/
namespace Watchpost

structure Double where
  negative : Bool
  magnitude : Nat
  deriving DecidableEq, Inhabited

namespace Double

/-- The weight of the sign among the bits. -/
def signBit : Nat := 0x8000000000000000

/-- How many magnitudes there are from a power of two to the next. -/
def binade : Nat := 0x10000000000000

/-- The magnitude of the infinities; larger magnitudes are no numbers. -/
def infinite : Nat := 0x7FF0000000000000

def zero : Double := ⟨false, 0⟩
def infinity : Double := ⟨false, infinite⟩
def nan : Double := ⟨false, infinite + binade / 2⟩

def isNaN (d : Double) : Bool := infinite < d.magnitude
def isInfinite (d : Double) : Bool := d.magnitude = infinite

def neg (d : Double) : Double := { d with negative := !d.negative }

/-! ### Bits -/

def ofBits (bits : Nat) : Double := ⟨signBit ≤ bits % (2 * signBit), bits % signBit⟩

def toBits (d : Double) : Nat := if d.negative then signBit + d.magnitude else d.magnitude

/-! ### Order -/

/-- The place of a number on the line: zeros of either sign share one. -/
def key (d : Double) : Int := if d.negative then -d.magnitude else d.magnitude

/-- No comparison holds of what is no number. -/
def lt (a b : Double) : Bool := !a.isNaN && !b.isNaN && a.key < b.key
def le (a b : Double) : Bool := !a.isNaN && !b.isNaN && a.key ≤ b.key

/-! ### Values -/

/-- A finite magnitude is this many least positive doubles, each of `2 ^ -1074`. -/
def scaled (magnitude : Nat) : Nat :=
  if magnitude < 2 * binade then magnitude
  else (binade + magnitude % binade) <<< (magnitude / binade - 1)

/-- The natural number nearest to a quotient; a tie goes to the even one. -/
def nearest (num den : Nat) : Nat :=
  let quotient := num / den
  let twice := 2 * (num % den)
  if twice < den then quotient
  else if den < twice then quotient + 1
  else quotient + quotient % 2

/-- The magnitude nearest to a quotient. From the magnitude of `2 ^ 53` least
doubles on, each doubling of the value drops one more bit of it. -/
def nearestMagnitude (num den : Nat) : Nat :=
  let least := num <<< 1074
  let dropped := (least / den).log2 - 52
  min infinite (nearest least (den <<< dropped) + dropped * binade)

def ofNat (n : Nat) : Double := ⟨false, nearestMagnitude n 1⟩

def ofInt (i : Int) : Double := ⟨i < 0, nearestMagnitude i.natAbs 1⟩

/-- The product of two finite doubles, rounded once. -/
def mul (a b : Double) : Double :=
  ⟨a.negative != b.negative,
    nearestMagnitude (scaled a.magnitude * scaled b.magnitude) (1 <<< 2148)⟩

/-- The quotient of two finite doubles, rounded once. -/
def div (a b : Double) : Double :=
  ⟨a.negative != b.negative, nearestMagnitude (scaled a.magnitude) (scaled b.magnitude)⟩

/-- Drops the fraction and stays between two bounds; what is no number becomes zero. -/
def truncate (lo hi : Int) (d : Double) : Int :=
  if d.isNaN then 0
  else
    let whole : Int := (scaled d.magnitude >>> 1074 : Nat)
    max lo (min hi (if d.negative then -whole else whole))

end Double
end Watchpost

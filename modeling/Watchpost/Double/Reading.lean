import Watchpost.Double.Decimal

/-! Reading numbers from text.

A double is a sign, digits with at most one point among them and an exponent, or
one of the words `inf`, `infinity` and `nan`; the decimal it spells is rounded
once. An integer is a sign and digits, within the bounds of its kind. -/
namespace Watchpost

/-! ### Digits -/

def isDigit (c : Char) : Bool := '0' ≤ c && c ≤ '9'

def digitValue (c : Char) : Nat := c.toNat - '0'.toNat

/-- The number that a run of digits goes on to spell. -/
def appendDigits (n : Nat) (cs : List Char) : Nat := cs.foldl (fun n c => 10 * n + digitValue c) n

/-- A sign in front, and what follows it. -/
def splitSign : List Char → Bool × List Char
  | '-' :: rest => (true, rest)
  | '+' :: rest => (false, rest)
  | cs => (false, cs)

/-! ### Doubles -/

namespace Double

/-- The exponent that ends a number: nothing, or a mark, a sign and digits. -/
def readExponent : List Char → Option Int
  | [] => some 0
  | mark :: cs =>
    if mark = 'e' ∨ mark = 'E' then
      let (negative, digits) := splitSign cs
      if digits.isEmpty ∨ !digits.all isDigit then none
      else
        let n : Int := appendDigits 0 digits
        some (if negative then -n else n)
    else none

/-- Digits around an optional point, then an exponent. A digit stands on one side
of the point at least. -/
def readDecimal (cs : List Char) : Option Decimal :=
  let whole := cs.takeWhile isDigit
  let rest := cs.dropWhile isDigit
  let (fraction, rest) := match rest with
    | '.' :: rest => (rest.takeWhile isDigit, rest.dropWhile isDigit)
    | _ => ([], rest)
  if whole.isEmpty && fraction.isEmpty then none
  else (readExponent rest).map fun exponent =>
    ⟨appendDigits (appendDigits 0 whole) fraction, exponent - fraction.length⟩

def lower (c : Char) : Char := if 'A' ≤ c ∧ c ≤ 'Z' then Char.ofNat (c.toNat + 32) else c

def readMagnitude (cs : List Char) : Option Nat :=
  match readDecimal cs with
  | some d => some d.toMagnitude
  | none =>
    let word := String.ofList (cs.map lower)
    if word = "inf" ∨ word = "infinity" then some infinite
    else if word = "nan" then some nan.magnitude
    else none

def read? (cs : List Char) : Option Double :=
  let (negative, rest) := splitSign cs
  (readMagnitude rest).map (⟨negative, ·⟩)

end Double

/-! ### Integers -/

/-- The numbers of a fixed-width kind. -/
structure IntegerKind where
  lo : Int
  hi : Int

namespace IntegerKind

def int64 : IntegerKind := ⟨-0x8000000000000000, 0x7FFFFFFFFFFFFFFF⟩
def int32 : IntegerKind := ⟨-0x80000000, 0x7FFFFFFF⟩
def nat64 : IntegerKind := ⟨0, 0xFFFFFFFFFFFFFFFF⟩
def nat32 : IntegerKind := ⟨0, 0xFFFFFFFF⟩

/-- What fits 64 bits with or without a sign. -/
def any64 : IntegerKind := ⟨-0x8000000000000000, 0xFFFFFFFFFFFFFFFF⟩

/-- What fits 128 bits with or without a sign. -/
def any128 : IntegerKind :=
  ⟨-0x80000000000000000000000000000000, 0xFFFFFFFFFFFFFFFFFFFFFFFFFFFFFFFF⟩

def holds (k : IntegerKind) (i : Int) : Bool := k.lo ≤ i && i ≤ k.hi

inductive Fault where
  | notDigits
  | tooLarge
  | tooSmall

/-- A minus sign is a sign only where the kind has negative numbers. -/
def read (k : IntegerKind) (cs : List Char) : Except Fault Int :=
  let (negative, digits) := match cs with
    | '-' :: rest => if k.lo < 0 then (true, rest) else (false, cs)
    | '+' :: rest => (false, rest)
    | _ => (false, cs)
  if digits.isEmpty ∨ !digits.all isDigit then .error .notDigits
  else
    let n : Int := appendDigits 0 digits
    if negative then if -n < k.lo then .error .tooSmall else .ok (-n)
    else if k.hi < n then .error .tooLarge else .ok n

def read? (k : IntegerKind) (cs : List Char) : Option Int := (k.read cs).toOption

end IntegerKind
end Watchpost

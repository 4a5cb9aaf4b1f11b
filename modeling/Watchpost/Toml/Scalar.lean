import Watchpost.Double.Reading
import Watchpost.Toml.Basic

/-! Numbers, moments and truth values in TOML. -/
namespace Watchpost.Toml

/-! ### Digits -/

/-- Digits, between which single underscores may stand. -/
def digitsOf? (isDigit : Char → Bool) (cs : List Char) : Option (List Char) :=
  let runs := cs.splitOnP (· == '_')
  if runs.all fun run => !run.isEmpty && run.all isDigit then some runs.flatten else none

/-- Decimal digits that do not start with a zero for nothing. -/
def wholeOf? (cs : List Char) : Option (List Char) :=
  (digitsOf? isDigit cs).bind fun ds =>
    match ds with
    | '0' :: _ :: _ => none
    | ds => some ds

def fromBase (base : Nat) (ds : List Char) : Nat :=
  ds.foldl (fun n c => base * n + (Json.hexValue c).getD 0) 0

/-! ### Integers -/

/-- The integers that are taken: what fits 128 bits, with or without a sign. -/
def integer? (i : Int) : Option Toml :=
  if IntegerKind.any128.holds i then some (.integer i) else none

def based? (base : Nat) (isDigit : Char → Bool) (cs : List Char) : Option Toml :=
  (digitsOf? isDigit cs).bind fun ds => integer? (fromBase base ds)

def isBinary (c : Char) : Bool := c == '0' || c == '1'

def isOctal (c : Char) : Bool := '0' ≤ c && c ≤ '7'

def isHex (c : Char) : Bool := (Json.hexValue c).isSome

def readInteger? (cs : List Char) : Option Toml :=
  match cs with
  | '0' :: 'x' :: rest => based? 16 isHex rest
  | '0' :: 'o' :: rest => based? 8 isOctal rest
  | '0' :: 'b' :: rest => based? 2 isBinary rest
  | cs =>
    let (negative, digits) := splitSign cs
    (wholeOf? digits).bind fun ds =>
      let n : Int := fromBase 10 ds
      integer? (if negative then -n else n)

/-! ### Floats -/

def isExponentMark (c : Char) : Bool := c == 'e' || c == 'E'

/-- The digits of an exponent, which may start with zeros. -/
def exponentOf? : List Char → Option (List Char)
  | [] => some []
  | _ :: cs =>
    let (negative, digits) := splitSign cs
    (digitsOf? isDigit digits).map fun ds => 'e' :: (if negative then ['-'] else []) ++ ds

def fractionOf? : List Char → Option (List Char)
  | '.' :: cs => (digitsOf? isDigit cs).map ('.' :: ·)
  | [] => some []
  | _ => none

def isFloatMark (c : Char) : Bool := c == '.' || isExponentMark c

/-- A number with a fraction, an exponent or both; it has to be finite. -/
def readFloat? (cs : List Char) : Option Toml :=
  let (negative, rest) := splitSign cs
  match String.ofList rest with
  | "inf" => some (.float ⟨negative, Double.infinite⟩)
  | "nan" => some (.float Double.nan)
  | _ => if !rest.any isFloatMark then none else do
    let number := rest.takeWhile fun c => !isExponentMark c
    let exponent ← exponentOf? (rest.dropWhile fun c => !isExponentMark c)
    let whole ← wholeOf? (number.takeWhile (· != '.'))
    let fraction ← fractionOf? (number.dropWhile (· != '.'))
    let d ← Double.read? (whole ++ fraction ++ exponent)
    if d.isInfinite then none else some (.float { d with negative })

/-! ### Moments -/

/-- A number of some digits within bounds. -/
def field? (width lo hi : Nat) (cs : List Char) : Option (Nat × List Char) :=
  let ds := cs.take width
  let n := fromBase 10 ds
  if ds.length = width ∧ ds.all isDigit ∧ lo ≤ n ∧ n ≤ hi then some (n, cs.drop width) else none

def mark? (isMark : Char → Bool) : List Char → Option (List Char)
  | c :: rest => if isMark c then some rest else none
  | [] => none

def monthDays (year month : Nat) : Nat :=
  if month = 2 then
    if year % 4 = 0 ∧ (year % 100 ≠ 0 ∨ year % 400 = 0) then 29 else 28
  else if month = 4 ∨ month = 6 ∨ month = 9 ∨ month = 11 then 30
  else 31

def date? (cs : List Char) : Option (List Char) := do
  let (year, cs) ← field? 4 0 9999 cs
  let (month, cs) ← field? 2 1 12 (← mark? (· == '-') cs)
  let (_, cs) ← field? 2 1 (monthDays year month) (← mark? (· == '-') cs)
  return cs

/-- A fraction of a second, if there is a point. -/
def secondFraction? : List Char → Option (List Char)
  | '.' :: cs =>
    let rest := cs.dropWhile isDigit
    if rest.length < cs.length then some rest else none
  | cs => some cs

/-- A time; its seconds may be left out. -/
def time? (cs : List Char) : Option (List Char) := do
  let (_, cs) ← field? 2 0 23 cs
  let (_, cs) ← field? 2 0 59 (← mark? (· == ':') cs)
  match cs with
  | ':' :: cs =>
    let (_, cs) ← field? 2 0 60 cs
    secondFraction? cs
  | cs => return cs

/-- How far a time is ahead of or behind universal time, or nothing. -/
def zone? : List Char → Option (List Char)
  | 'Z' :: cs | 'z' :: cs => some cs
  | [] => some []
  | cs => do
    let (_, cs) ← field? 2 0 23 (← mark? (fun c => c == '+' || c == '-') cs)
    let (_, cs) ← field? 2 0 59 (← mark? (· == ':') cs)
    return cs

def isDateEnd (c : Char) : Bool := c == 'T' || c == 't' || c == ' '

/-- A date, a time, or a date and a time which may have a zone. -/
def readMoment? (cs : List Char) : Option Toml :=
  let rest := match date? cs with
    | some [] => some []
    | some rest => ((mark? isDateEnd rest).bind time?).bind zone?
    | none => time? cs
  if rest = some [] then some .moment else none

/-! ### All of them -/

def readScalar? (cs : List Char) : Option Toml :=
  match String.ofList cs with
  | "true" => some (.bool true)
  | "false" => some (.bool false)
  | _ => ((readInteger? cs).or (readFloat? cs)).or (readMoment? cs)

end Watchpost.Toml

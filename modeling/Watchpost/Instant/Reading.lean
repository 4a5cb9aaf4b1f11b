import Watchpost.Double.Reading
import Watchpost.Instant
import Watchpost.Text.Letter

/-! Reading instants.

A date, a time of day and what clocks there are ahead of universal time. Blanks
may stand between the parts, and between date and time instead of the `T`. -/
namespace Watchpost.Instant

abbrev Cut (α : Type) := Option (α × List Char)

/-- Up to `most` digits, at least one. -/
def readDigits (most : Nat) (cs : List Char) : Cut Nat :=
  let ds := (cs.take most).takeWhile isDigit
  if ds.isEmpty then none else some (appendDigits 0 ds, cs.drop ds.length)

/-- A number after blanks, within bounds. -/
def readPart (lo hi most : Nat) (cs : List Char) : Cut Nat :=
  (readDigits most (cs.dropWhile Text.isBlank)).bind fun (n, rest) =>
    if lo ≤ n ∧ n ≤ hi then some (n, rest) else none

def readMark (mark : Char) (cs : List Char) : Option (List Char) :=
  match cs.dropWhile Text.isBlank with
  | c :: rest => if c = mark then some rest else none
  | [] => none

/-- Years that dates are told for. -/
def firstYear : Int := -262143
def lastYear : Int := 262142

/-- A year has four digits at most, unless it carries a sign. -/
def readYear (cs : List Char) : Cut Int :=
  let cs := cs.dropWhile Text.isBlank
  let year : Cut Int := match cs with
    | '-' :: rest => (readDigits rest.length rest).map fun (n, rest) => (-(n : Int), rest)
    | '+' :: rest => (readDigits rest.length rest).map fun (n, rest) => ((n : Int), rest)
    | cs => (readDigits 4 cs).map fun (n, rest) => ((n : Int), rest)
  year.bind fun (n, rest) => if firstYear ≤ n ∧ n ≤ lastYear then some (n, rest) else none

/-- A point and digits, of which nine count. -/
def readFraction (cs : List Char) : Cut Nat :=
  match cs with
  | '.' :: rest =>
    (readDigits 9 rest).map fun (n, left) =>
      (n * tenTo (9 - (rest.length - left.length)), left.dropWhile isDigit)
  | cs => some (0, cs)

def isGap (c : Char) : Bool := c == ':' || Text.isBlank c

def twoDigits : List Char → Cut Nat
  | a :: b :: rest => if isDigit a && isDigit b then some (appendDigits 0 [a, b], rest) else none
  | _ => none

/-- Hours and minutes ahead of universal time, in seconds; behind it after a minus. -/
def readOffset (cs : List Char) : Cut Int :=
  match cs with
  | 'Z' :: rest | 'z' :: rest => some (0, rest)
  | sign :: rest =>
    if sign = '+' ∨ sign = '-' ∨ sign = '\u2212' then
      (twoDigits rest).bind fun (hours, rest) =>
        (twoDigits (rest.dropWhile isGap)).bind fun (minutes, rest) =>
          let seconds : Int := hours * 3600 + minutes * 60
          if 59 < minutes ∨ secondsPerDay ≤ seconds then none
          else some (if sign = '+' then seconds else -seconds, rest)
    else none
  | [] => none

def readZone (cs : List Char) : Cut Int :=
  let cs := cs.dropWhile Text.isBlank
  if (cs.take 3).map Double.lower = ['u', 't', 'c'] then some (0, cs.drop 3) else readOffset cs

def readSeparator : List Char → Option (List Char)
  | 't' :: rest | 'T' :: rest | ' ' :: rest => some rest
  | _ => none

/-- Whether a second is within these years by universal time, too. -/
def isTold (seconds : Int) : Bool :=
  let newYear (year : Int) := dayOfDate year 1 1 * secondsPerDay
  newYear firstYear ≤ seconds && seconds < newYear (lastYear + 1)

/-- Reads an instant. The sixtieth second of a minute is a leap second. -/
def read? (s : String) : Option Instant := do
  let (year, cs) ← readYear s.toList
  let cs ← readMark '-' cs
  let (month, cs) ← readPart 1 12 2 cs
  let cs ← readMark '-' cs
  let (day, cs) ← readPart 1 (daysInMonth year month) 2 cs
  let cs ← readSeparator cs
  let (hour, cs) ← readPart 0 23 2 cs
  let cs ← readMark ':' cs
  let (minute, cs) ← readPart 0 59 2 cs
  let cs ← readMark ':' cs
  let (second, cs) ← readPart 0 60 2 cs
  let (fraction, cs) ← readFraction cs
  let (ahead, cs) ← readZone cs
  if cs.any fun c => !Text.isBlank c then none
  else
    let time : Int := hour * 3600 + minute * 60 + min second 59
    let seconds := dayOfDate year month day * secondsPerDay + time - ahead
    if isTold seconds then some ⟨seconds, fraction + (if second = 60 then 1000000000 else 0)⟩
    else none

end Watchpost.Instant

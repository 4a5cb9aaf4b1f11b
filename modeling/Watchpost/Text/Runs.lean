/-! Facts about code points, kept as runs.

A table is a list of lines, each a row of words that start with a code point. -/
namespace Watchpost.Text

/-! ### Words -/

def hexDigit (c : Char) : Option Nat :=
  if '0' ≤ c ∧ c ≤ '9' then some (c.toNat - '0'.toNat)
  else if 'a' ≤ c ∧ c ≤ 'f' then some (c.toNat - 'a'.toNat + 10)
  else none

/-- The number a word starts with, and the rest of the word. -/
def readHex (n : Nat) : List Char → Nat × List Char
  | [] => (n, [])
  | c :: rest => match hexDigit c with
    | some d => readHex (16 * n + d) rest
    | none => (n, c :: rest)

/-- Cuts a text at every `mark`. -/
def split (mark : Char) (text : List Char) : List (List Char) :=
  let step c pieces := match pieces with
    | piece :: rest => if c = mark then [] :: piece :: rest else (c :: piece) :: rest
    | [] => []
  text.foldr step [[]]

def words (lines : List String) : List (List Char) :=
  lines.flatMap fun line => split ' ' line.toList

/-! ### Search -/

/-- The number of entries that start no later than a code point; the entries ascend. -/
def rank (start : Nat → Nat) (code : Nat) : Nat → Nat → Nat → Nat
  | 0, lo, _ => lo
  | fuel + 1, lo, hi =>
    if hi ≤ lo then lo
    else
      let mid := (lo + hi) / 2
      if start mid ≤ code then rank start code fuel (mid + 1) hi
      else rank start code fuel lo mid

/-! ### Runs -/

/-- The first code point and the value of each run. -/
abbrev Runs := List (Nat × String)

/-- Each word is the first code point of a run and the value of the run. -/
def Runs.ofLines (lines : List String) : Runs :=
  (words lines).map fun word =>
    let (start, value) := readHex 0 word
    (start, String.ofList value)

end Watchpost.Text

import Watchpost.Text.CharSet
import Watchpost.Text.FoldTable

/-! Letters that differ in case only. -/
namespace Watchpost.Text

def foldTable : List (List Nat) :=
  (words Table.foldOrbits).map fun word => (split '-' word).map fun code => (readHex 0 code).1

/-- A character and those that differ from it in case only. -/
def caseVariants (c : Char) : List Char :=
  match foldTable.find? (·.contains c.toNat) with
  | some codes => codes.map Char.ofNat
  | none => [c]

/-- The code points that differ from others in case only, each with them and itself. -/
def foldEntries : List (Nat × List Nat) :=
  (foldTable.flatMap fun codes => codes.map fun code => (code, codes)).mergeSort
    fun e f => e.1 ≤ f.1

/-- All code points that differ from others in case only. -/
def foldable : CharSet := .ofCodes (foldEntries.map (·.1))

/-- A set with all that differs in case only from a character in it. -/
def closeCase (s : CharSet) : CharSet :=
  s ∪ .ofCodes ((foldEntries.filter fun e => e.2.any s.hasCode).map (·.1))

end Watchpost.Text

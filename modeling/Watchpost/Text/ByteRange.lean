import Watchpost.Text.CharSet

/-! Sets of characters as bytes.

The bytes of the characters in a set are paths along ranges of bytes. A run of code
points is cut where its bytes would not be independent of each other. -/
namespace Watchpost

/-- The first and the last byte of a range, for each byte of a character. -/
abbrev BytePath := List (Nat × Nat)

namespace BytePath

/-- Paths that go on with one more byte, whose lowest six bits are within bounds. -/
def extend (lo hi : Nat) (paths : List BytePath) : List BytePath :=
  paths.map (· ++ [(0x80 + lo, 0x80 + hi)])

/-- The paths of the numbers from `lo` to `hi`: six bits for each byte after the first
one, and what is left is added to `lead`. At either end of the run, a byte that does
not take all of its values has a path of its own. -/
def between (lead : Nat) : (more : Nat) → (lo hi : Nat) → List BytePath
  | 0, lo, hi => [[(lead + lo, lead + hi)]]
  | more + 1, lo, hi =>
    let single (n lo hi : Nat) := extend lo hi (between lead more n n)
    if lo / 64 = hi / 64 then single (lo / 64) (lo % 64) (hi % 64)
    else
      let start := (lo + 63) / 64
      let stop := (hi + 1) / 64
      (if lo % 64 = 0 then [] else single (lo / 64) (lo % 64) 63) ++
        (if start < stop then extend 0 63 (between lead more start (stop - 1)) else []) ++
        (if hi % 64 = 63 then [] else single (hi / 64) 0 (hi % 64))

/-- How many bytes follow the first one, from which code point on and up to which
one, and what is added to the first byte. -/
def forms : List (Nat × Nat × Nat × Nat) :=
  [(0, 0, 0x7F, 0), (1, 0x80, 0x7FF, 0xC0), (2, 0x800, 0xFFFF, 0xE0), (3, 0x10000, 0x10FFFF, 0xF0)]

/-- The paths of a run of code points. -/
def ofRange (lo hi : Nat) : List BytePath :=
  forms.flatMap fun (more, least, most, lead) =>
    if max lo least ≤ min hi most then between lead more (max lo least) (min hi most) else []

end BytePath

/-- The paths of all characters in a set, in ascending order. -/
def CharSet.bytePaths (s : CharSet) : List BytePath :=
  (s \ surrogates).ranges.flatMap fun (lo, hi) => BytePath.ofRange lo hi

end Watchpost

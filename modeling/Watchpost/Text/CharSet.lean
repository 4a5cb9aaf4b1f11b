import Watchpost.Text.Runs

/-! Sets of characters.

A set is kept as the code points at which membership changes, in ascending order:
the first one is in the set, the next one is not, and so on. An operation on two
sets is one pass through both. -/
namespace Watchpost

structure CharSet where
  edges : Array Nat

namespace CharSet

/-- One past the last code point. -/
def limit : Nat := 0x110000

def hasCode (s : CharSet) (code : Nat) : Bool :=
  Text.rank (s.edges.getD · 0) code 32 0 s.edges.size % 2 == 1

def contains (s : CharSet) (c : Char) : Bool := s.hasCode c.toNat

/-! ### Ranges -/

/-- The edges of ranges that ascend. Ranges side by side are one. -/
def join : List (Nat × Nat) → List Nat
  | [] => []
  | (lo, hi) :: rest =>
    match join rest with
    | next :: edges => if next ≤ hi + 1 then lo :: edges else lo :: (hi + 1) :: next :: edges
    | [] => [lo, hi + 1]

def ofRanges (ranges : List (Nat × Nat)) : CharSet := ⟨(join ranges).toArray⟩

def ofCodes (codes : List Nat) : CharSet := ofRanges (codes.map fun code => (code, code))

def range (lo hi : Char) : CharSet := ofRanges [(lo.toNat, hi.toNat)]

def single (c : Char) : CharSet := range c c

def split : List Nat → List (Nat × Nat)
  | lo :: next :: rest => (lo, next - 1) :: split rest
  | [lo] => [(lo, limit - 1)]
  | [] => []

/-- The first and the last code point of each run in the set. -/
def ranges (s : CharSet) : List (Nat × Nat) := split s.edges.toList

/-! ### Tables -/

/-- The range that a word of a table tells. -/
def readRange (word : List Char) : Nat × Nat :=
  match Text.readHex 0 word with
  | (lo, '-' :: rest) => (lo, (Text.readHex 0 rest).1)
  | (lo, _) => (lo, lo)

def ofLines (lines : List String) : CharSet := ofRanges ((Text.words lines).map readRange)

/-! ### Operations -/

/-- Puts an edge in front if membership changes there. -/
def edgeIf (before after : Bool) (code : Nat) (edges : List Nat) : List Nat :=
  if before == after then edges else code :: edges

/-- Goes on through the edges of two sets, where `l` and `r` say whether the code
points just passed are in the one and in the other. -/
def sweep (op : Bool → Bool → Bool) (l r : Bool) : List Nat → List Nat → List Nat
  | [], [] => []
  | a :: left, [] => edgeIf (op l r) (op (!l) r) a (sweep op (!l) r left [])
  | [], b :: right => edgeIf (op l r) (op l (!r)) b (sweep op l (!r) [] right)
  | a :: left, b :: right =>
    if a < b then edgeIf (op l r) (op (!l) r) a (sweep op (!l) r left (b :: right))
    else if b < a then edgeIf (op l r) (op l (!r)) b (sweep op l (!r) (a :: left) right)
    else edgeIf (op l r) (op (!l) (!r)) a (sweep op (!l) (!r) left right)
termination_by left right => left.length + right.length

/-- The code points whose membership in two sets says so. What is in neither of them
is not in the result. -/
def combine (op : Bool → Bool → Bool) (s t : CharSet) : CharSet :=
  ⟨(sweep op false false s.edges.toList t.edges.toList).toArray⟩

instance : Union CharSet := ⟨combine (· || ·)⟩
instance : Inter CharSet := ⟨combine (· && ·)⟩
instance : SDiff CharSet := ⟨combine fun l r => l && !r⟩

/-- The code points of the runs whose values are asked for. -/
def ofRuns (wanted : String → Bool) (runs : Text.Runs) : CharSet :=
  ⟨(edgesOf false runs).toArray⟩
where
  edgesOf (before : Bool) : Text.Runs → List Nat
    | [] => []
    | (start, value) :: rest =>
      edgeIf before (wanted value) start (edgesOf (wanted value) rest)

def symmetricDifference : CharSet → CharSet → CharSet := combine (· != ·)

def empty : CharSet := ⟨#[]⟩

def all : CharSet := ⟨#[0]⟩

def complement (s : CharSet) : CharSet := all \ s

def unions (sets : List CharSet) : CharSet := sets.foldl (· ∪ ·) empty

def ascii : CharSet := ofRanges [(0, 127)]

/-- Code points that are no characters. -/
def surrogates : CharSet := ofRanges [(0xD800, 0xDFFF)]

def isEmpty (s : CharSet) : Bool := s.edges.isEmpty

end CharSet
end Watchpost

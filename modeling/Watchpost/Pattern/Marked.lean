import Watchpost.Pattern.Basic

/-! Matching by marks.

A mark on a character test says that reading has just passed that test. Reading a
character moves every mark to the tests that may come next, along all ways through
the pattern at once, so no choice is ever taken back. Parts without marks are passed
over, so the work per character grows with the number of marks. -/
namespace Watchpost

/-! ### Before reading -/

/-- The pattern can be passed at a gap without reading. -/
def Pattern.passes (gap : Gap) : Pattern → Bool
  | .empty => true
  | .one _ => false
  | .look l => l.holds gap
  | .seq p q => p.passes gap && q.passes gap
  | .alt p q => p.passes gap || q.passes gap
  | .star _ => true

/-- A pattern with marks on some of its tests. -/
inductive Marked where
  /-- There are no marks. -/
  | fresh (p : Pattern)
  /-- A test with a mark. -/
  | passed (test : Char → Bool)
  | seq (m n : Marked)
  | alt (m n : Marked)
  | star (m : Marked)

namespace Marked

/-! ### Building

What is left without marks is a pattern again. -/

def both : Marked → Marked → Marked
  | .fresh p, .fresh q => .fresh (.seq p q)
  | m, n => .seq m n

def either : Marked → Marked → Marked
  | .fresh p, .fresh q => .fresh (.alt p q)
  | m, n => .alt m n

def again : Marked → Marked
  | .fresh p => .fresh (.star p)
  | m => .star m

/-! ### Reading -/

/-- The pattern can be passed at a gap without reading. -/
def passes (gap : Gap) : Marked → Bool
  | .fresh p => p.passes gap
  | .passed _ => false
  | .seq m n => m.passes gap && n.passes gap
  | .alt m n => m.passes gap || n.passes gap
  | .star _ => true

/-- From some mark, the end of the pattern can be reached at a gap without reading. -/
def ends (gap : Gap) : Marked → Bool
  | .fresh _ => false
  | .passed _ => true
  | .seq m n => (m.ends gap && n.passes gap) || n.ends gap
  | .alt m n => m.ends gap || n.ends gap
  | .star m => m.ends gap

/-- Reads the first character of a pattern. -/
def first (gap : Gap) (c : Char) : Pattern → Marked
  | .one test => if test c then .passed test else .fresh (.one test)
  | .seq p q => both (first gap c p) (if p.passes gap then first gap c q else .fresh q)
  | .alt p q => either (first gap c p) (first gap c q)
  | .star p => again (first gap c p)
  | p => .fresh p

/-- Reads one more character. With `enter`, reading may also begin at the front. -/
def read (gap : Gap) (c : Char) (enter : Bool) : Marked → Marked
  | .fresh p => if enter then first gap c p else .fresh p
  | .passed test => if enter && test c then .passed test else .fresh (.one test)
  | .seq m n =>
    both (m.read gap c enter) (n.read gap c ((enter && m.passes gap) || m.ends gap))
  | .alt m n => either (m.read gap c enter) (n.read gap c enter)
  | .star m => again (m.read gap c (enter || m.ends gap))

/-- Looks for the pattern anywhere in the rest of a text: reading may begin at
every gap, and ends well at any gap that a mark reaches. -/
def findFrom (m : Marked) (before : Option Char) : List Char → Bool
  | [] => m.passes ⟨before, none⟩ || m.ends ⟨before, none⟩
  | c :: rest =>
    let gap : Gap := ⟨before, some c⟩
    m.passes gap || m.ends gap || findFrom (m.read gap c true) (some c) rest

end Marked

/-- Whether the pattern takes some piece of the text. -/
def Pattern.occursIn (p : Pattern) (text : List Char) : Bool :=
  (Marked.fresh p).findFrom none text

end Watchpost

import Watchpost.Pattern.Marked
import Watchpost.Pattern.Reader

/-! LIKE patterns.

In a LIKE pattern a percent sign takes any run of characters and a low line takes
one; the rest of it is read as the text of a `Pattern`. Line ends are no such
characters, a carriage return among them. -/
namespace Watchpost

/-- What the signs of a LIKE pattern stand for. -/
def Like.expand (c : Char) : List Char :=
  if c = '%' then ['.', '*'] else if c = '_' then ['.'] else [c]

/-- The text of the pattern that a LIKE pattern stands for. -/
def Like.patternText (source : String) : List Char :=
  "^(?R:".toList ++ source.toList.flatMap Like.expand ++ ")$".toList

/-- A LIKE pattern as it was written, and the pattern it spells. -/
structure Like where
  source : String
  pattern : Pattern
  spelled : Pattern.read? (Like.patternText source) = some pattern

namespace Like

/-- Reads a LIKE pattern. -/
def read? (source : String) : Option Like :=
  match h : Pattern.read? (patternText source) with
  | some pattern => some ⟨source, pattern, h⟩
  | none => none

/-- LIKE patterns are the same when they are written the same. -/
theorem ext_source {l m : Like} (h : l.source = m.source) : l = m := by
  obtain ⟨source, p, hp⟩ := l
  obtain ⟨_, q, hq⟩ := m
  cases h
  cases Option.some.inj (hp.symm.trans hq)
  rfl

/-- A LIKE pattern is read from how it was written. -/
theorem read?_source (l : Like) : read? l.source = some l := by
  unfold read?
  split
  · exact congrArg some (ext_source rfl)
  · next hnone =>
    rw [l.spelled] at hnone
    cases hnone

instance : DecidableEq Like := fun l m =>
  decidable_of_iff (l.source = m.source) ⟨ext_source, congrArg source⟩

/-- Whether a text is taken. -/
def takes (l : Like) (text : String) : Bool := l.pattern.occursIn text.toList

end Like
end Watchpost

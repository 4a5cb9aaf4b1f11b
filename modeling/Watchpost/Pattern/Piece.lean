import Watchpost.Pattern.Escape
import Watchpost.Pattern.Room

/-! Pieces of patterns.

Each piece carries, beside the pattern it stands for, what decides whether the whole
text is a pattern: how deeply it is nested, and the plan that tells how much room a
matcher takes. -/
namespace Watchpost.Pattern

/-- A pattern on its way into a larger one. -/
structure Piece where
  pattern : Pattern
  /-- How deeply its text is nested. -/
  height : Nat
  plan : Plan
  repeatable : Bool := true

namespace Piece

/-- How deeply a text may be nested. -/
def maxHeight : Nat := 250

/-! ### Single items -/

def ofItem (flags : Flags) (i : Item) : Piece :=
  ⟨.one i.set.contains, i.height, .ofSet (!flags.unicode) i.set, true⟩

/-- A character stands for itself, or for its letter in any case. -/
def ofChar (flags : Flags) (c : Char) : Piece :=
  let cases := if flags.caseless then flags.variants c else [c]
  let plan := match cases with
    | [c] => .text [c]
    | cases => .ofSet (!flags.unicode) (.unions (cases.map .single))
  ⟨.one fun d => cases.contains d, 0, plan, true⟩

def ofLook (l : Look) : Piece := ⟨.look l, 0, .look l, true⟩

/-- What ends a line, if anything does. -/
def lineEnds (flags : Flags) : List Char :=
  if flags.dotAll then [] else if flags.crlf then ['\n', '\r'] else ['\n']

/-- Any character but those that end lines. -/
def dot? (flags : Flags) : Option Piece :=
  let ends := lineEnds flags
  let set := CharSet.unions (ends.map .single)
  if flags.unicode then some ⟨.one fun c => !ends.contains c, 0, .ofSet false set.complement, true⟩
  else none

def lineStart (flags : Flags) : Piece :=
  ofLook (if flags.multiLine then .lineStart flags.crlf else .textStart)

def lineEnd (flags : Flags) : Piece :=
  ofLook (if flags.multiLine then .lineEnd flags.crlf else .textEnd)

/-- What is left where flags were set: it takes nothing. -/
def flagsMark : Piece := ⟨.empty, 0, .nothing, false⟩

def ofEscape? (flags : Flags) : Escape → Option Piece
  | .char c byte =>
    if byte && !flags.unicode && 128 ≤ c.toNat then none else some (ofChar flags c)
  | .set s => some (ofItem flags ⟨s, 0⟩)
  | .look l => some (ofLook l)

/-! ### Larger pieces -/

/-- Pieces side by side; the list holds the last one first. -/
def sequence (latestFirst : List Piece) : Piece :=
  let pieces := latestFirst.reverse
  ⟨concat (pieces.map (·.pattern)), heightOver (pieces.map (·.height)),
    .concat (pieces.map (·.plan)), true⟩

/-- The branches of an alternation, the last one first. -/
def choice (latestFirst : List Piece) : Piece :=
  match latestFirst with
  | [piece] => piece
  | _ =>
    let pieces := latestFirst.reverse
    ⟨union (pieces.map (·.pattern)), heightOver (pieces.map (·.height)),
      .alternate (pieces.map (·.plan)), true⟩

/-- A group, by its number if it is noted. -/
def grouped (number : Option Nat) (p : Piece) : Piece :=
  let plan := match number with
    | some n => .group n p.plan
    | none => p.plan
  { p with height := p.height + 1, plan, repeatable := true }

/-- Repeats a piece. What takes nothing is not worth repeating. -/
def repeated? (p : Piece) (least : Nat) (most : Option Nat) (lazy : Bool) : Option Piece :=
  let (least, most) :=
    if p.pattern.takesNothing then (min least 1, some (min (most.getD 1) 1)) else (least, most)
  if p.repeatable then
    some ⟨p.pattern.repeated least most, p.height + 1, p.plan.repeatedly least most lazy, true⟩
  else none

end Piece
end Watchpost.Pattern

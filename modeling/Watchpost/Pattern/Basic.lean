import Watchpost.Balanced
import Watchpost.Text.Property

/-! Patterns: regular expressions over characters, with looks.

A look reads no character: it asks what stands on either side of the place it is
tried at. `Spans` says what a pattern means: which piece of a text it takes, given
what lies before and after the piece. -/
namespace Watchpost

/-- The place between two characters of a text, or at one of its ends. -/
structure Gap where
  before : Option Char
  after : Option Char

/-! ### Looks -/

/-- The edges of a word: a word character on one side at most. -/
inductive WordLook where
  | boundary
  | notBoundary
  | start
  | finish
  | startHalf
  | finishHalf
  deriving DecidableEq

inductive Look where
  | textStart
  | textEnd
  /-- Lines end in a line feed; with `crlf`, in a carriage return as well, and a
  pair of the two is one line end. -/
  | lineStart (crlf : Bool)
  | lineEnd (crlf : Bool)
  | word (look : WordLook) (unicode : Bool)
  deriving DecidableEq

/-- The characters that words are made of. -/
def isWordChar (unicode : Bool) (c : Char) : Bool :=
  if c.toNat < 128 then Text.isAsciiLetter c || ('0' ≤ c && c ≤ '9') || c == '_'
  else unicode && Text.wordParts.contains c

def WordLook.holds (look : WordLook) (before after : Bool) : Bool :=
  match look with
  | .boundary => before != after
  | .notBoundary => before == after
  | .start => !before && after
  | .finish => before && !after
  | .startHalf => !before
  | .finishHalf => !after

def Look.holds (look : Look) (gap : Gap) : Bool :=
  match look with
  | .textStart => gap.before.isNone
  | .textEnd => gap.after.isNone
  | .lineStart false => gap.before.all (· == '\n')
  | .lineStart true =>
    gap.before.all (· == '\n') || (gap.before == some '\r' && gap.after != some '\n')
  | .lineEnd false => gap.after.all (· == '\n')
  | .lineEnd true =>
    gap.after.all (· == '\r') || (gap.after == some '\n' && gap.before != some '\r')
  | .word look unicode =>
    look.holds (gap.before.any (isWordChar unicode)) (gap.after.any (isWordChar unicode))

/-! ### Patterns -/

inductive Pattern where
  | empty
  | one (test : Char → Bool)
  | look (look : Look)
  | seq (p q : Pattern)
  | alt (p q : Pattern)
  | star (p : Pattern)

namespace Pattern

/-- What a pattern takes from between two pieces of text. -/
inductive Spans : Pattern → List Char → List Char → List Char → Prop where
  | empty : Spans .empty before [] after
  | one : test c = true → Spans (.one test) before [c] after
  | look {l : Look} : l.holds ⟨before.getLast?, after.head?⟩ = true →
      Spans (.look l) before [] after
  | seq : Spans p before s (t ++ after) → Spans q (before ++ s) t after →
      Spans (.seq p q) before (s ++ t) after
  | left : Spans p before s after → Spans (.alt p q) before s after
  | right : Spans q before s after → Spans (.alt p q) before s after
  | done : Spans (.star p) before [] after
  | more : Spans p before s (t ++ after) → Spans (.star p) (before ++ s) t after →
      Spans (.star p) before (s ++ t) after

/-- Some piece of the text is taken. -/
def Occurs (p : Pattern) (text : List Char) : Prop :=
  ∃ before s after, text = before ++ s ++ after ∧ p.Spans before s after

/-! ### Building patterns -/

/-- One pattern after the other. -/
def concat (ps : List Pattern) : Pattern := balanced .seq .empty ps

/-- One pattern or another. -/
def union (ps : List Pattern) : Pattern := balanced .alt .empty ps

def optional (p : Pattern) : Pattern := .alt p .empty

/-- `n` times the same pattern, built from halves that are shared. -/
def times (p : Pattern) : Nat → Pattern
  | 0 => .empty
  | 1 => p
  | n + 2 =>
    let half := p.times ((n + 2) / 2)
    let twice := .seq half half
    if (n + 2) % 2 = 0 then twice else .seq twice p
decreasing_by omega

/-- From `least` to `most` times; without a limit if `most` is missing. -/
def repeated (p : Pattern) (least : Nat) : Option Nat → Pattern
  | none => .seq (p.times least) (.star p)
  | some most => .seq (p.times least) (p.optional.times (most - least))

/-- No text but the empty one can be taken. -/
def takesNothing : Pattern → Bool
  | .empty | .look _ => true
  | .one _ => false
  | .seq p q | .alt p q => p.takesNothing && q.takesNothing
  | .star p => p.takesNothing

end Pattern
end Watchpost

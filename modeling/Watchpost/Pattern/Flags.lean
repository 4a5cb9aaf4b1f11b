import Watchpost.Text.Fold

/-! The flags that the text of a pattern is read under. -/
namespace Watchpost

/-- What a pattern's text may switch on and off. -/
structure Flags where
  /-- Letters stand for their other cases, too. -/
  caseless : Bool := false
  /-- Line ends count as ends. -/
  multiLine : Bool := false
  /-- A dot takes line ends. -/
  dotAll : Bool := false
  /-- A carriage return ends a line. -/
  crlf : Bool := false
  /-- Sets reach beyond the ASCII characters. -/
  unicode : Bool := true
  /-- Blanks and comments are layout. -/
  layout : Bool := false
  /-- Repetitions are lazy unless they are marked. -/
  lazy : Bool := false

namespace Flags

/-! ### Letter case -/

def asciiVariants (c : Char) : List Char :=
  if 'A' ≤ c ∧ c ≤ 'Z' then [c, Char.ofNat (c.toNat + 32)]
  else if 'a' ≤ c ∧ c ≤ 'z' then [c, Char.ofNat (c.toNat - 32)]
  else [c]

/-- The characters that one stands for if letter case makes no difference. -/
def variants (flags : Flags) (c : Char) : List Char :=
  if flags.unicode then Text.caseVariants c else asciiVariants c

/-- A set and the other cases of its letters. -/
def closeCase (flags : Flags) (s : CharSet) : CharSet :=
  if flags.unicode then Text.closeCase s
  else
    let letters := (List.range 128).filter fun n => (asciiVariants (Char.ofNat n)).any s.contains
    s ∪ .ofCodes letters

/-- A set takes in the other cases of its letters if letter case makes no difference. -/
def fold (flags : Flags) (s : CharSet) : CharSet := if flags.caseless then flags.closeCase s else s

/-- Closes a set under letter case, then takes what is left out if asked to. Only
sets that may reach beyond ASCII have something left out. -/
def settle? (flags : Flags) (negated : Bool) (s : CharSet) : Option CharSet :=
  if !negated then some (flags.fold s)
  else if flags.unicode then some (flags.fold s).complement
  else none

end Flags
end Watchpost

import Watchpost.Json.Draft
import Watchpost.Yaml.Place

/-! Scalars in YAML text: plain, quoted, or as a block of lines.

Where a plain or quoted scalar goes over several lines, a single end of a line counts
as a space and blanks around it do not count; of several ends of lines in a row the
first one does not count. -/
namespace Watchpost.Yaml

inductive Style where
  | plain
  | quoted
  | literal
  | folded
  deriving DecidableEq

/-! ### Folding -/

/-- What was read of a scalar, all of it backwards: its characters, and the blanks
and the ends of lines that came last. -/
structure Folding where
  chars : List Char := []
  blanks : List Char := []
  /-- Whether a line has ended. -/
  broken : Bool := false
  /-- The first end of a line. An escaped one is left out. -/
  first : Option Char := none
  /-- The other ends of lines. -/
  others : List Char := []

namespace Folding

/-- Whether blanks or ends of lines came last. -/
def isPaused (f : Folding) : Bool := f.broken || !f.blanks.isEmpty

def blank (f : Folding) (c : Char) : Folding :=
  if f.broken then f else { f with blanks := c :: f.blanks }

def lineEnd (f : Folding) (c : Char) : Folding :=
  if f.broken then { f with others := c :: f.others }
  else { f with blanks := [], broken := true, first := some c }

/-- Ends a line that does not count as a space. -/
def escapedEnd (f : Folding) : Folding := { f with blanks := [], broken := true, first := none }

/-- What blanks and ends of lines count as. -/
def joined (f : Folding) : List Char :=
  if f.broken then
    match f.first with
    | some '\n' => if f.others.isEmpty then [' '] else f.others
    | some c => f.others ++ [c]
    | none => f.others
  else f.blanks

/-- Takes what came last into the scalar. -/
def join (f : Folding) : Folding := { chars := f.joined ++ f.chars }

/-- Adds a character that is neither a blank nor an end of a line. -/
def add (f : Folding) (c : Char) : Folding := { chars := c :: f.join.chars }

def text (f : Folding) : String := String.ofList f.chars.reverse

end Folding

/-! ### Plain scalars -/

def isFlowMark (c : Char) : Bool := c == ',' || c == '[' || c == ']' || c == '{' || c == '}'

/-- Where a plain scalar ends: before a colon and a gap, and in brackets before a mark. -/
def endsPlain (flow : Bool) (ps : Places) : Bool :=
  ahead ps 0 fun c => (c == ':' && gapAhead ps 1) || (flow && isFlowMark c)

/-- In brackets no mark may follow a colon right away. -/
def strayColon (flow : Bool) (ps : Places) : Bool :=
  flow && ahead ps 0 (· == ':') && ahead ps 1 fun c => isFlowMark c || c == '?'

/-- Reads on in a plain scalar whose lines have to be indented so far. -/
def plain (flow : Bool) (indent : Int) (f : Folding) : Places → Option (Folding × Places)
  | [] => some (f, [])
  | p :: rest =>
    if isBreak p.char then plain flow indent (f.lineEnd p.char) rest
    else if isBlank p.char then
      if f.broken && p.char == '\t' && (p.column : Int) < indent then none
      else plain flow indent (f.blank p.char) rest
    else if isDocumentMark (p :: rest) then some (f, p :: rest)
    else if f.isPaused && (p.char == '#' || (!flow && (p.column : Int) < indent)) then
      some (f, p :: rest)
    else if strayColon flow (p :: rest) then none
    else if endsPlain flow (p :: rest) then some (f, p :: rest)
    else plain flow indent (f.add p.char) rest

/-! ### Quoted scalars -/

def shortEscape? : Char → Option Char
  | '0' => some '\x00'
  | 'a' => some '\x07'
  | 'b' => some '\x08'
  | 't' | '\t' => some '\t'
  | 'n' => some '\n'
  | 'v' => some '\x0b'
  | 'f' => some '\x0c'
  | 'r' => some '\r'
  | 'e' => some '\x1b'
  | ' ' => some ' '
  | '"' => some '"'
  | '/' => some '/'
  | '\\' => some '\\'
  | 'N' => some '\u0085'
  | '_' => some '\u00a0'
  | 'L' => some '\u2028'
  | 'P' => some '\u2029'
  | _ => none

/-- How many digits give the number of a character. -/
def escapeWidth? : Char → Option Nat
  | 'x' => some 2
  | 'u' => some 4
  | 'U' => some 8
  | _ => none

/-- The character that so many hexadecimal digits give. -/
def numbered? (width : Nat) (ps : Places) : Option Char := do
  let digits := ps.take width
  if digits.length < width then none
  else
    let n ← digits.foldlM (fun n p => (Json.hexValue p.char).map (16 * n + ·)) 0
    if n.isValidChar then some (Char.ofNat n) else none

/-- What follows a backslash, and over how many characters. -/
def escape? (ps : Places) : Option (Char × Nat) := do
  let p ← ps.head?
  match escapeWidth? p.char with
  | some width => (numbered? width ps.tail).map fun c => (c, width + 1)
  | none => (shortEscape? p.char).map fun c => (c, 1)

/-- Reads on in a scalar between quotes. The first `skip` characters belong to an
escape that was read. -/
def quoted (single : Bool) (f : Folding) : (skip : Nat) → Places → Option (Folding × Places)
  | _, [] => none
  | skip + 1, _ :: rest => quoted single f skip rest
  | 0, p :: rest =>
    if isBreak p.char then quoted single (f.lineEnd p.char) 0 rest
    else if isBlank p.char then quoted single (f.blank p.char) 0 rest
    else if isDocumentMark (p :: rest) then none
    else if single then
      if p.char == '\'' then
        if ahead rest 0 (· == '\'') then quoted single (f.add '\'') 1 rest
        else some (f.join, rest)
      else quoted single (f.add p.char) 0 rest
    else if p.char == '"' then some (f.join, rest)
    else if p.char == '\\' then
      if ahead rest 0 isBreak then quoted single f.join.escapedEnd 1 rest
      else
        match escape? rest with
        | some (c, width) => quoted single (f.add c) width rest
        | none => none
    else quoted single (f.add p.char) 0 rest

/-! ### Blocks -/

/-- Which ends of lines at the end of a block count. -/
inductive Chomping where
  | strip
  | clip
  | keep

def chomping? (c : Char) : Option Chomping :=
  if c == '-' then some .strip else if c == '+' then some .keep else none

def step? (c : Char) : Option Nat :=
  if '0' ≤ c ∧ c ≤ '9' then some (c.toNat - '0'.toNat) else none

/-- The marks after the indicator, in either order: which ends of lines count, and
how far the block is indented. -/
def blockMarks (ps : Places) : (Chomping × Option Nat) × Places :=
  let first := ps.head?.map (·.char)
  let second := ps.tail.head?.map (·.char)
  match first.bind chomping?, first.bind step? with
  | some c, _ =>
    match second.bind step? with
    | some n => ((c, some n), ps.drop 2)
    | none => ((c, none), ps.drop 1)
  | none, some n =>
    match second.bind chomping? with
    | some c => ((c, some n), ps.drop 2)
    | none => ((.clip, some n), ps.drop 1)
  | none, none => ((.clip, none), ps)

/-- The rest of a line on which nothing but a comment may stand. -/
def restOfLine? (ps : Places) : Option Places :=
  match skipComment (skipBlanks ps) with
  | [] => some []
  | p :: rest => if isBreak p.char then some rest else none

/-- Skips empty lines and the indentation of the next one. The indentation of a block
may be unknown yet; then the columns reached tell it. The ends of lines are held backwards. -/
def emptyLines (indent : Option Nat) (reached : Nat) (breaks : List Char) :
    Places → Option (Nat × List Char × Places)
  | [] => some (reached, breaks, [])
  | p :: rest =>
    let inside := indent.all fun n => decide (p.column < n)
    let reached' := max reached p.column
    if isBreak p.char then emptyLines indent reached' (p.char :: breaks) rest
    else if inside && p.char == ' ' then
      emptyLines indent (max reached' (p.column + 1)) breaks rest
    else if inside && p.char == '\t' then none
    else some (reached', breaks, p :: rest)

/-- What was read of a block, backwards: its characters, and the ends of lines that
came last. -/
structure Block where
  chars : List Char := []
  first : List Char := []
  others : List Char := []
  /-- Whether the last line began with a blank. -/
  blank : Bool := false

/-- Takes the ends of lines that came last into the block. -/
def Block.join (b : Block) (isFolded blank : Bool) : List Char :=
  if isFolded && b.first == ['\n'] && !b.blank && !blank then
    (if b.others.isEmpty then [' '] else b.others) ++ b.chars
  else b.others ++ b.first ++ b.chars

/-- Reads so many lines of a block at most. -/
def blockLines (isFolded : Bool) (indent : Nat) (b : Block) :
    (most : Nat) → Places → Option (Block × Places)
  | 0, _ => none
  | _, [] => some (b, [])
  | most + 1, p :: rest =>
    if p.column != indent then some (b, p :: rest)
    else
      let blank := isBlank p.char
      let content := (p :: rest).takeWhile fun p => !isBreak p.char
      let after := (p :: rest).dropWhile fun p => !isBreak p.char
      let chars := (content.map (·.char)).reverse ++ b.join isFolded blank
      let first := (after.take 1).map (·.char)
      (emptyLines (some indent) 0 [] (after.drop 1)).bind fun (_, others, rest) =>
        blockLines isFolded indent ⟨chars, first, others, blank⟩ most rest

/-- Reads a block after its indicator, which stands in a node indented so far. -/
def block (isFolded : Bool) (parent : Int) (ps : Places) : Option (String × Places) := do
  let ((chomping, step), rest) := blockMarks ps
  let rest ← restOfLine? rest
  if step = some 0 then none
  else
    let given := step.map fun n => (max parent 0).toNat + n
    let (reached, others, rest) ← emptyLines given 0 [] rest
    let indent := given.getD (max (max reached (parent + 1).toNat) 1)
    let (b, rest) ← blockLines isFolded indent { others } (rest.length + 1) rest
    let chars := match chomping with
      | .strip => b.chars
      | .clip => b.first ++ b.chars
      | .keep => b.others ++ b.first ++ b.chars
    return (String.ofList chars.reverse, rest)

end Watchpost.Yaml

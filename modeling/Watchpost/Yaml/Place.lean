/-! Characters of a YAML text and where they stand.

Layout carries meaning in YAML, so every character is held with its line and its
column. The ends of lines are all written as a line feed, but for the two separators
that Unicode has for lines and paragraphs. -/
namespace Watchpost.Yaml

/-- A character and its place; all numbers start at zero. -/
structure Place where
  char : Char
  line : Nat
  column : Nat
  /-- The number of bytes in front of it. -/
  index : Nat
  deriving DecidableEq

abbrev Places := List Place

/-! ### Characters -/

def isBreak (c : Char) : Bool := c == '\n' || c == '\u2028' || c == '\u2029'

def isBlank (c : Char) : Bool := c == ' ' || c == '\t'

def byteOrderMark : Char := '\uFEFF'

/-- Whether a character may occur at all. -/
def isPrintable (c : Char) : Bool :=
  let n := c.toNat
  n == 0x09 || n == 0x0A || n == 0x0D || (0x20 ≤ n && n ≤ 0x7E) || n == 0x85 ||
    (0xA0 ≤ n && n != 0xFFFE && n != 0xFFFF)

/-- Letters, digits and what else names are written with. -/
def isName (c : Char) : Bool :=
  ('a' ≤ c && c ≤ 'z') || ('A' ≤ c && c ≤ 'Z') || ('0' ≤ c && c ≤ '9') || c == '_' || c == '-'

/-- Writes all ends of lines as a line feed. -/
def unifyBreaks : List Char → List Char
  | [] => []
  | '\r' :: '\n' :: rest => '\n' :: unifyBreaks rest
  | c :: rest => (if c == '\r' || c == '\u0085' then '\n' else c) :: unifyBreaks rest

/-! ### Places -/

def placesFrom (line column index : Nat) : List Char → Places
  | [] => []
  | c :: rest =>
    ⟨c, line, column, index⟩ ::
      if isBreak c then placesFrom (line + 1) 0 (index + c.utf8Size) rest
      else placesFrom line (column + 1) (index + c.utf8Size) rest

/-- The places of a text. -/
def places? (s : String) : Option Places :=
  if s.toList.all isPrintable then some (placesFrom 0 0 0 (unifyBreaks s.toList)) else none

/-- Whether the character so far ahead has a property, if there is one. -/
def ahead (ps : Places) (n : Nat) (holds : Char → Bool) : Bool :=
  match ps[n]? with
  | some p => holds p.char
  | none => false

/-- Whether a blank, the end of the line or the end of the text is so far ahead. -/
def gapAhead (ps : Places) (n : Nat) : Bool :=
  match ps[n]? with
  | some p => isBlank p.char || isBreak p.char
  | none => true

/-- Whether a line starts with a mark of three characters that stands alone. -/
def isMark (mark : List Char) (ps : Places) : Bool :=
  (ps.take 3).map (·.char) == mark && gapAhead ps 3 &&
    (ps.head?.map (·.column)) == some 0

def documentStart : List Char := ['-', '-', '-']

def documentEnd : List Char := ['.', '.', '.']

def isDocumentMark (ps : Places) : Bool := isMark documentStart ps || isMark documentEnd ps

/-- What follows blanks. -/
def skipBlanks (ps : Places) : Places := ps.dropWhile fun p => isBlank p.char

/-- What follows a comment, if there is one. -/
def skipComment : Places → Places
  | p :: rest => if p.char == '#' then rest.dropWhile fun p => !isBreak p.char else p :: rest
  | [] => []

/-- Skips what may stand between tokens. Outside of brackets a new line lets a key
begin; where a key may begin, a tab is no blank. A line may start with a mark of the
byte order, which takes up a column of its own. -/
def skipGap (flow allowed comment : Bool) : Places → Bool × Places
  | [] => (allowed, [])
  | p :: rest =>
    if isBreak p.char then skipGap flow (allowed || !flow) false rest
    else if comment then skipGap flow allowed true rest
    else if p.char == ' ' || (p.char == '\t' && (flow || !allowed)) ||
        (p.char == byteOrderMark && p.column == 0) then
      skipGap flow allowed false rest
    else if p.char == '#' then skipGap flow allowed true rest
    else (allowed, p :: rest)

end Watchpost.Yaml

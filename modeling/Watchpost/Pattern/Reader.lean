import Watchpost.Pattern.Bracket
import Watchpost.Pattern.Piece

/-! Reading patterns.

A pattern's text is read from left to right, one item at a time. Flags set in it
hold from there to the end of the group they are set in; every item is built under
the flags of its place. Texts that nest too deeply, or whose repetitions make the
pattern too large, are no patterns. -/
namespace Watchpost.Pattern

/-! ### Repetitions -/

/-- A number that fits 32 bits, with blanks around it. -/
def readCount? (flags : Flags) (cs : List Char) : Option (Nat × List Char) :=
  let (digits, rest) :=
    collect flags (fun c => '0' ≤ c && c ≤ '9') false (cs.dropWhile Text.isBlank)
  let n := digits.foldl (fun n c => 10 * n + (c.toNat - '0'.toNat)) 0
  if digits.isEmpty || 0x100000000 ≤ n then none
  else some (n, skip flags (rest.dropWhile Text.isBlank))

/-- The bounds of a repetition in braces, after the opening one. -/
def readBounds? (flags : Flags) (cs : List Char) : Option ((Nat × Option Nat) × List Char) :=
  (readCount? flags (skip flags cs)).bind fun (least, rest) =>
    match rest with
    | '}' :: rest => some ((least, some least), rest)
    | ',' :: rest =>
      match skip flags rest with
      | '}' :: rest => some ((least, none), rest)
      | rest =>
        (readCount? flags rest).bind fun (most, rest) =>
          match rest with
          | '}' :: rest => if least ≤ most then some ((least, some most), rest) else none
          | _ => none
    | _ => none

/-- Whether a question mark follows a repetition, and what follows in turn. It asks for
the fewest repeats; what is taken in all does not depend on it. -/
def readLazyMark : List Char → Bool × List Char
  | '?' :: rest => (true, rest)
  | rest => (false, rest)

/-! ### Flags and groups -/

/-- Sets a flag by its letter. -/
def setFlag? (flags : Flags) (on : Bool) : Char → Option Flags
  | 'i' => some { flags with caseless := on }
  | 'm' => some { flags with multiLine := on }
  | 's' => some { flags with dotAll := on }
  | 'R' => some { flags with crlf := on }
  | 'u' => some { flags with unicode := on }
  | 'x' => some { flags with layout := on }
  | 'U' => some { flags with lazy := on }
  | _ => none

/-- Sets flags up to a colon or a closing parenthesis. Those after a hyphen are
switched off; none is named twice, and something follows a hyphen. -/
def readFlags? (flags : Flags) (on : Bool) (read : List Char) :
    List Char → Option (Flags × List Char × List Char)
  | [] => none
  | c :: rest =>
    if c = ':' ∨ c = ')' then
      if read.head? = some '-' then none else some (flags, read, c :: rest)
    else if read.contains c then none
    else if c = '-' then readFlags? flags false (c :: read) rest
    else (setFlag? flags on c).bind fun flags => readFlags? flags on (c :: read) rest

def isNameStart (c : Char) : Bool := c == '_' || Text.isAlphabetic c

def isNamePart (c : Char) : Bool :=
  c == '_' || c == '.' || c == '[' || c == ']' || Text.isAlphanumeric c

/-- The name of a group, up to the closing angle bracket. -/
def readName? (cs : List Char) : Option (List Char × List Char) :=
  match cs.takeWhile (· != '>'), cs.dropWhile (· != '>') with
  | first :: name, '>' :: rest =>
    if isNameStart first && name.all isNamePart then some (first :: name, rest) else none
  | _, _ => none

inductive Opening where
  /-- A group begins, perhaps under flags of its own. -/
  | group (flags : Flags)
  /-- A group begins that is noted, perhaps with a name. -/
  | noted (name : Option (List Char))
  /-- Flags are set for the rest of the group around. -/
  | set (flags : Flags)

/-- Reads what follows an opening parenthesis. A look at what lies around cannot be
asked for by a group. -/
def readOpening? (flags : Flags) (cs : List Char) : Option (Opening × List Char) :=
  let named rest := (readName? rest).map fun (name, rest) => (Opening.noted (some name), rest)
  match skip flags cs with
  | '?' :: '=' :: _ | '?' :: '!' :: _ | '?' :: '<' :: '=' :: _ | '?' :: '<' :: '!' :: _ => none
  | '?' :: 'P' :: '<' :: rest | '?' :: '<' :: rest => named rest
  | '?' :: rest =>
    (readFlags? flags true [] rest).bind fun (flags, read, rest) =>
      match rest with
      | ':' :: rest => some (.group flags, rest)
      | _ :: rest => if read.isEmpty then none else some (.set flags, rest)
      | [] => none
  | rest => some (.noted none, rest)

/-! ### Reading -/

/-- A group that was open when another began: the flags, branches and items before it. -/
structure Layer where
  flags : Flags
  branches : List Piece
  items : List Piece
  /-- The number of the group that began, if it is noted. -/
  number : Option Nat

/-- What was read so far: the innermost open group and those around it, and how many
groups are noted and under which names. Branches and items are kept with the last one first. -/
structure Reading where
  flags : Flags := {}
  branches : List Piece := []
  items : List Piece := []
  outer : List Layer := []
  groups : Nat := 0
  names : List (List Char) := []

namespace Reading

def add (p : Piece) (r : Reading) : Reading := { r with items := p :: r.items }

def branch (r : Reading) : Reading :=
  { r with branches := Piece.sequence r.items :: r.branches, items := [] }

/-- The innermost group as one piece. -/
def content (r : Reading) : Piece := Piece.choice (Piece.sequence r.items :: r.branches)

def enter? (opening : Opening) (r : Reading) : Option Reading :=
  let within (flags : Flags) (number : Option Nat) : Reading :=
    { r with flags, branches := [], items := [],
             outer := ⟨r.flags, r.branches, r.items, number⟩ :: r.outer }
  match opening with
  | .set flags => some ({ r with flags }.add Piece.flagsMark)
  | .group flags => some (within flags none)
  | .noted name =>
    if name.any r.names.contains then none
    else
      let number := r.groups + 1
      some { within r.flags number with groups := number, names := name.toList ++ r.names }

def leave? (r : Reading) : Option Reading :=
  match r.outer with
  | [] => none
  | layer :: outer =>
    some { r with flags := layer.flags, branches := layer.branches,
                  items := r.content.grouped layer.number :: layer.items, outer }

/-- Repeats the last item. A mark may follow, with nothing in between. -/
def repeatLast? (least : Nat) (most : Option Nat) (r : Reading) (cs : List Char) :
    Option (Reading × List Char) :=
  match r.items with
  | [] => none
  | p :: items =>
    let (marked, rest) := readLazyMark cs
    (p.repeated? least most (marked != r.flags.lazy)).map fun p =>
      ({ r with items := p :: items }, rest)

/-- Reads one item from the front of a text. -/
def step? (r : Reading) : List Char → Option (Reading × List Char)
  | [] => none
  | c :: rest =>
    let keep (p : Option Piece) := p.map fun p => (r.add p, rest)
    let again least most := r.repeatLast? least most rest
    match c with
    | '(' =>
      (readOpening? r.flags rest).bind fun (opening, rest) =>
        (r.enter? opening).map fun r => (r, rest)
    | ')' => r.leave?.map fun r => (r, rest)
    | '|' => some (r.branch, rest)
    | '[' =>
      (Bracket.read? r.flags rest).map fun (s, rest) => (r.add (Piece.ofItem r.flags s), rest)
    | '?' => again 0 (some 1)
    | '*' => again 0 none
    | '+' => again 1 none
    | '{' =>
      (readBounds? r.flags rest).bind fun ((least, most), rest) =>
        r.repeatLast? least most (skip r.flags rest)
    | '\\' =>
      (Escape.read? r.flags rest).bind fun (escape, rest) =>
        (Piece.ofEscape? r.flags escape).map fun p => (r.add p, rest)
    | '.' => keep (Piece.dot? r.flags)
    | '^' => keep (some (Piece.lineStart r.flags))
    | '$' => keep (some (Piece.lineEnd r.flags))
    | c => keep (some (Piece.ofChar r.flags c))

/-- Reads a text to its end. -/
def run? : Nat → Reading → List Char → Option Reading
  | 0, _, _ => none
  | fuel + 1, r, cs =>
    match skip r.flags cs with
    | [] => some r
    | cs => (r.step? cs).bind fun (r, rest) => run? fuel r rest

/-- The whole pattern, if every group was closed. -/
def finish? (r : Reading) : Option Pattern :=
  let piece := r.content
  if r.outer.isEmpty && piece.height ≤ Piece.maxHeight && piece.plan.fits then some piece.pattern
  else none

end Reading

/-- The pattern that a text spells. -/
def read? (text : List Char) : Option Pattern :=
  (Reading.run? (text.length + 1) {} text).bind Reading.finish?

end Watchpost.Pattern

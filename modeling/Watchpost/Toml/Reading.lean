import Watchpost.Toml.Scalar
import Watchpost.Toml.Text

/-! Reading TOML documents. -/
namespace Watchpost.Toml

/-! ### Gaps -/

/-- Skips blanks, line ends and comments. -/
def skipGaps (inComment : Bool) : List Char → Option (List Char)
  | [] => some []
  | c :: rest =>
    if c == '\n' || (c == '\r' && rest.head? == some '\n') then skipGaps false rest
    else if inComment then if isPlain c then skipGaps true rest else none
    else if isBlank c then skipGaps false rest
    else if c == '#' then skipGaps true rest
    else some (c :: rest)

/-- What follows the line that ends here, but for blanks and a comment. -/
def endLine? (cs : List Char) : Option (List Char) :=
  let rest := match skipBlanks cs with
    | '#' :: comment => comment.dropWhile isPlain
    | rest => rest
  if rest.isEmpty then some [] else newline? rest

/-! ### Values -/

/-- How deep values may be nested. -/
def maxDepth : Nat := 80

def isScalarChar (c : Char) : Bool := isBare c || c == '+' || c == '.' || c == ':'

/-- The scalar at the front. A blank may stand between a date and a time. -/
def scalar (cs : List Char) : Option (Toml × List Char) :=
  let word := cs.takeWhile isScalarChar
  let rest := cs.dropWhile isScalarChar
  let (word, rest) := match date? word, rest with
    | some [], ' ' :: c :: more =>
      if isDigit c then
        (word ++ ' ' :: (c :: more).takeWhile isScalarChar, (c :: more).dropWhile isScalarChar)
      else (word, rest)
    | _, _ => (word, rest)
  (readScalar? word).map fun t => (t, rest)

/-- The items up to a bracket, with commas between them. -/
def items (read : List Char → Option (Toml × List Char)) :
    (most : Nat) → List Char → Option (List Toml × List Char)
  | 0, _ => none
  | most + 1, cs => do
    match ← skipGaps false cs with
    | ']' :: rest => return ([], rest)
    | cs =>
      let (item, rest) ← read cs
      match ← skipGaps false rest with
      | ',' :: rest =>
        let (more, rest) ← items read most rest
        return (item :: more, rest)
      | ']' :: rest => return ([item], rest)
      | _ => none

/-- A key and its value, with an equals sign between them that a gap surrounds. -/
def member (gap : List Char → Option (List Char)) (read : List Char → Option (Toml × List Char))
    (cs : List Char) : Option ((List String × Toml) × List Char) := do
  let (path, rest) ← path? maxParts cs
  match ← gap rest with
  | '=' :: rest =>
    let (value, rest) ← read (← gap rest)
    return ((path, value), rest)
  | _ => none

/-- The members up to a brace, with commas between them. -/
def members (read : List Char → Option (Toml × List Char)) :
    (most : Nat) → List Char → Option (List (List String × Toml) × List Char)
  | 0, _ => none
  | most + 1, cs => do
    match ← skipGaps false cs with
    | '}' :: rest => return ([], rest)
    | cs =>
      let (m, rest) ← member (skipGaps false) read cs
      match ← skipGaps false rest with
      | ',' :: rest =>
        let (more, rest) ← members read most rest
        return (m :: more, rest)
      | '}' :: rest => return ([m], rest)
      | _ => none

/-- The value at the front, nested so deep at most. -/
def value : (depth : Nat) → List Char → Option (Toml × List Char)
  | 0, _ => none
  | depth + 1, cs =>
    match cs with
    | '"' :: _ | '\'' :: _ => (text? cs).map fun (s, rest) => (.text s, rest)
    | '[' :: rest =>
      (items (value depth) (rest.length + 1) rest).map fun (ts, rest) => (.list false ts, rest)
    | '{' :: rest => do
      let (ms, rest) ← members (value depth) (rest.length + 1) rest
      let table ← ms.foldlM (fun soFar m => insert m.1 m.2 soFar) []
      return (.table .braces table, rest)
    | cs => scalar cs

/-! ### Documents -/

/-- What was read of a document: its tables, and the header that the next keys are under. -/
structure Draft where
  root : Members := []
  current : List String := []

/-- A header: its path, and whether it opens an item of a list. -/
def header? (cs : List Char) : Option ((Bool × List String) × List Char) :=
  match cs with
  | '[' :: '[' :: rest => do
    match ← path? maxParts rest with
    | (path, ']' :: ']' :: rest) => return ((true, path), rest)
    | _ => none
  | '[' :: rest => do
    match ← path? maxParts rest with
    | (path, ']' :: rest) => return ((false, path), rest)
    | _ => none
  | _ => none

/-- Reads a header or a member. -/
def line (d : Draft) (cs : List Char) : Option (Draft × List Char) :=
  match cs with
  | '[' :: _ => do
    let ((item, path), rest) ← header? cs
    let root ← openHeader item path d.root
    return (⟨root, path⟩, rest)
  | cs => do
    let ((path, t), rest) ← member (some ∘ skipBlanks) (value (maxDepth + 1)) cs
    let root ← change (insert path t) d.current d.root
    return ({ d with root }, rest)

/-- Reads so many lines at most. -/
def lines (d : Draft) : (most : Nat) → List Char → Option Members
  | 0, _ => none
  | most + 1, cs => do
    match ← skipGaps false cs with
    | [] => return d.root
    | cs =>
      let (d, rest) ← line d cs
      lines d most (← endLine? rest)

/-- The root table of a document. A mark of the byte order may come first. -/
def ofText? (s : String) : Option Members :=
  let cs := match s.toList with
    | '\uFEFF' :: rest => rest
    | cs => cs
  lines {} (cs.length + 1) cs

end Watchpost.Toml

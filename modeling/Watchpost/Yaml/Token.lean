import Watchpost.Yaml.Scalar

/-! Tokens of YAML text.

Indentation and the keys in front of colons become tokens of their own, so that a
sequence of tokens can be read without looking at places. -/
namespace Watchpost.Yaml

inductive Token where
  | version (major minor : Nat)
  | tagHandle (handle start : String)
  | documentStart
  | documentEnd
  /-- A list begins, by its indentation. -/
  | listStart
  /-- A record begins, by its indentation. -/
  | recordStart
  /-- What began by its indentation ends. -/
  | blockEnd
  | openList
  | closeList
  | openRecord
  | closeRecord
  | entry
  | comma
  | key
  | value
  | alias (name : String)
  | anchor (name : String)
  | tag (handle suffix : String)
  | scalar (style : Style) (text : String)
  deriving DecidableEq

/-! ### Names and tags -/

def nameChars (ps : Places) : List Char := (ps.takeWhile fun p => isName p.char).map (·.char)

/-- What may follow the name of an anchor. -/
def endsName (ps : Places) : Bool :=
  gapAhead ps 0 || ahead ps 0 fun c => ['?', ':', ',', ']', '}', '%', '@', '\x60'].contains c

/-- The name of an anchor or an alias. -/
def name? (ps : Places) : Option (String × Places) :=
  let cs := nameChars ps
  let rest := ps.drop cs.length
  if cs.isEmpty || !endsName rest then none else some (String.ofList cs, rest)

/-- Whether a character may stand in a tag. -/
def isTagChar (verbatim : Bool) (c : Char) : Bool :=
  let marks := [';', '/', '?', ':', '@', '&', '=', '+', '$', '.', '%', '!', '~', '*', '\'', '(', ')']
  isName c || marks.contains c || (verbatim && [',', '[', ']'].contains c)

/-- The byte that a percent sign and two digits give. -/
def byte? : Places → Option UInt8
  | p :: q :: r :: _ => do
    if p.char == '%' then
      return UInt8.ofNat ((← Json.hexValue q.char) * 16 + (← Json.hexValue r.char))
    else none
  | _ => none

/-- How many bytes a character takes that starts with a byte. -/
def byteCount? (b : UInt8) : Option Nat :=
  let n := b.toNat
  if n < 0x80 then some 1
  else if 0xC0 ≤ n ∧ n < 0xE0 then some 2
  else if 0xE0 ≤ n ∧ n < 0xF0 then some 3
  else if 0xF0 ≤ n ∧ n < 0xF8 then some 4
  else none

/-- The bytes of escapes in a row, `n` of them. -/
def bytes? : (n : Nat) → Places → Option (List UInt8)
  | 0, _ => some []
  | n + 1, ps => do
    let b ← byte? ps
    return b :: (← bytes? n (ps.drop 3))

/-- The escaped character at the front, and over how many characters it goes. -/
def escaped? (ps : Places) : Option (List UInt8 × Nat) := do
  let width ← byteCount? (← byte? ps)
  let bytes ← bytes? width ps
  if bytes.tail.all fun b => 0x80 ≤ b.toNat && b.toNat < 0xC0 then return (bytes, 3 * width)
  else none

/-- The bytes of a tag, up to the first character that may not stand in it. -/
def tagBytes (verbatim : Bool) (soFar : List UInt8) :
    (skip : Nat) → Places → Option (List UInt8 × Places)
  | skip + 1, _ :: rest => tagBytes verbatim soFar skip rest
  | _, [] => some (soFar, [])
  | 0, p :: rest =>
    if !isTagChar verbatim p.char then some (soFar, p :: rest)
    else if p.char == '%' then
      match escaped? (p :: rest) with
      | some (bytes, width) => tagBytes verbatim (soFar ++ bytes) (width - 1) rest
      | none => none
    else tagBytes verbatim (soFar ++ (String.singleton p.char).toUTF8.toList) 0 rest

/-- A tag as text. What is no text is a tag that nobody knows. -/
def tagText (bytes : List UInt8) : String :=
  match String.fromUTF8? ⟨bytes.toArray⟩ with
  | some s => s
  | none => "?"

/-- The rest of a tag; it is not empty unless it may be. -/
def suffix? (verbatim mayBeEmpty : Bool) (ps : Places) : Option (String × Places) :=
  (tagBytes verbatim [] 0 ps).bind fun (bytes, rest) =>
    if bytes.isEmpty && !mayBeEmpty then none else some (tagText bytes, rest)

/-- A tag after its exclamation mark, as a handle and what follows it. -/
def tagParts? (ps : Places) : Option ((String × String) × Places) :=
  if ahead ps 0 (· == '<') then do
    let (suffix, rest) ← suffix? true false (ps.drop 1)
    if ahead rest 0 (· == '>') then return (("", suffix), rest.drop 1) else none
  else
    let cs := nameChars ps
    let rest := ps.drop cs.length
    if ahead rest 0 (· == '!') then
      (suffix? false false (rest.drop 1)).map fun (suffix, rest) =>
        ((String.ofList ('!' :: cs ++ ['!']), suffix), rest)
    else
      (suffix? false true rest).map fun (suffix, rest) =>
        let suffix := String.ofList cs ++ suffix
        (if suffix.isEmpty then ("", "!") else ("!", suffix), rest)

/-- A tag after its exclamation mark. A gap follows it, or a comma in brackets. -/
def tag? (flow : Bool) (ps : Places) : Option (Token × Places) :=
  (tagParts? ps).bind fun ((handle, suffix), rest) =>
    if gapAhead rest 0 || (flow && ahead rest 0 (· == ',')) then some (.tag handle suffix, rest)
    else none

/-! ### Directives -/

def number? (ps : Places) : Option (Nat × Places) :=
  let ds := (ps.takeWhile fun p => '0' ≤ p.char && p.char ≤ '9').map (·.char)
  if ds.isEmpty || 9 < ds.length then none
  else some (ds.foldl (fun n c => 10 * n + (c.toNat - '0'.toNat)) 0, ps.drop ds.length)

/-- A handle of tags: exclamation marks around a name, or one alone. -/
def handle? (ps : Places) : Option (String × Places) :=
  if ahead ps 0 (· == '!') then
    let cs := nameChars (ps.drop 1)
    let rest := ps.drop (cs.length + 1)
    if ahead rest 0 (· == '!') then some (String.ofList ('!' :: cs ++ ['!']), rest.drop 1)
    else if cs.isEmpty then some ("!", rest)
    else none
  else none

/-- A directive after its percent sign. -/
def directive? (ps : Places) : Option (Token × Places) := do
  let name := nameChars ps
  let rest := ps.drop name.length
  if !gapAhead rest 0 then none
  else
    match String.ofList name with
    | "YAML" =>
      let (major, rest) ← number? (skipBlanks rest)
      if !ahead rest 0 (· == '.') then none
      else
        let (minor, rest) ← number? (rest.drop 1)
        return (.version major minor, ← restOfLine? rest)
    | "TAG" =>
      let (handle, rest) ← handle? (skipBlanks rest)
      if !ahead rest 0 isBlank then none
      else
        let (start, rest) ← suffix? true false (skipBlanks rest)
        if !gapAhead rest 0 then none
        else return (.tagHandle handle start, ← restOfLine? rest)
    | _ => none

end Watchpost.Yaml

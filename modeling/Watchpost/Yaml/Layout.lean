import Watchpost.Yaml.Token

/-! From YAML text to tokens.

What a colon follows in its line is a key, which is known only when the colon comes:
its token is put in later, in front of the tokens that are the key. Deeper
indentation opens a list or a record, and less closes it. Between brackets
indentation does not count. -/
namespace Watchpost.Yaml

/-- A place where a key may have begun. -/
structure Candidate where
  /-- Whether nothing else can stand there. -/
  required : Bool
  /-- The number of tokens in front of it. -/
  tokens : Nat
  place : Place

/-- How far a text was read. -/
structure Layout where
  rest : Places
  tokens : Array Token := #[]
  /-- How deep the brackets are. -/
  depth : Nat := 0
  /-- The column of the innermost list or record by indentation; -1 if there is none. -/
  indent : Int := -1
  /-- The columns around it, the nearest first. -/
  outer : List Int := []
  /-- Whether a key may begin here. -/
  allowed : Bool := true
  /-- Where a key may have begun between the innermost brackets. -/
  candidate : Option Candidate := none
  /-- The same between the brackets around them, the nearest first. -/
  candidates : List (Option Candidate) := []

namespace Layout

def inFlow (l : Layout) : Bool := l.depth != 0

def push (l : Layout) (t : Token) : Layout := { l with tokens := l.tokens.push t }

/-! ### Candidates -/

/-- A key is not longer than a line and 1024 bytes. -/
def isStale (p : Place) (c : Candidate) : Bool :=
  c.place.line < p.line || c.place.index + 1024 < p.index

/-- A candidate that is still one. A required one may not go stale. -/
def fresh? (p : Place) : Option Candidate → Option (Option Candidate)
  | none => some none
  | some c => if isStale p c then if c.required then none else some none else some (some c)

def dropStale (l : Layout) (p : Place) : Option Layout := do
  return {
    l with
    candidate := ← fresh? p l.candidate
    candidates := ← l.candidates.mapM (fresh? p) }

/-- Gives up the candidate; a required one may not be given up. -/
def forget (l : Layout) : Option Layout :=
  if l.candidate.any (·.required) then none else some { l with candidate := none }

/-- Notes that a key may begin at a place. -/
def propose (l : Layout) (p : Place) : Option Layout :=
  if l.allowed then
    l.forget.map fun l =>
      { l with candidate := some ⟨!l.inFlow && l.indent == p.column, l.tokens.size, p⟩ }
  else some l

/-! ### Indentation -/

/-- Opens a list or a record if a place is indented further. -/
def indentTo (l : Layout) (column : Nat) (number : Nat) (t : Token) : Layout :=
  if !l.inFlow && l.indent < column then
    { l with
      indent := column
      outer := l.indent :: l.outer
      tokens := l.tokens.insertIdxIfInBounds number t }
  else l

/-- Closes what is indented further than a column. -/
def closeTo (column : Int) (tokens : Array Token) (indent : Int) :
    List Int → Array Token × Int × List Int
  | [] => (tokens, indent, [])
  | next :: outer =>
    if column < indent then closeTo column (tokens.push .blockEnd) next outer
    else (tokens, indent, next :: outer)

def dedentTo (l : Layout) (column : Int) : Layout :=
  if l.inFlow then l
  else
    let (tokens, indent, outer) := closeTo column l.tokens l.indent l.outer
    { l with tokens, indent, outer }

/-! ### Tokens -/

/-- A token of some characters. -/
def mark (l : Layout) (width : Nat) (t : Token) : Layout :=
  { l.push t with rest := l.rest.drop width }

def documentMark (l : Layout) (t : Token) : Option Layout :=
  (l.dedentTo (-1)).forget.map fun l => { l with allowed := false }.mark 3 t

def directive (l : Layout) : Option Layout := do
  let l ← (l.dedentTo (-1)).forget
  let (t, rest) ← directive? (l.rest.drop 1)
  return { l.push t with rest, allowed := false }

def openFlow (l : Layout) (p : Place) (t : Token) : Option Layout :=
  (l.propose p).map fun l =>
    { l with
      depth := l.depth + 1
      candidate := none
      candidates := l.candidate :: l.candidates
      allowed := true }.mark 1 t

def closeFlow (l : Layout) (t : Token) : Option Layout :=
  l.forget.map fun l =>
    let l := match l.candidates with
      | candidate :: candidates => { l with depth := l.depth - 1, candidate, candidates }
      | [] => l
    { l with allowed := false }.mark 1 t

def comma (l : Layout) : Option Layout :=
  l.forget.map fun l => { l with allowed := true }.mark 1 .comma

def entry (l : Layout) (p : Place) : Option Layout :=
  if !l.inFlow && !l.allowed then none
  else
    (l.indentTo p.column l.tokens.size .listStart).forget.map fun l =>
      { l with allowed := true }.mark 1 .entry

/-- A key that a question mark begins. -/
def openKey (l : Layout) (p : Place) : Option Layout :=
  if !l.inFlow && !l.allowed then none
  else
    (l.indentTo p.column l.tokens.size .recordStart).forget.map fun l =>
      { l with allowed := !l.inFlow }.mark 1 .key

def colon (l : Layout) (p : Place) : Option Layout :=
  match l.candidate with
  | some c =>
    let l := { l with tokens := l.tokens.insertIdxIfInBounds c.tokens .key }
    let l := l.indentTo c.place.column c.tokens .recordStart
    some ({ l with candidate := none, allowed := false }.mark 1 .value)
  | none =>
    if !l.inFlow && !l.allowed then none
    else
      let l := l.indentTo p.column l.tokens.size .recordStart
      some ({ l with allowed := !l.inFlow }.mark 1 .value)

/-- An anchor, an alias or a tag after its mark. -/
def property (l : Layout) (p : Place) (read : Places → Option (Token × Places)) :
    Option Layout := do
  let l ← l.propose p
  let (t, rest) ← read (l.rest.drop 1)
  return { l.push t with rest, allowed := false }

def blockScalar (l : Layout) (isFolded : Bool) : Option Layout := do
  let l ← l.forget
  let (text, rest) ← block isFolded l.indent (l.rest.drop 1)
  let style : Style := if isFolded then .folded else .literal
  return { l.push (.scalar style text) with rest, allowed := true }

def quotedScalar (l : Layout) (p : Place) (single : Bool) : Option Layout := do
  let l ← l.propose p
  let (f, rest) ← quoted single {} 0 (l.rest.drop 1)
  return { l.push (.scalar .quoted f.text) with rest, allowed := false }

def plainScalar (l : Layout) (p : Place) : Option Layout := do
  let l ← l.propose p
  let (f, rest) ← plain l.inFlow (l.indent + 1) {} l.rest
  return { l.push (.scalar .plain f.text) with rest, allowed := f.broken }

/-- The characters that mean something where a token begins. -/
def indicators : List Char :=
  ['-', '?', ':', ',', '[', ']', '{', '}', '#', '&', '*', '!', '|', '>', '\'', '"', '%', '@',
    '\x60']

/-- Whether a plain scalar may begin here. -/
def startsPlain (l : Layout) (p : Place) : Bool :=
  (!isBlank p.char && !indicators.contains p.char) || (p.char == '-' && !ahead l.rest 1 isBlank) ||
    (!l.inFlow && (p.char == '?' || p.char == ':') && !gapAhead l.rest 1)

/-- The next token, which begins at a place. -/
def token (l : Layout) (p : Place) : Option Layout :=
  let marks := l.inFlow || gapAhead l.rest 1
  if p.column = 0 && p.char == '%' then l.directive
  else if isMark documentStart l.rest then l.documentMark .documentStart
  else if isMark documentEnd l.rest then l.documentMark .documentEnd
  else if p.char == '[' then l.openFlow p .openList
  else if p.char == '{' then l.openFlow p .openRecord
  else if p.char == ']' then l.closeFlow .closeList
  else if p.char == '}' then l.closeFlow .closeRecord
  else if p.char == ',' then l.comma
  else if p.char == '-' && gapAhead l.rest 1 then l.entry p
  else if p.char == '?' && marks then l.openKey p
  else if p.char == ':' && marks then l.colon p
  else if p.char == '*' then l.property p fun ps => (name? ps).map fun (n, rest) => (.alias n, rest)
  else if p.char == '&' then
    l.property p fun ps => (name? ps).map fun (n, rest) => (.anchor n, rest)
  else if p.char == '!' then l.property p (tag? l.inFlow)
  else if p.char == '|' && !l.inFlow then l.blockScalar false
  else if p.char == '>' && !l.inFlow then l.blockScalar true
  else if p.char == '\'' then l.quotedScalar p true
  else if p.char == '"' then l.quotedScalar p false
  else if l.startsPlain p then l.plainScalar p
  else none

/-- Reads so many tokens at most. -/
def scan (l : Layout) : (most : Nat) → Option (List Token)
  | 0 => none
  | most + 1 =>
    let (allowed, rest) := skipGap l.inFlow l.allowed false l.rest
    let l := { l with allowed, rest }
    match rest with
    | [] => (l.dedentTo (-1)).forget.map fun l => l.tokens.toList
    | p :: _ =>
      ((l.dropStale p).bind fun l => (l.dedentTo p.column).token p).bind fun l => l.scan most

end Layout

/-- The tokens of a text. -/
def tokens? (s : String) : Option (List Token) :=
  (places? s).bind fun ps => Layout.scan { rest := ps } (ps.length + 1)

end Watchpost.Yaml

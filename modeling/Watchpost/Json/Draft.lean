import Watchpost.Json.Numeral

/-! JSON text.

A text is read as a draft first, in which a number or a text may turn out to make
no sense. What a draft holds only has to make sense where it is asked for:
`Draft.value?` asks for all of it, `Draft.fields?` for some members of a record. -/
namespace Watchpost.Json

/-- What a JSON text spells. A leaf has no value if it is a number beyond the
doubles, or a text with gaps or with half a surrogate pair. -/
inductive Draft where
  | leaf (value : Option Json)
  | list (items : List Draft)
  | record (members : List (Option String × Draft))

/-! ### Tokens -/

inductive Mark where
  | openList
  | closeList
  | openRecord
  | closeRecord
  | colon
  | comma

inductive Token where
  | mark (m : Mark)
  | text (s : Option String)
  | leaf (value : Option Json)

def isSpace (c : Char) : Bool := c == ' ' || c == '\n' || c == '\t' || c == '\r'

def hexValue (c : Char) : Option Nat :=
  if isDigit c then some (digitValue c)
  else if 'a' ≤ c ∧ c ≤ 'f' then some (c.toNat - 'a'.toNat + 10)
  else if 'A' ≤ c ∧ c ≤ 'F' then some (c.toNat - 'A'.toNat + 10)
  else none

def unit? (a b c d : Char) : Option Nat := do
  return (((← hexValue a) * 16 + (← hexValue b)) * 16 + (← hexValue c)) * 16 + (← hexValue d)

def shortEscape? : Char → Option Char
  | '"' => some '"'
  | '\\' => some '\\'
  | '/' => some '/'
  | 'b' => some '\x08'
  | 'f' => some '\x0c'
  | 'n' => some '\n'
  | 'r' => some '\r'
  | 't' => some '\t'
  | _ => none

/-- A text on its way: its characters, the last one first; whether all of it makes
sense; and the first half of a surrogate pair if that came last. -/
structure Phrase where
  chars : List Char := []
  sound : Bool := true
  half : Option Nat := none

namespace Phrase

def spoil (p : Phrase) : Phrase := { p with sound := false, half := none }

/-- A character cannot stand after half a pair. -/
def push (c : Char) (p : Phrase) : Phrase :=
  if p.half.isSome then p.spoil else { p with chars := c :: p.chars }

/-- A unit is a character, or half of a pair. -/
def pushUnit (n : Nat) (p : Phrase) : Phrase :=
  match p.half with
  | some high =>
    if 0xDC00 ≤ n ∧ n < 0xE000 then
      let c := Char.ofNat (0x10000 + (high - 0xD800) * 0x400 + (n - 0xDC00))
      { p with chars := c :: p.chars, half := none }
    else p.spoil
  | none =>
    if 0xD800 ≤ n ∧ n < 0xDC00 then { p with half := some n }
    else if 0xDC00 ≤ n ∧ n < 0xE000 then p.spoil
    else { p with chars := Char.ofNat n :: p.chars }

def text (p : Phrase) : Option String :=
  if p.sound && p.half.isNone then some (String.ofList p.chars.reverse) else none

end Phrase

/-- Reads to the closing quote and counts the characters it takes. -/
def readText (p : Phrase) (count : Nat) : List (Option Char) → Option (Option String × Nat)
  | [] => none
  | none :: rest => readText p.spoil (count + 1) rest
  | some c :: rest =>
    if c = '"' then some (p.text, count + 1)
    else if c = '\\' then
      match rest with
      | some 'u' :: some d₁ :: some d₂ :: some d₃ :: some d₄ :: after =>
        match unit? d₁ d₂ d₃ d₄ with
        | some n => readText (p.pushUnit n) (count + 6) after
        | none => none
      | some e :: after =>
        match shortEscape? e with
        | some e => readText (p.push e) (count + 2) after
        | none => none
      | _ => none
    else if c.toNat < 0x20 then none
    else readText (p.push c) (count + 1) rest

/-- A word that stands for a value. -/
def word? (value : Json) (word : String) (cs : List (Option Char)) : Option (Token × Nat) :=
  if (word.toList.map some).isPrefixOf cs then some (.leaf value, word.length - 1) else none

/-- The token that begins with a character, and how many more characters it has. -/
def front? (c : Char) (rest : List (Option Char)) : Option (Token × Nat) :=
  match c with
  | '[' => some (.mark .openList, 0)
  | ']' => some (.mark .closeList, 0)
  | '\x7b' => some (.mark .openRecord, 0)
  | '\x7d' => some (.mark .closeRecord, 0)
  | ':' => some (.mark .colon, 0)
  | ',' => some (.mark .comma, 0)
  | '"' => (readText {} 0 rest).map fun (s, count) => (.text s, count)
  | 'n' => word? .null "null" (some c :: rest)
  | 't' => word? (.bool true) "true" (some c :: rest)
  | 'f' => word? (.bool false) "false" (some c :: rest)
  | c =>
    (Numeral.read? (some c :: rest)).map fun n => (.leaf n.value?, n.width - 1)

/-- Cuts a text into tokens as far as they go, and says whether they go to the end.
The first `skip` characters belong to a token that was read; the tokens so far are
held backwards. -/
def scan (soFar : List Token) : Nat → List (Option Char) → List Token × Bool
  | _, [] => (soFar.reverse, true)
  | skip + 1, _ :: rest => scan soFar skip rest
  | 0, none :: _ => (soFar.reverse, false)
  | 0, some c :: rest =>
    if isSpace c then scan soFar 0 rest
    else match front? c rest with
      | some (t, more) => scan (t :: soFar) more rest
      | none => (soFar.reverse, false)

/-! ### Drafts -/

/-- A list or a record that is still open: what it holds, the last one first. -/
inductive Frame where
  | list (items : List Draft)
  | record (members : List (Option String × Draft)) (name : Option String)

/-- What has to come next. -/
inductive Phase where
  | value
  | valueOrEnd
  | name
  | nameOrEnd
  | colon
  | commaOrEnd
  | nothing

structure Building where
  frames : List Frame
  phase : Phase
  result : Draft

namespace Building

/-- A value is whole: it goes into the innermost frame, or is the result. -/
def put (d : Draft) (b : Building) : Building :=
  match b.frames with
  | [] => ⟨[], .nothing, d⟩
  | .list items :: outer => ⟨.list (d :: items) :: outer, .commaOrEnd, d⟩
  | .record members name :: outer => ⟨.record ((name, d) :: members) none :: outer, .commaOrEnd, d⟩

def close? (b : Building) (m : Mark) : Option Building :=
  match m, b.frames with
  | .closeList, .list items :: outer => some ({ b with frames := outer }.put (.list items.reverse))
  | .closeRecord, .record members _ :: outer =>
    some ({ b with frames := outer }.put (.record members.reverse))
  | _, _ => none

def push (f : Frame) (phase : Phase) (b : Building) : Building :=
  { b with frames := f :: b.frames, phase }

def value? (b : Building) : Token → Option Building
  | .leaf value => some (b.put (.leaf value))
  | .text s => some (b.put (.leaf (s.map .text)))
  | .mark .openList => some (b.push (.list []) .valueOrEnd)
  | .mark .openRecord => some (b.push (.record [] none) .nameOrEnd)
  | .mark _ => none

/-- A name is a text. One that makes no sense is kept as such. -/
def name? (b : Building) (t : Token) : Option Building :=
  match t, b.frames with
  | .text name, .record members _ :: outer =>
    some { b with frames := .record members name :: outer, phase := .colon }
  | _, _ => none

def step? (b : Building) (t : Token) : Option Building :=
  match b.phase, t with
  | .value, t => b.value? t
  | .valueOrEnd, .mark .closeList => b.close? .closeList
  | .valueOrEnd, t => b.value? t
  | .name, t => b.name? t
  | .nameOrEnd, .mark .closeRecord => b.close? .closeRecord
  | .nameOrEnd, t => b.name? t
  | .colon, .mark .colon => some { b with phase := .value }
  | .colon, _ => none
  | .commaOrEnd, .mark .comma =>
    match b.frames with
    | .list _ :: _ => some { b with phase := .value }
    | .record _ _ :: _ => some { b with phase := .name }
    | [] => none
  | .commaOrEnd, .mark m => b.close? m
  | .commaOrEnd, _ => none
  | .nothing, _ => none

/-- Takes tokens as far as they make a value, and says whether all were taken. -/
def run (b : Building) : List Token → Building × Bool
  | [] => (b, true)
  | t :: rest =>
    match b.step? t with
    | some b => run b rest
    | none => (b, false)

def isWhole (b : Building) : Bool :=
  match b.phase with
  | .nothing => true
  | _ => false

/-- The outermost value, with what it holds so far. -/
def outermost (b : Building) : Draft :=
  match b.frames.getLast? with
  | some (.list items) => .list items.reverse
  | some (.record members _) => .record members.reverse
  | none => b.result

end Building

namespace Draft

/-- Reads a text, which may have gaps, as far as it goes: what was read by then,
and whether it is the whole text. -/
def readFar (cs : List (Option Char)) : Draft × Bool :=
  let (ts, ended) := scan [] 0 cs
  let (b, taken) := Building.run ⟨[], .value, .leaf none⟩ ts
  (b.outermost, ended && taken && b.isWhole)

def read? (cs : List (Option Char)) : Option Draft :=
  let (d, whole) := readFar cs
  if whole then some d else none

def ofText? (s : String) : Option Draft := read? (s.toList.map some)

/-! ### Values -/

/-- How deep lists and records may be nested. -/
def maxDepth : Nat := 127

mutual
/-- The value of a draft that makes sense everywhere and is no deeper than allowed. -/
def valueWithin (levels : Nat) : Draft → Option Json
  | .leaf value => value
  | .list items =>
    match levels with
    | 0 => none
    | levels + 1 => (valuesWithin levels items).map .list
  | .record members =>
    match levels with
    | 0 => none
    | levels + 1 => (membersWithin levels members).map Json.ofMembers

def valuesWithin (levels : Nat) : List Draft → Option (List Json)
  | [] => some []
  | d :: rest => do
    let j ← d.valueWithin levels
    let js ← valuesWithin levels rest
    return j :: js

def membersWithin (levels : Nat) : List (Option String × Draft) → Option (List (String × Json))
  | [] => some []
  | (name, d) :: rest => do
    let name ← name
    let j ← d.valueWithin levels
    let js ← membersWithin levels rest
    return (name, j) :: js
end

def value? (d : Draft) : Option Json := d.valueWithin maxDepth

mutual
/-- A value as a draft in which everything makes sense. -/
def ofJson : Json → Draft
  | .list items => .list (ofItems items)
  | .record members => .record (ofMembers members)
  | j => .leaf j

def ofItems : List Json → List Draft
  | [] => []
  | j :: rest => ofJson j :: ofItems rest

def ofMembers : List (String × Json) → List (Option String × Draft)
  | [] => []
  | (name, j) :: rest => (some name, ofJson j) :: ofMembers rest
end

end Draft

/-- Reads a JSON text. -/
def ofText? (s : String) : Option Json := (Draft.ofText? s).bind Draft.value?

end Watchpost.Json

import Watchpost.Pattern.Escape

/-! Sets of characters in brackets.

Brackets hold characters, ranges, escapes and other brackets; operations between
sets have one precedence and group from the left. -/
namespace Watchpost.Pattern

/-- An open bracket: the left side of an operation, if one was read, and the items
read since, the last one first. -/
structure Bracket where
  negated : Bool
  left : Option (Item × Item.Operation)
  items : List Item

namespace Bracket

/-! ### Closing -/

/-- What the bracket holds so far. -/
def content (flags : Flags) (b : Bracket) : Item :=
  let right := Item.union b.items
  match b.left with
  | some (left, op) => Item.combine flags op left right
  | none => right

def add (item : Item) (b : Bracket) : Bracket := { b with items := item :: b.items }

def operate (flags : Flags) (op : Item.Operation) (b : Bracket) : Bracket :=
  { b with left := some (b.content flags, op), items := [] }

def close? (flags : Flags) (b : Bracket) : Option Item :=
  let content := b.content flags
  (flags.settle? b.negated content.set).map fun s => ⟨s, 1 + content.height⟩

/-! ### Items -/

/-- Hyphens in front stand for themselves. -/
def leadingHyphens (flags : Flags) : Nat → List Item → List Char → List Item × List Char
  | fuel + 1, items, '-' :: rest =>
    leadingHyphens flags fuel (⟨.single '-', 0⟩ :: items) (skip flags rest)
  | _, items, cs => (items, cs)

/-- Reads the front of a bracket, after its opening. A closing bracket that comes
first stands for itself. -/
def open? (flags : Flags) (cs : List Char) : Option (Bracket × List Char) :=
  let cs := skip flags cs
  let (negated, cs) := match cs with
    | '^' :: rest => (true, skip flags rest)
    | cs => (false, cs)
  let (items, cs) := leadingHyphens flags cs.length [] cs
  match items, cs with
  | [], ']' :: rest => some (⟨negated, none, [⟨.single ']', 0⟩]⟩, skip flags rest)
  | items, cs => if cs.isEmpty then none else some (⟨negated, none, items⟩, cs)

/-- The name of an ASCII set between brackets and colons, after the opening bracket. -/
def asciiSet? (flags : Flags) : List Char → Option (CharSet × List Char)
  | ':' :: rest =>
    let (negated, rest) := match rest with
      | '^' :: rest => (true, rest)
      | rest => (false, rest)
    match rest.dropWhile (· != ':') with
    | ':' :: ']' :: left =>
      (Flags.asciiSet? (String.ofList (rest.takeWhile (· != ':')))).bind fun s =>
        (flags.settle? negated s).map fun s => (s, left)
    | _ => none
  | _ => none

/-- Whether a bracket begins the name of an ASCII set. If not, it opens a bracket
within the bracket. -/
def isAsciiSet (cs : List Char) : Bool := (asciiSet? { unicode := true } cs).isSome

/-- One character, or an escape. -/
def readMember? (flags : Flags) : List Char → Option (Escape × List Char)
  | [] => none
  | '\\' :: rest => Escape.read? flags rest
  | c :: rest => some (.char c false, rest)

/-- Beyond ASCII there are no characters but with the flag for them. -/
def admits (flags : Flags) (c : Char) : Bool := flags.unicode || c.toNat < 128

def memberSet? (flags : Flags) : Escape → Option CharSet
  | .char c _ => if admits flags c then some (.single c) else none
  | .set s => some s
  | .look _ => none

/-- The first character after a hyphen that decides what the hyphen means. -/
def afterHyphen (flags : Flags) (rest : List Char) : Option Char :=
  if flags.layout then
    let beyond := match rest.dropWhile Text.isBlank with
      | '#' :: more => more.dropWhile Text.isBlank
      | more => more
    beyond.head? <|> rest.head?
  else rest.head?

/-- Reads an item: a range if a hyphen follows that neither ends the bracket nor
begins an operation. -/
def readItem? (flags : Flags) (cs : List Char) : Option (CharSet × List Char) :=
  (readMember? flags cs).bind fun (first, rest) =>
    match skip flags rest with
    | [] => none
    | '-' :: rest =>
      let next := afterHyphen flags rest
      if next == some ']' || next == some '-' then
        (memberSet? flags first).map fun s => (s, '-' :: rest)
      else
        (readMember? flags (skip flags rest)).bind fun (last, rest) =>
          match first, last with
          | .char lo _, .char hi _ =>
            if lo ≤ hi && admits flags lo && admits flags hi then
              some (.range lo hi, rest)
            else none
          | _, _ => none
    | rest => (memberSet? flags first).map fun s => (s, rest)

/-! ### Reading -/

/-- Reads on within an open bracket and those around it, to the end of the
outermost one. -/
def readOpen? (flags : Flags) : Nat → Bracket → List Bracket → List Char →
    Option (Item × List Char)
  | 0, _, _, _ => none
  | fuel + 1, b, outer, cs =>
    let operate op rest := readOpen? flags fuel (b.operate flags op) outer rest
    match skip flags cs with
    | [] => none
    | '[' :: rest =>
      if isAsciiSet rest then
        (asciiSet? flags rest).bind fun (s, rest) => readOpen? flags fuel (b.add ⟨s, 0⟩) outer rest
      else (open? flags rest).bind fun (inner, rest) => readOpen? flags fuel inner (b :: outer) rest
    | ']' :: rest =>
      (b.close? flags).bind fun s =>
        match outer with
        | [] => some (s, rest)
        | o :: outer => readOpen? flags fuel (o.add s) outer rest
    | '&' :: '&' :: rest => operate .intersection rest
    | '-' :: '-' :: rest => operate .difference rest
    | '~' :: '~' :: rest => operate .symmetricDifference rest
    | cs =>
      (readItem? flags cs).bind fun (s, rest) => readOpen? flags fuel (b.add ⟨s, 0⟩) outer rest

/-- Reads a bracket, after its opening. -/
def read? (flags : Flags) (cs : List Char) : Option (Item × List Char) :=
  (open? flags cs).bind fun (b, rest) => readOpen? flags (cs.length + 1) b [] rest

end Bracket
end Watchpost.Pattern

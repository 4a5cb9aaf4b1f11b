import Watchpost.Pattern.Flags
import Watchpost.Text.NamedSet

/-! Sets in the text of patterns: by a letter, by a name and from other sets. -/
namespace Watchpost

namespace Flags

/-! ### Sets with names -/

/-- Digits, blanks and word characters, by the letter of their escape. -/
def letterSet? (flags : Flags) (letter : Char) : Option CharSet :=
  let set : Option CharSet := match Text.lowerAscii letter with
    | 'd' => some (Text.ofCategories ["Nd"])
    | 's' => some Text.blanks
    | 'w' => some Text.wordParts
    | _ => none
  set.bind fun s =>
    if Text.lowerAscii letter = letter then some (if flags.unicode then s else s ∩ .ascii)
    else if flags.unicode then some s.complement else none

/-- ASCII sets by their names in brackets. -/
def asciiSet? (name : String) : Option CharSet :=
  let within (ranges : List (Char × Char)) : Option CharSet :=
    some (.ofRanges (ranges.map fun (lo, hi) => (lo.toNat, hi.toNat)))
  match name with
  | "alnum" => within [('0', '9'), ('A', 'Z'), ('a', 'z')]
  | "alpha" => within [('A', 'Z'), ('a', 'z')]
  | "ascii" => within [('\x00', '\x7f')]
  | "blank" => within [('\t', '\t'), (' ', ' ')]
  | "cntrl" => within [('\x00', '\x1f'), ('\x7f', '\x7f')]
  | "digit" => within [('0', '9')]
  | "graph" => within [('!', '~')]
  | "lower" => within [('a', 'z')]
  | "print" => within [(' ', '~')]
  | "punct" => within [('!', '/'), (':', '@'), ('[', (Char.ofNat 0x60)), ((Char.ofNat 0x7b), '~')]
  | "space" => within [('\t', '\r'), (' ', ' ')]
  | "upper" => within [('A', 'Z')]
  | "word" => within [('0', '9'), ('A', 'Z'), ('_', '_'), ('a', 'z')]
  | "xdigit" => within [('0', '9'), ('A', 'F'), ('a', 'f')]
  | _ => none

/-- What lies before and after a piece of text within another. -/
def cutAt? (piece : List Char) : List Char → Option (List Char × List Char)
  | [] => none
  | c :: cs =>
    if piece.isPrefixOf (c :: cs) then some ([], (c :: cs).drop piece.length)
    else (cutAt? piece cs).map fun cut => (c :: cut.1, cut.2)

/-- The set of a property: a name alone, or a name and a value. An exclamation mark in
front of the equals sign asks for what does not have the value. -/
def propertySet? (flags : Flags) (negated : Bool) (text : List Char) : Option CharSet :=
  if !flags.unicode then none
  else
    match cutAt? ['!', '='] text with
    | some (name, value) => (Text.valuedSet? name value).bind (flags.settle? (!negated))
    | none =>
      match (cutAt? [':'] text).or (cutAt? ['='] text) with
      | some (name, value) => (Text.valuedSet? name value).bind (flags.settle? negated)
      | none => (Text.namedSet? text).bind (flags.settle? negated)

end Flags

namespace Pattern

/-- A set that stands in the text of a pattern, and how deeply sets are nested there. -/
structure Item where
  set : CharSet
  height : Nat := 0

/-- Several texts side by side are one level of nesting on top of them. -/
def heightOver (heights : List Nat) : Nat :=
  match heights with
  | [] => 0
  | [height] => height
  | heights => 1 + heights.foldl max 0

namespace Item

def union (items : List Item) : Item :=
  match items with
  | [item] => item
  | items => ⟨.unions (items.map (·.set)), heightOver (items.map (·.height))⟩

inductive Operation where
  | intersection
  | difference
  | symmetricDifference

def Operation.apply : Operation → CharSet → CharSet → CharSet
  | .intersection => (· ∩ ·)
  | .difference => (· \ ·)
  | .symmetricDifference => CharSet.symmetricDifference

/-- Both sides are closed under letter case first. -/
def combine (flags : Flags) (op : Operation) (l r : Item) : Item :=
  ⟨op.apply (flags.fold l.set) (flags.fold r.set), 1 + max l.height r.height⟩

end Item
end Pattern
end Watchpost

import Watchpost.Double.Reading
import Watchpost.Json.Fields
import Watchpost.Yaml.Node

/-! What the nodes of a YAML document mean.

A plain scalar is null, a truth value, a number or text by its looks, unless a tag
says what it is. Where a certain kind of value is asked for, what the scalar says is
taken as that kind. -/
namespace Watchpost.Yaml

/-! ### Scalars -/

def isNull (s : String) : Bool := ["~", "null", "Null", "NULL"].contains s

def bool? (s : String) : Option Bool :=
  if ["true", "True", "TRUE"].contains s then some true
  else if ["false", "False", "FALSE"].contains s then some false
  else none

/-- Digits of a base, one at least. -/
def digits? (base : Nat) (cs : List Char) : Option Nat :=
  if cs.isEmpty then none
  else
    let add (n : Nat) (c : Char) : Option Nat :=
      (Json.hexValue c).bind fun d => if d < base then some (base * n + d) else none
    cs.foldlM add 0

/-- Whether decimal digits start with a zero for nothing. -/
def isPadded (cs : List Char) : Bool :=
  let digits := (splitSign cs).2
  digits.head? == some '0' && 1 < digits.length && digits.all isDigit

def unsigned? : List Char → Option Nat
  | '0' :: 'x' :: cs => digits? 16 cs
  | '0' :: 'o' :: cs => digits? 8 cs
  | '0' :: 'b' :: cs => digits? 2 cs
  | cs => if isPadded cs then none else digits? 10 cs

/-- An integer of 128 bits. Only those of 64 bits are taken. -/
def integer? (cs : List Char) : Option Int :=
  let (negative, rest) := splitSign cs
  (unsigned? rest).bind fun n =>
    let i : Int := if negative then -n else n
    if IntegerKind.any128.holds i then some i else none

def isInfinity (s : String) : Bool := [".inf", ".Inf", ".INF"].contains s

/-- A finite number, or a word for what is none. -/
def float? (cs : List Char) : Option Double :=
  let s := String.ofList cs
  let unsigned := match cs with
    | '+' :: rest => rest
    | cs => cs
  if isInfinity (String.ofList unsigned) then some Double.infinity
  else if cs.head? == some '-' && isInfinity (String.ofList cs.tail) then
    some ⟨true, Double.infinite⟩
  else if [".nan", ".NaN", ".NAN"].contains s then some Double.nan
  else if cs.head? == some '+' && unsigned.head?.any fun c => c == '+' || c == '-' then none
  else (Double.read? unsigned).filter fun d => !d.isInfinite && !d.isNaN

/-- What a plain scalar is by its looks. -/
def plain? (s : String) : Option Json :=
  if s.isEmpty || isNull s then some .null
  else
    match bool? s, integer? s.toList with
    | some b, _ => some (.bool b)
    | none, some i => if IntegerKind.any64.holds i then some (.integer i) else none
    | none, none =>
      match if isPadded s.toList then none else float? s.toList with
      | some d => some (.double d)
      | none => some (.text s)

def standardTag (name : String) : String := "tag:yaml.org,2002:" ++ name

/-- What a scalar is. A tag may say so; those with an exclamation mark are unknown. -/
def scalar? (style : Style) (tag : Option String) (s : String) : Option Json :=
  match tag with
  | none => if style = .plain then plain? s else some (.text s)
  | some tag =>
    if tag = standardTag "bool" then (bool? s).map .bool
    else if tag = standardTag "int" then
      (integer? s.toList).bind fun i =>
        if IntegerKind.any64.holds i then some (.integer i) else none
    else if tag = standardTag "float" then (float? s.toList).map .double
    else if tag = standardTag "null" then if isNull s then some .null else none
    else if tag.toList.head? = some '!' then none
    else some (.text s)

def isUnknownTag (tag : Option String) : Bool := tag.any fun t => t.toList.head? == some '!'

/-! ### Documents -/

/-- What reading an alias may still cost: the number of aliases that may be read. -/
abbrev Spending := StateT Nat Option

mutual
/-- How many marks a node is made of: one for a scalar or an alias, and two around
what a list or a record holds. -/
def Node.size : Node → Nat
  | .scalar .. | .alias _ => 1
  | .list _ items => Node.sizeOfItems items + 2
  | .record _ members => Node.sizeOfMembers members + 2

def Node.sizeOfItems : List Node → Nat
  | [] => 0
  | n :: rest => n.size + Node.sizeOfItems rest

def Node.sizeOfMembers : List (Node × Node) → Nat
  | [] => 0
  | (k, v) :: rest => k.size + v.size + Node.sizeOfMembers rest
end

namespace Document

/-- The node with a number: the last one that began with it. -/
def target? (d : Document) (number : Nat) : Option Node :=
  (d.numbers.zipIdx.reverse.find? (·.1 == number)).bind fun (_, place) =>
    (d.anchored.find? (·.1 == place)).map (·.2)

/-- How many aliases may be read in all. -/
def allowance (d : Document) : Nat := 100 * d.root.size

/-- A node, or what it is an alias of. -/
def follow (d : Document) : Node → Spending Node
  | .alias number => fun left =>
    if left = 0 then none else (d.target? number).map fun n => (n, left - 1)
  | n => pure n

/-- Lifts what may fail. -/
def must (x : Option α) : Spending α := fun left => x.map fun a => (a, left)

/-- What a node is by its looks, when lists and records are nested so deep at most. -/
def looks (d : Document) (levels : Nat) (n : Node) : Spending Json.Draft := do
  match ← d.follow n, levels with
  | .scalar style tag s, _ => return .leaf (← must (scalar? style tag s))
  | .list tag items, levels + 1 =>
    if isUnknownTag tag then failure
    else return .list (← items.mapM (looks d levels))
  | .record tag members, levels + 1 =>
    if isUnknownTag tag then failure
    else
      let members ← members.mapM fun (k, v) => do
        return ((← looks d levels k).text?, ← looks d levels v)
      return .record members
  | _, _ => failure

/-- What a node is asked for. -/
inductive Asked where
  | text
  /-- A text that may be null instead. -/
  | textOrNull
  | bool
  /-- Whatever it is by its looks. -/
  | looks
  /-- Nothing. -/
  | ignored

/-- A scalar that may be null instead. -/
def textOrNull? (style : Style) (tag : Option String) (s : String) : Option Json :=
  if style != .plain then some (.text s)
  else if tag = some (standardTag "null") then if isNull s then some .null else none
  else if tag.isNone && (s.isEmpty || isNull s) then some .null
  else some (.text s)

/-- A truth value, which is plain or a block with its tag. -/
def askedBool? (style : Style) (tag : Option String) (s : String) : Option Json :=
  if style = .plain || (style = .literal && tag == some (standardTag "bool")) then
    (bool? s).map .bool
  else none

/-- The deepest nesting of lists and records. -/
def maxDepth : Nat := 128

/-- What a node in the outermost record gives when it is asked. -/
def ask (d : Document) (n : Node) : Asked → Spending Json.Draft
  | .looks => d.looks (maxDepth - 1) n
  | .ignored => return .leaf none
  | asked => do
    match ← d.follow n with
    | .scalar style tag s =>
      match asked with
      | .textOrNull => return .leaf (← must (textOrNull? style tag s))
      | .bool => return .leaf (← must (askedBool? style tag s))
      | _ => return .leaf (some (.text s))
    | _ => failure

/-- The name of a member, which is a scalar. -/
def name (d : Document) (n : Node) : Spending String := do
  match ← d.follow n with
  | .scalar _ _ s => return s
  | _ => failure

/-- The members of the outermost record; a name says what is asked for. -/
def members? (d : Document) (asked : String → Asked) : Option (List (Option String × Json.Draft)) :=
  match d.root with
  | .record _ members =>
    let all := members.mapM fun (k, v) => do
      let name ← d.name k
      return (some name, ← d.ask v (asked name))
    (all.run d.allowance).map (·.1)
  | _ => none

end Document
end Watchpost.Yaml

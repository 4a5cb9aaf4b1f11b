import Watchpost.Yaml.Layout

/-! YAML documents: scalars, lists and records.

A node may be anchored under a name, and an alias stands for it elsewhere. An alias
only holds the number of its anchor, so that a node may hold an alias of itself. -/
namespace Watchpost.Yaml

inductive Node where
  | scalar (style : Style) (tag : Option String) (text : String)
  | list (tag : Option String) (items : List Node)
  | record (tag : Option String) (members : List (Node × Node))
  | alias (number : Nat)
  deriving Inhabited

/-- What stands where nothing is written. -/
def Node.nothing : Node := .scalar .plain none ""

structure Document where
  root : Node
  /-- The numbers of the anchored nodes, in the order they begin in. -/
  numbers : List Nat
  /-- The anchored nodes, each with its place in that order. -/
  anchored : List (Nat × Node)

/-! ### Reading -/

structure Reading where
  rest : List Token
  /-- What handles of tags stand for. -/
  handles : List (String × String) := []
  /-- The numbers of the names that anchors have so far. -/
  names : List (String × Nat) := []
  numbers : List Nat := []
  anchored : List (Nat × Node) := []

abbrev Read := StateT Reading Option

namespace Read

def next : Read (Option Token) := fun r => some (r.rest.head?, r)

def skip : Read Unit := fun r => some ((), { r with rest := r.rest.tail })

/-- Takes a token if it comes next, and says whether it did. -/
def take (t : Token) : Read Bool := do
  if (← next) = some t then
    skip
    return true
  else return false

/-- Whether one of some tokens comes next. -/
def comes (ts : List Token) : Read Bool := do
  return (← next).any ts.contains

/-! ### Anchors and tags -/

/-- Notes that an anchored node begins. A name gets the number of names before it;
a name that comes again gets a new number, which the next new name gets, too. -/
def start (name : String) : Read Nat := fun r =>
  let number := r.names.length
  let names := (name, number) :: r.names.filter (·.1 != name)
  some (r.numbers.length, { r with names, numbers := r.numbers ++ [number] })

def finish (place : Nat) (n : Node) : Read Unit := fun r =>
  some ((), { r with anchored := (place, n) :: r.anchored })

/-- The alias of an anchor that has begun. -/
def aliasOf (name : String) : Read Node := fun r =>
  (r.names.find? (·.1 == name)).map fun (_, number) => (.alias number, r)

/-- A tag in full. -/
def tag (handle suffix : String) : Read String := fun r =>
  if handle.isEmpty then some (suffix, r)
  else (r.handles.find? (·.1 == handle)).map fun (_, start) => (start ++ suffix, r)

def anchor? : Read (Option String) := do
  match ← next with
  | some (.anchor name) =>
    skip
    return some name
  | _ => return none

def tag? : Read (Option String) := do
  match ← next with
  | some (.tag handle suffix) =>
    skip
    return some (← tag handle suffix)
  | _ => return none

/-- The name of the anchor and the tag in front of a node, in either order. -/
def properties : Read (Option String × Option String) := do
  match ← anchor? with
  | some name => return (some name, ← tag?)
  | none =>
    let tag ← tag?
    return (← anchor?, tag)

/-! ### Nodes -/

mutual
/-- A node within so many steps. Outside of brackets it may be indented; as part of
a record it may be a list that is not indented further. -/
def node (block flush : Bool) : (most : Nat) → Read Node
  | 0 => failure
  | most + 1 => do
    match ← next with
    | some (.alias name) =>
      skip
      aliasOf name
    | _ =>
      let (name, tag) ← properties
      match name with
      | some name =>
        let place ← start name
        let n ← content block flush true tag most
        finish place n
        return n
      | none => content block flush tag.isSome tag most

/-- What a node is but for its anchor and its tag. Nothing may follow those. -/
def content (block flush marked : Bool) (tag : Option String) : (most : Nat) → Read Node
  | 0 => failure
  | most + 1 => do
    match ← next with
    | some (.scalar style text) =>
      skip
      return .scalar style tag text
    | some .openList =>
      skip
      return .list tag (← items true most)
    | some .openRecord =>
      skip
      return .record tag (← pairs true most)
    | some .entry =>
      if flush then return .list tag (← flushEntries most)
      else if marked then return .scalar .plain tag ""
      else failure
    | some .listStart =>
      if block then
        skip
        return .list tag (← entries most)
      else if marked then return .scalar .plain tag ""
      else failure
    | some .recordStart =>
      if block then
        skip
        return .record tag (← members most)
      else if marked then return .scalar .plain tag ""
      else failure
    | _ => if marked then return .scalar .plain tag "" else failure

/-- A node, or nothing if one of some tokens comes next. -/
def nodeBefore (ts : List Token) (block flush : Bool) : (most : Nat) → Read Node
  | 0 => failure
  | most + 1 => do
    if ← comes ts then return .nothing else node block flush most

/-- The items of an indented list. -/
def entries : (most : Nat) → Read (List Node)
  | 0 => failure
  | most + 1 => do
    if ← take .entry then
      let n ← nodeBefore [.entry, .blockEnd] true false most
      return n :: (← entries most)
    else if ← take .blockEnd then return []
    else failure

/-- The items of a list that is not indented further than the record around it. -/
def flushEntries : (most : Nat) → Read (List Node)
  | 0 => failure
  | most + 1 => do
    if ← take .entry then
      let n ← nodeBefore [.entry, .key, .value, .blockEnd] true false most
      return n :: (← flushEntries most)
    else return []

/-- The members of an indented record. -/
def members : (most : Nat) → Read (List (Node × Node))
  | 0 => failure
  | most + 1 => do
    if ← take .key then
      let k ← nodeBefore [.key, .value, .blockEnd] true true most
      let v ← value [.key, .value, .blockEnd] true most
      return (k, v) :: (← members most)
    else if ← take .blockEnd then return []
    else failure

/-- What follows a key, if anything does. -/
def value (ends : List Token) (block : Bool) : (most : Nat) → Read Node
  | 0 => failure
  | most + 1 => do
    if ← take .value then nodeBefore ends block block most else return .nothing

/-- The items of a list in brackets. -/
def items (first : Bool) : (most : Nat) → Read (List Node)
  | 0 => failure
  | most + 1 => do
    if ← take .closeList then return []
    else if first || (← take .comma) then
      if ← take .closeList then return []
      else if ← take .key then
        let k ← if ← comes [.value, .comma, .closeList] then
            skip
            pure .nothing
          else node false false most
        let v ← value [.comma, .closeList] false most
        return .record none [(k, v)] :: (← items false most)
      else
        let n ← node false false most
        return n :: (← items false most)
    else failure

/-- The members of a record in braces. -/
def pairs (first : Bool) : (most : Nat) → Read (List (Node × Node))
  | 0 => failure
  | most + 1 => do
    if ← take .closeRecord then return []
    else if first || (← take .comma) then
      if ← take .closeRecord then return []
      else if ← take .key then
        let k ← nodeBefore [.value, .comma, .closeRecord] false false most
        let v ← value [.comma, .closeRecord] false most
        return (k, v) :: (← pairs false most)
      else
        let k ← node false false most
        return (k, .nothing) :: (← pairs false most)
    else failure
end

/-! ### Documents -/

/-- What handles stand for if nothing else is said. -/
def usualHandles : List (String × String) := [("!", "!"), ("!!", "tag:yaml.org,2002:")]

/-- Takes the directives in front of a document, and says whether there are any. -/
def directives (version : Bool) (handles : List (String × String)) :
    List Token → Option (Bool × List (String × String) × List Token)
  | .version major minor :: rest =>
    if version || major != 1 || !(minor == 1 || minor == 2) then none
    else directives true handles rest
  | .tagHandle handle start :: rest =>
    if handles.any (·.1 == handle) then none
    else directives version (handles ++ [(handle, start)]) rest
  | rest => some (version || !handles.isEmpty, handles ++ usualHandles, rest)

/-- Whether a document begins or ends here. -/
def isBorder : Option Token → Bool
  | none | some (.version ..) | some (.tagHandle ..) | some .documentStart
  | some .documentEnd => true
  | _ => false

/-- The node of a document, which may be left out after a mark in front of it. -/
def root (most : Nat) : Read Node := do
  if ← take .documentStart then
    if isBorder (← next) then return .nothing else node true false most
  else node true false most

end Read

namespace Document

/-- The document of a text that holds just one. -/
def ofTokens? (ts : List Token) : Option Document := do
  let (directed, handles, rest) ← Read.directives false [] ts
  if rest.isEmpty || (directed && rest.head? != some .documentStart) then none
  else
    let (root, r) ← (Read.root (4 * rest.length + 4)).run { rest, handles }
    if r.rest.all (· == .documentEnd) then return ⟨root, r.numbers, r.anchored⟩ else none

def ofText? (s : String) : Option Document := (tokens? s).bind ofTokens?

end Document
end Watchpost.Yaml

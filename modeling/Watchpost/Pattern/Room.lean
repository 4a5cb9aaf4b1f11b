import Watchpost.Pattern.Plan
import Watchpost.Text.ByteRange

/-! The room that a matcher takes.

A matcher reads bytes, forwards to find where a piece of text ends and backwards to
find where it begins. Either way it is a machine of states; a state may lead to
several others, each of which takes some room, too. -/
namespace Watchpost

namespace Room

/-- The bytes that a state takes. -/
def state : Nat := 32

/-- The bytes for one more state that a state leads to without reading. -/
def link : Nat := 4

/-- The bytes for one of several ranges of bytes that a state reads. -/
def arc : Nat := 8

def total (sizes : List Nat) : Nat := sizes.foldl (· + ·) 0

/-! ### Sets -/

/-- How far two paths go together. -/
def together : BytePath → BytePath → Nat
  | a :: p, b :: q => if a == b then 1 + together p q else 0
  | _, _ => 0

/-- The number of steps in paths, where neighbours share those that they begin with. -/
def steps (before : BytePath) : List BytePath → Nat
  | [] => 0
  | path :: rest => (path.length - together before path) + steps path rest

/-- What a state reads, and where each range leads to. -/
abbrev Node := List ((Nat × Nat) × Nat)

/-- The number of the state from which some paths go on. States that read the same are
one; the last one has the number zero. -/
def number : (depth : Nat) → List BytePath → StateM (Array Node) Nat
  | 0, _ => return 0
  | depth + 1, paths => do
    if paths == [[]] then return 0
    else
      let node ← (paths.splitBy fun p q => p.head? == q.head?).mapM fun group => do
        let next ← number depth (group.map List.tail)
        return ((group.head?.bind List.head?).getD (0, 0), next)
      let nodes ← get
      match nodes.idxOf? node with
      | some i => return i + 1
      | none =>
        set (nodes.push node)
        return nodes.size + 1

/-- Backwards, characters share the bytes that they begin with, and forwards all that
they end with. -/
def ofSet (forwards : Bool) (s : CharSet) : Nat :=
  let ranges := s.ranges
  if ranges.all fun r => r.2 < 128 then 2 * state + arc * ranges.length
  else
    let paths := s.bytePaths
    if forwards then
      let (_, nodes) := (number 5 paths).run #[]
      state * (1 + nodes.size) + arc * total (nodes.toList.map List.length)
    else state * (2 + steps [] paths) + link * paths.length

/-! ### Texts to choose from -/

/-- Words that are all that can follow at some place, parted where one of them is at its
end. Words that are at their end in front count once. -/
def runs (words : List (List UInt8)) : List (List (List UInt8)) :=
  match words with
  | [] :: rest => [] :: (rest.dropWhile List.isEmpty).splitOnP List.isEmpty
  | words => words.splitOnP List.isEmpty

/-- What follows each byte that some words begin with. -/
def branches (words : List (List UInt8)) : List (List (List UInt8)) :=
  ((words.filterMap List.head?).eraseDups).map fun byte =>
    (words.filter (·.head? == some byte)).map List.tail

/-- The states from which words go on, up to so many bytes long. -/
def ofWords : (most : Nat) → List (List UInt8) → Nat
  | 0, _ => 0
  | most + 1, words =>
    if words.all List.isEmpty then 0
    else
      let parts := runs words
      let ofPart (part : List (List UInt8)) : Nat :=
        match branches part with
        | [] => 0
        | [rest] => link + state + ofWords most rest
        | rests => link + state + arc * rests.length + total (rests.map (ofWords most))
      state + link * (parts.length - 1) + total (parts.map ofPart)

/-- Texts share the bytes that they begin with, or end with backwards. -/
def ofTexts (forwards : Bool) (texts : List (List Char)) : Nat :=
  let words := texts.map fun cs =>
    let bytes := cs.flatMap String.utf8EncodeChar
    if forwards then bytes else bytes.reverse
  state + ofWords ((words.map List.length).foldl max 0 + 1) words

/-! ### Plans -/

/-- Repeats what takes some room. Where there is a choice to go on, a state makes it. -/
def ofRepeated (room : Nat) (mayBeEmpty : Bool) (least : Nat) (most : Option Nat) : Nat :=
  let times (n : Nat) : Nat := if n = 0 then state else n * room
  match least, most with
  | 0, some 1 => room + 2 * state + 2 * link
  | 0, none => if mayBeEmpty then room + 3 * state + 4 * link else room + state + 2 * link
  | least, none => least * room + state + 2 * link
  | least, some most =>
    if least = most then times least
    else times least + state + (most - least) * (room + state + 2 * link)

end Room

namespace Plan

/-- The texts that plans are, if all of them are texts. -/
def texts? (ps : List Plan) : Option (List (List Char)) :=
  ps.mapM fun
    | .text cs => some cs
    | _ => none

mutual
/-- The room of a plan in one direction. Groups are only noted forwards. -/
def room (forwards : Bool) : Plan → Nat
  | .nothing | .look _ => Room.state
  | .text cs => Room.state * (cs.flatMap String.utf8EncodeChar).length
  | .set s _ => Room.ofSet forwards s
  | .repeated p least most _ => Room.ofRepeated (p.room forwards) p.mayBeEmpty least most
  | .group _ p => p.room forwards + if forwards then 2 * Room.state else 0
  | .sequence ps => totalRoom forwards 0 ps
  | .choice ps =>
    match texts? ps with
    | some texts => Room.ofTexts forwards texts
    | none => 2 * Room.state + totalRoom forwards Room.link ps

/-- The room of several plans, and some more for each of them. -/
def totalRoom (forwards : Bool) (more : Nat) : List Plan → Nat
  | [] => 0
  | p :: ps => p.room forwards + more + totalRoom forwards more ps
end

/-- The most room that a matcher may take. -/
def mostRoom : Nat := 10 * 0x100000

/-- Whether a matcher may be made. Around the plan it has a state in front and one at the
end, and forwards two that note where a piece of text begins and ends. -/
def fits (p : Plan) : Bool :=
  p.room false + 2 * Room.state ≤ mostRoom && p.room true + 4 * Room.state ≤ mostRoom

end Plan
end Watchpost

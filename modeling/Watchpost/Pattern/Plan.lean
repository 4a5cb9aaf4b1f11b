import Watchpost.Pattern.Basic

/-! What a matcher for a pattern would be made of.

A plan is the shape of a pattern after the simplifications that come before a matcher
is made: neighbouring characters are one text, branches of single characters are one
set, and what all branches begin with is taken out of them. -/
namespace Watchpost

inductive Plan where
  | nothing
  | text (cs : List Char)
  /-- A set of characters, which may be read as bytes. -/
  | set (s : CharSet) (asBytes : Bool)
  | look (l : Look)
  /-- A repetition; a lazy one ends as soon as it can. -/
  | repeated (p : Plan) (least : Nat) (most : Option Nat) (lazy : Bool)
  /-- A group, by its number. -/
  | group (number : Nat) (p : Plan)
  | sequence (ps : List Plan)
  | choice (ps : List Plan)

namespace Plan

/-! ### Comparison -/

mutual
def same : Plan → Plan → Bool
  | .nothing, .nothing => true
  | .text cs, .text ds => cs == ds
  | .set s asBytes, .set t asBytes' => asBytes == asBytes' && s.edges == t.edges
  | .look l, .look m => l == m
  | .repeated p least most lazy, .repeated q least' most' lazy' =>
    least == least' && most == most' && lazy == lazy' && p.same q
  | .group n p, .group m q => n == m && p.same q
  | .sequence ps, .sequence qs => sameAll ps qs
  | .choice ps, .choice qs => sameAll ps qs
  | _, _ => false

def sameAll : List Plan → List Plan → Bool
  | [], [] => true
  | p :: ps, q :: qs => p.same q && sameAll ps qs
  | _, _ => false
end

/-- What two lists begin with. -/
def shared : List Plan → List Plan → List Plan
  | p :: ps, q :: qs => if p.same q then p :: shared ps qs else []
  | _, _ => []

/-! ### Building plans -/

/-- A set of one character is a text. The empty set is one of bytes. -/
def ofSet (asBytes : Bool) (s : CharSet) : Plan :=
  let s := s \ .surrogates
  match s.ranges with
  | [] => .set s true
  | [(lo, hi)] => if lo = hi then .text [Char.ofNat lo] else .set s asBytes
  | _ => .set s asBytes

/-- Repeats a plan, unless once is all that is asked for, or not at all. -/
def repeatedly (p : Plan) (least : Nat) (most : Option Nat) (lazy : Bool) : Plan :=
  match least, most with
  | 0, some 0 => .nothing
  | 1, some 1 => p
  | _, _ => .repeated p least most lazy

/-- Puts a plan in front of others. -/
def prepend (p : Plan) (ps : List Plan) : List Plan :=
  match p, ps with
  | .nothing, ps => ps
  | .text cs, .text ds :: ps => .text (cs ++ ds) :: ps
  | p, ps => p :: ps

/-- Several plans, one after the other. -/
def concat (ps : List Plan) : Plan :=
  let parts : Plan → List Plan
    | .sequence ps => ps
    | p => [p]
  match (ps.flatMap parts).foldr prepend [] with
  | [] => .nothing
  | [p] => p
  | ps => .sequence ps

/-- The set that single characters or sets are in all, if the branches are just one kind
of these. -/
def merged? (ps : List Plan) : Option CharSet :=
  let character? : Plan → Option CharSet
    | .text [c] => some (.single c)
    | _ => none
  let set? : Plan → Option CharSet
    | .set s _ => some s
    | _ => none
  ((ps.mapM character?).or (ps.mapM set?)).map CharSet.unions

/-- Several plans to choose from. -/
def branch (ps : List Plan) : Plan :=
  let parts : Plan → List Plan
    | .choice ps => ps
    | p => [p]
  match ps.flatMap parts with
  | [p] => p
  | ps =>
    match merged? ps with
    | some s => ofSet false s
    | none => .choice ps

/-- What all plans begin with, and what each of them goes on with. -/
def cut? (ps : List Plan) : Option (List Plan × List (List Plan)) := do
  let items : Plan → Option (List Plan)
    | .sequence ps => some ps
    | _ => none
  match ← ps.mapM items with
  | [] => none
  | first :: others =>
    let front := others.foldl shared first
    if front.isEmpty then none
    else some (front, (first :: others).map (·.drop front.length))

/-- Several plans to choose from, with what they have in common in front. -/
def alternate (ps : List Plan) : Plan :=
  match branch ps with
  | .choice ps =>
    match cut? ps with
    | some (front, rests) => concat (front ++ [branch (rests.map concat)])
    | none => .choice ps
  | p => p

/-! ### The empty text -/

mutual
/-- Whether the empty text can be taken. -/
def mayBeEmpty : Plan → Bool
  | .nothing | .look _ => true
  | .text _ => false
  | .set s _ => s.isEmpty
  | .repeated p least _ _ => least == 0 || p.mayBeEmpty
  | .group _ p => p.mayBeEmpty
  | .sequence ps => allMayBeEmpty ps
  | .choice ps => someMayBeEmpty ps

def allMayBeEmpty : List Plan → Bool
  | [] => true
  | p :: ps => p.mayBeEmpty && allMayBeEmpty ps

def someMayBeEmpty : List Plan → Bool
  | [] => false
  | p :: ps => p.mayBeEmpty || someMayBeEmpty ps
end

end Plan
end Watchpost

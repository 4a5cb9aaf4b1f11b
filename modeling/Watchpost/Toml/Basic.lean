import Watchpost.Json.Draft

/-! TOML values, and how the lines of a document build up its tables.

A table may be defined once only. How it came about decides what may still be added
to it: headers go on where other headers only passed by, dotted keys go on where
dotted keys began, and what was written in braces is closed. -/
namespace Watchpost

/-- How a table came about. -/
inductive Toml.Origin where
  /-- A header names it. -/
  | header
  /-- A header passes by it. -/
  | implied
  /-- A dotted key passes by it. -/
  | dotted
  /-- It was written in braces. -/
  | braces
  deriving DecidableEq

inductive Toml where
  | text (s : String)
  | integer (i : Int)
  | float (d : Double)
  | bool (b : Bool)
  /-- A date, a time or both. -/
  | moment
  /-- Items, which headers may have named. -/
  | list (ofHeaders : Bool) (items : List Toml)
  | table (origin : Toml.Origin) (members : List (String × Toml))
  deriving Inhabited

namespace Toml

abbrev Members := List (String × Toml)

def find? (key : String) (ms : Members) : Option Toml := (ms.find? (·.1 == key)).map (·.2)

def replace (key : String) (value : Toml) (ms : Members) : Members :=
  ms.map fun m => if m.1 == key then (key, value) else m

/-! ### Keys -/

/-- Whether dotted keys may go on with a table. -/
def Origin.isOpen : Origin → Bool
  | .implied | .dotted => true
  | .header | .braces => false

/-- Puts a value under a dotted key. Nothing may be there yet, and no header may have
named the tables it passes by. It may pass by the last item of a list of headers, but
not end there. -/
def insert : (path : List String) → Toml → Members → Option Members
  | [], _, _ => none
  | [key], value, ms => if (find? key ms).isSome then none else some (ms ++ [(key, value)])
  | key :: rest, value, ms =>
    match find? key ms with
    | none => (insert rest value []).map fun inner => ms ++ [(key, .table .dotted inner)]
    | some (.table origin inner) =>
      if origin.isOpen then
        (insert rest value inner).map fun inner => replace key (.table origin inner) ms
      else none
    | some (.list true items) =>
      match items.getLast? with
      | some (.table origin inner) =>
        if rest.length = 1 then none
        else (insert rest value inner).map fun inner =>
          replace key (.list true (items.dropLast ++ [.table origin inner])) ms
      | _ => none
    | some _ => none

/-! ### Headers -/

/-- Changes the table that a path leads to. In a list of headers it leads to the last item. -/
def change (f : Members → Option Members) : (path : List String) → Members → Option Members
  | [], ms => f ms
  | key :: rest, ms =>
    match find? key ms with
    | some (.table .braces _) => none
    | some (.table origin inner) =>
      (change f rest inner).map fun inner => replace key (.table origin inner) ms
    | some (.list true items) =>
      match items.getLast? with
      | some (.table origin inner) =>
        (change f rest inner).map fun inner =>
          replace key (.list true (items.dropLast ++ [.table origin inner])) ms
      | _ => none
    | some _ => none
    | none => (change f rest []).map fun inner => ms ++ [(key, .table .implied inner)]

/-- Opens a table under a key. Other headers may have passed by it. -/
def openTable (key : String) (ms : Members) : Option Members :=
  match find? key ms with
  | none => some (ms ++ [(key, .table .header [])])
  | some (.table .implied inner) => some (replace key (.table .header inner) ms)
  | some _ => none

/-- Opens one more item of a list of headers. -/
def openItem (key : String) (ms : Members) : Option Members :=
  match find? key ms with
  | none => some (ms ++ [(key, .list true [.table .header []])])
  | some (.list true items) => some (replace key (.list true (items ++ [.table .header []])) ms)
  | some _ => none

/-- Opens what a header names. -/
def openHeader (item : Bool) (path : List String) (ms : Members) : Option Members :=
  match path.getLast? with
  | some key => change (if item then openItem key else openTable key) path.dropLast ms
  | none => none

/-! ### As drafts -/

mutual
/-- A draft of the same form. A moment is a record that tells none of the fields that
are asked for. -/
def draft : Toml → Json.Draft
  | .text s => .leaf (some (.text s))
  | .integer i => .leaf (some (.integer i))
  | .float d => .leaf (some (.double d))
  | .bool b => .leaf (some (.bool b))
  | .moment => .record []
  | .list _ items => .list (draftItems items)
  | .table _ ms => .record (draftMembers ms)

def draftItems : List Toml → List Json.Draft
  | [] => []
  | t :: rest => t.draft :: draftItems rest

def draftMembers : Members → List (Option String × Json.Draft)
  | [] => []
  | (key, t) :: rest => (some key, t.draft) :: draftMembers rest
end

end Toml
end Watchpost

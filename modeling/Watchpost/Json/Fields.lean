import Watchpost.Json.Draft

/-! Fields of drafts.

A value with named fields is written as a record, whose other members do not count,
or as the list of its fields in order. A named field comes once at most. -/
namespace Watchpost.Json.Draft

/-! ### Single values -/

def text? : Draft → Option String
  | .leaf (some (.text s)) => some s
  | _ => none

def bool? : Draft → Option Bool
  | .leaf (some (.bool b)) => some b
  | _ => none

def isNull : Draft → Bool
  | .leaf (some .null) => true
  | _ => false

/-- An integer of a kind. -/
def integer? (k : IntegerKind) : Draft → Option Int
  | .leaf (some (.integer i)) => if k.holds i then some i else none
  | _ => none

/-- A value that may be `null` instead. -/
def nullable (read : Draft → Option α) (d : Draft) : Option (Option α) :=
  if d.isNull then some none else (read d).map some

/-! ### Fields -/

/-- A field that has to be there. -/
def required (read : Draft → Option α) (field : Option Draft) : Option α := field.bind read

/-- A field that may be left out. -/
def withDefault (read : Draft → Option α) (default : α) : Option Draft → Option α
  | none => some default
  | some d => read d

/-- The members of a record under some names; all names in it make sense. -/
def members? (names : List String) : List (Option String × Draft) → Option (List (String × Draft))
  | [] => some []
  | (none, _) :: _ => none
  | (some name, d) :: rest =>
    (members? names rest).bind fun found =>
      if !names.contains name then some found
      else if found.any (·.1 == name) then none
      else some ((name, d) :: found)

/-- The fields with some names, in the order of the names. -/
def fields? (names : List String) : Draft → Option (List (Option Draft))
  | .leaf _ => none
  | .list items =>
    if names.length < items.length then none
    else some (items.map some ++ List.replicate (names.length - items.length) none)
  | .record members =>
    (members? names members).map fun found =>
      names.map fun name => (found.find? (·.1 == name)).map (·.2)

/-- A record as a table, whatever its names are. The last one of each name counts. -/
def table? (read : Draft → Option α) : Draft → Option (Table α)
  | .record members => do
    let entries ← members.mapM fun (name, d) => do return (← name, ← read d)
    return Table.ofList entries
  | _ => none

end Watchpost.Json.Draft

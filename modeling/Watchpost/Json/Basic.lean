import Watchpost.Double.Notation
import Watchpost.Table

/-! JSON values.

A number is an integer if it is written as one and fits 64 bits, with or without a
sign; all others are doubles. The members of a record are written in the order they
are in; those of a record that was read are in the order of their names. -/
namespace Watchpost

inductive Json where
  | null
  | bool (b : Bool)
  | integer (i : Int)
  | double (d : Double)
  | text (s : String)
  | list (items : List Json)
  | record (members : List (String × Json))
  deriving BEq, Inhabited

namespace Json

/-- The member of a record under a name. -/
def member? (name : String) : Json → Option Json
  | .record members => (members.find? (·.1 == name)).map (·.2)
  | _ => none

/-- The record that is read from members in any order; of several with one name the last one
counts. -/
def ofMembers (members : List (String × Json)) : Json :=
  .record (members.foldl (fun soFar m => Table.insertEntry m.1 m.2 soFar) [])

def orNull : Option Json → Json
  | some j => j
  | none => .null

def textOrNull : Option String → Json
  | some s => .text s
  | none => .null

/-! ### Writing -/

/-- Plain between `1e-5` and `1e16`; an exponent carries its sign. -/
def floatNotation : FloatNotation :=
  { plainFrom := -5, plainBelow := 16, fraction := false, mark := "e", plus := true, tie := .toEven,
    nan := "null", infinity := "null" }

def hexDigits (n : Nat) : List Char := (Nat.toDigits 16 (n + 0x10000)).drop 1

/-- Quotes, backslashes and control characters are escaped. -/
def escape (c : Char) : List Char :=
  if c = '"' then ['\\', '"']
  else if c = '\\' then ['\\', '\\']
  else if c = '\n' then ['\\', 'n']
  else if c = '\r' then ['\\', 'r']
  else if c = '\t' then ['\\', 't']
  else if c.toNat = 8 then ['\\', 'b']
  else if c.toNat = 12 then ['\\', 'f']
  else if c.toNat < 0x20 then '\\' :: 'u' :: hexDigits c.toNat
  else [c]

def quote (s : String) : String := String.ofList ('"' :: s.toList.flatMap escape ++ ['"'])

mutual
/-- Writes a value without blanks. -/
def write : Json → String
  | .null => "null"
  | .bool b => if b then "true" else "false"
  | .integer i => toString i
  | .double d => floatNotation.write d
  | .text s => quote s
  | .list items => "[" ++ ",".intercalate (writeItems items) ++ "]"
  | .record members => "\x7b" ++ ",".intercalate (writeMembers members) ++ "\x7d"

def writeItems : List Json → List String
  | [] => []
  | j :: rest => j.write :: writeItems rest

def writeMembers : List (String × Json) → List String
  | [] => []
  | (name, j) :: rest => (quote name ++ ":" ++ j.write) :: writeMembers rest
end

end Json
end Watchpost

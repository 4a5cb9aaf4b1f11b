import Watchpost.Text.Age
import Watchpost.Text.Segment

/-! Sets of characters by name.

A name alone is that of a property, a category or a script; a name and a value ask
for those characters that have the value. A name is compared in its plain form:
blanks, low lines and hyphens, the case of letters and an `is` in front make no
difference. -/
namespace Watchpost.Text

/-- The plain form of a name. An `isc` keeps its front: it is no short form of `c`. -/
def plainName (name : List Char) : String :=
  let lower := name.map lowerAscii
  let keep (c : Char) : Bool := c.toNat < 128 && c != ' ' && c != '_' && c != '-'
  match lower with
  | 'i' :: 's' :: rest =>
    let rest := rest.filter keep
    if rest = ['c'] then "isc" else String.ofList rest
  | _ => String.ofList (lower.filter keep)

/-- The code of the script that has a name. -/
def scriptCode? (name : String) : Option String :=
  (Table.scriptNames.map fun line => split ' ' line.toList).findSome? fun names =>
    if (names.map plainName).contains name then (names.head?).map String.ofList else none

def roleSet? (roles : List (List String × CharSet)) (name : String) : Option CharSet :=
  (roles.find? (·.1.contains name)).map (·.2)

/-- The set that a lone name stands for. `cf`, `sc` and `lc` are categories. -/
def namedSet? (name : List Char) : Option CharSet :=
  let plain := plainName name
  let property := if ["cf", "sc", "lc"].contains plain then none else propertySet? plain
  property <|> categorySet? plain <|> (scriptCode? plain).map ofScript

/-- The set that a name and a value stand for. -/
def valuedSet? (name value : List Char) : Option CharSet :=
  let plain := plainName value
  match plainName name with
  | "gc" | "generalcategory" => categorySet? plain
  | "sc" | "script" => (scriptCode? plain).map ofScript
  | "scx" | "scriptextensions" => (scriptCode? plain).map ofSharedScript
  | "age" => ageSet? plain
  | "gcb" | "graphemeclusterbreak" => roleSet? graphemeRoles plain
  | "wb" | "wordbreak" => roleSet? wordRoles plain
  | "sb" | "sentencebreak" => roleSet? sentenceRoles plain
  | _ => none

end Watchpost.Text

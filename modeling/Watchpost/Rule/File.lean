import Watchpost.Rule.Definition
import Watchpost.Yaml.Value

/-! Rules in files.

A file holds the definition of a rule, and perhaps its id, as the members of a
record in JSON or YAML. -/
namespace Watchpost

/-! ### Definitions in YAML -/

namespace Definition

/-- What the members of a definition are asked for. -/
def asked (name : String) : Yaml.Document.Asked :=
  if name = "severity" then .textOrNull
  else if name = "enabled" then .bool
  else if fieldNames.contains name then .text
  else .ignored

/-- Reads a definition alone, which takes a number or a word for text where text
is asked for. -/
def ofYaml? (s : String) : Option Definition := do
  let members ← (← Yaml.Document.ofText? s).members? asked
  ofDraft? (.record members)

end Definition

/-! ### Files -/

structure RuleFile where
  id : Option String
  definition : Definition

namespace RuleFile

inductive Format where
  | json
  | yaml
  deriving DecidableEq

namespace Format

/-- The name of a file up to its last point, and what follows that. A point in front
does not count. -/
def splitName (name : String) : List Char × Option (List Char) :=
  let backwards := name.toList.reverse
  let extension := backwards.takeWhile (· != '.')
  let stem := (backwards.drop (extension.length + 1)).reverse
  if stem.isEmpty then (name.toList, none) else (stem, some extension.reverse)

def ofName? (name : String) : Option Format :=
  match (splitName name).2.map String.ofList with
  | some "yml" | some "yaml" => some yaml
  | some "json" => some json
  | _ => none

def name : Format → String
  | json => "JSON"
  | yaml => "YAML"

end Format

/-- A file is called by its name without the extension. -/
def stem (name : String) : String := String.ofList (Format.splitName name).1

def ofMembers? (members : List (Option String × Json.Draft)) : Option RuleFile := do
  match ← Json.Draft.fields? ("id" :: Definition.fieldNames) (.record members) with
  | id :: fields =>
    return {
      id := ← Json.Draft.withDefault (Json.Draft.nullable Json.Draft.text?) none id
      definition := ← Definition.ofFields? fields }
  | [] => none

/-- The members of a record all of which makes sense. -/
def jsonMembers? (s : String) : Option (List (Option String × Json.Draft)) := do
  let d ← Json.Draft.ofText? s
  let _ ← d.value?
  match d with
  | .record members => return members
  | _ => none

/-- Only the id is asked for; all else is what it is by its looks. -/
def asked (name : String) : Yaml.Document.Asked := if name = "id" then .textOrNull else .looks

def members? (s : String) : Format → Option (List (Option String × Json.Draft))
  | .json => jsonMembers? s
  | .yaml => (Yaml.Document.ofText? s).bind fun d => d.members? asked

def ofText? (f : Format) (s : String) : Option RuleFile := (members? s f).bind ofMembers?

end RuleFile
end Watchpost

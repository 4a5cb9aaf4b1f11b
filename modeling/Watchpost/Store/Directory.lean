import Watchpost.Rule.File
import Watchpost.Settings
import Watchpost.Text.Utf8

/-! Rules in a directory.

Each file holds one rule. Files are taken in the order of their names, whatever
order they are listed in; one that holds no rule is passed over, and so is one whose
id an earlier file has. -/
namespace Watchpost

/-- What stands under a name in a directory. -/
inductive FileContent where
  | bytes (bytes : List UInt8)
  | folder (size : Nat)
  deriving DecidableEq

namespace FileContent

def size : FileContent → Nat
  | bytes bs => bs.length
  | folder size => size

def text? : FileContent → Option String
  | bytes bs => Text.ofBytes? bs
  | folder _ => none

end FileContent

/-- Why a file holds no rule. -/
inductive FileFault where
  | unknownExtension
  | absent
  | tooLarge (size most : Nat)
  | unreadable
  | malformed (format : RuleFile.Format)
  /-- It holds one that is not valid. -/
  | invalid (error : Error)

def FileFault.toError (path : String) : FileFault → Error
  | unknownExtension => .ruleLoad path "unsupported file extension"
  | absent => .ruleLoad path "failed to read file metadata"
  | tooLarge size most => .ruleLoad path s!"file too large: {size} bytes (max: {most})"
  | unreadable => .ruleLoad path "failed to read file"
  | malformed format => .ruleLoad path s!"{format.name} parse error"
  | invalid e => e

structure Directory where
  path : String
  /-- What it lists; nothing if there is no such directory. -/
  files : Option (List (String × FileContent))
  maxFileBytes : Nat := 1024 * 1024
  maxRules : Nat := 10000

namespace Directory

/-- The directory that settings name, with their limits. -/
def ofSettings (s : Settings) (files : Option (List (String × FileContent))) : Directory :=
  { path := s.ruleDir, files, maxFileBytes := s.maxRuleFileBytes, maxRules := s.maxRules }

/-! ### Files -/

/-- The rule in a file, under the id that it has or else under the file's name. -/
def ruleIn (d : Directory) (name : String) (content : Option FileContent) :
    Except FileFault (String × Definition) :=
  match RuleFile.Format.ofName? name, content with
  | none, _ => .error .unknownExtension
  | _, none => .error .absent
  | some format, some content =>
    if d.maxFileBytes < content.size then .error (.tooLarge content.size d.maxFileBytes)
    else
      match content.text?.map (RuleFile.ofText? format) with
      | none => .error .unreadable
      | some none => .error (.malformed format)
      | some (some file) =>
        let id := (file.id.filter (!Text.isBlankText ·)).getD (RuleFile.stem name)
        match file.definition.validate id with
        | .ok () => .ok (id, file.definition)
        | .error e => .error (.invalid e)

def content? (d : Directory) (name : String) : Option FileContent :=
  (d.files.bind fun files => files.find? (·.1 == name)).map (·.2)

def load (d : Directory) (name : String) : Except Error (String × Definition) :=
  (d.ruleIn name (d.content? name)).mapError (·.toError s!"{d.path}/{name}")

/-! ### All of them -/

/-- Why a directory cannot be loaded. -/
inductive Fault where
  | unreadable
  | tooMany (most : Nat)

def Fault.toError (path : String) : Fault → Error
  | unreadable => .ruleLoad path "failed to read directory"
  | tooMany most => .ruleLoad path s!"too many rules: max {most}"

/-- Adds the rules of files to those found, which are held backwards. -/
def gather (d : Directory) (found : List (String × Definition)) :
    List (String × FileContent) → Except Fault (List (String × Definition))
  | [] => .ok found.reverse
  | (name, content) :: rest =>
    match d.ruleIn name (some content) with
    | .error _ => gather d found rest
    | .ok (id, definition) =>
      if found.any (·.1 == id) then gather d found rest
      else if d.maxRules ≤ found.length then .error (.tooMany d.maxRules)
      else gather d ((id, definition) :: found) rest

/-- Files in the order of their names. -/
def inOrder (files : List (String × FileContent)) : List (String × FileContent) :=
  files.mergeSort fun a b => a.1 ≤ b.1

def rules (d : Directory) : Except Fault (List (String × Definition)) :=
  match d.files with
  | none => .error .unreadable
  | some files => d.gather [] (inOrder files)

/-! ### As a store -/

/-- The rules, for a call that asks for a target. -/
def rulesFor (d : Directory) (target : String) : Except Error (List (String × Definition)) :=
  d.rules.mapError fun e => .fetch target (e.toError d.path).message

def fetchAll (d : Directory) : Except Error (List (String × Definition)) := d.rulesFor "*"

def fetch (d : Directory) (id : String) : Except Error (Option Definition) :=
  (d.rulesFor id).map fun rules => (rules.find? (·.1 == id)).map (·.2)

end Directory
end Watchpost

import Watchpost.Condition.Literal
import Watchpost.Instant
import Watchpost.Json.Basic

/-! Events, and the fields that conditions ask them for. -/
namespace Watchpost

/-- What is known of something that happened. `ext` holds the fields that have no
place of their own. -/
structure Event where
  msgId : String
  userId : Option String := none
  userName : Option String := none
  hostname : Option String := none
  userIp : Option String := none
  action : Option String := none
  outcome : Option String := none
  eventType : Option String := none
  timestamp : Instant
  fileSize : Int64 := 0
  pageCount : Int64 := 0
  isMalicious : Bool := false
  hour : Nat := 0
  dayOfWeek : Nat := 1
  ext : Table String := .empty
  deriving DecidableEq

/-! ### Fields -/

inductive Field where
  | msgId
  | userId
  | userName
  | hostname
  | userIp
  | action
  | outcome
  | eventType
  | hour
  | dayOfWeek
  | fileSize
  | pageCount
  | isMalicious
  | extension (name : String)
  deriving DecidableEq

/-- Some fields have two names. -/
def Field.ofName (name : String) : Field :=
  match name with
  | "msgId" => .msgId
  | "suid" | "userId" => .userId
  | "suser" | "userName" => .userName
  | "hostname" | "shost" => .hostname
  | "src" | "userIp" => .userIp
  | "act" | "action" => .action
  | "outcome" => .outcome
  | "eventType" => .eventType
  | "hour" => .hour
  | "dayOfWeek" => .dayOfWeek
  | "fsize" | "fileSize" => .fileSize
  | "pageCount" | "PageCount" => .pageCount
  | "isMalicious" => .isMalicious
  | name => .extension name

def truth (b : Bool) : String := if b then "true" else "false"

namespace Event

/-- A field as text. A size or a page count is told as it was written, if it was. -/
def fieldText (e : Event) : Field → Option String
  | .msgId => some e.msgId
  | .userId => e.userId
  | .userName => e.userName
  | .hostname => e.hostname
  | .userIp => e.userIp
  | .action => e.action
  | .outcome => e.outcome
  | .eventType => e.eventType
  | .hour => some (toString e.hour)
  | .dayOfWeek => some (toString e.dayOfWeek)
  | .fileSize => some ((e.ext.get? "fsize").getD (toString e.fileSize.toInt))
  | .pageCount => some ((e.ext.get? "PageCount").getD (toString e.pageCount.toInt))
  | .isMalicious => some (truth e.isMalicious)
  | .extension name => e.ext.get? name

/-- A field as a number: zero if there is none. -/
def fieldNumber (e : Event) (f : Field) : Double :=
  match f with
  | .fileSize => Double.ofInt e.fileSize.toInt
  | .pageCount => Double.ofInt e.pageCount.toInt
  | .hour => Double.ofNat e.hour
  | .dayOfWeek => Double.ofNat e.dayOfWeek
  | .isMalicious => Double.ofNat (if e.isMalicious then 1 else 0)
  | f => ((e.fieldText f).map numberOf).getD Double.zero

def text (e : Event) (name : String) : Option String := e.fieldText (Field.ofName name)

def number (e : Event) (name : String) : Double := e.fieldNumber (Field.ofName name)

/-! ### Writing -/

def toJson (e : Event) : Json :=
  .record [
    ("msgId", .text e.msgId), ("userId", .textOrNull e.userId),
    ("userName", .textOrNull e.userName), ("hostname", .textOrNull e.hostname),
    ("userIp", .textOrNull e.userIp), ("action", .textOrNull e.action),
    ("outcome", .textOrNull e.outcome), ("eventType", .textOrNull e.eventType),
    ("timestamp", .text e.timestamp.write), ("fileSize", .integer e.fileSize.toInt),
    ("pageCount", .integer e.pageCount.toInt), ("isMalicious", .bool e.isMalicious),
    ("hour", .integer e.hour), ("dayOfWeek", .integer e.dayOfWeek),
    ("ext", .record (e.ext.entries.map fun x => (x.1, .text x.2)))]

end Event
end Watchpost

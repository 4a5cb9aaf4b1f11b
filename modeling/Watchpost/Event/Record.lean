import Watchpost.Error
import Watchpost.Event
import Watchpost.Json.Draft
import Watchpost.Text.Utf8

/-! Records, and the events they tell of.

A record is a JSON text with a `msgId`. Its `cefExtensions` carry the known fields
under short names, and others under names of their own; a member `XLabel` gives the
member `X` a second name. -/
namespace Watchpost

/-- Bytes as they came in, and when. -/
structure Record where
  data : List UInt8
  receivedAt : Instant

/-! ### Members -/

/-- The text of a scalar. -/
def Json.scalarText? : Json → Option String
  | .text s => some s
  | .integer i => some (toString i)
  | .double d => some (Json.floatNotation.write d)
  | .bool b => some (truth b)
  | .null | .list _ | .record _ => none

/-- A value as an integer of 64 bits. What has a fraction loses it, and what is
too large or too small stops at the bounds. -/
def wholeOf (d : Double) : Int := d.truncate IntegerKind.int64.lo IntegerKind.int64.hi

def Json.size? : Json → Option Int
  | .integer i => some (if i ≤ IntegerKind.int64.hi then i else wholeOf (Double.ofInt i))
  | .double d => some (wholeOf d)
  | .text s =>
    let cs := Text.trim s.toList
    (IntegerKind.int64.read? cs) <|> (Double.read? cs).map wholeOf
  | _ => none

/-- An integer in a text, between blanks; zero if there is none. -/
def integerOf (s : String) : Int := (IntegerKind.int64.read? (Text.trim s.toList)).getD 0

namespace Extensions

abbrev Members := List (String × Json)

def get? (members : Members) (name : String) : Option Json :=
  (members.find? (·.1 == name)).map (·.2)

def text? (members : Members) (name : String) : Option String :=
  (get? members name).bind Json.scalarText?

/-- A name without a `Label` at its end. -/
def labelled? (name : String) : Option String :=
  let cs := name.toList
  if "Label".toList.isSuffixOf cs then some (String.ofList (cs.take (cs.length - 5))) else none

/-- The members that are scalars. -/
def scalars (members : Members) : List (String × String) :=
  members.filterMap fun m => m.2.scalarText?.map fun s => (m.1, s)

/-- What a label names: its text without blanks is a second name of the member
that it labels. -/
def namedBy? (members : Members) (label : String × Json) : Option (String × String) := do
  let target ← labelled? label.1
  let text ← label.2.scalarText?
  let name := text.toList.filter (· != ' ')
  if name.isEmpty then none
  else
    let value ← text? members target
    return (String.ofList name, value)

/-- All fields under their names. A label wins over a member of the same name, and
of two labels the later one in the order of names. -/
def fields (members : Members) : Table String :=
  Table.ofList (scalars members ++ members.filterMap (namedBy? members))

/-- Adds what extensions tell to an event. -/
def apply (members : Members) (e : Event) : Event :=
  let text := text? members
  let ext := fields members
  { e with
    userId := text "suid"
    userName := text "suser"
    userIp := text "src"
    action := text "act"
    outcome := text "outcome"
    eventType := text "eventType"
    isMalicious := text "cn1" == some "1"
    fileSize := Int64.ofInt (((get? members "fsize").bind Json.size?).getD 0)
    ext
    pageCount := Int64.ofInt (((ext.get? "PageCount").map integerOf).getD 0) }

end Extensions

/-! ### Reading records -/

/-- What clocks are ahead of universal time where events are told the hour of. -/
structure Normalizer where
  offset : Int
  lt_day : offset.natAbs < 86400

namespace Normalizer

def ofOffset (offset : Int) : Except Error Normalizer :=
  if h : offset.natAbs < 86400 then .ok ⟨offset, h⟩
  else .error (.config "utc_offset_secs" s!"{offset} is not a valid UTC offset")

/-- The event that a JSON value tells of; without a scalar `msgId` there is none. -/
def ofValue? (n : Normalizer) (now : Instant) : Json → Option Event
  | .record members =>
    (Extensions.text? members "msgId").map fun msgId =>
      let e : Event :=
        { msgId
          hostname := Extensions.text? members "hostname"
          timestamp := now
          hour := now.hourAt n.offset
          dayOfWeek := now.weekdayAt n.offset }
      match Extensions.get? members "cefExtensions" with
      | some (.record ext) => Extensions.apply ext e
      | _ => e
  | _ => none

/-- The event that a record tells of. -/
def ofRecord? (n : Normalizer) (r : Record) : Option Event :=
  ((Json.Draft.read? (Text.decode r.data)).bind Json.Draft.value?).bind (n.ofValue? r.receivedAt)

end Normalizer
end Watchpost

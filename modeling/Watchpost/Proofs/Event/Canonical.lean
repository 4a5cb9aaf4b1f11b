import Watchpost.Alert
import Watchpost.Proofs.Event.Sizes

/-! Fields that cannot be spoofed.

A sender may give members of a record any names, and labels give them more. None of this reaches the
fields that have places of their own in an event: records that agree where these are read from tell
of events that no condition on such fields tells apart (`unspoofable`). A size is such a field as a
number alone, since its text may be that of another member. -/
namespace Watchpost

/-! ### Canonical fields -/

/-- Whether the text of a field has a place of its own. -/
def Field.isCanonical : Field → Bool
  | .fileSize | .pageCount | .extension _ => false
  | _ => true

namespace Condition

/-- The names of canonical fields. -/
def canonicalNames : List String :=
  ["msgId", "suid", "userId", "suser", "userName", "hostname", "shost", "src", "userIp", "act",
    "action", "outcome", "eventType", "hour", "dayOfWeek", "isMalicious"]

/-- The names of the size of a file, which is canonical as a number. -/
def sizeNames : List String := ["fsize", "fileSize"]

/-- Whether a condition asks for canonical fields alone, and for sizes only where they are put in
order. -/
def isCanonical : Condition → Bool
  | both l r | either l r => l.isCanonical && r.isCanonical
  | compare field c _ => canonicalNames.contains field || c.isOrder && sizeNames.contains field
  | among field _ _ | like field _ _ => canonicalNames.contains field

end Condition

namespace Event

/-- An event without its pages and extensions, which a sender names. -/
def bare (e : Event) : Event := { e with pageCount := 0, ext := .empty }

variable (e : Event)

theorem fieldText_bare {f : Field} (h : f.isCanonical = true) : e.bare.fieldText f = e.fieldText f := by
  cases f with
  | fileSize | pageCount | extension => cases h
  | _ => rfl

theorem fieldNumber_bare {f : Field} (h : f.isCanonical = true ∨ f = .fileSize) :
    e.bare.fieldNumber f = e.fieldNumber f := by
  rcases h with h | rfl
  · cases f with
    | fileSize | pageCount | extension => cases h
    | _ => rfl
  · rfl

theorem text_bare {name : String} (h : name ∈ Condition.canonicalNames) :
    e.bare.text name = e.text name := by
  have hcanonical : ∀ name ∈ Condition.canonicalNames, (Field.ofName name).isCanonical = true := by
    decide
  exact e.fieldText_bare (hcanonical name h)

theorem number_bare {name : String}
    (h : name ∈ Condition.canonicalNames ∨ name ∈ Condition.sizeNames) :
    e.bare.number name = e.number name := by
  have hcanonical : ∀ name ∈ Condition.canonicalNames, (Field.ofName name).isCanonical = true := by
    decide
  have hsize : ∀ name ∈ Condition.sizeNames, Field.ofName name = .fileSize := by decide
  exact e.fieldNumber_bare (h.imp (hcanonical name) (hsize name))

end Event

namespace Condition

variable {e : Event}

theorem compares_bare {field : String} {c : Comparison} (l : Literal)
    (h : (compare field c l).isCanonical = true) :
    compares e.bare field c l = compares e field c l := by
  rw [isCanonical, Bool.or_eq_true, Bool.and_eq_true, List.contains_iff_mem,
    List.contains_iff_mem] at h
  cases c with
  | eq | ne =>
    have hfield := h.resolve_right fun h => by cases h.1
    unfold compares
    rw [e.text_bare hfield]
  | gt | ge | lt | le =>
    unfold compares
    rw [e.number_bare (h.imp_right And.right)]

/-- **Canonical conditions do not ask for what a sender names.** -/
theorem holds_bare {c : Condition} (h : c.isCanonical = true) : c.holds e.bare = c.holds e := by
  induction c with
  | both l r ihl ihr =>
    obtain ⟨hl, hr⟩ := Bool.and_eq_true_iff.1 h
    rw [holds, holds, ihl hl, ihr hr]
  | either l r ihl ihr =>
    obtain ⟨hl, hr⟩ := Bool.and_eq_true_iff.1 h
    rw [holds, holds, ihl hl, ihr hr]
  | compare field c l => exact compares_bare l h
  | among field ls negated =>
    unfold holds
    rw [e.text_bare (List.contains_iff_mem.1 h)]
  | like field p negated =>
    unfold holds
    rw [e.text_bare (List.contains_iff_mem.1 h)]

end Condition

/-! ### Records -/

namespace Extensions

/-- The members that canonical fields are read from. -/
def canonicalKeys : List String :=
  ["suid", "suser", "src", "act", "outcome", "eventType", "cn1", "fsize"]

end Extensions

/-- Values that agree where canonical fields are read from. All else, and what else they come with,
may differ. -/
structure Json.Agree (j j' : Json) : Prop where
  top : ∀ name ∈ ["msgId", "hostname"], j.member? name = j'.member? name
  extensions : ∀ name ∈ Extensions.canonicalKeys,
    Extensions.get? (Extensions.ofValue j) name = Extensions.get? (Extensions.ofValue j') name

namespace Normalizer

open Extensions (get? text? ofValue canonicalKeys)

/-- The event that is told of by the members that canonical fields are read from. -/
def bareEvent (n : Normalizer) (now : Instant) (msgId : String) (j : Json) : Event :=
  { msgId
    hostname := (j.member? "hostname").bind Json.scalarText?
    timestamp := now
    hour := now.hourAt n.offset
    dayOfWeek := now.weekdayAt n.offset
    userId := text? (ofValue j) "suid"
    userName := text? (ofValue j) "suser"
    userIp := text? (ofValue j) "src"
    action := text? (ofValue j) "act"
    outcome := text? (ofValue j) "outcome"
    eventType := text? (ofValue j) "eventType"
    isMalicious := text? (ofValue j) "cn1" == some "1"
    fileSize := Int64.ofInt (((get? (ofValue j) "fsize").bind Json.size?).getD 0) }

variable {n : Normalizer} {now : Instant} {j j' : Json} {e e' : Event}

theorem bare_ofValue? (h : n.ofValue? now j = some e) :
    ∃ msgId, (j.member? "msgId").bind Json.scalarText? = some msgId ∧
      e.bare = n.bareEvent now msgId j := by
  cases j with
  | record members =>
    obtain ⟨msgId, hid, he⟩ := Option.map_eq_some_iff.1 h
    have hmember : (Json.record members).member? "cefExtensions" =
        get? members "cefExtensions" := rfl
    refine ⟨msgId, hid, ?_⟩
    dsimp only at he
    split at he
    · next ext hext =>
      subst he
      have hvalue : ofValue (.record members) = ext := by
        unfold ofValue
        rw [hmember, hext]
      unfold bareEvent
      rw [hvalue]
      rfl
    -- Without extensions all fields are as if they were told none.
    · next hother =>
      subst he
      have hnone : ofValue (.record members) = [] := by
        unfold ofValue
        rw [hmember]
        split
        · next ext hext => exact (hother ext hext).elim
        · rfl
      unfold bareEvent
      rw [hnone]
      rfl
  | _ => cases h

theorem bareEvent_congr (h : j.Agree j') (msgId : String) :
    n.bareEvent now msgId j = n.bareEvent now msgId j' := by
  have htext (name : String) (hname : name ∈ canonicalKeys) :
      text? (ofValue j) name = text? (ofValue j') name := by
    unfold text?
    rw [h.extensions name hname]
  unfold bareEvent
  rw [h.top "hostname" (by decide), htext "suid" (by decide), htext "suser" (by decide),
    htext "src" (by decide), htext "act" (by decide), htext "outcome" (by decide),
    htext "eventType" (by decide), htext "cn1" (by decide), h.extensions "fsize" (by decide)]

theorem bare_eq (h : j.Agree j') (he : n.ofValue? now j = some e) (he' : n.ofValue? now j' = some e') :
    e.bare = e'.bare := by
  obtain ⟨msgId, hid, hbare⟩ := bare_ofValue? he
  obtain ⟨other, hother, hbare'⟩ := bare_ofValue? he'
  rw [h.top "msgId" (by decide), hother] at hid
  cases hid
  rw [hbare, hbare', bareEvent_congr h]

/-- **Canonical fields cannot be spoofed.** Of records that agree where these are read from, and are
read at one moment, the same canonical conditions hold, whatever else they say and whatever labels
name; and the alerts for them tell of the same user, host and address. -/
theorem unspoofable (h : j.Agree j') (he : n.ofValue? now j = some e)
    (he' : n.ofValue? now j' = some e') :
    (∀ c : Condition, c.isCanonical = true → c.holds e = c.holds e') ∧
    (∀ rule : Rule, rule.condition.isCanonical = true → rule.fires e = rule.fires e') ∧
    ∀ (rule : Rule) (id id' : String) (time time' : Instant),
      (Alert.build id time rule e).userId = (Alert.build id' time' rule e').userId ∧
      (Alert.build id time rule e).hostname = (Alert.build id' time' rule e').hostname ∧
      (Alert.build id time rule e).userIp = (Alert.build id' time' rule e').userIp := by
  have hbare := bare_eq h he he'
  have hholds (c : Condition) (hc : c.isCanonical = true) : c.holds e = c.holds e' := by
    rw [← Condition.holds_bare hc, hbare, Condition.holds_bare hc]
  refine ⟨hholds, fun rule hrule => ?_, fun rule id id' time time' => ?_⟩
  · unfold Rule.fires
    rw [hholds rule.condition hrule]
  · have huser : e.bare.userId = e'.bare.userId := by rw [hbare]
    have hhost : e.bare.hostname = e'.bare.hostname := by rw [hbare]
    have haddress : e.bare.userIp = e'.bare.userIp := by rw [hbare]
    exact ⟨huser, hhost, haddress⟩

/-- What a record says of a user and a file. -/
def honest : Json :=
  .record [("cefExtensions", .record [("fsize", .integer 5), ("suid", .text "alice")]),
    ("hostname", .text "pc-017"), ("msgId", .text "1")]

/-- It says so, too, but its labels give the names of user and size to other texts. -/
def hostile : Json :=
  .record [("cefExtensions", .record [("cs1", .text "mallory"), ("cs1Label", .text "user Id"),
    ("cs2", .integer 99), ("cs2Label", .text "fsize"), ("cs3", .text "mallory"),
    ("cs3Label", .text "suid"), ("fsize", .integer 5), ("suid", .text "alice"),
    ("userId", .text "mallory")]), ("hostname", .text "pc-017"), ("msgId", .text "1")]

/-- The texts that labels name are there, and conditions do not see them. -/
theorem unspoofable_hostile : ∃ e e', nineAhead.ofValue? ⟨0, 0⟩ honest = some e ∧
    nineAhead.ofValue? ⟨0, 0⟩ hostile = some e' ∧ honest.Agree hostile ∧
    e'.ext.get? "suid" = some "mallory" ∧ e'.text "fileSize" = some "99" ∧
    (Condition.both (.compare "suid" .eq (.text "alice"))
      (.compare "fileSize" .lt (.integer 99))).holds e' = true := by
  let c : Condition :=
    .both (.compare "suid" .eq (.text "alice")) (.compare "fileSize" .lt (.integer 99))
  have hagree : honest.Agree hostile := by
    constructor
    · exact List.forall_mem_cons.2 ⟨rfl, List.forall_mem_singleton.2 rfl⟩
    · simp only [canonicalKeys, List.forall_mem_cons]
      exact ⟨rfl, rfl, rfl, rfl, rfl, rfl, rfl, rfl, List.forall_mem_nil _⟩
  have hhonest : (nineAhead.ofValue? ⟨0, 0⟩ honest).any (fun e => c.holds e = true) = true := by
    decide +kernel
  have hhostile : (nineAhead.ofValue? ⟨0, 0⟩ hostile).any (fun e =>
      e.ext.get? "suid" = some "mallory" ∧ e.text "fileSize" = some "99") = true := by decide +kernel
  obtain ⟨e, he, hholds⟩ := (Option.any_eq_true _ _).1 hhonest
  obtain ⟨e', he', hfacts⟩ := (Option.any_eq_true _ _).1 hhostile
  obtain ⟨hsuid, hsize⟩ := of_decide_eq_true hfacts
  have hsame := (unspoofable hagree he he').1 c (by decide)
  exact ⟨e, e', he, he', hagree, hsuid, hsize, hsame.symm.trans (of_decide_eq_true hholds)⟩

end Normalizer
end Watchpost

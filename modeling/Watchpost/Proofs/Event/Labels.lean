import Watchpost.Event.Record
import Watchpost.Proofs.Json.Shuffling

/-! What labels mean.

A label gives another member a second name. Of several labels that give one name the greatest
counts, and it counts more than a member of that name (`get?_fields`). So what an event knows does
not depend on the order in which its record was written (`label_meaning`). -/
namespace Watchpost

namespace Extensions

open Table (under get?_ofList under_append)

/-- A text without blanks. -/
def withoutBlanks (s : String) : String := String.ofList (s.toList.filter (· != ' '))

/-- A label gives a name to the text of the member that it labels. It is called as that member is,
with `Label` behind. -/
def Gives (members : Members) (label name value : String) : Prop :=
  ∃ target text, label = target ++ "Label" ∧ text? members label = some text ∧
    withoutBlanks text = name ∧ name ≠ "" ∧ text? members target = some value

/-! ### Single members -/

theorem labelled?_eq_some_iff {label target : String} :
    labelled? label = some target ↔ label = target ++ "Label" := by
  have htake (front : List Char) :
      (front ++ "Label".toList).take ((front ++ "Label".toList).length - 5) = front := by
    rw [List.length_append]
    exact List.take_left' rfl
  unfold labelled?
  dsimp only
  constructor
  · intro h
    split at h
    · next hsuffix =>
      obtain ⟨front, hfront⟩ := List.isSuffixOf_iff_suffix.1 hsuffix
      rw [← hfront, htake] at h
      cases h
      rw [← String.toList_inj, String.toList_append, String.toList_ofList, hfront]
    · cases h
  · rintro rfl
    rw [String.toList_append, if_pos (List.isSuffixOf_iff_suffix.2 (List.suffix_append ..)), htake,
      String.ofList_toList]

theorem namedBy?_eq_some_iff {members : Members} {label name value : String} {j : Json} :
    namedBy? members (label, j) = some (name, value) ↔
      ∃ target text, label = target ++ "Label" ∧ j.scalarText? = some text ∧
        withoutBlanks text = name ∧ name ≠ "" ∧ text? members target = some value := by
  have hempty (text : String) : (text.toList.filter (· != ' ')).isEmpty = true ↔
      withoutBlanks text = "" := by
    rw [withoutBlanks, List.isEmpty_iff, String.ofList_eq_empty_iff]
  unfold namedBy?
  simp only [Option.bind_eq_bind, Option.bind_eq_some_iff, labelled?_eq_some_iff]
  constructor
  · rintro ⟨target, hlabel, text, htext, h⟩
    split at h
    · cases h
    · next hne =>
      obtain ⟨v, hv, heq⟩ := Option.bind_eq_some_iff.1 h
      cases heq
      exact ⟨target, text, hlabel, htext, rfl, mt (hempty text).2 hne, hv⟩
  · rintro ⟨target, text, hlabel, htext, rfl, hne, hvalue⟩
    refine ⟨target, hlabel, text, htext, ?_⟩
    rw [if_neg (mt (hempty text).1 hne), hvalue]
    rfl

variable {ext : Table Json}

theorem text?_of_mem {name : String} {j : Json} (h : (name, j) ∈ ext.entries) :
    text? ext.entries name = j.scalarText? := by
  have hget : get? ext.entries name = some j := Table.get?_eq_some_iff.2 h
  rw [text?, hget, Option.bind_some]

theorem mem_of_text? {name s : String} (h : text? ext.entries name = some s) :
    ∃ j, (name, j) ∈ ext.entries ∧ j.scalarText? = some s := by
  obtain ⟨j, hget, hj⟩ := Option.bind_eq_some_iff.1 h
  exact ⟨j, Table.get?_eq_some_iff.1 hget, hj⟩

/-- A member is a label just when it names another one. -/
theorem gives_iff {label name value : String} : Gives ext.entries label name value ↔
    ∃ j, (label, j) ∈ ext.entries ∧ namedBy? ext.entries (label, j) = some (name, value) := by
  constructor
  · rintro ⟨target, text, hlabel, htext, hname, hne, hvalue⟩
    obtain ⟨j, hj, hscalar⟩ := mem_of_text? htext
    exact ⟨j, hj, namedBy?_eq_some_iff.2 ⟨target, text, hlabel, hscalar, hname, hne, hvalue⟩⟩
  · rintro ⟨j, hj, hnamed⟩
    obtain ⟨target, text, hlabel, hscalar, hname, hne, hvalue⟩ := namedBy?_eq_some_iff.1 hnamed
    exact ⟨target, text, hlabel, (text?_of_mem hj).trans hscalar, hname, hne, hvalue⟩

/-! ### All members -/

theorem getLast?_scalars (ext : Table Json) (name : String) :
    (under name (scalars ext.entries)).getLast? = text? ext.entries name := by
  have hscalar {e : String × Json} {value : String}
      (h : (e.2.scalarText?.map fun s => (e.1, s)) = some (name, value)) :
      e.1 = name ∧ e.2.scalarText? = some value := by
    obtain ⟨s, hs, heq⟩ := Option.map_eq_some_iff.1 h
    cases heq
    exact ⟨rfl, hs⟩
  rcases Table.getLast?_under_filterMap ext (fun m => m.2.scalarText?.map fun s => (m.1, s)) name with
    ⟨e, he, value, hvalue, -, hlast⟩ | ⟨hnone, hlast⟩
  · obtain ⟨rfl, hs⟩ := hscalar hvalue
    rw [scalars, hlast, text?_of_mem he, hs]
  · rw [scalars, hlast]
    refine (Option.eq_none_iff_forall_ne_some.2 fun s hs => ?_).symm
    obtain ⟨j, hj, hscalar⟩ := mem_of_text? hs
    exact hnone (name, j) hj s (by rw [hscalar]; rfl)

/-- **A name is given by the greatest label that gives it**, or else by the member of that name. -/
theorem get?_fields (ext : Table Json) (name : String) :
    (∃ label value, Gives ext.entries label name value ∧
      (∀ other v, Gives ext.entries other name v → other ≤ label) ∧
      (fields ext.entries).get? name = some value) ∨
    (∀ label value, ¬Gives ext.entries label name value) ∧
      (fields ext.entries).get? name = text? ext.entries name := by
  rw [fields, get?_ofList, under_append, List.getLast?_append, getLast?_scalars]
  rcases Table.getLast?_under_filterMap ext (namedBy? ext.entries) name with
    ⟨⟨label, j⟩, hj, value, hvalue, hgreatest, hlast⟩ | ⟨hnone, hlast⟩
  · refine .inl ⟨label, value, gives_iff.2 ⟨j, hj, hvalue⟩, fun other v hother => ?_, ?_⟩
    · obtain ⟨k, hk, hnamed⟩ := gives_iff.1 hother
      exact hgreatest (other, k) hk v hnamed
    · rw [hlast, Option.some_or]
  · refine .inr ⟨fun label value hgives => ?_, ?_⟩
    · obtain ⟨j, hj, hnamed⟩ := gives_iff.1 hgives
      exact hnone (label, j) hj value hnamed
    · rw [hlast, Option.none_or]

end Extensions

/-! ### Events -/

namespace Normalizer

open Extensions (Gives get? text?)

variable (n : Normalizer) {now : Instant} {members : Extensions.Members} {msgId : String}

theorem ext_ofValue? {ext : Extensions.Members} (hid : text? members "msgId" = some msgId)
    (hext : get? members "cefExtensions" = some (.record ext)) :
    ∃ e, n.ofValue? now (.record members) = some e ∧ e.ext = Extensions.fields ext := by
  rw [ofValue?, hid, Option.map_some, hext]
  exact ⟨_, rfl, rfl⟩

/-- **What labels mean.** An event knows a name by the text that the greatest label gives it, or else
by the member of that name. Texts that hold the same members tell of the same event. -/
theorem label_meaning :
    (∀ (now : Instant) (members : Extensions.Members) (msgId : String) (ext : Table Json),
      text? members "msgId" = some msgId →
      get? members "cefExtensions" = some (.record ext.entries) →
      ∃ e, n.ofValue? now (.record members) = some e ∧ ∀ name,
        ((∃ label value, Gives ext.entries label name value) →
          ∃ label value, Gives ext.entries label name value ∧
            (∀ other v, Gives ext.entries other name v → other ≤ label) ∧
            e.ext.get? name = some value) ∧
        ((∀ label value, ¬Gives ext.entries label name value) →
          e.ext.get? name = text? ext.entries name)) ∧
    (∀ (r s : Record) (d d' : Json.Draft), r.receivedAt = s.receivedAt →
      Json.Draft.read? (Text.decode r.data) = some d →
      Json.Draft.read? (Text.decode s.data) = some d' → d.SameMembers d' →
      n.ofRecord? r = n.ofRecord? s) := by
  constructor
  · intro now members msgId ext hid hext
    obtain ⟨e, he, hfields⟩ := n.ext_ofValue? hid hext
    refine ⟨e, he, fun name => ?_⟩
    rw [hfields]
    rcases Extensions.get?_fields ext name with ⟨label, value, hgives, hgreatest, hget⟩ | ⟨hnone, hget⟩
    · exact ⟨fun _ => ⟨label, value, hgives, hgreatest, hget⟩,
        fun hnone => absurd hgives (hnone label value)⟩
    · exact ⟨fun ⟨label, value, hgives⟩ => absurd hgives (hnone label value), fun _ => hget⟩
  · intro r s d d' htime hr hs hsame
    rw [ofRecord?, ofRecord?, hr, hs, Option.bind_some, Option.bind_some, hsame.value?_eq, htime]

/-- Two labels give a name that a member has, too. -/
def givenTwice : List (Option String × Json.Draft) :=
  [(some "PageCount", .leaf (some (.text "1"))), (some "cs1", .leaf (some (.text "42"))),
    (some "cs1Label", .leaf (some (.text "Page Count"))), (some "cs2", .leaf (some (.integer 7))),
    (some "cs2Label", .leaf (some (.text "PageCount")))]

/-- A record with these members. -/
def forth : Record :=
  { data := ("\x7b\"msgId\":\"1\",\"cefExtensions\":\x7b\"PageCount\":\"1\",\"cs1\":\"42\"," ++
      "\"cs1Label\":\"Page Count\",\"cs2\":7,\"cs2Label\":\"PageCount\"\x7d\x7d").toUTF8.data.toList
    receivedAt := ⟨0, 0⟩ }

/-- The same record, written from its end to its beginning. -/
def back : Record :=
  { data := ("\x7b\"cefExtensions\":\x7b\"cs2Label\":\"PageCount\",\"cs2\":7,\"cs1Label\":" ++
      "\"Page Count\",\"cs1\":\"42\",\"PageCount\":\"1\"\x7d,\"msgId\":\"1\"\x7d").toUTF8.data.toList
    receivedAt := ⟨0, 0⟩ }

/-- Clocks nine hours ahead of universal time. -/
def nineAhead : Normalizer := ⟨32400, by decide⟩

/-- The second label counts, wherever it stands. -/
theorem label_meaning_given_twice : nineAhead.ofRecord? forth = nineAhead.ofRecord? back ∧
    ∃ e, nineAhead.ofRecord? forth = some e ∧
      e.ext.get? "PageCount" = some "7" ∧ e.ext.get? "cs2" = some "7" := by
  have hforth : Json.Draft.read? (Text.decode forth.data) = some (.record
      [(some "msgId", .leaf (some (.text "1"))), (some "cefExtensions", .record givenTwice)]) := rfl
  have hback : Json.Draft.read? (Text.decode back.data) = some (.record
      [(some "cefExtensions", .record givenTwice.reverse),
        (some "msgId", .leaf (some (.text "1")))]) := rfl
  have hsame : (Json.Draft.record [(some "msgId", .leaf (some (.text "1"))),
      (some "cefExtensions", .record givenTwice)]).SameMembers
      (.record [(some "cefExtensions", .record givenTwice.reverse),
        (some "msgId", .leaf (some (.text "1")))]) := by
    refine Json.Draft.sameMembers_of_perm (.swap ..) (by decide)
      (.cons ⟨rfl, ?_⟩ (.cons ⟨rfl, .refl _⟩ .nil))
    exact Json.Draft.sameMembers_of_perm (List.reverse_perm _).symm (by decide)
      (List.forall₂_same.2 fun m _ => ⟨rfl, .refl m.2⟩)
  let ext : Table Json := .ofList [("PageCount", .text "1"), ("cs1", .text "42"),
    ("cs1Label", .text "Page Count"), ("cs2", .integer 7), ("cs2Label", .text "PageCount")]
  have hvalue : nineAhead.ofRecord? forth = nineAhead.ofValue? ⟨0, 0⟩
      (.record [("cefExtensions", .record ext.entries), ("msgId", .text "1")]) := by
    rw [ofRecord?, hforth]
    rfl
  obtain ⟨hnames, horder⟩ := label_meaning nineAhead
  obtain ⟨e, he, hnames⟩ := hnames ⟨0, 0⟩
    [("cefExtensions", .record ext.entries), ("msgId", .text "1")] "1" ext rfl rfl
  have htime : forth.receivedAt = back.receivedAt := by simp only [forth, back]
  refine ⟨horder forth back _ _ htime hforth hback hsame, e, hvalue.trans he, ?_, ?_⟩
  · have hsecond : Gives ext.entries "cs2Label" "PageCount" "7" :=
      ⟨"cs2", "PageCount", by decide, by decide +kernel, by decide, by decide, by decide +kernel⟩
    have hlast : ∀ m ∈ ext.entries, "cs2Label" ≤ m.1 →
        ∀ x ∈ Extensions.namedBy? ext.entries m, x.2 = "7" := by decide
    obtain ⟨label, value, hgives, hgreatest, hget⟩ := (hnames "PageCount").1 ⟨_, _, hsecond⟩
    obtain ⟨j, hj, hnamed⟩ := Extensions.gives_iff.1 hgives
    exact hget.trans (congrArg some (hlast _ hj (hgreatest _ _ hsecond) _ hnamed))
  · have hnone : ∀ m ∈ ext.entries, ∀ x ∈ Extensions.namedBy? ext.entries m, x.1 ≠ "cs2" := by decide
    have htext : text? ext.entries "cs2" = some "7" := by decide +kernel
    rw [← htext]
    refine (hnames "cs2").2 fun label value hgives => ?_
    obtain ⟨j, hj, hnamed⟩ := Extensions.gives_iff.1 hgives
    exact hnone _ hj _ hnamed rfl

end Normalizer
end Watchpost

import Watchpost.Condition.Evaluate
import Watchpost.Proofs.Event.Labels
import Watchpost.Proofs.Event.Scalars

/-! Sizes and page counts.

An event tells them as texts and as numbers. The number of a size is what the text of its member
says, and so is a page count (`measures_agree`). The text of a size may be that of another member,
however, if a label gives it the name of a size (`Relabelled`). -/
namespace Watchpost

/-! ### Bounds -/

theorem IntegerKind.bounds_of_read? {k : IntegerKind} (hlo : k.lo ≤ 0) (hhi : 0 ≤ k.hi)
    {cs : List Char} {i : Int} (h : k.read? cs = some i) : k.lo ≤ i ∧ i ≤ k.hi := by
  have hread : k.read cs = .ok i := by
    unfold read? at h
    cases hread : k.read cs with
    | error fault =>
      rw [hread] at h
      cases h
    | ok i' =>
      rw [hread] at h
      cases h
      rfl
  unfold read at hread
  split at hread
  dsimp only at hread
  split at hread
  · cases hread
  · split at hread
    · split at hread
      · cases hread
      · next hge =>
        cases hread
        omega
    · split at hread
      · cases hread
      · next hle =>
        cases hread
        omega

theorem wholeOf_bounds (d : Double) :
    IntegerKind.int64.lo ≤ wholeOf d ∧ wholeOf d ≤ IntegerKind.int64.hi := by
  have hlo : IntegerKind.int64.lo ≤ 0 := by decide
  have hhi : 0 ≤ IntegerKind.int64.hi := by decide
  unfold wholeOf Double.truncate
  split
  · exact ⟨hlo, hhi⟩
  · dsimp only
    omega

theorem toInt_ofInt {i : Int} (hlo : IntegerKind.int64.lo ≤ i) (hhi : i ≤ IntegerKind.int64.hi) :
    (Int64.ofInt i).toInt = i := Int64.toInt_ofInt_of_le hlo (Int.lt_add_one_of_le hhi)

theorem toInt_sizeIn (s : String) : (Int64.ofInt (sizeIn s)).toInt = sizeIn s := by
  cases hinteger : IntegerKind.int64.read? (Text.trim s.toList) with
  | some i =>
    obtain ⟨hlo, hhi⟩ := IntegerKind.bounds_of_read? (by decide) (by decide) hinteger
    rw [sizeIn_of_integer hinteger, toInt_ofInt hlo hhi]
  | none =>
    cases hdouble : Double.read? (Text.trim s.toList) with
    | some d =>
      rw [sizeIn_of_double hinteger hdouble, toInt_ofInt (wholeOf_bounds d).1 (wholeOf_bounds d).2]
    | none => rw [sizeIn_of_neither hinteger hdouble, toInt_ofInt (by decide) (by decide)]

theorem sizeIn_toInt (i : Int64) : sizeIn (toString i.toInt) = i.toInt :=
  sizeIn_toString i.le_toInt (Int.le_of_lt_add_one i.toInt_lt)

theorem toInt_integerOf (s : String) : (Int64.ofInt (integerOf s)).toInt = integerOf s := by
  unfold integerOf
  cases hinteger : IntegerKind.int64.read? (Text.trim s.toList) with
  | some i =>
    obtain ⟨hlo, hhi⟩ := IntegerKind.bounds_of_read? (by decide) (by decide) hinteger
    exact toInt_ofInt hlo hhi
  | none => exact toInt_ofInt (by decide) (by decide)

namespace Extensions

/-- The extensions that a value comes with; there are none if they are no record. -/
def ofValue (j : Json) : Members :=
  match j.member? "cefExtensions" with
  | some (.record members) => members
  | _ => []

/-- The label that counts gives the name of a size to another text than that of its member. -/
def Relabelled (members : Members) : Prop :=
  ∃ label value, Gives members label "fsize" value ∧
    (∀ other v, Gives members other "fsize" v → other ≤ label) ∧ text? members "fsize" ≠ some value

variable {ext : Table Json}

theorem get?_fields_of_not_relabelled (h : ¬Relabelled ext.entries) :
    (fields ext.entries).get? "fsize" = text? ext.entries "fsize" := by
  rcases get?_fields ext "fsize" with ⟨label, value, hgives, hgreatest, hget⟩ | ⟨-, hget⟩
  · rw [hget]
    by_contra hother
    exact h ⟨label, value, hgives, hgreatest, Ne.symm hother⟩
  · exact hget

/-- What a member says as a size, its text says. -/
theorem size_eq (hregular : ∀ m ∈ ext.entries, m.2.Regular) (name : String) :
    ((get? ext.entries name).bind Json.size?).getD 0 =
      ((text? ext.entries name).map sizeIn).getD 0 := by
  unfold text?
  cases hget : get? ext.entries name with
  | none => rfl
  | some j =>
    rw [Option.bind_some, Option.bind_some]
    have hj : j.Regular := hregular _ (Table.get?_eq_some_iff.1 hget)
    cases hscalar : j.scalarText? with
    | some s => exact size?_eq hj hscalar
    | none =>
      cases j with
      | null | list | record => rfl
      | _ => cases hscalar

/-- What an event knows that was told extensions. -/
structure Told (e : Event) (ext : Table Json) : Prop where
  regular : ∀ m ∈ ext.entries, m.2.Regular
  ext_eq : e.ext = fields ext.entries
  fileSize_eq : e.fileSize = Int64.ofInt (((get? ext.entries "fsize").bind Json.size?).getD 0)
  pageCount_eq : e.pageCount = Int64.ofInt (((e.ext.get? "PageCount").map integerOf).getD 0)

variable {e : Event}

theorem Told.toInt_fileSize (h : Told e ext) :
    e.fileSize.toInt = ((text? ext.entries "fsize").map sizeIn).getD 0 := by
  rw [h.fileSize_eq, size_eq h.regular]
  cases text? ext.entries "fsize" with
  | none => rfl
  | some s => exact toInt_sizeIn s

theorem Told.text_fileSize (h : Told e ext) (hlabels : ¬Relabelled ext.entries) :
    ∃ t, e.text "fileSize" = some t ∧ e.fileSize.toInt = sizeIn t := by
  have hnumber := h.toInt_fileSize
  have htext : e.text "fileSize" =
      some ((text? ext.entries "fsize").getD (toString e.fileSize.toInt)) := by
    rw [← get?_fields_of_not_relabelled hlabels, ← h.ext_eq]
    rfl
  refine ⟨_, htext, ?_⟩
  cases hmember : text? ext.entries "fsize" with
  | none => exact (sizeIn_toInt e.fileSize).symm
  | some s =>
    rw [hmember] at hnumber
    exact hnumber

/-- Pages are counted by the text that is told, whichever label it comes from. -/
theorem Told.text_pageCount (h : Told e ext) :
    ∃ p, e.text "PageCount" = some p ∧ e.pageCount.toInt = integerOf p := by
  refine ⟨_, rfl, ?_⟩
  cases hget : e.ext.get? "PageCount" with
  | none =>
    rw [h.pageCount_eq, hget]
    decide
  | some s =>
    rw [h.pageCount_eq, hget]
    exact toInt_integerOf s

end Extensions

/-- What is as large as a number is neither smaller nor larger. -/
theorem Event.size_between {e : Event} {t : String} (ht : e.text "fileSize" = some t)
    (hsize : e.fileSize.toInt = sizeIn t) {i : Int64}
    (heq : (Condition.compare "fileSize" .eq (.integer i)).holds e = true) :
    (Condition.both (.compare "fileSize" .ge (.integer i))
      (.compare "fileSize" .le (.integer i))).holds e = true := by
  have heq : e.text "fileSize" = some (toString i.toInt) := beq_iff_eq.1 heq
  have htext : t = toString i.toInt := Option.some.inj (ht.symm.trans heq)
  have hnumber : e.number "fileSize" = Double.ofInt i.toInt := by
    rw [htext, sizeIn_toInt] at hsize
    exact congrArg Double.ofInt hsize
  have hge : (Double.ofInt i.toInt).le (e.number "fileSize") = true := by
    rw [hnumber]
    exact Double.le_refl (Double.isNaN_ofInt _)
  have hle : (e.number "fileSize").le (Double.ofInt i.toInt) = true := by
    rw [hnumber]
    exact Double.le_refl (Double.isNaN_ofInt _)
  exact Bool.and_eq_true_iff.2 ⟨hge, hle⟩

namespace Normalizer

open Extensions (Relabelled Told get? ofValue text?)

variable {n : Normalizer} {now : Instant} {j : Json} {e : Event}

theorem exists_told (hj : j.Regular) (h : n.ofValue? now j = some e) :
    ∃ ext : Table Json, ofValue j = ext.entries ∧ Told e ext := by
  cases hj with
  | @record members hmembers ordered =>
    obtain ⟨msgId, -, he⟩ := Option.map_eq_some_iff.1 h
    have hvalue : ofValue (.record members) = match get? members "cefExtensions" with
        | some (.record ext) => ext
        | _ => [] := rfl
    dsimp only at he
    split at he
    · next ext hext =>
      have hmem : ("cefExtensions", Json.record ext) ∈ members :=
        Table.get?_eq_some_iff (t := ⟨members, ordered⟩).1 hext
      subst he
      rw [hext] at hvalue
      cases hmembers _ hmem with
      | record hregular hordered => exact ⟨⟨ext, hordered⟩, hvalue, hregular, rfl, rfl, rfl⟩
    -- Without extensions all fields are as if they were told none.
    · next hother =>
      subst he
      refine ⟨.empty, hvalue.trans ?_, List.forall_mem_nil _, rfl, rfl, rfl⟩
      split
      · next ext hext => exact (hother ext hext).elim
      · rfl
  | _ => cases h

/-- **A size and a page count are what their texts say**, unless a label gives the name of a size to
another text: the number is that of the member even so. -/
theorem measures_agree (hj : j.Regular) (h : n.ofValue? now j = some e) :
    (e.number "fileSize" = Double.ofInt e.fileSize.toInt ∧
      e.fileSize.toInt = ((text? (ofValue j) "fsize").map sizeIn).getD 0) ∧
    (¬Relabelled (ofValue j) → ∃ t, e.text "fileSize" = some t ∧ e.fileSize.toInt = sizeIn t) ∧
    (∃ p, e.text "PageCount" = some p ∧ e.pageCount.toInt = integerOf p) ∧
    (¬Relabelled (ofValue j) → ∀ i : Int64,
      (Condition.compare "fileSize" .eq (.integer i)).holds e = true →
      (Condition.both (.compare "fileSize" .ge (.integer i))
        (.compare "fileSize" .le (.integer i))).holds e = true) := by
  obtain ⟨ext, hofValue, htold⟩ := exists_told hj h
  rw [hofValue]
  refine ⟨⟨rfl, htold.toInt_fileSize⟩, htold.text_fileSize, htold.text_pageCount,
    fun hlabels i heq => ?_⟩
  obtain ⟨t, ht, hsize⟩ := htold.text_fileSize hlabels
  exact Event.size_between ht hsize heq

/-- A record of the greatest size there is, and with pages that a label counts. -/
def greatest : Record :=
  { data := ("\x7b\"msgId\":\"1\",\"cefExtensions\":\x7b\"fsize\":9223372036854775807," ++
      "\"cs1\":\"42\",\"cs1Label\":\"Page Count\"\x7d\x7d").toUTF8.data.toList
    receivedAt := ⟨0, 0⟩ }

/-- The size is what its text says, though the double of it is greater. -/
theorem measures_agree_greatest : ∃ e, nineAhead.ofRecord? greatest = some e ∧
    e.text "fileSize" = some "9223372036854775807" ∧
    e.fileSize.toInt = sizeIn "9223372036854775807" ∧
    e.text "PageCount" = some "42" ∧ e.pageCount.toInt = integerOf "42" ∧
    (Condition.both (.compare "fileSize" .ge (.integer 9223372036854775807))
      (.compare "fileSize" .le (.integer 9223372036854775807))).holds e = true := by
  let ext : Table Json := .ofList [("cs1", .text "42"), ("cs1Label", .text "Page Count"),
    ("fsize", .integer 9223372036854775807)]
  let j : Json := .record [("cefExtensions", .record ext.entries), ("msgId", .text "1")]
  have hread : Json.Draft.read? (Text.decode greatest.data) = some (.record
      [(some "msgId", .leaf (some (.text "1"))), (some "cefExtensions", .record
        [(some "fsize", .leaf (some (.integer 9223372036854775807))),
          (some "cs1", .leaf (some (.text "42"))),
          (some "cs1Label", .leaf (some (.text "Page Count")))])]) := rfl
  have hj : j.Regular := (Json.Draft.regular_of_read? hread).value? rfl
  have hvalue : nineAhead.ofRecord? greatest = nineAhead.ofValue? ⟨0, 0⟩ j := by
    rw [ofRecord?, hread]
    rfl
  have hlabels : ¬Relabelled (ofValue j) := by
    have hnone : ∀ m ∈ ext.entries, ∀ x ∈ Extensions.namedBy? ext.entries m, x.1 ≠ "fsize" := by decide
    rintro ⟨label, value, hgives, -⟩
    have hgives : Extensions.Gives ext.entries label "fsize" value := hgives
    obtain ⟨k, hk, hnamed⟩ := Extensions.gives_iff.1 hgives
    exact hnone _ hk _ hnamed rfl
  have htexts : (nineAhead.ofValue? ⟨0, 0⟩ j).map (fun e => (e.text "fileSize", e.text "PageCount")) =
      some (some "9223372036854775807", some "42") := by decide +kernel
  obtain ⟨e, he, htexts⟩ := Option.map_eq_some_iff.1 htexts
  obtain ⟨hsize, hpages⟩ := Prod.mk.inj htexts
  obtain ⟨-, hagree, ⟨p, hp, hcount⟩, hequal⟩ := measures_agree hj he
  obtain ⟨t, ht, hnumber⟩ := hagree hlabels
  cases Option.some.inj (ht.symm.trans hsize)
  cases Option.some.inj (hp.symm.trans hpages)
  exact ⟨e, hvalue.trans he, hsize, hnumber, hpages, hcount,
    hequal hlabels 9223372036854775807 (beq_iff_eq.2 hsize)⟩

/-- A label that gives the name of a size to another text. -/
def relabelled : Json :=
  .record [("cefExtensions", .record [("cs1", .text "99"), ("cs1Label", .text "fsize"),
    ("fsize", .integer 5)]), ("msgId", .text "1")]

/-- The size is 99 then, and yet it is not at least 99. -/
theorem measures_disagree_relabelled : ∃ e, nineAhead.ofValue? ⟨0, 0⟩ relabelled = some e ∧
    e.text "fileSize" = some "99" ∧ sizeIn "99" = 99 ∧ e.fileSize.toInt = 5 ∧
    (Condition.compare "fileSize" .eq (.integer 99)).holds e = true ∧
    (Condition.compare "fileSize" .ge (.integer 99)).holds e = false := by
  have hevent : (nineAhead.ofValue? ⟨0, 0⟩ relabelled).any (fun e => e.text "fileSize" = some "99" ∧
      sizeIn "99" = 99 ∧ e.fileSize.toInt = 5 ∧
      (Condition.compare "fileSize" .eq (.integer 99)).holds e = true ∧
      (Condition.compare "fileSize" .ge (.integer 99)).holds e = false) = true := by decide +kernel
  obtain ⟨e, he, hfacts⟩ := (Option.any_eq_true _ _).1 hevent
  exact ⟨e, he, of_decide_eq_true hfacts⟩

end Normalizer
end Watchpost

import Watchpost.Condition.Evaluate
import Watchpost.Proofs.Condition.Compiling
import Watchpost.Proofs.Condition.Spelling
import Watchpost.Proofs.Double.Order

/-! Numbers that conditions put in order.

Of two numbers one is less or they are at one place, so each order has its opposite
(`order_total`). Fields and literals that spell no number count as zero. There is one exception:
the word `nan` is read as what is no number, which no order holds of (`order_undecided`). -/
namespace Watchpost

/-! ### What conditions compare with -/

namespace Token

open Double (spellsNaN lower)

/-- What numbers are written with. -/
theorem lower_ne_of_readNumber {soFar cs body rest : List Char} {float float' : Bool}
    (h : readNumber soFar float cs = (body, float', rest)) (hsoFar : ∀ c ∈ soFar, lower c ≠ 'n') :
    ∀ c ∈ body, lower c ≠ 'n' := by
  induction cs generalizing soFar float with
  | nil =>
    cases h
    exact fun c hc => hsoFar c (List.mem_reverse.1 hc)
  | cons d cs ih =>
    have hpush (hd : lower d ≠ 'n') : ∀ c ∈ d :: soFar, lower c ≠ 'n' := by
      intro c hc
      rcases List.mem_cons.1 hc with rfl | hc
      · exact hd
      · exact hsoFar c hc
    unfold readNumber at h
    split at h
    · next hdigit =>
      refine ih h (hpush ?_)
      rw [Double.lower_digit hdigit]
      rintro rfl
      cases hdigit
    split at h
    · next hpoint =>
      refine ih h (hpush ?_)
      rw [hpoint.1]
      decide
    split at h
    · next hmark =>
      refine ih h (hpush ?_)
      simp only [isMark, Bool.or_eq_true, beq_iff_eq] at hmark
      rcases hmark with rfl | rfl <;> decide
    split at h
    · next hsign =>
      refine ih h (hpush ?_)
      rcases hsign.1 with rfl | rfl <;> decide
    · cases h
      exact fun c hc => hsoFar c (List.mem_reverse.1 hc)

/-- The word `nan` is not written with what numbers are written with. -/
theorem spellsNaN_eq_false {cs : List Char} (h : ∀ c ∈ cs, lower c ≠ 'n') : spellsNaN cs = false := by
  have hsign : ∀ c ∈ (splitSign cs).2, c ∈ cs := by
    unfold splitSign
    split
    · exact fun c hc => List.mem_cons_of_mem _ hc
    · exact fun c hc => List.mem_cons_of_mem _ hc
    · exact fun c hc => hc
  refine Bool.eq_false_iff.2 fun hnan => ?_
  have hword : (splitSign cs).2.map lower = ['n', 'a', 'n'] := beq_iff_eq.1 hnan
  have hletter : 'n' ∈ (splitSign cs).2.map lower := hword ▸ List.mem_cons_self
  obtain ⟨c, hc, hlower⟩ := List.mem_map.1 hletter
  exact h c (hsign c hc) hlower

theorem isNaN_of_number {cs : List Char} {d : Double} {more : Nat}
    (h : number cs = .ok (.float d, more)) : d.isNaN = false := by
  rw [number_unfold] at h
  split at h
  next minus rest hminus =>
  split at h
  next body float rest' hread =>
  have hminus' : ∀ c ∈ minus, lower c ≠ 'n' := by
    unfold splitMinus at hminus
    split at hminus
    · cases hminus
      intro c hc
      cases List.mem_singleton.1 hc
      decide
    · cases hminus
      exact fun c hc => by cases hc
  have hbody := lower_ne_of_readNumber hread fun c hc => by cases hc
  split at h
  · cases h
  split at h
  · cases h
  unfold valued at h
  split at h
  · split at h
    · next d' hd =>
      cases h
      rw [Double.isNaN_read? hd]
      exact spellsNaN_eq_false fun c hc => (List.mem_append.1 hc).elim (hminus' c) (hbody c)
    · cases h
  · split at h
    · cases h
    · cases h

/-- **The floats of a text are numbers.** -/
theorem isNaN_of_front {c : Char} {rest : List Char} {d : Double} {more : Nat}
    (h : front c rest = .ok (.float d, more)) : d.isNaN = false := by
  have hquoted : quotedText rest ≠ .ok (.float d, more) := by
    unfold quotedText
    split
    · exact fun h => by cases h
    · exact fun h => by cases h
  have hname (quote : Char) : quotedName quote rest ≠ .ok (.float d, more) := by
    unfold quotedName
    split
    · split
      · exact fun h => by cases h
      · exact fun h => by cases h
    · exact fun h => by cases h
  unfold front at h
  split at h
  all_goals first
    | cases h
    | exact absurd h hquoted
    | exact absurd h (hname _)
    | exact isNaN_of_number h
    | skip
  -- What is left is a point, and what begins as a number or a name does.
  · split at h
    · exact isNaN_of_number h
    · cases h
  · split at h
    · exact isNaN_of_number h
    · split at h
      · cases h
      · cases h

theorem exists_front {soFar ts : List Token} {offset skip : Nat} {cs : List Char}
    (h : scan soFar offset skip cs = .ok ts) {t : Token} (ht : t ∈ ts) :
    t ∈ soFar ∨ ∃ c rest more, front c rest = .ok (t.kind, more) := by
  induction cs generalizing soFar offset skip with
  | nil =>
    cases h
    exact .inl (List.mem_reverse.1 ht)
  | cons c cs ih =>
    cases skip with
    | succ skip => exact ih h
    | zero =>
      rw [scan] at h
      split at h
      · exact ih h
      · split at h
        · next kind more hfront =>
          rcases ih h with hsoFar | hlater
          · rcases List.mem_cons.1 hsoFar with rfl | hsoFar
            · exact .inr ⟨c, cs, more, hfront⟩
            · exact .inl hsoFar
          · exact .inr hlater
        · cases h

end Token

namespace Condition

open Grammar

/-- What fields are compared with. -/
def operands : Condition → List Literal
  | both l r | either l r => l.operands ++ r.operands
  | compare _ _ l => [l]
  | among _ ls _ => ls
  | like _ _ _ => []

/-- All that conditions compare with stands in their tokens. -/
def Drawn (Part : Spelling) : Prop :=
  ∀ {ts c}, Part ts c → ∀ l ∈ c.operands, ∃ t ∈ ts, Spells t.kind l

theorem drawn_literals {ts : List Token} {ls : List Literal} (h : Literals ts ls) :
    ∀ l ∈ ls, ∃ t ∈ ts, Spells t.kind l := by
  induction h with
  | last h =>
    intro l hl
    rw [List.mem_singleton.1 hl]
    exact ⟨_, List.mem_singleton_self _, h⟩
  | more h hcomma hrest ih =>
    intro l hl
    rcases List.mem_cons.1 hl with rfl | hl
    · exact ⟨_, List.mem_cons_self, h⟩
    · obtain ⟨t, ht, hspells⟩ := ih l hl
      exact ⟨t, List.mem_cons_of_mem _ (List.mem_cons_of_mem _ ht), hspells⟩

theorem drawn_test (field : String) : Drawn (Test field) := by
  intro ts c h l hl
  cases h with
  | compare h hspells =>
    cases List.mem_singleton.1 hl
    exact ⟨_, List.mem_cons_of_mem _ (List.mem_singleton_self _), hspells⟩
  | among hn h hopening hls hclosing =>
    obtain ⟨t, ht, hspells⟩ := drawn_literals hls l hl
    refine ⟨t, List.mem_append_right _ ?_, hspells⟩
    exact List.mem_cons_of_mem _ (List.mem_cons_of_mem _ (List.mem_append_left _ ht))
  | like hn h hu hpattern => cases hl

theorem operands_joined {join : Condition → Condition → Condition}
    (hjoin : ∀ l r, (join l r).operands = l.operands ++ r.operands) {cs : List Condition}
    {c : Condition} (h : Joined join cs c) : ∀ l ∈ c.operands, ∃ d ∈ cs, l ∈ d.operands := by
  induction h with
  | part c => exact fun l hl => ⟨c, List.mem_singleton_self c, hl⟩
  | halves h hl hr ihl ihr =>
    intro l hmem
    rw [hjoin] at hmem
    rcases List.mem_append.1 hmem with hmem | hmem
    · obtain ⟨d, hd, hmem⟩ := ihl l hmem
      exact ⟨d, List.mem_of_mem_take hd, hmem⟩
    · obtain ⟨d, hd, hmem⟩ := ihr l hmem
      exact ⟨d, List.mem_of_mem_drop hd, hmem⟩

theorem drawn_parts {word : String} {Part : Spelling} (hPart : Drawn Part) {ts : List Token}
    {cs : List Condition} (h : Parts word Part ts cs) :
    ∀ c ∈ cs, ∀ l ∈ c.operands, ∃ t ∈ ts, Spells t.kind l := by
  induction h with
  | last h =>
    intro c hc
    rw [List.mem_singleton.1 hc]
    exact hPart h
  | more h hword hrest ih =>
    intro c hc l hl
    rcases List.mem_cons.1 hc with rfl | hc
    · obtain ⟨t, ht, hspells⟩ := hPart h l hl
      exact ⟨t, List.mem_append_left _ ht, hspells⟩
    · obtain ⟨t, ht, hspells⟩ := ih c hc l hl
      exact ⟨t, List.mem_append_right _ (List.mem_cons_of_mem _ ht), hspells⟩

theorem drawn_chain {word : String} {join : Condition → Condition → Condition} {Part : Spelling}
    (hjoin : ∀ l r, (join l r).operands = l.operands ++ r.operands) (hPart : Drawn Part) :
    Drawn (Chain word join Part) := by
  rintro ts c ⟨cs, hparts, hjoined⟩ l hl
  obtain ⟨d, hd, hl⟩ := operands_joined hjoin hjoined l hl
  exact drawn_parts hPart hparts d hd l hl

theorem drawn_primary {Nested : Spelling} (h : Drawn Nested) : Drawn (Primary Nested) := by
  intro ts c hprimary l hl
  cases hprimary with
  | nested hopening hnested hclosing =>
    obtain ⟨t, ht, hspells⟩ := h hnested l hl
    exact ⟨t, List.mem_cons_of_mem _ (List.mem_append_left _ ht), hspells⟩
  | single hcolumn htest =>
    obtain ⟨t, ht, hspells⟩ := drawn_test _ htest l hl
    exact ⟨t, List.mem_append_right _ ht, hspells⟩

theorem drawn_disjunction {Part : Spelling} (h : Drawn Part) : Drawn (Disjunction Part) :=
  drawn_chain (fun _ _ => rfl) (drawn_chain (fun _ _ => rfl) h)

theorem drawn_expression (levels : Nat) : Drawn (Expression levels) := by
  induction levels with
  | zero => exact drawn_disjunction (drawn_primary fun h => h.elim)
  | succ levels ih => exact drawn_disjunction (drawn_primary ih)

theorem drawn_statement : Drawn Statement := by
  rintro _ _ ⟨hfront, hbody, hending⟩ l hl
  obtain ⟨t, ht, hspells⟩ := drawn_expression _ hbody l hl
  exact ⟨t, List.mem_append_right _ (List.mem_append_left _ ht), hspells⟩

/-- The floats that conditions compare with are numbers. -/
theorem isNaN_of_compile {text : String} {c : Condition} (h : compile text = .ok c) {d : Double}
    (hd : .float d ∈ c.operands) : d.isNaN = false := by
  unfold compile at h
  dsimp only at h
  split at h
  · cases h
  split at h
  · next ts hts =>
    obtain ⟨t, ht, hspells⟩ := drawn_statement (statement_sound h) _ hd
    generalize hkind : t.kind = kind at hspells
    cases hspells
    rcases Token.exists_front hts ht with hnone | ⟨front, rest, more, hfront⟩
    · cases hnone
    · rw [hkind] at hfront
      exact Token.isNaN_of_front hfront
  · cases h

end Condition

/-! ### Numbers of fields and literals -/

/-- Whether a text can be read as a number. -/
def isNumeral (s : String) : Bool := (Double.read? (Text.trim s.toList)).isSome

/-- Whether a text is the word for what is no number. -/
def saysNaN (s : String) : Bool := Double.spellsNaN (Text.trim s.toList)

theorem isNaN_numberOf (s : String) : (numberOf s).isNaN = saysNaN s := by
  unfold numberOf saysNaN
  cases hread : Double.read? (Text.trim s.toList) with
  | none =>
    refine (Bool.eq_false_iff.2 fun hnan => ?_).symm
    have hsome := Double.isSome_read?_of_spellsNaN hnan
    rw [hread] at hsome
    cases hsome
  | some d => exact Double.isNaN_read? hread

theorem numberOf_eq_zero {s : String} (h : isNumeral s = false) : numberOf s = Double.zero := by
  unfold numberOf
  rw [Option.isSome_eq_false_iff.1 h |> Option.isNone_iff_eq_none.1]
  rfl

/-- Fields that are numbers, or count as such, whatever their text is. -/
def Field.isNumeric : Field → Bool
  | fileSize | pageCount | hour | dayOfWeek | isMalicious => true
  | _ => false

namespace Event

variable {e : Event} {field : String}

/-- A field without a number: it is absent, or a text that is none. -/
def LacksNumber (e : Event) (field : String) : Prop :=
  (Field.ofName field).isNumeric = false ∧ ∀ s, e.text field = some s → isNumeral s = false

/-- A field that is the word for what is no number. -/
def SaysNaN (e : Event) (field : String) : Prop :=
  (Field.ofName field).isNumeric = false ∧ ∃ s, e.text field = some s ∧ saysNaN s = true

theorem number_of_text (h : (Field.ofName field).isNumeric = false) :
    e.number field = ((e.text field).map numberOf).getD Double.zero := by
  unfold number text fieldNumber
  generalize Field.ofName field = f at h
  cases f with
  | hour | dayOfWeek | fileSize | pageCount | isMalicious => cases h
  | _ => rfl

/-- An absent field has no number. -/
theorem lacksNumber_of_absent (h : e.text field = none) : e.LacksNumber field := by
  refine ⟨?_, fun s hs => ?_⟩
  · unfold text at h
    generalize Field.ofName field = f at h
    cases f with
    | hour | dayOfWeek | fileSize | pageCount | isMalicious => cases h
    | _ => rfl
  · rw [h] at hs
    cases hs

theorem LacksNumber.number_eq (h : e.LacksNumber field) : e.number field = Double.zero := by
  rw [number_of_text h.1]
  cases htext : e.text field with
  | none => rfl
  | some s => exact numberOf_eq_zero (h.2 s htext)

theorem isNaN_number_iff : (e.number field).isNaN = true ↔ e.SaysNaN field := by
  cases hfield : (Field.ofName field).isNumeric with
  | true =>
    have hnumber : (e.number field).isNaN = false := by
      unfold number fieldNumber
      generalize Field.ofName field = f at hfield
      cases f with
      | fileSize | pageCount => exact Double.isNaN_ofInt _
      | hour | dayOfWeek | isMalicious => exact Double.isNaN_ofNat _
      | _ => cases hfield
    rw [hnumber]
    exact ⟨nofun, fun h => absurd h.1 (by rw [hfield]; exact Bool.noConfusion)⟩
  | false =>
    rw [number_of_text hfield]
    cases htext : e.text field with
    | none =>
      refine ⟨nofun, fun ⟨_, s, hs, _⟩ => ?_⟩
      rw [htext] at hs
      cases hs
    | some s =>
      show (numberOf s).isNaN = true ↔ _
      rw [isNaN_numberOf]
      refine ⟨fun h => ⟨hfield, s, htext, h⟩, fun ⟨_, s', hs', h⟩ => ?_⟩
      rw [htext] at hs'
      cases hs'
      exact h

end Event

namespace Literal

/-- A text that is no number. -/
def LacksNumber (l : Literal) : Prop := ∃ s, l = text s ∧ isNumeral s = false

/-- The word for what is no number. -/
def SaysNaN (l : Literal) : Prop := ∃ s, l = text s ∧ saysNaN s = true

theorem LacksNumber.asNumber_eq {l : Literal} (h : l.LacksNumber) : l.asNumber = Double.zero := by
  obtain ⟨s, rfl, hs⟩ := h
  exact numberOf_eq_zero hs

/-- Of the literals of a condition only texts are no numbers. -/
theorem isNaN_asNumber_iff {l : Literal} (h : ∀ d, l = float d → d.isNaN = false) :
    l.asNumber.isNaN = true ↔ l.SaysNaN := by
  cases l with
  | text s =>
    show (numberOf s).isNaN = true ↔ _
    rw [isNaN_numberOf]
    refine ⟨fun hs => ⟨s, rfl, hs⟩, fun ⟨s', heq, hs⟩ => ?_⟩
    cases heq
    exact hs
  | integer i =>
    refine ⟨fun hnan => ?_, fun ⟨s, heq, _⟩ => by cases heq⟩
    rw [asNumber, Double.isNaN_ofInt] at hnan
    cases hnan
  | float d =>
    refine ⟨fun hnan => ?_, fun ⟨s, heq, _⟩ => by cases heq⟩
    rw [asNumber, h d rfl] at hnan
    cases hnan

end Literal

/-! ### Orders -/

namespace Condition

section
variable {e : Event} {field : String} {l : Literal} {o : Comparison}

theorem holds_order (h : o.isOrder = true) :
    (compare field o l).holds e = o.ordered (e.number field) l.asNumber := by
  cases o with
  | eq | ne => cases h
  | gt | ge | lt | le => rfl

/-- No order holds of what is no number. -/
theorem order_undecided (h : (e.number field).isNaN = true ∨ l.asNumber.isNaN = true)
    (ho : o.isOrder = true) : (compare field o l).holds e = false := by
  have hleft := Double.unordered h
  have hright := Double.unordered h.symm
  rw [holds_order ho]
  cases o with
  | eq | ne => cases ho
  | gt => exact hright.1
  | ge => exact hright.2
  | lt => exact hleft.1
  | le => exact hleft.2

end

/-- **Each order has its opposite**, and what spells no number counts as zero, unless the field or
the literal is the word for what is no number. -/
theorem order_total {text : String} {c : Condition} (hcompiled : compile text = .ok c) {l : Literal}
    (hl : l ∈ c.operands) (e : Event) (field : String) (hfield : ¬e.SaysNaN field)
    (hliteral : ¬l.SaysNaN) :
    (compare field .gt l).holds e = !(compare field .le l).holds e ∧
    (compare field .lt l).holds e = !(compare field .ge l).holds e ∧
    ((compare field .ge l).holds e = true ↔ (compare field .gt l).holds e = true ∨
      ((compare field .ge l).holds e = true ∧ (compare field .le l).holds e = true)) ∧
    (∀ o : Comparison, o.isOrder = true →
      (e.text field = none ∨ e.LacksNumber field →
        (compare field o l).holds e = o.ordered Double.zero l.asNumber) ∧
      (l.LacksNumber → (compare field o l).holds e = (compare field o (.integer 0)).holds e)) := by
  have ha : (e.number field).isNaN = false :=
    Bool.eq_false_iff.2 fun hnan => hfield (Event.isNaN_number_iff.1 hnan)
  have hfloat : ∀ d, l = .float d → d.isNaN = false := by
    rintro d rfl
    exact isNaN_of_compile hcompiled hl
  have hb : l.asNumber.isNaN = false :=
    Bool.eq_false_iff.2 fun hnan => hliteral ((Literal.isNaN_asNumber_iff hfloat).1 hnan)
  have hzero : (Literal.integer 0).asNumber = Double.zero := by decide +kernel
  refine ⟨Double.lt_eq_not_le hb ha, Double.lt_eq_not_le ha hb, Double.le_iff_lt_or, fun o ho => ?_⟩
  rw [holds_order ho, holds_order ho, hzero]
  refine ⟨fun hnone => ?_, fun hlacks => by rw [hlacks.asNumber_eq]⟩
  have hlacks : e.LacksNumber field := hnone.elim Event.lacksNumber_of_absent id
  rw [hlacks.number_eq]

/-- An event with a score. -/
def scored (score : String) : Event :=
  { msgId := "1", timestamp := ⟨0, 0⟩, ext := Table.empty.insert "riskScore" score }

/-- A score below all numbers, and a bound above them. -/
theorem order_total_unbounded : ∃ c, compile "riskScore < 7.5 OR riskScore > ' +Infinity '" = .ok c ∧
    .text " +Infinity " ∈ c.operands ∧ ¬(scored "-INF").SaysNaN "riskScore" ∧
    ¬(Literal.text " +Infinity ").SaysNaN ∧
    (compare "riskScore" .gt (.text " +Infinity ")).holds (scored "-INF") =
      !(compare "riskScore" .le (.text " +Infinity ")).holds (scored "-INF") ∧
    (compare "riskScore" .lt (.text " +Infinity ")).holds (scored "-INF") = true := by
  have hread : (compile "riskScore < 7.5 OR riskScore > ' +Infinity '").toOption.map operands =
      some [.float ⟨false, 0x401E000000000000⟩, .text " +Infinity "] := by decide +kernel
  obtain ⟨c, hc, hoperands⟩ := Option.map_eq_some_iff.1 hread
  have hcompiled : compile "riskScore < 7.5 OR riskScore > ' +Infinity '" = .ok c := by
    cases h : compile "riskScore < 7.5 OR riskScore > ' +Infinity '" with
    | error fault =>
      rw [h] at hc
      cases hc
    | ok d =>
      rw [h] at hc
      cases hc
      rfl
  have hmem : .text " +Infinity " ∈ c.operands := hoperands ▸ by decide
  have hfield : ¬(scored "-INF").SaysNaN "riskScore" := by
    rintro ⟨-, s, hs, hnan⟩
    cases hs
    revert hnan
    decide
  have hliteral : ¬(Literal.text " +Infinity ").SaysNaN := by
    rintro ⟨s, hs, hnan⟩
    cases hs
    revert hnan
    decide
  obtain ⟨hgt, hlt, -, -⟩ := order_total hcompiled hmem (scored "-INF") "riskScore" hfield hliteral
  have hge : (compare "riskScore" .ge (.text " +Infinity ")).holds (scored "-INF") = false := by
    decide +kernel
  rw [hge] at hlt
  exact ⟨c, hcompiled, hmem, hfield, hliteral, hgt, hlt⟩

/-- A score that is the word for what is no number is neither above seven nor at most seven. -/
theorem order_undecided_nan :
    (compile "riskScore > 7").toOption = some (compare "riskScore" .gt (.integer 7)) ∧
    (compile "riskScore <= 7").toOption = some (compare "riskScore" .le (.integer 7)) ∧
    (compare "riskScore" .gt (.integer 7)).holds (scored "nan") = false ∧
    (compare "riskScore" .le (.integer 7)).holds (scored "nan") = false := by
  have hnan : ((scored "nan").number "riskScore").isNaN = true := by decide +kernel
  exact ⟨by decide +kernel, by decide +kernel, order_undecided (.inl hnan) rfl,
    order_undecided (.inl hnan) rfl⟩

end Condition
end Watchpost

import Watchpost.Proofs.Double.Order
import Watchpost.Proofs.Json.Shuffling

/-! What JSON values can hold.

The integers of a value fit 64 bits, its doubles are finite, and the members of its records are in
the order of their names (`Regular`). A numeral has such a value or none (`regular_value?`), and so
does every text (`regular_of_read?`). -/
namespace Watchpost.Json

/-- A value that a text can have: its integers fit, its doubles are finite, and the names of a
record are in order, each of them once. -/
inductive Regular : Json → Prop where
  | null : Regular .null
  | bool (b : Bool) : Regular (.bool b)
  | integer {i : Int} (h : IntegerKind.any64.holds i = true) : Regular (.integer i)
  | double {d : Double} (h : d.magnitude < Double.infinite) : Regular (.double d)
  | text (s : String) : Regular (.text s)
  | list {items : List Json} (h : ∀ j ∈ items, Regular j) : Regular (.list items)
  | record {members : List (String × Json)} (h : ∀ m ∈ members, Regular m.2)
      (ordered : members.Pairwise (·.1 < ·.1)) : Regular (.record members)

/-! ### Numerals -/

namespace Numeral

open Double (infinite)

/-- Digits are added as long as the number stays under the bound. -/
theorem accumulate_lt {bound n : Nat} (h : n < bound) (cs : List Char) :
    (accumulate bound n cs).1 < bound := by
  induction cs generalizing n with
  | nil => exact h
  | cons c rest ih =>
    unfold accumulate
    dsimp only
    split
    · next hnext => exact ih hnext
    · exact h

theorem one_le_power (exponent : Nat) : (Double.ofNat 1).magnitude ≤ (power exponent).magnitude :=
  Double.one_le_ofNat (Decimal.tenTo_pos exponent)

/-- What is moved stays finite, or is no number. -/
theorem shift_lt_infinite {d r : Double} {places : Int} {fuel : Nat}
    (hd : d.magnitude < infinite) (h : shift d places fuel = some r) : r.magnitude < infinite := by
  induction fuel generalizing d places with
  | zero =>
    cases h
    decide
  | succ fuel ih =>
    have hdiv (k : Nat) : (d.div (power k)).magnitude < infinite :=
      Nat.lt_of_le_of_lt (Double.magnitude_div_le (one_le_power k)) hd
    unfold shift at h
    dsimp only at h
    split at h
    · split at h
      · split at h
        · cases h
        · next hfinite =>
          cases h
          refine Nat.lt_of_le_of_ne (Double.nearestMagnitude_le ..) fun heq => hfinite ?_
          exact decide_eq_true heq
      · cases h
        exact hdiv _
    · split at h
      · cases h
        exact hd
      · split at h
        · cases h
        · exact ih (hdiv 308) h

/-- A numeral that has a size has a finite one; those that are too large are refused. -/
theorem magnitude?_lt_infinite {n : Numeral} {d : Double} (h : n.magnitude? = some d) :
    d.magnitude < infinite := by
  unfold magnitude? at h
  dsimp only at h
  split at h
  · refine shift_lt_infinite (Double.ofNat_lt_infinite (Nat.le_of_lt ?_)) h
    exact accumulate_lt (accumulate_lt (by decide) _) _
  · split at h
    · cases h
    · cases h
      decide

/-- **The value of a numeral** is an integer of 64 bits or a finite double. -/
theorem regular_value? {n : Numeral} {j : Json} (h : n.value? = some j) : j.Regular := by
  have hdouble (h : n.magnitude?.map (fun d => Json.double { d with negative := n.negative }) = some j) :
      j.Regular := by
    obtain ⟨d, hd, rfl⟩ := Option.map_eq_some_iff.1 h
    have hfinite := magnitude?_lt_infinite hd
    exact .double hfinite
  unfold value? at h
  dsimp only at h
  split at h
  · exact hdouble h
  · split at h
    · next i hi =>
      have hlt : (accumulate 0x10000000000000000 0 n.whole).1 < 0x10000000000000000 :=
        accumulate_lt (by decide) _
      rw [hi] at hlt
      have hholds {k : Int} (hlo : -0x8000000000000000 ≤ k) (hhi : k ≤ 0xFFFFFFFFFFFFFFFF) :
          IntegerKind.any64.holds k = true := by
        rw [IntegerKind.holds, Bool.and_eq_true]
        exact ⟨decide_eq_true hlo, decide_eq_true hhi⟩
      split at h
      · cases h
        exact .integer (hholds (by omega) (by omega))
      · split at h
        · exact hdouble h
        · cases h
          exact .integer (hholds (by omega) (by omega))
    · exact hdouble h

end Numeral

/-! ### Tokens -/

def Token.Regular : Token → Prop
  | .leaf value => ∀ j ∈ value, j.Regular
  | .mark _ | .text _ => True

theorem regular_word? {value : Json} {word : String} {cs : List (Option Char)} {t : Token} {more : Nat}
    (hvalue : value.Regular) (h : word? value word cs = some (t, more)) : t.Regular := by
  unfold word? at h
  split at h
  · cases h
    rintro j hj
    cases hj
    exact hvalue
  · cases h

/-- A token is a mark, a text, a word or a numeral. The values of the last two are regular. -/
theorem regular_front? {c : Char} {rest : List (Option Char)} {t : Token} {more : Nat}
    (h : front? c rest = some (t, more)) : t.Regular := by
  unfold front? at h
  split at h
  case h_7 =>
    obtain ⟨⟨s, count⟩, -, heq⟩ := Option.map_eq_some_iff.1 h
    cases heq
    trivial
  case h_8 => exact regular_word? .null h
  case h_9 => exact regular_word? (.bool true) h
  case h_10 => exact regular_word? (.bool false) h
  case h_11 =>
    obtain ⟨n, -, heq⟩ := Option.map_eq_some_iff.1 h
    cases heq
    exact fun j hj => Numeral.regular_value? hj
  all_goals
    cases h
    trivial

/-- All tokens of a text are regular, whatever it looks like. -/
theorem regular_scan {soFar : List Token} (h : ∀ t ∈ soFar, t.Regular) (skip : Nat)
    (cs : List (Option Char)) : ∀ t ∈ (scan soFar skip cs).1, t.Regular := by
  have hend : ∀ t ∈ soFar.reverse, t.Regular := fun t ht => h t (List.mem_reverse.1 ht)
  fun_induction scan soFar skip cs with
  | case1 | case3 => exact hend
  | case2 soFar skip c rest ih => exact ih h hend
  | case4 soFar c rest hspace ih => exact ih h hend
  | case5 soFar c rest hspace t more hfront ih =>
    have hmore : ∀ u ∈ t :: soFar, u.Regular := List.forall_mem_cons.2 ⟨regular_front? hfront, h⟩
    exact ih hmore fun u hu => hmore u (List.mem_reverse.1 hu)
  | case6 => exact hend

/-! ### Drafts -/

/-- The leaves of a draft are regular; its names may still be given twice and in any order. -/
inductive Draft.Regular : Draft → Prop where
  | leaf {value : Option Json} (h : ∀ j ∈ value, j.Regular) : Regular (.leaf value)
  | list {items : List Draft} (h : ∀ d ∈ items, Regular d) : Regular (.list items)
  | record {members : List (Option String × Draft)} (h : ∀ m ∈ members, Regular m.2) :
      Regular (.record members)

namespace Draft

theorem regular_list_reverse {items : List Draft} (h : ∀ d ∈ items, d.Regular) :
    (list items.reverse).Regular :=
  .list fun d hd => h d (List.mem_reverse.1 hd)

theorem regular_record_reverse {members : List (Option String × Draft)}
    (h : ∀ m ∈ members, m.2.Regular) : (record members.reverse).Regular :=
  .record fun m hm => h m (List.mem_reverse.1 hm)

end Draft

def Frame.Regular : Frame → Prop
  | .list items => ∀ d ∈ items, d.Regular
  | .record members _ => ∀ m ∈ members, m.2.Regular

structure Building.Regular (b : Building) : Prop where
  frames : ∀ f ∈ b.frames, f.Regular
  result : b.result.Regular

namespace Building

variable {b c : Building} {d : Draft} {f : Frame} {t : Token}

/-- What is put in stands in the innermost frame. -/
theorem Regular.put (h : b.Regular) (hd : d.Regular) : (b.put d).Regular := by
  obtain ⟨frames, phase, result⟩ := b
  have hframes := h.frames
  unfold Building.put
  cases frames with
  | nil => exact ⟨nofun, hd⟩
  | cons f outer =>
    obtain ⟨hf, houter⟩ := List.forall_mem_cons.1 hframes
    cases f with
    | list items =>
      have hitems : (Frame.list (d :: items)).Regular := List.forall_mem_cons.2 ⟨hd, hf⟩
      exact ⟨List.forall_mem_cons.2 ⟨hitems, houter⟩, hd⟩
    | record members name =>
      have hmembers : (Frame.record ((name, d) :: members) none).Regular :=
        List.forall_mem_cons.2 ⟨hd, hf⟩
      exact ⟨List.forall_mem_cons.2 ⟨hmembers, houter⟩, hd⟩

theorem Regular.push (h : b.Regular) (hf : f.Regular) (phase : Phase) : (b.push f phase).Regular :=
  ⟨List.forall_mem_cons.2 ⟨hf, h.frames⟩, h.result⟩

/-- A frame that is closed is put into the one around it. -/
theorem Regular.close? (h : b.Regular) {m : Mark} (hclose : b.close? m = some c) : c.Regular := by
  obtain ⟨frames, phase, result⟩ := b
  have hframes := h.frames
  unfold Building.close? at hclose
  split at hclose
  · next items outer heq =>
    cases hclose
    dsimp only at heq
    subst heq
    obtain ⟨hf, houter⟩ := List.forall_mem_cons.1 hframes
    have hrest : (Building.mk outer phase result).Regular := ⟨houter, h.result⟩
    exact hrest.put (Draft.regular_list_reverse hf)
  · next members name outer heq =>
    cases hclose
    dsimp only at heq
    subst heq
    obtain ⟨hf, houter⟩ := List.forall_mem_cons.1 hframes
    have hrest : (Building.mk outer phase result).Regular := ⟨houter, h.result⟩
    exact hrest.put (Draft.regular_record_reverse hf)
  · cases hclose

/-- A token in the place of a value is one, or it opens a frame with nothing in it. -/
theorem Regular.value? (h : b.Regular) (ht : t.Regular) (hvalue : b.value? t = some c) :
    c.Regular := by
  unfold Building.value? at hvalue
  split at hvalue
  · cases hvalue
    exact h.put (.leaf ht)
  · next s =>
    cases hvalue
    refine h.put (.leaf fun j hj => ?_)
    obtain ⟨s, -, rfl⟩ := Option.map_eq_some_iff.1 hj
    exact .text s
  · cases hvalue
    exact h.push (f := .list []) (List.forall_mem_nil _) _
  · cases hvalue
    exact h.push (f := .record [] none) (List.forall_mem_nil _) _
  · cases hvalue

theorem Regular.name? (h : b.Regular) (hname : b.name? t = some c) : c.Regular := by
  obtain ⟨frames, phase, result⟩ := b
  unfold Building.name? at hname
  split at hname
  · next heq =>
    cases hname
    dsimp only at heq
    subst heq
    obtain ⟨hf, houter⟩ := List.forall_mem_cons.1 h.frames
    exact ⟨List.forall_mem_cons.2 ⟨hf, houter⟩, h.result⟩
  · cases hname

/-- **Each token keeps what is built regular**, whatever is expected next. -/
theorem Regular.step? (h : b.Regular) (ht : t.Regular) (hstep : b.step? t = some c) : c.Regular := by
  have hphase (phase : Phase) : ({ b with phase } : Building).Regular := ⟨h.frames, h.result⟩
  unfold Building.step? at hstep
  split at hstep
  · exact h.value? ht hstep
  · exact h.close? hstep
  · exact h.value? ht hstep
  · exact h.name? hstep
  · exact h.close? hstep
  · exact h.name? hstep
  · cases hstep
    exact hphase .value
  · cases hstep
  · split at hstep
    · cases hstep
      exact hphase .value
    · cases hstep
      exact hphase .name
    · cases hstep
  · exact h.close? hstep
  · cases hstep
  · cases hstep

/-- So what is built of any tokens is regular, up to the first that does not fit. -/
theorem Regular.run (h : b.Regular) {ts : List Token} (hts : ∀ t ∈ ts, t.Regular) :
    (b.run ts).1.Regular := by
  induction ts generalizing b with
  | nil => exact h
  | cons t rest ih =>
    obtain ⟨ht, hrest⟩ := List.forall_mem_cons.1 hts
    unfold Building.run
    split
    · next c hc => exact ih (h.step? ht hc) hrest
    · exact h

theorem Regular.outermost (h : b.Regular) : b.outermost.Regular := by
  unfold Building.outermost
  split
  · next items hlast =>
    exact Draft.regular_list_reverse (h.frames _ (List.mem_of_getLast? hlast))
  · next members name hlast =>
    exact Draft.regular_record_reverse (h.frames _ (List.mem_of_getLast? hlast))
  · exact h.result

end Building

namespace Draft

/-- **A draft that was read is regular**, also if the text breaks off. -/
theorem regular_of_read? {cs : List (Option Char)} {d : Draft} (h : read? cs = some d) :
    d.Regular := by
  unfold read? at h
  dsimp only at h
  split at h
  · cases h
    unfold readFar
    have hleaf : (leaf none).Regular := .leaf nofun
    have hstart : (Building.mk [] .value (.leaf none)).Regular := ⟨List.forall_mem_nil _, hleaf⟩
    have hts : ∀ t ∈ (scan [] 0 cs).1, t.Regular := regular_scan (List.forall_mem_nil _) 0 cs
    exact (hstart.run hts).outermost
  · cases h

/-! ### Values -/

/-- Its names make a record regular: they are put in order, and each is kept once. -/
theorem regular_ofMembers {members : List (String × Json)} (h : ∀ m ∈ members, m.2.Regular) :
    (Json.ofMembers members).Regular := by
  have hinsert (t : Table Json) (ht : ∀ m ∈ t.entries, m.2.Regular) :
      ∀ m ∈ (members.foldl (fun t e => t.insert e.1 e.2) t).entries, m.2.Regular := by
    induction members generalizing t with
    | nil => exact ht
    | cons m rest ih =>
      obtain ⟨hm, hrest⟩ := List.forall_mem_cons.1 h
      refine ih hrest _ fun e he => ?_
      rcases Table.mem_insertEntry he with rfl | he
      · exact hm
      · exact ht e he
  rw [ofMembers_eq]
  exact .record (hinsert .empty (List.forall_mem_nil _)) (Table.ofList members).ordered

mutual
/-- The value of a regular draft is regular, at whatever depth it is refused. The induction is on
the draft, together with its items and its members. -/
theorem Regular.valueWithin : ∀ {levels : Nat} {d : Draft} {j : Json}, d.Regular →
    d.valueWithin levels = some j → j.Regular
  | levels, .leaf value, j, h, hj => by
    cases h with
    | leaf h => exact h j hj
  | 0, .list items, j, h, hj => nomatch hj
  | levels + 1, .list items, j, h, hj => by
    obtain ⟨js, hjs, rfl⟩ := Option.map_eq_some_iff.1 hj
    cases h with
    | list h => exact .list (regular_valuesWithin h hjs)
  | 0, .record items, j, h, hj => nomatch hj
  | levels + 1, .record members, j, h, hj => by
    obtain ⟨js, hjs, rfl⟩ := Option.map_eq_some_iff.1 hj
    cases h with
    | record h => exact regular_ofMembers (regular_membersWithin h hjs)

theorem regular_valuesWithin : ∀ {levels : Nat} {items : List Draft} {js : List Json},
    (∀ d ∈ items, d.Regular) → valuesWithin levels items = some js → ∀ j ∈ js, j.Regular
  | levels, [], js, h, hjs => by
    cases hjs
    nofun
  | levels, d :: rest, js, h, hjs => by
    obtain ⟨hd, hrest⟩ := List.forall_mem_cons.1 h
    rw [valuesWithin] at hjs
    obtain ⟨j, hj, hjs⟩ := Option.bind_eq_some_iff.1 hjs
    obtain ⟨more, hmore, hjs⟩ := Option.bind_eq_some_iff.1 hjs
    cases hjs
    exact List.forall_mem_cons.2 ⟨hd.valueWithin hj, regular_valuesWithin hrest hmore⟩

theorem regular_membersWithin : ∀ {levels : Nat} {members : List (Option String × Draft)}
    {js : List (String × Json)},
    (∀ m ∈ members, m.2.Regular) → membersWithin levels members = some js → ∀ m ∈ js, m.2.Regular
  | levels, [], js, h, hjs => by
    cases hjs
    nofun
  | levels, m :: rest, js, h, hjs => by
    obtain ⟨hm, hrest⟩ := List.forall_mem_cons.1 h
    obtain ⟨name, j, more, -, hj, hmore, rfl⟩ := membersWithin_cons.1 hjs
    exact List.forall_mem_cons.2 ⟨hm.valueWithin hj, regular_membersWithin hrest hmore⟩
end

/-- **A value that is read is regular.** -/
theorem Regular.value? {d : Draft} {j : Json} (h : d.Regular) (hj : d.value? = some j) : j.Regular :=
  h.valueWithin hj

end Draft
end Watchpost.Json

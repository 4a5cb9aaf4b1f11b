import Watchpost.Proofs.Condition.Spans
import Watchpost.Proofs.Text.Bytes

/-! Slices and bytes of a text.

A slice of a text fails if it does not start and end where characters do (`isSome_slice_iff`). A byte
is looked at as the character with its number; where a character starts, that tells it from all that
are stored in one byte (`test_lead`). -/
namespace Watchpost.Token

/-! ### Slices -/

/-- Takes characters apart at a byte; fails if it is within one of them or behind all. -/
def cutAt : Nat → List Char → Option (List Char × List Char)
  | 0, cs => some ([], cs)
  | _ + 1, [] => none
  | n + 1, c :: cs =>
    if c.utf8Size ≤ n + 1 then (cutAt (n + 1 - c.utf8Size) cs).map fun (l, r) => (c :: l, r)
    else none

/-- The characters of a text from a byte on. -/
def sliceFrom (text : List Char) (start : Nat) : Option (List Char) := (cutAt start text).map (·.2)

/-- The characters of a text between two bytes. -/
def slice (text : List Char) (start stop : Nat) : Option (List Char) :=
  if start ≤ stop then
    (sliceFrom text start).bind fun rest => (cutAt (stop - start) rest).map (·.1)
  else none

theorem cutAt_width (l r : List Char) : cutAt (width l) (l ++ r) = some (l, r) := by
  induction l with
  | nil =>
    show cutAt 0 r = some ([], r)
    rw [cutAt]
  | cons c l ih =>
    have hsize : c.utf8Size ≤ width (c :: l) := Nat.le_add_right _ _
    have hrest : width (c :: l) - c.utf8Size = width l := Nat.add_sub_cancel_left ..
    obtain ⟨n, hn⟩ : ∃ n, width (c :: l) = n + 1 := Nat.exists_eq_add_one.2 (width_cons_pos c l)
    rw [hn] at hsize hrest
    rw [hn, List.cons_append, cutAt, if_pos hsize, hrest, ih]
    rfl

theorem cutAt_eq_some_iff {n : Nat} {cs l r : List Char} :
    cutAt n cs = some (l, r) ↔ cs = l ++ r ∧ width l = n := by
  constructor
  · intro h
    fun_induction cutAt n cs generalizing l with
    | case1 cs =>
      cases h
      exact ⟨rfl, rfl⟩
    | case2 n => cases h
    | case3 n c cs hsize ih =>
      obtain ⟨⟨front, back⟩, hcut, heq⟩ := Option.map_eq_some_iff.1 h
      cases heq
      obtain ⟨rfl, hwidth⟩ := ih hcut
      refine ⟨rfl, ?_⟩
      rw [width_cons, hwidth]
      omega
    | case4 n c cs hsize => cases h
  · rintro ⟨rfl, rfl⟩
    exact cutAt_width l r

/-- Valid positions are where characters start, and the end. -/
theorem isValid_iff {text : String} {pos : Nat} : (⟨pos⟩ : String.Pos.Raw).IsValid text ↔
    ∃ before after, text.toList = before ++ after ∧ width before = pos := by
  rw [String.Pos.Raw.isValid_iff_exists_append]
  constructor
  · rintro ⟨s, t, rfl, hpos⟩
    refine ⟨s.toList, t.toList, String.toList_append, ?_⟩
    rw [← utf8ByteSize_eq]
    exact (congrArg String.Pos.Raw.byteIdx hpos).symm
  · rintro ⟨before, after, happend, rfl⟩
    refine ⟨String.ofList before, String.ofList after, ?_, ?_⟩
    · rw [← String.ofList_append, ← happend, String.ofList_toList]
    · rw [← width_ofList]
      rfl

theorem sliceFrom_width (l r : List Char) : sliceFrom (l ++ r) (width l) = some r := by
  rw [sliceFrom, cutAt_width]
  rfl

theorem slice_width (l m r : List Char) :
    slice (l ++ (m ++ r)) (width l) (width l + width m) = some m := by
  rw [slice, if_pos (Nat.le_add_right _ _), sliceFrom_width, Option.bind_some,
    Nat.add_sub_cancel_left, cutAt_width]
  rfl

theorem isSome_sliceFrom_iff {text : String} {start : Nat} :
    (sliceFrom text.toList start).isSome = true ↔ (⟨start⟩ : String.Pos.Raw).IsValid text := by
  rw [sliceFrom, Option.isSome_map, Option.isSome_iff_exists, isValid_iff]
  constructor
  · rintro ⟨⟨before, after⟩, hcut⟩
    exact ⟨before, after, cutAt_eq_some_iff.1 hcut⟩
  · rintro ⟨before, after, hcut⟩
    exact ⟨(before, after), cutAt_eq_some_iff.2 hcut⟩

/-- **A slice is taken if and only if it starts and ends where characters do.** -/
theorem isSome_slice_iff {text : String} {start stop : Nat} :
    (slice text.toList start stop).isSome = true ↔ start ≤ stop ∧
      (⟨start⟩ : String.Pos.Raw).IsValid text ∧ (⟨stop⟩ : String.Pos.Raw).IsValid text := by
  rw [isValid_iff, isValid_iff]
  constructor
  · intro h
    obtain ⟨m, hslice⟩ := Option.isSome_iff_exists.1 h
    unfold slice at hslice
    split at hslice
    · next hle =>
      obtain ⟨rest, hrest, hcut⟩ := Option.bind_eq_some_iff.1 hslice
      obtain ⟨⟨before, tail⟩, hbefore, htail⟩ := Option.map_eq_some_iff.1 hrest
      dsimp only at htail
      subst htail
      obtain ⟨⟨middle, after⟩, hafter, -⟩ := Option.map_eq_some_iff.1 hcut
      obtain ⟨happend, rfl⟩ := cutAt_eq_some_iff.1 hbefore
      obtain ⟨hmiddle, hwidth⟩ := cutAt_eq_some_iff.1 hafter
      refine ⟨hle, ⟨before, _, happend, rfl⟩, before ++ middle, after, ?_, ?_⟩
      · rw [happend, hmiddle, List.append_assoc]
      · rw [width_append, hwidth, Nat.add_sub_of_le hle]
    · cases hslice
  · rintro ⟨hle, ⟨before, rest, happend, rfl⟩, ⟨whole, after, hwhole, rfl⟩⟩
    -- Both are beginnings of the text, and the one that is not wider begins the other.
    have hprefix : before <+: whole := by
      rcases List.prefix_or_prefix_of_prefix ⟨rest, happend.symm⟩ ⟨after, hwhole.symm⟩ with
        hprefix | ⟨more, rfl⟩
      · exact hprefix
      · cases more with
        | nil => exact ⟨[], by rw [List.append_nil, List.append_nil]⟩
        | cons c more =>
          have hpos := width_cons_pos c more
          rw [width_append] at hle
          omega
    obtain ⟨m, rfl⟩ := hprefix
    rw [hwhole, width_append, List.append_assoc, slice_width]
    rfl

/-! ### Bytes -/

/-- A byte of a text, as the character with its number. -/
def byteAt (text : List Char) (pos : Nat) : Option Char :=
  (Text.bytes text)[pos]?.map Char.ofUInt8

/-- Whether a byte is there and is one of some kind. -/
def comes (text : List Char) (pos : Nat) (p : Char → Bool) : Bool := (byteAt text pos).any p

/-- The first byte of a character. -/
def lead (c : Char) : Char := Char.ofUInt8 ((String.utf8EncodeChar c).headD 0)

theorem length_bytes (cs : List Char) : (Text.bytes cs).length = width cs := by
  induction cs with
  | nil => rfl
  | cons c cs ih =>
    rw [Text.bytes_cons, List.length_append, String.length_utf8EncodeChar, ih, width_cons]

/-- The first byte of a character is the character itself, or too great for any single byte. -/
theorem toNat_lead (c : Char) :
    (lead c).toNat = if c.toNat < 128 then c.toNat else max 192 (lead c).toNat := by
  have hc : c.toNat < 0x110000 := Text.code_lt c
  have hbyte (b : UInt8) : (Char.ofUInt8 b).toNat = b.toNat := UInt8.toNat_toUInt32 b
  have hnumber : c.val.toNat = c.toNat := rfl
  rw [lead, hbyte, String.utf8EncodeChar.eq_1, hnumber]
  generalize c.toNat = n at *
  split_ifs
  all_goals
    simp only [List.headD_cons, UInt8.toNat_ofNat']
    omega

theorem lead_ascii {c : Char} (h : c.toNat < 128) : lead c = c := by
  rw [← Char.toNat_inj, toNat_lead, if_pos h]

theorem lead_wide {c : Char} (h : ¬c.toNat < 128) : ¬(lead c).toNat < 128 := by
  rw [toNat_lead, if_neg h]
  omega

/-- What holds of single bytes only can be seen from the first one. -/
theorem test_lead {p : Char → Bool} (hp : ∀ c, p c = true → c.toNat < 128) (c : Char) :
    p (lead c) = p c := by
  by_cases h : c.toNat < 128
  · rw [lead_ascii h]
  · rw [Bool.eq_false_iff.2 fun hc => h (hp c hc), Bool.eq_false_iff.2 fun hc => lead_wide h (hp _ hc)]

theorem beq_ascii {d : Char} (hd : d.toNat < 128) (c : Char) (h : (c == d) = true) : c.toNat < 128 := by
  rw [beq_iff_eq.1 h]
  exact hd

theorem lead_eq_iff {c d : Char} (hd : d.toNat < 128) : lead c = d ↔ c = d := by
  have h := test_lead (beq_ascii hd) c
  rwa [Bool.eq_iff_iff, beq_iff_eq, beq_iff_eq] at h

theorem lt_of_byteAt {text : List Char} {pos : Nat} {c : Char} (h : byteAt text pos = some c) :
    pos < (Text.bytes text).length := by
  rw [byteAt, Option.map_eq_some_iff] at h
  obtain ⟨b, hb, -⟩ := h
  exact (List.getElem?_eq_some_iff.1 hb).1

section
variable {before rest : List Char} {c : Char}

theorem width_append_ascii (before : List Char) (hc : c.toNat < 128) :
    width (before ++ [c]) = width before + 1 := by
  rw [width_append, width_cons, utf8Size_of_ascii hc]
  rfl

theorem byteAt_width : byteAt (before ++ c :: rest) (width before) = some (lead c) := by
  obtain ⟨b, more, hbytes⟩ := List.exists_cons_of_ne_nil (String.utf8EncodeChar_ne_nil (c := c))
  rw [byteAt, Text.bytes_append, List.getElem?_append_right (Nat.le_of_eq (length_bytes before)),
    length_bytes, Nat.sub_self, Text.bytes_cons]
  simp only [lead, hbytes, List.cons_append, List.getElem?_cons_zero, Option.map_some, List.headD_cons]

theorem byteAt_end (cs : List Char) : byteAt cs (width cs) = none := by
  rw [byteAt, List.getElem?_eq_none (Nat.le_of_eq (length_bytes cs)), Option.map_none]

theorem comes_width {p : Char → Bool} (hp : ∀ c, p c = true → c.toNat < 128) (before cs : List Char) :
    comes (before ++ cs) (width before) p = cs.head?.any p := by
  cases cs with
  | nil =>
    rw [List.append_nil, comes, byteAt_end]
    rfl
  | cons c rest =>
    rw [comes, byteAt_width]
    exact test_lead hp c

/-- Behind a single byte is the first one of the next character. -/
theorem comes_next {p : Char → Bool} (hp : ∀ c, p c = true → c.toNat < 128) (hc : c.toNat < 128) :
    comes (before ++ c :: rest) (width before + 1) p = rest.head?.any p := by
  rw [List.append_cons, ← width_append_ascii before hc, comes_width hp]

theorem comes_eq {d : Char} (hc : c.toNat < 128) (hd : d.toNat < 128) :
    comes (before ++ c :: rest) (width before + 1) (· == d) = decide (rest.head? = some d) := by
  rw [comes_next (beq_ascii hd) hc]
  cases rest.head? with
  | none => rfl
  | some e => rw [Option.any_some, Bool.eq_iff_iff, beq_iff_eq, decide_eq_true_eq, Option.some_inj]

end

end Watchpost.Token

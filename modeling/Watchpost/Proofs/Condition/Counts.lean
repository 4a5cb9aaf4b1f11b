import Watchpost.Condition.Evaluate
import Watchpost.Proofs.Condition.Rendering
import Watchpost.Proofs.Condition.Writing
import Watchpost.Proofs.Double.Integers

/-! Counts compared with integers.

A size and a number of pages are integers, and both they and the integer that they are compared with
become doubles first. No order is turned round by that, and up to `2 ^ 53` a comparison holds exactly
when it holds of the integers (`counts_in_order`). -/
namespace Watchpost

/-! ### Counts of an event -/

/-- What an event counts, with the names that conditions have for it. -/
def Event.counts (e : Event) : List (String × Int64) :=
  [("fileSize", e.fileSize), ("fsize", e.fileSize), ("pageCount", e.pageCount),
    ("PageCount", e.pageCount)]

section
variable {e : Event} {field : String} {a : Int64}

theorem Event.number_of_counts (h : (field, a) ∈ e.counts) :
    e.number field = Double.ofInt a.toInt := by
  simp only [counts, List.mem_cons, List.not_mem_nil, or_false, Prod.mk.injEq] at h
  rcases h with ⟨rfl, rfl⟩ | ⟨rfl, rfl⟩ | ⟨rfl, rfl⟩ | ⟨rfl, rfl⟩
  all_goals rfl

/-- Each of the names can stand for itself, and none is long. -/
theorem Event.isField_of_counts (h : (field, a) ∈ e.counts) :
    Condition.IsField field ∧ field.utf8ByteSize ≤ 9 := by
  have hnames : ∀ name ∈ ["fileSize", "fsize", "pageCount", "PageCount"],
      Condition.IsField name ∧ name.utf8ByteSize ≤ 9 := by decide +kernel
  exact hnames field (List.mem_map_of_mem (f := Prod.fst) h)

end

/-! ### Integers in texts -/

theorem natAbs_toInt_le (i : Int64) : i.toInt.natAbs ≤ 2 ^ 63 := by
  have hlo := i.le_toInt
  have hhi := i.toInt_lt
  omega

/-- An integer of 64 bits has no more than nineteen digits. -/
theorem utf8ByteSize_toString_le (i : Int64) : (toString i.toInt).utf8ByteSize ≤ 20 := by
  have hascii : Token.IsAscii (Decimal.digitsOf i.toInt.natAbs) := fun c hc =>
    Nat.lt_of_le_of_lt (Token.isDigit_bound (isDigit_of_mem_digitsOf hc)).2 (by decide)
  have hdigits : (Decimal.digitsOf i.toInt.natAbs).length ≤ 19 := by
    refine (Nat.length_toDigits_le_iff (by decide) (by decide)).2 ?_
    exact Nat.lt_of_le_of_lt (natAbs_toInt_le i) (by decide)
  rw [Token.utf8ByteSize_eq, Token.toList_toString, Token.signed, Token.width_append,
    hascii.width_eq]
  split
  · have hminus : Token.width ['-'] = 1 := by decide
    omega
  · have hnone : Token.width [] = 0 := rfl
    omega

namespace Condition

open Grammar Token

/-- A field, a sign and a literal. -/
theorem statement_compare {field : String} {o : Comparison} {l : Literal} {t u v : Token}
    (hfield : IsField field) (ht : t.kind = .name field) (hu : u.kind = comparisonKind o)
    (hv : Spells v.kind l) : Statement [t, u, v] (compare field o l) := by
  have hoperand (levels : Nat) : Operand levels ([t] ++ [u, v]) (compare field o l) := by
    have hcolumn : Column [t] field := .last (.plain ht hfield.2)
    have htest : Test field [u, v] (compare field o l) :=
      .compare (hu ▸ comparison?_kind o) hv
    cases levels with
    | zero => exact .single hcolumn htest
    | succ levels => exact .single hcolumn htest
  have hbody : Expression maxNesting [t, u, v] (compare field o l) := by
    rw [expression_eq]
    exact chain_part (chain_part (hoperand maxNesting))
  exact .mk .none hbody .none

/-- A comparison with an integer is read from its text. -/
theorem compile_compare {field : String} (hfield : IsField field) (hshort : field.utf8ByteSize ≤ 9)
    (o : Comparison) (n : Int64) :
    compile s!"{field} {o.render} {n.toInt}" = .ok (compare field o (.integer n)) := by
  let ds : List Draft := [⟨.name field, false⟩, ⟨comparisonKind o, false⟩, ⟨.integer n, false⟩]
  have hwritable : ∀ d ∈ ds, d.kind.isWritable = true := by
    have hsign : (comparisonKind o).isWritable = true := by cases o <;> rfl
    exact List.forall_mem_cons.2 ⟨hfield.1, List.forall_mem_cons.2 ⟨hsign,
      List.forall_mem_singleton.2 rfl⟩⟩
  have hline : line ds = s!"{field} {o.render} {n.toInt}" := by
    have hsign : (⟨comparisonKind o, false⟩ : Draft).write = o.render := by cases o <;> rfl
    show " ".intercalate [field, _, toString n.toInt] = _
    rw [hsign]
    simp [toString, String.append_assoc]
  have hsize : (s!"{field} {o.render} {n.toInt}").utf8ByteSize ≤ maxBytes := by
    have hsign : o.render.utf8ByteSize ≤ 2 := by cases o <;> decide
    have hnumber := utf8ByteSize_toString_le n
    have hspace : " ".utf8ByteSize = 1 := by decide
    have hmax : maxBytes = 65536 := rfl
    simp only [toString, String.utf8ByteSize_append] at hnumber ⊢
    omega
  have htokens := scan_line hwritable [] 0
  rw [hline] at htokens
  unfold compile
  dsimp only
  rw [if_neg (Nat.not_lt.2 hsize), tokens, htokens]
  exact statement_complete (statement_compare hfield rfl rfl (.integer n))

/-- **Counts are compared as the integers they are**: of two that are told apart the right one is
less, and all are told apart up to `2 ^ 53`. -/
theorem counts_in_order (e : Event) {field : String} {a : Int64} (h : (field, a) ∈ e.counts)
    (n : Int64) :
    (∀ o : Comparison,
      compile s!"{field} {o.render} {n.toInt}" = .ok (compare field o (.integer n))) ∧
    (e.number field).Rounds a.toInt ∧ (Literal.integer n).asNumber.Rounds n.toInt ∧
    ((compare field .gt (.integer n)).holds e = true → n.toInt < a.toInt) ∧
    ((compare field .lt (.integer n)).holds e = true → a.toInt < n.toInt) ∧
    (n.toInt ≤ a.toInt → (compare field .ge (.integer n)).holds e = true) ∧
    (a.toInt ≤ n.toInt → (compare field .le (.integer n)).holds e = true) ∧
    (a.toInt.natAbs ≤ 2 ^ 53 → n.toInt.natAbs ≤ 2 ^ 53 →
      ((compare field .gt (.integer n)).holds e = true ↔ n.toInt < a.toInt) ∧
      ((compare field .ge (.integer n)).holds e = true ↔ n.toInt ≤ a.toInt) ∧
      ((compare field .lt (.integer n)).holds e = true ↔ a.toInt < n.toInt) ∧
      ((compare field .le (.integer n)).holds e = true ↔ a.toInt ≤ n.toInt)) := by
  obtain ⟨hfield, hshort⟩ := Event.isField_of_counts h
  have hnumber := Event.number_of_counts h
  have hfits (i : Int64) : i.toInt.natAbs < 2 ^ 64 :=
    Nat.lt_of_le_of_lt (natAbs_toInt_le i) (by decide)
  have hholds (o : Comparison) (ho : o.isOrder = true) :
      (compare field o (.integer n)).holds e =
        o.ordered (Double.ofInt a.toInt) (Double.ofInt n.toInt) := by
    rw [← hnumber]
    cases o with
    | eq | ne => cases ho
    | gt | ge | lt | le => rfl
  rw [hholds .gt rfl, hholds .ge rfl, hholds .lt rfl, hholds .le rfl, hnumber]
  refine ⟨fun o => compile_compare hfield hshort o n, Double.rounds_ofInt (hfits a),
    Double.rounds_ofInt (hfits n), Double.lt_of_ofInt_lt, Double.lt_of_ofInt_lt, Double.ofInt_le,
    Double.ofInt_le, fun ha hn => ?_⟩
  exact ⟨Double.ofInt_lt_iff hn ha, Double.ofInt_le_iff hn ha, Double.ofInt_lt_iff ha hn,
    Double.ofInt_le_iff ha hn⟩

/-- A file of one byte more than `2 ^ 53`, and as many pages below zero. -/
def vast : Event :=
  { msgId := "1", timestamp := ⟨0, 0⟩, fileSize := 9007199254740993, pageCount := -9007199254740992 }

/-- The pages are told apart from the next integer. The file is not, and yet it is no less. -/
theorem counts_in_order_vast :
    ("pageCount", -9007199254740992) ∈ vast.counts ∧ ("fileSize", 9007199254740993) ∈ vast.counts ∧
    compile "pageCount < -9007199254740991" =
      .ok (compare "pageCount" .lt (.integer (-9007199254740991))) ∧
    (compare "pageCount" .lt (.integer (-9007199254740991))).holds vast = true ∧
    (compare "fileSize" .gt (.integer 9007199254740992)).holds vast = false ∧
    (compare "fileSize" .ge (.integer 9007199254740992)).holds vast = true := by
  have hpages : ("pageCount", -9007199254740992) ∈ vast.counts := by decide
  have hsize : ("fileSize", 9007199254740993) ∈ vast.counts := by decide
  obtain ⟨hcompile, -, -, -, -, -, -, hexact⟩ := counts_in_order vast hpages (-9007199254740991)
  obtain ⟨-, -, -, -, -, hge, -, -⟩ := counts_in_order vast hsize 9007199254740992
  obtain ⟨-, -, hlt, -⟩ := hexact (by decide) (by decide)
  have htext : (compare "pageCount" .lt (.integer (-9007199254740991))).render =
      "pageCount < -9007199254740991" := by decide +kernel
  have hread : compile "pageCount < -9007199254740991" =
      .ok (compare "pageCount" .lt (.integer (-9007199254740991))) := htext ▸ hcompile .lt
  exact ⟨hpages, hsize, hread, hlt.2 (by decide), by decide +kernel, hge (by decide)⟩

end Condition
end Watchpost

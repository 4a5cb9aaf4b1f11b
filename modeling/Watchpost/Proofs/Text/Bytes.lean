import Mathlib.Data.List.Basic
import Watchpost.Table

/-! The bytes of a text.

The order of texts is that of their bytes (`bytes_lt_iff`): of two characters the lesser one has the
lesser byte where their bytes first differ, and they do differ (`encode_lt_encode`). -/
namespace Watchpost.Text

/-- The bytes that characters are stored as. -/
def bytes (cs : List Char) : List UInt8 := cs.flatMap String.utf8EncodeChar

theorem bytes_cons (c : Char) (cs : List Char) :
    bytes (c :: cs) = String.utf8EncodeChar c ++ bytes cs := List.flatMap_cons

theorem bytes_append (cs ds : List Char) : bytes (cs ++ ds) = bytes cs ++ bytes ds :=
  List.flatMap_append

theorem bytes_toList (s : String) : bytes s.toList = s.toUTF8.data.toList := by
  conv => rhs; rw [← String.ofList_toList (s := s)]
  rw [String.toUTF8_eq_toByteArray, String.toByteArray_ofList, List.utf8Encode, List.data_toByteArray,
    bytes]

/-! ### Order -/

theorem code_lt (c : Char) : c.val.toNat < 0x110000 := by
  have h : c.val.toNat.isValidChar := c.valid
  rcases h with h | ⟨-, h⟩
  · omega
  · exact h

theorem encode_lt_encode {c d : Char} (h : c < d) (xs ys : List UInt8) :
    String.utf8EncodeChar c ++ xs < String.utf8EncodeChar d ++ ys := by
  have hlt : c.val.toNat < d.val.toNat := h
  have hd := code_lt d
  rw [String.utf8EncodeChar.eq_1, String.utf8EncodeChar.eq_1]
  generalize c.val.toNat = m at *
  generalize d.val.toNat = n at *
  -- One case for each two lengths. The bytes are digits to the base 64, each of them below 256.
  split_ifs
  all_goals
    simp only [List.cons_append, List.nil_append, List.cons_lt_cons_iff, UInt8.lt_iff_toNat_lt,
      ← UInt8.toNat_inj, UInt8.toNat_ofNat']
    simp (disch := omega) only [Nat.mod_eq_of_lt]
    omega

theorem bytes_lt_bytes {cs ds : List Char} (h : cs < ds) : bytes cs < bytes ds := by
  induction cs generalizing ds with
  | nil =>
    cases ds with
    | nil => exact absurd h (List.lt_irrefl [])
    | cons d ds =>
      obtain ⟨b, rest, hb⟩ := List.exists_cons_of_ne_nil (String.utf8EncodeChar_ne_nil (c := d))
      rw [bytes_cons, hb]
      exact List.nil_lt_cons b _
  | cons c cs ih =>
    cases ds with
    | nil => exact absurd h (List.not_lt_nil _)
    | cons d ds =>
      rw [bytes_cons, bytes_cons]
      rcases List.cons_lt_cons_iff.1 h with hlt | ⟨rfl, hrest⟩
      · exact encode_lt_encode hlt _ _
      · exact List.append_left_lt (ih hrest)

/-- **Texts are in the order of their bytes.** -/
theorem bytes_lt_iff {s t : String} : bytes s.toList < bytes t.toList ↔ s < t := by
  constructor
  · intro h
    by_contra hlt
    have hne : s ≠ t := by
      rintro rfl
      exact List.lt_irrefl _ h
    exact List.lt_asymm h (bytes_lt_bytes (Table.lt_of_not_lt_of_ne hlt hne))
  · exact fun h => bytes_lt_bytes h

end Watchpost.Text

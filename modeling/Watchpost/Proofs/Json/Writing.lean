import Mathlib.Data.List.Forall2
import Watchpost.Proofs.Json.Spelling

/-! JSON values are read as they were written.

A value whose numbers are integers of 64 bits is cut into its tokens (`cuts_write`), and from these
the draft is put together in which everything makes sense (`run_tokens`). So its text is read as
that draft (`ofText?_write`). -/
namespace Watchpost.Json

mutual
/-- Every number is an integer that fits 64 bits. -/
def Integral : Json → Prop
  | .integer i => IntegerKind.any64.holds i = true
  | .double _ => False
  | .list items => IntegralItems items
  | .record members => IntegralMembers members
  | .null | .bool _ | .text _ => True

def IntegralItems : List Json → Prop
  | [] => True
  | j :: rest => j.Integral ∧ IntegralItems rest

def IntegralMembers : List (String × Json) → Prop
  | [] => True
  | (_, j) :: rest => j.Integral ∧ IntegralMembers rest
end

/-! ### The tokens of a value -/

/-- The tokens of parts with commas between them. -/
def joined : List (List Token) → List Token
  | [] => []
  | ts :: rest => ts ++ rest.flatMap (.mark .comma :: ·)

mutual
def tokens : Json → List Token
  | .text s => [.text (some s)]
  | .list items => .mark .openList :: (joined (itemTokens items) ++ [.mark .closeList])
  | .record members => .mark .openRecord :: (joined (memberTokens members) ++ [.mark .closeRecord])
  | j => [.leaf (some j)]

def itemTokens : List Json → List (List Token)
  | [] => []
  | j :: rest => tokens j :: itemTokens rest

def memberTokens : List (String × Json) → List (List Token)
  | [] => []
  | (name, j) :: rest => (.text (some name) :: .mark .colon :: tokens j) :: memberTokens rest
end

/-! ### Cutting -/

theorem cuts_joined {texts : List String} {parts : List (List Token)}
    (h : List.Forall₂ (fun s ts => Cuts s.toList ts) texts parts) :
    Cuts (",".intercalate texts).toList (joined parts) := by
  induction h with
  | nil => exact cuts_nil
  | @cons s ts texts parts hfirst hall ih =>
    cases hall with
    | nil =>
      rw [String.intercalate_singleton, joined, List.flatMap_nil, List.append_nil]
      exact hfirst
    | @cons t us texts parts hsecond hall =>
      have htext : (",".intercalate (s :: t :: texts)).toList =
          s.toList ++ ',' :: (",".intercalate (t :: texts)).toList := by
        rw [String.intercalate_cons_cons]
        simp
      rw [htext]
      exact hfirst.append (ih.cons (by decide) fun _ => rfl) fun rest _ =>
        bordered_cons (by decide) _

/-- A list or a record: parts between an opening and a closing mark. -/
theorem cuts_enclosed {opening closing : Char} {first last : Token} {texts : List String}
    {parts : List (List Token)} (hopening : isSpace opening = false) (hclosing : closing ∈ borders)
    (hfirst : ∀ rest, front? opening rest = some (first, 0))
    (hlast : ∀ rest, front? closing rest = some (last, 0))
    (h : List.Forall₂ (fun s ts => Cuts s.toList ts) texts parts) :
    Cuts (opening :: ((",".intercalate texts).toList ++ [closing]))
      (first :: (joined parts ++ [last])) := by
  have hspace : isSpace closing = false := by
    simp only [borders, List.mem_cons, List.not_mem_nil, or_false] at hclosing
    rcases hclosing with rfl | rfl | rfl <;> rfl
  refine Cuts.cons hopening hfirst ?_
  exact (cuts_joined h).append (cuts_nil.cons hspace hlast) fun rest _ => bordered_cons hclosing rest

theorem cuts_member (name : String) {j : Json} (h : Cuts j.write.toList (tokens j)) :
    Cuts (quote name ++ ":" ++ j.write).toList (.text (some name) :: .mark .colon :: tokens j) := by
  have hvalue : Cuts (':' :: j.write.toList) (.mark .colon :: tokens j) :=
    h.cons (by decide) fun _ => rfl
  have htext : (quote name ++ ":" ++ j.write).toList =
      (quote name).toList ++ ':' :: j.write.toList := by simp
  intro rest hrest soFar
  have htokens : (Token.text (some name) :: .mark .colon :: tokens j).reverse ++ soFar =
      (Token.mark .colon :: tokens j).reverse ++ .text (some name) :: soFar := by simp
  rw [htext, List.map_append, List.append_assoc, scan_quote, hvalue rest hrest, htokens]

mutual
theorem cuts_write : (j : Json) → j.Integral → Cuts j.write.toList (tokens j)
  | .null, _ => cuts_null
  | .bool b, _ => cuts_bool b
  | .integer _, h => cuts_integer h
  | .double _, h => h.elim
  | .text s, _ => cuts_quote s
  | .list items, h => by
    have htext : (Json.list items).write.toList =
        '[' :: ((",".intercalate (writeItems items)).toList ++ [']']) := by
      rw [write]
      simp
    rw [htext, tokens]
    exact cuts_enclosed (by decide) (by decide) (fun _ => rfl) (fun _ => rfl) (cuts_items items h)
  | .record members, h => by
    have htext : (Json.record members).write.toList =
        '\x7b' :: ((",".intercalate (writeMembers members)).toList ++ ['\x7d']) := by
      rw [write]
      simp
    rw [htext, tokens]
    exact cuts_enclosed (by decide) (by decide) (fun _ => rfl) (fun _ => rfl) (cuts_members members h)

theorem cuts_items : (items : List Json) → IntegralItems items →
    List.Forall₂ (fun s ts => Cuts s.toList ts) (writeItems items) (itemTokens items)
  | [], _ => .nil
  | j :: rest, h => .cons (cuts_write j h.1) (cuts_items rest h.2)

theorem cuts_members : (members : List (String × Json)) → IntegralMembers members →
    List.Forall₂ (fun s ts => Cuts s.toList ts) (writeMembers members) (memberTokens members)
  | [], _ => .nil
  | (name, j) :: rest, h => .cons (cuts_member name (cuts_write j h.1)) (cuts_members rest h.2)
end

/-! ### Putting together -/

namespace Building

/-- A place at which a value may come. -/
def Expects (b : Building) : Prop := b.phase = .value ∨ b.phase = .valueOrEnd

theorem run_cons {b c : Building} {t : Token} (h : b.step? t = some c) (ts : List Token) :
    b.run (t :: ts) = c.run ts := by
  rw [run, h]

/-- Where a value may come, any token but a closing mark is read as its beginning. -/
theorem step?_value {b c : Building} (hb : b.Expects) {t : Token} (h : b.value? t = some c) :
    b.step? t = some c := by
  unfold step?
  rcases hb with hb | hb
  · rw [hb]
    exact h
  · rw [hb]
    cases t with
    | mark m =>
      cases m with
      | closeList => cases h
      | _ => exact h
    | _ => exact h

theorem run_leaf {b : Building} (hb : b.Expects) {t : Token} {d : Draft}
    (h : b.value? t = some (b.put d)) (ts : List Token) : b.run ([t] ++ ts) = (b.put d).run ts :=
  run_cons (step?_value hb h) ts

mutual
/-- **The tokens of a value put its draft in place**, wherever a value may come. -/
theorem run_tokens : (j : Json) → ∀ {b : Building}, b.Expects → ∀ ts,
    b.run (tokens j ++ ts) = (b.put (Draft.ofJson j)).run ts
  | .null, _, hb, ts | .bool _, _, hb, ts | .integer _, _, hb, ts | .double _, _, hb, ts
  | .text _, _, hb, ts => run_leaf hb rfl ts
  | .list items, b, hb, ts => by
    have hopen : b.step? (.mark .openList) = some (b.push (.list []) .valueOrEnd) :=
      step?_value hb rfl
    rw [tokens, List.cons_append, run_cons hopen, List.append_assoc]
    exact run_items items b ts
  | .record members, b, hb, ts => by
    have hopen : b.step? (.mark .openRecord) = some (b.push (.record [] none) .nameOrEnd) :=
      step?_value hb rfl
    rw [tokens, List.cons_append, run_cons hopen, List.append_assoc]
    exact run_members members b ts

/-- The items of a list that was just opened. -/
theorem run_items : (items : List Json) → ∀ (b : Building) (ts : List Token),
    (b.push (.list []) .valueOrEnd).run
        (joined (itemTokens items) ++ ([.mark .closeList] ++ ts)) =
      (b.put (.list (Draft.ofItems items))).run ts
  | [], b, ts => run_cons rfl ts
  | j :: rest, b, ts => by
    rw [itemTokens, joined, List.append_assoc, run_tokens j (.inr rfl)]
    exact run_nextItems rest b [Draft.ofJson j] (Draft.ofJson j) ts

/-- The items that come behind others. -/
theorem run_nextItems : (items : List Json) → ∀ (b : Building) (soFar : List Draft)
    (result : Draft) (ts : List Token),
    (Building.mk (.list soFar :: b.frames) .commaOrEnd result).run
        ((itemTokens items).flatMap (.mark .comma :: ·) ++ ([.mark .closeList] ++ ts)) =
      (b.put (.list (soFar.reverse ++ Draft.ofItems items))).run ts
  | [], b, soFar, result, ts => by
    rw [Draft.ofItems, List.append_nil]
    exact run_cons rfl ts
  | j :: rest, b, soFar, result, ts => by
    have hnext := run_nextItems rest b (Draft.ofJson j :: soFar) (Draft.ofJson j) ts
    rw [List.reverse_cons, List.append_assoc] at hnext
    rw [itemTokens, List.flatMap_cons, List.cons_append, List.cons_append, run_cons rfl,
      List.append_assoc, run_tokens j (.inl rfl)]
    exact hnext

/-- The members of a record that was just opened. -/
theorem run_members : (members : List (String × Json)) → ∀ (b : Building) (ts : List Token),
    (b.push (.record [] none) .nameOrEnd).run
        (joined (memberTokens members) ++ ([.mark .closeRecord] ++ ts)) =
      (b.put (.record (Draft.ofMembers members))).run ts
  | [], b, ts => run_cons rfl ts
  | (name, j) :: rest, b, ts => by
    rw [memberTokens, joined, List.append_assoc, List.cons_append, List.cons_append, run_cons rfl,
      run_cons rfl, run_tokens j (.inl rfl)]
    exact run_nextMembers rest b [(some name, Draft.ofJson j)] (Draft.ofJson j) ts

/-- The members that come behind others. -/
theorem run_nextMembers : (members : List (String × Json)) → ∀ (b : Building)
    (soFar : List (Option String × Draft)) (result : Draft) (ts : List Token),
    (Building.mk (.record soFar none :: b.frames) .commaOrEnd result).run
        ((memberTokens members).flatMap (.mark .comma :: ·) ++ ([.mark .closeRecord] ++ ts)) =
      (b.put (.record (soFar.reverse ++ Draft.ofMembers members))).run ts
  | [], b, soFar, result, ts => by
    rw [Draft.ofMembers, List.append_nil]
    exact run_cons rfl ts
  | (name, j) :: rest, b, soFar, result, ts => by
    have hnext := run_nextMembers rest b ((some name, Draft.ofJson j) :: soFar) (Draft.ofJson j) ts
    rw [List.reverse_cons, List.append_assoc] at hnext
    simp only [memberTokens, List.flatMap_cons, List.cons_append, List.append_assoc]
    rw [run_cons rfl, run_cons rfl, run_cons rfl, run_tokens j (.inl rfl)]
    exact hnext
end

end Building

/-- **A value is read as it was written**, if all its numbers are integers of 64 bits. -/
theorem ofText?_write {j : Json} (h : j.Integral) :
    Draft.ofText? j.write = some (Draft.ofJson j) := by
  have hscan := cuts_write j h [] bordered_nil []
  have hrun := Building.run_tokens j (b := ⟨[], .value, .leaf none⟩) (.inl rfl) []
  rw [List.append_nil, List.append_nil, scan, List.reverse_reverse] at hscan
  rw [List.append_nil, Building.run] at hrun
  unfold Draft.ofText? Draft.read? Draft.readFar
  rw [hscan]
  dsimp only
  rw [hrun]
  rfl

end Watchpost.Json

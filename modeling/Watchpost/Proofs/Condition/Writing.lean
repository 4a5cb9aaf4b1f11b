import Watchpost.Proofs.Condition.Spans

/-! Written tokens.

Tokens can be written on a line with a space between any two of them. From that line they are read
back, each at the byte where it was written (`tokens_line`): a space ends every token, and what
stands in quotes is not ended before its closing one. -/
namespace Watchpost.Token

/-! ### Writing -/

/-- A text between quotes; a quote in it is written twice. -/
def wrapped (quote : Char) (s : String) : String :=
  String.ofList (quote :: (doubled quote s.toList ++ [quote]))

/-- Names without quotes are plain, names in quotes are not empty, and floats are finite. -/
def Kind.isWritable : Kind → Bool
  | .name s => isPlain s
  | .quotedName s => s != ""
  | .float d => d.magnitude < Double.infinite
  | _ => true

/-- A token to be written. A name can be put in quotes of two kinds, and two signs ask for what
differs: `other` tells that the second is meant. -/
structure Draft where
  kind : Kind
  other : Bool := false

def Draft.write (d : Draft) : String :=
  match d.kind with
  | .name text => text
  | .quotedName text => wrapped (if d.other then '\x60' else '"') text
  | .text s => wrapped '\'' s
  | .integer i => toString i.toInt
  | .float f => Literal.writtenFloat.write f
  | .eq => "="
  | .ne => if d.other then "<>" else "!="
  | .gt => ">"
  | .ge => ">="
  | .lt => "<"
  | .le => "<="
  | .opening => "("
  | .closing => ")"
  | .comma => ","
  | .dot => "."
  | .star => "*"
  | .semicolon => ";"

/-- Tokens one after another, with single spaces between them. -/
def line (ds : List Draft) : String := " ".intercalate (ds.map Draft.write)

/-- The byte of a line that a token starts at. Each one before it has a space behind it. -/
def startOf (ds : List Draft) (i : Nat) : Nat :=
  ((ds.take i).map fun d => d.write.utf8ByteSize + 1).sum

/-! ### Each token -/

theorem spelt_single {kind : Kind} {c : Char} (hspace : isSpace c = false)
    (h : ∀ rest, front c rest = .ok (kind, 0)) : Spelt kind [c] :=
  ⟨c, [], rfl, hspace, fun rest _ => h rest⟩

/-- What is unequal has a second sign. -/
theorem spelt_unequal : Spelt .ne ['<', '>'] :=
  ⟨'<', ['>'], rfl, by decide, fun _ _ => rfl⟩

/-- No digit comes right behind a point, or it would begin a number. -/
theorem spelt_dot : Spelt .dot ['.'] := by
  refine ⟨'.', [], rfl, by decide, fun rest hrest => ?_⟩
  have hdigit : rest.head?.any isDigit = false := hrest.any (by decide)
  rw [List.nil_append, front_point, hdigit]
  rfl

theorem spelt_quotedName {quote : Char} (hquote : quote = '"' ∨ quote = '\x60') {text : String}
    (hne : text ≠ "") : Spelt (.quotedName text) (wrapped quote text).toList := by
  have hborder : quote ∉ borders ∧ isSpace quote = false := by
    rcases hquote with rfl | rfl <;> decide
  refine ⟨quote, doubled quote text.toList ++ [quote], String.toList_ofList, hborder.2,
    fun rest hrest => ?_⟩
  have hfront (cs : List Char) : front quote cs = quotedName quote cs := by
    rcases hquote with rfl | rfl <;> rfl
  rw [hfront, List.append_assoc, List.singleton_append, quotedName,
    readQuoted_doubled (hrest.head?_ne hborder.1)]
  dsimp only
  rw [List.reverse_nil, List.nil_append, String.ofList_toList, if_neg hne, List.length_append,
    Nat.zero_add]
  rfl

/-- A token is read from what it is written with. -/
theorem Draft.spelt (d : Draft) (h : d.kind.isWritable = true) : Spelt d.kind d.write.toList := by
  obtain ⟨kind, other⟩ := d
  cases kind with
  | name text => exact spelt_name h
  | quotedName text =>
    refine spelt_quotedName ?_ (bne_iff_ne.1 h)
    cases other with
    | false => exact .inl rfl
    | true => exact .inr rfl
  | text s => exact spelt_text s
  | integer i => exact spelt_integer i
  | float f => exact spelt_float (of_decide_eq_true h)
  | ne =>
    cases other with
    | false => exact spelt_comparison .ne
    | true => exact spelt_unequal
  | eq => exact spelt_comparison .eq
  | gt => exact spelt_comparison .gt
  | ge => exact spelt_comparison .ge
  | lt => exact spelt_comparison .lt
  | le => exact spelt_comparison .le
  | opening =>
    show Spelt .opening "(".toList
    exact spelt_single (by decide) fun _ => rfl
  | closing =>
    show Spelt .closing ")".toList
    exact spelt_closing
  | comma =>
    show Spelt .comma ",".toList
    exact spelt_comma
  | dot =>
    show Spelt .dot ".".toList
    exact spelt_dot
  | star =>
    show Spelt .star "*".toList
    exact spelt_single (by decide) fun _ => rfl
  | semicolon =>
    show Spelt .semicolon ";".toList
    exact spelt_single (by decide) fun _ => rfl

/-! ### Lines -/

theorem startOf_succ (d : Draft) (ds : List Draft) (i : Nat) :
    startOf (d :: ds) (i + 1) = width d.write.toList + 1 + startOf ds i := by
  rw [startOf, List.take_succ_cons, List.map_cons, List.sum_cons, utf8ByteSize_eq]
  rfl

theorem line_cons_cons (d e : Draft) (ds : List Draft) :
    (line (d :: e :: ds)).toList = d.write.toList ++ ' ' :: (line (e :: ds)).toList := by
  rw [line, List.map_cons, List.map_cons, String.intercalate_cons_cons]
  simp [line]

/-- From any byte on, a line is read token by token. -/
theorem scan_line {ds : List Draft} (h : ∀ d ∈ ds, d.kind.isWritable = true) (soFar : List Token)
    (offset : Nat) : scan soFar offset 0 (line ds).toList = .ok (soFar.reverse ++
      ds.mapIdx fun i d => ⟨d.kind, offset + startOf ds i, d.write.toList⟩) := by
  induction ds generalizing soFar offset with
  | nil =>
    rw [List.mapIdx_nil, List.append_nil]
    rfl
  | cons d ds ih =>
    have hd := d.spelt (h d (List.mem_cons_self ..))
    have hlater (i : Nat) : offset + startOf (d :: ds) (i + 1) =
        offset + width d.write.toList + 1 + startOf ds i := by
      rw [startOf_succ]
      omega
    rw [List.mapIdx_cons]
    simp only [hlater]
    -- Behind the last token there is no space.
    cases ds with
    | nil =>
      have hline : (line [d]).toList = d.write.toList ++ [] := by
        rw [List.append_nil, line, List.map_singleton, String.intercalate_singleton]
      rw [hline, scan_spelt hd bordered_nil, scan, List.reverse_cons]
      rfl
    | cons e ds =>
      rw [line_cons_cons, scan_spelt hd (bordered_cons (by decide) _), scan_space,
        ih (fun e he => h e (List.mem_cons_of_mem d he)), List.reverse_cons, List.append_assoc]
      rfl

/-- **A line of tokens is read as these tokens**, each at the byte where it was written. -/
theorem tokens_line (ds : List Draft) (h : ∀ d ∈ ds, d.kind.isWritable = true) :
    tokens (line ds) =
      .ok (ds.mapIdx fun i d => ⟨d.kind, startOf ds i, d.write.toList⟩) := by
  have hscan := scan_line h [] 0
  simp only [Nat.zero_add] at hscan
  exact hscan

/-- Quotes within quotes, names of more bytes than characters, the least integer, a number behind a
point, and a float with an exponent. -/
def crowded : List Draft :=
  [⟨.name "_n$", false⟩, ⟨.dot, false⟩, ⟨.quotedName "\"½\"\"", false⟩, ⟨.ne, true⟩,
    ⟨.text "''o'neil'", false⟩, ⟨.dot, false⟩, ⟨.integer 5, false⟩, ⟨.quotedName "\x60and\"", true⟩,
    ⟨.integer (-9223372036854775808), false⟩, ⟨.float ⟨true, 0x3E112E0BE826D695⟩, false⟩,
    ⟨.text "", false⟩]

theorem tokens_line_crowded : (∀ d ∈ crowded, d.kind.isWritable = true) ∧
    line crowded = "_n$ . \"\"\"½\"\"\"\"\" <> '''''o''neil''' . 5 \x60\x60\x60and\"\x60 " ++
      "-9223372036854775808 -1e-9 ''" ∧
    (tokens (line crowded)).toOption.map (List.map fun t => (t.kind, t.offset)) =
      some [(.name "_n$", 0), (.dot, 4), (.quotedName "\"½\"\"", 6), (.ne, 17),
        (.text "''o'neil'", 20), (.dot, 36), (.integer 5, 38), (.quotedName "\x60and\"", 40),
        (.integer (-9223372036854775808), 49), (.float ⟨true, 0x3E112E0BE826D695⟩, 70),
        (.text "", 76)] := by
  have h : ∀ d ∈ crowded, d.kind.isWritable = true := by decide +kernel
  refine ⟨h, by decide +kernel, ?_⟩
  rw [tokens_line crowded h]
  decide +kernel

end Watchpost.Token

import Watchpost.Balanced
import Watchpost.Condition.Basic
import Watchpost.Condition.Token

/-! Reading conditions.

A condition stands alone or after `SELECT … FROM … WHERE`. `AND` binds closer than
`OR`; a chain of either becomes a balanced tree with its parts in order. Each
function reads what it is named for from the front of the tokens and gives back
the tokens after it; `finish` is the byte where the text ends. -/
namespace Watchpost.Condition

abbrev Reads (α : Type) := List Token → Except Fault (α × List Token)

/-- A flaw at the next token, or at the end of the text if there is none. -/
def flawAt (finish : Nat) (ts : List Token) (flaw : Flaw) : Except Fault α :=
  .error (.at ((ts.head?.map (·.offset)).getD finish) flaw)

/-- Whether a keyword comes next. -/
def nextIs (word : String) (ts : List Token) : Bool := ts.head?.any (·.isKeyword word)

def isKind (kind : Token.Kind) (ts : List Token) : Bool := ts.head?.any (·.kind == kind)

/-! ### Columns -/

/-- Keywords that name no column. -/
def reserved : List String := ["AND", "OR", "NOT", "IN", "LIKE", "SELECT", "FROM", "WHERE"]

def identifier (finish : Nat) : Reads String
  | [] => flawAt finish [] .expectedColumn
  | t :: rest =>
    match t.kind with
    | .name text =>
      if reserved.any (Token.sameWord · text) then flawAt finish (t :: rest) (.keyword text)
      else .ok (text, rest)
    | .quotedName text => .ok (text, rest)
    | _ => flawAt finish (t :: rest) .expectedColumn

/-- The names after the first one of a column, with a dot before each. The last
name is the column's. -/
def qualified (finish : Nat) (name : String) : List Token → Except Fault (String × List Token)
  | [] => .ok (name, [])
  | t :: rest =>
    if t.kind = .dot then
      match rest with
      | [] => flawAt finish [] .expectedColumn
      | u :: after =>
        match identifier finish (u :: after) with
        | .ok (name, _) => qualified finish name after
        | .error e => .error e
    else .ok (name, t :: rest)

def column (finish : Nat) : Reads String := fun ts =>
  match identifier finish ts with
  | .ok (name, rest) => qualified finish name rest
  | .error e => .error e

/-! ### Literals -/

def literal (finish : Nat) : Reads Literal
  | [] => flawAt finish [] .expectedLiteral
  | t :: rest =>
    match t.kind with
    | .text s => .ok (.text s, rest)
    | .integer i => .ok (.integer i, rest)
    | .float d => .ok (.float d, rest)
    | .name word =>
      flawAt finish (t :: rest)
        (if Token.sameWord "NULL" word then .nullLiteral else .expectedLiteral)
    | _ => flawAt finish (t :: rest) .expectedLiteral

/-- The literals of a list after its first one, to the closing parenthesis. Those
read so far are held backwards. -/
def moreLiterals (finish : Nat) (soFar : List Literal) :
    List Token → Except Fault (List Literal × List Token)
  | [] => flawAt finish [] .unterminatedList
  | t :: rest =>
    if t.kind = .closing then .ok (soFar.reverse, rest)
    else if t.kind = .comma then
      match rest with
      | [] => flawAt finish [] .expectedLiteral
      | u :: after =>
        match literal finish (u :: after) with
        | .ok (l, _) => moreLiterals finish (l :: soFar) after
        | .error e => .error e
    else flawAt finish (t :: rest) .listRunsOn

/-- A list of literals in parentheses; it is not empty. -/
def literals (finish : Nat) : Reads (List Literal) := fun ts =>
  match ts with
  | [] => flawAt finish [] .expectedList
  | t :: rest =>
    if t.kind ≠ .opening then flawAt finish ts .expectedList
    else if isKind .closing rest then flawAt finish rest .emptyList
    else match literal finish rest with
      | .ok (l, rest) => moreLiterals finish [l] rest
      | .error e => .error e

/-! ### Single conditions -/

def comparison? : Token.Kind → Option Comparison
  | .eq => some .eq
  | .ne => some .ne
  | .gt => some .gt
  | .ge => some .ge
  | .lt => some .lt
  | .le => some .le
  | _ => none

/-- The pattern after `LIKE`. -/
def likePattern (finish : Nat) : Reads Like := fun ts =>
  match literal finish ts with
  | .ok (.text source, rest) =>
    match Like.read? source with
    | some pattern => .ok (pattern, rest)
    | none => .error .pattern
  | .ok _ => flawAt finish ts .expectedPattern
  | .error e => .error e

/-- What is asked of a column, after its name. -/
def test (finish : Nat) (field : String) : Reads Condition := fun ts =>
  match ts with
  | [] => flawAt finish [] (.expectedOperator field)
  | t :: rest =>
    match comparison? t.kind with
    | some comparison =>
      match literal finish rest with
      | .ok (l, rest) => .ok (.compare field comparison l, rest)
      | .error e => .error e
    | none =>
      let negated := t.isKeyword "NOT"
      let inner := if negated then rest else ts
      if nextIs "IN" inner then
        match literals finish (inner.drop 1) with
        | .ok (ls, rest) => .ok (.among field ls negated, rest)
        | .error e => .error e
      else if nextIs "LIKE" inner then
        match likePattern finish (inner.drop 1) with
        | .ok (pattern, rest) => .ok (.like field pattern negated, rest)
        | .error e => .error e
      else if negated then flawAt finish inner .expectedInOrLike
      else if t.isKeyword "IS" || t.isKeyword "BETWEEN" then
        flawAt finish ts (.unsupportedOperator field)
      else flawAt finish ts (.expectedOperator field)

/-! ### Connectives -/

/-- Parts with a keyword between them, joined into one. The parts so far are held
backwards; `fuel` bounds the number of those still to come. -/
def chain (word : String) (join : Condition → Condition → Condition) (part : Reads Condition)
    (soFar : List Condition) : Nat → Reads Condition
  | 0, ts => part ts
  | fuel + 1, ts =>
    match part ts with
    | .error e => .error e
    | .ok (c, rest) =>
      if nextIs word rest then chain word join part (c :: soFar) fuel (rest.drop 1)
      else .ok (balanced join c (c :: soFar).reverse, rest)

/-- A condition in parentheses, or a single one. Within the innermost parentheses
that are allowed there is no `nested` reading. -/
def primary (finish : Nat) (nested : Option (Reads Condition)) : Reads Condition := fun ts =>
  match ts with
  | [] => flawAt finish [] .endOfText
  | t :: rest =>
    if t.kind = .opening then
      match nested with
      | none => flawAt finish ts .tooDeep
      | some inner =>
        match inner rest with
        | .error e => .error e
        | .ok (c, rest) =>
          if isKind .closing rest then .ok (c, rest.drop 1)
          else flawAt finish rest .expectedClosing
    else if t.isKeyword "NOT" then flawAt finish ts .loneNot
    else match column finish ts with
      | .ok (field, rest) => test finish field rest
      | .error e => .error e

def disjunction (fuel : Nat) (part : Reads Condition) : Reads Condition :=
  chain "OR" .either (chain "AND" .both part [] fuel) [] fuel

/-- A condition with parentheses nested no deeper than a number of levels. -/
def expression (finish fuel : Nat) : Nat → Reads Condition
  | 0 => disjunction fuel (primary finish none)
  | levels + 1 => disjunction fuel (primary finish (some (expression finish fuel levels)))

/-! ### Statements -/

/-- Clauses that may follow a condition in a statement, but are not supported. -/
def clauses : List String :=
  ["GROUP", "ORDER", "HAVING", "LIMIT", "OFFSET", "UNION", "JOIN", "WINDOW"]

def isClause (t : Token) : Bool := clauses.any t.isKeyword

/-- What is wrong with a token that nothing asks for. -/
def trailingFlaw (t : Token) : Flaw :=
  if isClause t then .unsupportedClause
  else if t.kind = .closing then .unbalanced
  else .trailing

/-- The tokens after the first `FROM` outside of parentheses. -/
def dropProjection (finish : Nat) (parens : Nat) : List Token → Except Fault (List Token)
  | [] => flawAt finish [] .selectWithoutFrom
  | t :: rest =>
    if t.kind = .opening then dropProjection finish (parens + 1) rest
    else if t.kind = .closing then dropProjection finish (parens - 1) rest
    else if parens = 0 ∧ t.isKeyword "FROM" then .ok rest
    else dropProjection finish parens rest

/-- A name for the table, if there is one before the condition. -/
def dropAlias (ts : List Token) : List Token :=
  let ts := if nextIs "AS" ts then ts.drop 1 else ts
  match ts with
  | t :: rest =>
    let named := match t.kind with
      | .name _ | .quotedName _ => true
      | _ => false
    if named && !t.isKeyword "WHERE" && !isClause t then rest else ts
  | [] => []

/-- A table is told as a column is. -/
def dropTable (finish : Nat) (ts : List Token) : Except Fault (List Token) :=
  match column finish ts with
  | .ok (_, rest) => .ok rest
  | .error (.at offset _) => .error (.at offset .expectedTable)
  | .error .pattern => .error .pattern

/-- The tokens after `WHERE`, if the statement begins with `SELECT`. -/
def dropSelect (finish : Nat) (ts : List Token) : Except Fault (List Token) :=
  if nextIs "SELECT" ts then do
    let ts ← dropProjection finish 0 (ts.drop 1)
    let ts ← dropTable finish ts
    match dropAlias ts with
    | t :: rest =>
      if t.isKeyword "WHERE" then .ok rest else flawAt finish (t :: rest) (trailingFlaw t)
    | [] => flawAt finish [] .selectWithoutWhere
  else .ok ts

/-- A whole statement. A semicolon may end it. No chain in it has more parts than
there are tokens. -/
def statement (finish : Nat) (ts : List Token) : Except Fault Condition := do
  let ts ← dropSelect finish ts
  if ts.isEmpty then flawAt finish [] .nothing
  else
    let (c, rest) ← expression finish ts.length maxNesting ts
    match if isKind .semicolon rest then rest.drop 1 else rest with
    | [] => .ok c
    | t :: rest => flawAt finish (t :: rest) (trailingFlaw t)

/-- Reads the text of a condition. -/
def compile (text : String) : Except Fault Condition :=
  let finish := text.utf8ByteSize
  if maxBytes < finish then .error (.at maxBytes .tooLong)
  else match Token.tokens text with
    | .ok ts => statement finish ts
    | .error (offset, flaw) => .error (.at offset flaw)

end Watchpost.Condition

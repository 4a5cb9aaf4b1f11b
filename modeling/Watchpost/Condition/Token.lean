import Watchpost.Condition.Flaw
import Watchpost.Text.Letter

/-! The tokens of a condition's text.

`tokens` cuts a text into tokens and skips the white space between them. Each
token is read from its first character on, which says how many characters follow
that belong to it; these are then passed over one by one, so no character is left
out or looked at twice. -/
namespace Watchpost

/-- What a token is. Names come without their quotes and texts without theirs. -/
inductive Token.Kind where
  | name (text : String)
  | quotedName (text : String)
  | text (s : String)
  | integer (i : Int64)
  | float (d : Double)
  | eq
  | ne
  | gt
  | ge
  | lt
  | le
  | opening
  | closing
  | comma
  | dot
  | star
  | semicolon
  deriving DecidableEq

/-- A token, the byte it starts at and the characters it is written with. -/
structure Token where
  kind : Token.Kind
  offset : Nat
  written : List Char
  deriving DecidableEq

namespace Token

/-- Blanks between tokens. -/
def isSpace (c : Char) : Bool :=
  c == ' ' || c == '\t' || c == '\n' || c == '\x0c' || c == '\r'

/-- What a token's front shows: a token and how many more characters it has, or a
flaw and how many bytes after the front it is. -/
abbrev Front := Except (Nat × Condition.Flaw) (Kind × Nat)

/-! ### Quotes -/

/-- Reads to the closing quote, after the opening one. A quote written twice is a
quote within the text. The text so far is held backwards. -/
def readQuoted (quote : Char) (soFar : List Char) (count : Nat) :
    List Char → Option (String × Nat)
  | [] => none
  | c :: rest =>
    if c = quote then
      match rest with
      | d :: after =>
        if d = quote then readQuoted quote (quote :: soFar) (count + 2) after
        else some (String.ofList soFar.reverse, count + 1)
      | [] => some (String.ofList soFar.reverse, count + 1)
    else readQuoted quote (c :: soFar) (count + 1) rest

def quotedText (rest : List Char) : Front :=
  match readQuoted '\'' [] 0 rest with
  | some (s, count) => .ok (.text s, count)
  | none => .error (0, .unterminated '\'')

def quotedName (quote : Char) (rest : List Char) : Front :=
  match readQuoted quote [] 0 rest with
  | some (s, count) => if s = "" then .error (0, .emptyQuotedName) else .ok (.quotedName s, count)
  | none => .error (0, .unterminated quote)

/-! ### Numbers -/

def isMark (c : Char) : Bool := c == 'e' || c == 'E'

/-- Reads the characters of a number: digits, one point before any mark, and marks
with a sign after them. Says whether there was a point or a mark. -/
def readNumber (soFar : List Char) (float : Bool) : List Char → List Char × Bool × List Char
  | [] => (soFar.reverse, float, [])
  | c :: rest =>
    if isDigit c then readNumber (c :: soFar) float rest
    else if c = '.' ∧ float = false then readNumber (c :: soFar) true rest
    else if isMark c then readNumber (c :: soFar) true rest
    else if (c = '+' ∨ c = '-') ∧ soFar.head?.any isMark then readNumber (c :: soFar) float rest
    else (soFar.reverse, float, c :: rest)

/-- Characters that may not follow a number. -/
def runsOn (c : Char) : Bool := Text.isAsciiLetter c || c == '_'

/-- A number from its front on. -/
def number (cs : List Char) : Front :=
  let (minus, rest) := match cs with
    | '-' :: rest => (['-'], rest)
    | cs => ([], cs)
  let (body, float, rest) := readNumber [] false rest
  let written := minus ++ body
  let text := String.ofList written
  if body = [] ∨ written = ['-', '.'] then .error (0, .expectedNumber)
  else if rest.head?.any runsOn then .error (written.length, .numberRunsOn text)
  else if float then
    match Double.read? written with
    | some d => .ok (.float d, written.length - 1)
    | none => .error (0, .badNumber text)
  else
    match IntegerKind.int64.read written with
    | .ok i => .ok (.integer (Int64.ofInt i), written.length - 1)
    | .error fault => .error (0, .badInteger text fault)

/-! ### Names -/

def beginsName (c : Char) : Bool := c == '_' || Text.isAlphabetic c

def continuesName (c : Char) : Bool := c == '_' || c == '$' || Text.isAlphanumeric c

def name (c : Char) (rest : List Char) : Front :=
  let more := rest.takeWhile continuesName
  .ok (.name (String.ofList (c :: more)), more.length)

/-! ### Fronts -/

/-- The token that begins with a character. -/
def front (c : Char) (rest : List Char) : Front :=
  match c, rest with
  | '(', _ => .ok (.opening, 0)
  | ')', _ => .ok (.closing, 0)
  | ',', _ => .ok (.comma, 0)
  | '*', _ => .ok (.star, 0)
  | ';', _ => .ok (.semicolon, 0)
  | '=', _ => .ok (.eq, 0)
  | '!', '=' :: _ => .ok (.ne, 1)
  | '!', _ => .error (0, .loneBang)
  | '<', '=' :: _ => .ok (.le, 1)
  | '<', '>' :: _ => .ok (.ne, 1)
  | '<', _ => .ok (.lt, 0)
  | '>', '=' :: _ => .ok (.ge, 1)
  | '>', _ => .ok (.gt, 0)
  | '\'', _ => quotedText rest
  | '"', _ => quotedName '"' rest
  | '\x60', _ => quotedName '\x60' rest
  | '.', _ => if rest.head?.any isDigit then number ('.' :: rest) else .ok (.dot, 0)
  | '-', _ => number ('-' :: rest)
  | c, _ =>
    if isDigit c then number (c :: rest)
    else if beginsName c then name c rest
    else .error (0, .unexpectedCharacter c)

/-! ### Texts -/

/-- Goes on from a place in a text, where the first `skip` characters belong to a
token that was read. The tokens so far are held backwards. -/
def scan (soFar : List Token) (offset : Nat) :
    Nat → List Char → Except (Nat × Condition.Flaw) (List Token)
  | _, [] => .ok soFar.reverse
  | skip + 1, c :: rest => scan soFar (offset + c.utf8Size) skip rest
  | 0, c :: rest =>
    if isSpace c then scan soFar (offset + c.utf8Size) 0 rest
    else match front c rest with
      | .ok (kind, more) =>
        scan (⟨kind, offset, c :: rest.take more⟩ :: soFar) (offset + c.utf8Size) more rest
      | .error (after, flaw) => .error (offset + after, flaw)

/-- The tokens of a text, or its first flaw and the byte it shows at. -/
def tokens (text : String) : Except (Nat × Condition.Flaw) (List Token) := scan [] 0 0 text.toList

/-! ### Keywords -/

def sameWord (word text : String) : Bool :=
  word.toList.map Double.lower == text.toList.map Double.lower

/-- A keyword is a name in any case; a quoted name is none. -/
def isKeyword (word : String) (t : Token) : Bool :=
  match t.kind with
  | .name text => sameWord word text
  | _ => false

end Token
end Watchpost

import Watchpost.Toml.Basic

/-! Texts and keys in TOML.

A text stands in quotes, three of them if it has several lines. Between double
quotes a backslash escapes what follows it. -/
namespace Watchpost.Toml

def isBlank (c : Char) : Bool := c == ' ' || c == '\t'

def skipBlanks (cs : List Char) : List Char := cs.dropWhile isBlank

/-- What may stand in a line: no control characters but tabs. -/
def isPlain (c : Char) : Bool := c == '\t' || (0x20 ≤ c.toNat && c.toNat != 0x7F)

/-- What follows the end of a line. -/
def newline? : List Char → Option (List Char)
  | '\n' :: rest | '\r' :: '\n' :: rest => some rest
  | _ => none

/-! ### Escapes -/

def escape? : Char → Option Char
  | 'b' => some '\x08'
  | 't' => some '\t'
  | 'n' => some '\n'
  | 'f' => some '\x0c'
  | 'r' => some '\r'
  | 'e' => some '\x1b'
  | '"' => some '"'
  | '\\' => some '\\'
  | _ => none

/-- The character with a number in hexadecimal digits. -/
def scalar? (ds : List Char) : Option Char :=
  if ds.all fun c => (Json.hexValue c).isSome then
    let n := ds.foldl (fun n c => 16 * n + (Json.hexValue c).getD 0) 0
    if n.isValidChar then some (Char.ofNat n) else none
  else none

/-! ### Texts of one line

What was read so far is held backwards. -/

abbrev Found := Option (String × List Char)

def found (soFar rest : List Char) : Found := some (String.ofList soFar.reverse, rest)

def basic? (soFar : List Char) : List Char → Found
  | '"' :: rest => found soFar rest
  | '\\' :: 'x' :: a :: b :: rest => (scalar? [a, b]).bind fun c => basic? (c :: soFar) rest
  | '\\' :: 'u' :: a :: b :: c :: d :: rest =>
    (scalar? [a, b, c, d]).bind fun c => basic? (c :: soFar) rest
  | '\\' :: 'U' :: a :: b :: c :: d :: e :: f :: g :: h :: rest =>
    (scalar? [a, b, c, d, e, f, g, h]).bind fun c => basic? (c :: soFar) rest
  | '\\' :: e :: rest => (escape? e).bind fun c => basic? (c :: soFar) rest
  | c :: rest => if isPlain c then basic? (c :: soFar) rest else none
  | [] => none

def literal? (soFar : List Char) : List Char → Found
  | '\'' :: rest => found soFar rest
  | c :: rest => if isPlain c then literal? (c :: soFar) rest else none
  | [] => none

/-! ### Texts of several lines -/

/-- Quotes that end a text, up to two of which still belong to it. -/
def closing? (quote : Char) (soFar cs : List Char) : Found :=
  let extra := min 2 (cs.takeWhile (· == quote)).length
  found (List.replicate extra quote ++ soFar) (cs.drop extra)

/-- Whether a backslash ends a line, but for blanks. -/
def endsLine (cs : List Char) : Bool := (newline? (skipBlanks cs)).isSome

/-- Blanks and line ends are skipped after a backslash that ends a line. Other line ends
stay as they are written. -/
def longBasic? (skipping : Bool) (soFar : List Char) : List Char → Found
  | '"' :: '"' :: '"' :: rest => closing? '"' soFar rest
  | '\\' :: 'x' :: a :: b :: rest =>
    (scalar? [a, b]).bind fun c => longBasic? false (c :: soFar) rest
  | '\\' :: 'u' :: a :: b :: c :: d :: rest =>
    (scalar? [a, b, c, d]).bind fun c => longBasic? false (c :: soFar) rest
  | '\\' :: 'U' :: a :: b :: c :: d :: e :: f :: g :: h :: rest =>
    (scalar? [a, b, c, d, e, f, g, h]).bind fun c => longBasic? false (c :: soFar) rest
  | '\\' :: e :: rest =>
    if endsLine (e :: rest) then longBasic? true soFar (e :: rest)
    else (escape? e).bind fun c => longBasic? false (c :: soFar) rest
  | '\r' :: '\n' :: rest =>
    longBasic? skipping (if skipping then soFar else '\n' :: '\r' :: soFar) rest
  | c :: rest =>
    if skipping && (isBlank c || c == '\n') then longBasic? true soFar rest
    else if isPlain c || c == '\n' then longBasic? false (c :: soFar) rest
    else none
  | [] => none

def longLiteral? (soFar : List Char) : List Char → Found
  | '\'' :: '\'' :: '\'' :: rest => closing? '\'' soFar rest
  | '\r' :: '\n' :: rest => longLiteral? ('\n' :: '\r' :: soFar) rest
  | c :: rest => if isPlain c || c == '\n' then longLiteral? (c :: soFar) rest else none
  | [] => none

/-- A line that ends right after the quotes is no part of a text. -/
def skipFirstLine (cs : List Char) : List Char := (newline? cs).getD cs

/-- The text at the front. -/
def text? : List Char → Found
  | '"' :: '"' :: '"' :: rest => longBasic? false [] (skipFirstLine rest)
  | '\'' :: '\'' :: '\'' :: rest => longLiteral? [] (skipFirstLine rest)
  | '"' :: rest => basic? [] rest
  | '\'' :: rest => literal? [] rest
  | _ => none

/-! ### Keys -/

def isBare (c : Char) : Bool :=
  ('a' ≤ c && c ≤ 'z') || ('A' ≤ c && c ≤ 'Z') || ('0' ≤ c && c ≤ '9') || c == '_' || c == '-'

/-- The key at the front: bare, or a text of one line. -/
def key? : List Char → Found
  | '"' :: rest => basic? [] rest
  | '\'' :: rest => literal? [] rest
  | cs =>
    let name := cs.takeWhile isBare
    if name.isEmpty then none else some (String.ofList name, cs.dropWhile isBare)

/-- How many parts a dotted key may have. -/
def maxParts : Nat := 80

/-- The dotted key at the front, of so many parts at most. -/
def path? : (most : Nat) → List Char → Option (List String × List Char)
  | 0, _ => none
  | most + 1, cs =>
    (key? (skipBlanks cs)).bind fun (key, rest) =>
      match skipBlanks rest with
      | '.' :: rest => (path? most rest).map fun (keys, rest) => (key :: keys, rest)
      | rest => some ([key], rest)

end Watchpost.Toml

import Watchpost.Pattern.Basic
import Watchpost.Pattern.Item

/-! Escapes in the text of patterns: what follows a backslash. -/
namespace Watchpost.Pattern

/-! ### Layout -/

/-- Drops blanks and comments; a comment reaches to the end of its line. -/
def dropLayout (inComment : Bool) : List Char → List Char
  | [] => []
  | c :: rest =>
    if inComment then dropLayout (c != '\n') rest
    else if Text.isBlank c then dropLayout false rest
    else if c = '#' then dropLayout true rest
    else c :: rest

/-- Layout is dropped where the flags say there is some. -/
def skip (flags : Flags) (cs : List Char) : List Char :=
  if flags.layout then dropLayout false cs else cs

/-- Takes characters as long as they are accepted, with layout between them. -/
def collect (flags : Flags) (accept : Char → Bool) (inComment : Bool) :
    List Char → List Char × List Char
  | [] => ([], [])
  | c :: rest =>
    if inComment then collect flags accept (c != '\n') rest
    else if flags.layout && Text.isBlank c then collect flags accept false rest
    else if flags.layout && c == '#' then collect flags accept true rest
    else if accept c then
      let (taken, left) := collect flags accept false rest
      (c :: taken, left)
    else ([], c :: rest)

/-! ### Hexadecimal digits -/

def hexValue (c : Char) : Option Nat := Text.hexDigit (Text.lowerAscii c)

/-- A character by its number; surrogates and numbers too large have none. -/
def charOfNumber? (n : Nat) : Option Char := if n.isValidChar then some (Char.ofNat n) else none

def readFixedHex (flags : Flags) : Nat → Nat → List Char → Option (Nat × List Char)
  | 0, value, cs => some (value, cs)
  | n + 1, value, c :: rest =>
    (hexValue c).bind fun d => readFixedHex flags n (16 * value + d) (skip flags rest)
  | _ + 1, _, [] => none

/-- Hexadecimal digits in braces. -/
def readBracedHex (flags : Flags) (cs : List Char) : Option (Nat × List Char) :=
  match collect flags (fun c => (hexValue c).isSome) false cs with
  | ([], _) => none
  | (digits, '}' :: rest) =>
    some (digits.foldl (fun n c => 16 * n + (hexValue c).getD 0) 0, skip flags rest)
  | _ => none

/-! ### Escapes -/

inductive Escape where
  /-- A character; `byte` if two hexadecimal digits name it. -/
  | char (c : Char) (byte : Bool)
  | set (s : CharSet)
  | look (l : Look)

namespace Escape

/-- Characters with a meaning of their own in patterns, and other ASCII
characters that are no letters or digits, may stand after a backslash for
themselves. Angle brackets may not: they are looks. -/
def isPlain (c : Char) : Bool :=
  c.toNat < 128 && !Text.isAsciiLetter c && !('0' ≤ c && c ≤ '9') && c != '<' && c != '>'

def ofHex? (byte : Bool) (read : Option (Nat × List Char)) : Option (Escape × List Char) :=
  read.bind fun (n, rest) => (charOfNumber? n).map fun c => (.char c byte, rest)

/-- A character by its number, after the letter that says how many digits it has. -/
def readHex? (flags : Flags) (digits : Nat) (rest : List Char) : Option (Escape × List Char) :=
  match skip flags rest with
  | '{' :: rest => ofHex? false (readBracedHex flags rest)
  | rest => ofHex? (digits == 2) (readFixedHex flags digits 0 rest)

/-- A property: a letter, or a name in braces. -/
def readProperty? (flags : Flags) (negated : Bool) (rest : List Char) :
    Option (Escape × List Char) :=
  let set text left := (flags.propertySet? negated text).map fun s => (Escape.set s, left)
  match skip flags rest with
  | '{' :: rest =>
    match collect flags (· != '}') false rest with
    | (name, '}' :: left) => set name left
    | _ => none
  | '\\' :: _ => none
  | c :: rest => set [c] (skip flags rest)
  | [] => none

def edge? (name : String) : Option WordLook :=
  match name with
  | "start" => some .start
  | "end" => some .finish
  | "start-half" => some .startHalf
  | "end-half" => some .finishHalf
  | _ => none

/-- The edge of a word, which may be told apart by a name in braces. Braces that
do not begin like a name are left to be read as a repetition. -/
def readBoundary? (flags : Flags) (rest : List Char) : Option (Escape × List Char) :=
  let look (l : WordLook) : Escape := .look (.word l flags.unicode)
  let inName (c : Char) : Bool := Text.isAsciiLetter c || c == '-'
  match rest with
  | '{' :: inner =>
    match skip flags inner with
    | [] => none
    | c :: _ =>
      if inName c then
        match collect flags inName false inner with
        | (name, '}' :: left) => (edge? (String.ofList name)).map fun l => (look l, left)
        | _ => none
      else some (look .boundary, rest)
  | _ => some (look .boundary, rest)

def control? (letter : Char) : Option Char :=
  match letter with
  | 'a' => some '\x07'
  | 'f' => some '\x0c'
  | 't' => some '\t'
  | 'n' => some '\n'
  | 'r' => some '\r'
  | 'v' => some '\x0b'
  | _ => none

/-- Reads what follows a backslash. -/
def read? (flags : Flags) : List Char → Option (Escape × List Char)
  | [] => none
  | c :: rest =>
    if isPlain c then some (.char c false, rest)
    else match c with
      | 'x' => readHex? flags 2 rest
      | 'u' => readHex? flags 4 rest
      | 'U' => readHex? flags 8 rest
      | 'p' => readProperty? flags false rest
      | 'P' => readProperty? flags true rest
      | 'A' => some (.look .textStart, rest)
      | 'z' => some (.look .textEnd, rest)
      | 'b' => readBoundary? flags rest
      | 'B' => some (.look (.word .notBoundary flags.unicode), rest)
      | '<' => some (.look (.word .start flags.unicode), rest)
      | '>' => some (.look (.word .finish flags.unicode), rest)
      | _ =>
        match control? c with
        | some control => some (.char control false, rest)
        | none => (flags.letterSet? c).map fun s => (.set s, rest)

end Escape
end Watchpost.Pattern

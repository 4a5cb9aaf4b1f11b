/-! Characters as bytes.

A character is stored in one to four bytes. `decode` reads a run of bytes as
characters; a byte that belongs to no character is kept as a gap, and reading goes
on behind it. -/
namespace Watchpost.Text

/-- The lowest six bits of a byte that goes on a character. -/
def trailing (b : UInt8) : Option Nat :=
  if 0x80 ≤ b.toNat ∧ b.toNat < 0xC0 then some (b.toNat - 0x80) else none

/-- The character with a number, if its bytes could not be fewer. -/
def charFrom (least n : Nat) : Option Char :=
  if least ≤ n ∧ n.isValidChar then some (Char.ofNat n) else none

/-- The character that begins with a byte, and how many more bytes it has. -/
def leading (b : UInt8) (rest : List UInt8) : Option (Char × Nat) :=
  let n := b.toNat
  let more (count : Nat) : Option (List Nat) := (rest.take count).mapM trailing
  if n < 0x80 then some (Char.ofNat n, 0)
  else if 0xC0 ≤ n ∧ n < 0xE0 then
    match more 1 with
    | some [x] => (charFrom 0x80 ((n - 0xC0) * 64 + x)).map fun c => (c, 1)
    | _ => none
  else if 0xE0 ≤ n ∧ n < 0xF0 then
    match more 2 with
    | some [x, y] => (charFrom 0x800 (((n - 0xE0) * 64 + x) * 64 + y)).map fun c => (c, 2)
    | _ => none
  else if 0xF0 ≤ n ∧ n < 0xF8 then
    match more 3 with
    | some [x, y, z] =>
      (charFrom 0x10000 ((((n - 0xF0) * 64 + x) * 64 + y) * 64 + z)).map fun c => (c, 3)
    | _ => none
  else none

/-- Reads on where the first `skip` bytes belong to a character that was read. What
was read so far is held backwards. -/
def decodeFrom (soFar : List (Option Char)) : Nat → List UInt8 → List (Option Char)
  | _, [] => soFar.reverse
  | skip + 1, _ :: rest => decodeFrom soFar skip rest
  | 0, b :: rest =>
    match leading b rest with
    | some (c, more) => decodeFrom (some c :: soFar) more rest
    | none => decodeFrom (none :: soFar) 0 rest

def decode (bytes : List UInt8) : List (Option Char) := decodeFrom [] 0 bytes

/-- The text that bytes are, if all of them belong to characters. -/
def ofBytes? (bytes : List UInt8) : Option String :=
  let step (cs : List Char) : Option Char → Option (List Char)
    | some c => some (c :: cs)
    | none => none
  ((decode bytes).foldlM step []).map fun cs => String.ofList cs.reverse

end Watchpost.Text

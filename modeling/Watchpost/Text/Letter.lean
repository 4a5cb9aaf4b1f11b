import Watchpost.Text.Category
import Watchpost.Text.PropertyTable

/-! White space, letters and numbers among the characters. -/
namespace Watchpost.Text

/-! ### White space -/

/-- The code points that are white space. -/
def blankRanges : List (Nat × Nat) :=
  [(0x9, 0xD), (0x20, 0x20), (0x85, 0x85), (0xA0, 0xA0), (0x1680, 0x1680), (0x2000, 0x200A),
    (0x2028, 0x2029), (0x202F, 0x202F), (0x205F, 0x205F), (0x3000, 0x3000)]

def isBlank (c : Char) : Bool := blankRanges.any fun (lo, hi) => lo ≤ c.toNat && c.toNat ≤ hi

def blanks : CharSet := .ofRanges blankRanges

/-- A text without the white space at its ends. -/
def trim (cs : List Char) : List Char :=
  ((cs.dropWhile isBlank).reverse.dropWhile isBlank).reverse

/-- A text of white space only, or of nothing. -/
def isBlankText (s : String) : Bool := s.toList.all isBlank

/-! ### Letter case -/

def lowerAscii (c : Char) : Char := if 'A' ≤ c ∧ c ≤ 'Z' then Char.ofNat (c.toNat + 32) else c

def otherLowercase : CharSet := .ofLines Table.otherLowercase
def otherUppercase : CharSet := .ofLines Table.otherUppercase

def lowercase : CharSet := ofCategories ["Ll"] ∪ otherLowercase
def uppercase : CharSet := ofCategories ["Lu"] ∪ otherUppercase

/-! ### Letters and numbers -/

def otherAlphabetic : CharSet := .ofLines Table.otherAlphabetic

/-- Letters, letter numbers and what else is written as part of words. -/
def alphabetic : CharSet :=
  letters ∪ ofCategories ["Nl"] ∪ lowercase ∪ uppercase ∪ otherAlphabetic

/-- The alphabetic characters of names, which follow a later version of the standard. -/
def nameAlphabetic : CharSet := alphabetic ∪ .ofLines Table.laterAlphabetic
def nameNumeric : CharSet := numbers ∪ .ofLines Table.laterNumeric

def isAsciiLetter (c : Char) : Bool := ('a' ≤ c && c ≤ 'z') || ('A' ≤ c && c ≤ 'Z')

def isAlphabetic (c : Char) : Bool :=
  if c.toNat < 128 then isAsciiLetter c else nameAlphabetic.contains c

/-- Decimal digits, letter numbers and other numbers. -/
def isNumeric (c : Char) : Bool :=
  if c.toNat < 128 then '0' ≤ c && c ≤ '9' else nameNumeric.contains c

def isAlphanumeric (c : Char) : Bool := isAlphabetic c || isNumeric c

end Watchpost.Text

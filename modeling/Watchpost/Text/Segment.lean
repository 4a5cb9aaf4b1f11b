import Watchpost.Text.Property
import Watchpost.Text.Script

/-! Where texts can be cut: into graphemes, words and sentences.

Each of the three ways to cut a text gives every character a role, most of which
follow from categories and properties. -/
namespace Watchpost.Text

def regionalIndicator : CharSet := .ofLines Table.regionalIndicator
def emojiModifier : CharSet := .ofLines Table.emojiModifier
def joiner : CharSet := .ofCodes [0x200D]

/-! ### Graphemes -/

/-- The syllables of Hangul that end in a vowel come first in every 28. -/
def openSyllables : CharSet := .ofCodes ((List.range 399).map fun n => 0xAC00 + 28 * n)

def graphemeExtending : CharSet := (graphemeExtend ∪ emojiModifier) \ joiner

def graphemeControl : CharSet :=
  (ofCategories ["Zl", "Zp", "Cc", "Cf"] ∪ (ofCategories ["Cn"] ∩ defaultIgnorable)) \
    (.ofLines ["a d 200c-200d e0020-e007f"] ∪ prependedMark)

def graphemeSpacing : CharSet :=
  ((ofCategories ["Mc"] \ graphemeExtend) ∪ .ofLines ["e33 eb3"]) \
    .ofLines [
      "102b-102c 1038 1062-1064 1067-106d 1083 1087-108c 108f 109a-109c 1a61 1a63-1a64 aa7b aa7d",
      "11720-11721"]

def graphemePrepended : CharSet :=
  prependedMark ∪
    .ofLines ["d4e 111c2-111c3 113d1 1193f 11941 11a3a 11a84-11a89 11d46 11f02"]

/-- The roles in graphemes, by their short and long names. -/
def graphemeRoles : List (List String × CharSet) :=
  [
    (["cn", "control"], graphemeControl), (["cr"], .single '\r'), (["lf"], .single '\n'),
    (["ex", "extend"], graphemeExtending), (["l"], .ofLines ["1100-115f a960-a97c"]),
    (["lv"], openSyllables), (["lvt"], .ofRanges [(0xAC00, 0xD7A3)] \ openSyllables),
    (["pp", "prepend"], graphemePrepended), (["ri", "regionalindicator"], regionalIndicator),
    (["sm", "spacingmark"], graphemeSpacing), (["t"], .ofLines ["11a8-11ff d7cb-d7fb"]),
    (["v"], .ofLines ["1160-11a7 d7b0-d7c6 16d63 16d67-16d6a"]), (["zwj"], joiner)
  ]

/-! ### Words -/

def wordExtending : CharSet :=
  (graphemeExtend ∪ ofCategories ["Mc"] ∪ emojiModifier) \ joiner

/-- Signs in front of numbers, and the like. -/
def numberSigns : CharSet := .ofLines ["600-605 6dd 890-891 8e2 110bd 110cd"]

def wordFormat : CharSet :=
  ofCategories ["Cf"] \ (.ofLines ["70f 200b-200d"] ∪ wordExtending ∪ numberSigns)

def wordKatakana : CharSet :=
  ofScript "Kana" ∪ .ofLines ["3031-3035 309b-309c 30a0 30fc ff70"]

def wordHebrew : CharSet := ofScript "Hebr" ∩ ofCategories ["Lo"]

/-- Scripts that put no blanks between words. -/
def unspaced : CharSet :=
  .unions (["Thai", "Laoo", "Mymr", "Khmr", "Tale", "Talu", "Lana", "Tavt", "Ahom"].map ofScript)

def wordLetter : CharSet :=
  (alphabetic \ .unions [.ofLines Table.ideographic, wordKatakana, ofScript "Hira", unspaced,
    wordExtending, wordHebrew]) ∪
    .ofLines [
      "2c2-2c5 2d2-2d7 2de-2df 2e5-2eb 2ed 2ef-2ff 55a-55c 55e 58a 5f3 70f a708-a716 a720-a721",
      "a789-a78a ab5b"]

def wordNumeric : CharSet := ofCategories ["Nd"] ∪ numberSigns ∪ .ofLines ["66b 19da"]

/-- The roles in words, by their short and long names. -/
def wordRoles : List (List String × CharSet) :=
  [
    (["le", "aletter"], wordLetter), (["cr"], .single '\r'), (["lf"], .single '\n'),
    (["dq", "doublequote"], .single '"'), (["extend"], wordExtending),
    (["ex", "extendnumlet"], ofCategories ["Pc"] ∪ .ofCodes [0x202F]),
    (["fo", "format"], wordFormat),
    (["hl", "hebrewletter"], wordHebrew), (["ka", "katakana"], wordKatakana),
    (["ml", "midletter"], midLetter),
    (["mn", "midnum"], .ofLines ["2c 3b 37e 589 60c-60d 66c 7f8 2044 fe50 fe54 ff0c ff1b"]),
    (["mb", "midnumlet"], midNumLet), (["nl", "newline"], .ofLines ["b-c 85 2028-2029"]),
    (["nu", "numeric"], wordNumeric), (["ri", "regionalindicator"], regionalIndicator),
    (["sq", "singlequote"], singleQuote),
    (["wsegspace"], ofCategories ["Zs"] \ .ofCodes [0xA0, 0x2007, 0x202F]), (["zwj"], joiner)
  ]

/-! ### Sentences -/

def sentenceExtending : CharSet := graphemeExtend ∪ ofCategories ["Mc"] ∪ joiner

def sentenceLower : CharSet := lowercase \ (graphemeExtend ∪ .ofLines ["10d0-10fa 10fd-10ff"])

def sentenceUpper : CharSet :=
  (uppercase ∪ ofCategories ["Lt"]) \ .ofLines ["1c90-1cba 1cbd-1cbf"]

/-- Stops that may end a sentence or not. -/
def openTerminal : CharSet := .ofLines ["2e 2024 fe52 ff0e"]

def closedTerminal : CharSet := .ofLines Table.sentenceTerminal \ openTerminal

/-- The roles in sentences, by their short and long names. -/
def sentenceRoles : List (List String × CharSet) :=
  [
    (["at", "aterm"], openTerminal), (["cr"], .single '\r'), (["lf"], .single '\n'),
    (["cl", "close"],
      (ofCategories ["Ps", "Pe", "Pi", "Pf"] ∪
        .ofLines ["22 27 275b-2760 2e00-2e01 2e06-2e08 2e0b 1f676-1f678"]) \
          (openTerminal ∪ closedTerminal)),
    (["ex", "extend"], sentenceExtending),
    (["fo", "format"], wordFormat ∪ .ofCodes [0x70F, 0x200B]), (["lo", "lower"], sentenceLower),
    (["nu", "numeric"], wordNumeric ∪ .ofCodes [0x66C]),
    (["le", "oletter"],
      (alphabetic \ .unions [sentenceLower, sentenceUpper, sentenceExtending]) ∪ .ofCodes [0x5F3]),
    (["sc", "scontinue"],
      .ofLines [
        "2c-2d 3a-3b 37e 55d 60c-60d 7f8 1802 1808 2013-2014 3001 fe10-fe11 fe13-fe14 fe31-fe32",
        "fe50-fe51 fe54-fe55 fe58 fe63 ff0c-ff0d ff1a-ff1b ff64"]),
    (["se", "sep"], .ofLines ["85 2028-2029"]),
    (["sp"], .ofLines ["9 b-c 20 a0 1680 2000-200a 202f 205f 3000"]),
    (["st", "sterm"], closedTerminal), (["up", "upper"], sentenceUpper)
  ]

end Watchpost.Text

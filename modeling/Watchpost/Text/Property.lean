import Watchpost.Text.Fold
import Watchpost.Text.Letter

/-! Sets of characters by properties that hold or do not.

A property is a table of its own, or follows from categories and other tables. -/
namespace Watchpost.Text

/-! ### Names and signs -/

def otherIdStart : CharSet := .ofLines Table.otherIdStart
def otherIdContinue : CharSet := .ofLines Table.otherIdContinue
def patternSyntax : CharSet := .ofLines Table.patternSyntax
def patternWhiteSpace : CharSet := .ofLines Table.patternWhiteSpace

/-- What can begin a name. -/
def idStart : CharSet :=
  (letters ∪ ofCategories ["Nl"] ∪ otherIdStart) \ (patternSyntax ∪ patternWhiteSpace)

/-- What can stand within a name. -/
def idContinue : CharSet :=
  (idStart ∪ ofCategories ["Mn", "Mc", "Nd", "Pc"] ∪ otherIdContinue) \
    (patternSyntax ∪ patternWhiteSpace)

def otherMath : CharSet := .ofLines Table.otherMath

/-! ### Letter case -/

def cased : CharSet := lowercase ∪ uppercase ∪ ofCategories ["Lt"]

/-- Capital I with a dot becomes two characters in lower case. -/
def lowercased : CharSet :=
  (foldable ∩ (uppercase ∪ ofCategories ["Lt"])) ∪ .ofCodes [0x130]

def uppercased : CharSet := (foldable \ uppercase) ∪ .ofLines Table.otherUppercased

/-- Of letters that stand for two, each capital one has a form of its own at the front
of a word. -/
def titlecased : CharSet :=
  (uppercased \ .ofLines Table.ownTitlecase) ∪ .ofCodes [0x1C4, 0x1C7, 0x1CA, 0x1F1]

/-- When case is folded, letters become lower case, but for those of Cherokee, which
become upper case. -/
def casefolded : CharSet :=
  (lowercased ∪ .ofLines Table.casefolded) \ .ofRanges [(0x13A0, 0x13F5)]

/-! ### Graphemes -/

def otherGraphemeExtend : CharSet := .ofLines Table.otherGraphemeExtend

def graphemeExtend : CharSet := ofCategories ["Mn", "Me"] ∪ otherGraphemeExtend

def graphemeBase : CharSet :=
  (ofCategories ["Cc", "Cf", "Cs", "Co", "Cn", "Zl", "Zp"] ∪ graphemeExtend).complement

def variationSelector : CharSet := .ofLines Table.variationSelector
def prependedMark : CharSet := .ofLines Table.prependedConcatenationMark
def otherDefaultIgnorable : CharSet := .ofLines Table.otherDefaultIgnorable

/-- What shows nothing where it is not supported. -/
def defaultIgnorable : CharSet :=
  (otherDefaultIgnorable ∪ ofCategories ["Cf"] ∪ variationSelector) \
    (blanks ∪ prependedMark ∪ .ofRanges [(0xFFF9, 0xFFFB), (0x13430, 0x1343F)])

/-! ### Words -/

/-- What stands between letters of a word. -/
def midLetter : CharSet := .ofLines ["3a b7 387 55f 5f4 2027 fe13 fe55 ff1a"]

/-- What stands between letters or digits of a word. -/
def midNumLet : CharSet := .ofLines ["2e 2018-2019 2024 fe52 ff07 ff0e"]

def singleQuote : CharSet := .single '\''

/-- What does not tell where a word ends that letter case hangs on. -/
def caseIgnorable : CharSet :=
  ofCategories ["Mn", "Me", "Cf", "Lm", "Sk"] ∪ midLetter ∪ midNumLet ∪ singleQuote

def joinControl : CharSet := .ofLines Table.joinControl

/-- What words are made of in a pattern. -/
def wordParts : CharSet := alphabetic ∪ marks ∪ ofCategories ["Nd", "Pc"] ∪ joinControl

/-! ### All of them -/

/-- Properties that follow from others, by their short and long names. -/
def derivedProperties : List (List String × CharSet) :=
  [
    (["alpha", "alphabetic"], alphabetic), (["cased"], cased),
    (["ci", "caseignorable"], caseIgnorable), (["cwcf", "changeswhencasefolded"], casefolded),
    (["cwcm", "changeswhencasemapped"], lowercased ∪ uppercased ∪ titlecased),
    (["cwl", "changeswhenlowercased"], lowercased), (["cwt", "changeswhentitlecased"], titlecased),
    (["cwu", "changeswhenuppercased"], uppercased),
    (["di", "defaultignorablecodepoint"], defaultIgnorable),
    (["grbase", "graphemebase"], graphemeBase), (["grext", "graphemeextend"], graphemeExtend),
    (["idc", "idcontinue"], idContinue), (["ids", "idstart"], idStart),
    (["joinc", "joincontrol"], joinControl), (["lower", "lowercase"], lowercase),
    (["math"], ofCategories ["Sm"] ∪ otherMath),
    (["oalpha", "otheralphabetic"], otherAlphabetic),
    (["odi", "otherdefaultignorablecodepoint"], otherDefaultIgnorable),
    (["ogrext", "othergraphemeextend"], otherGraphemeExtend),
    (["oidc", "otheridcontinue"], otherIdContinue), (["oids", "otheridstart"], otherIdStart),
    (["olower", "otherlowercase"], otherLowercase), (["omath", "othermath"], otherMath),
    (["oupper", "otheruppercase"], otherUppercase),
    (["patsyn", "patternsyntax"], patternSyntax),
    (["patws", "patternwhitespace"], patternWhiteSpace),
    (["pcm", "prependedconcatenationmark"], prependedMark),
    (["space", "whitespace", "wspace"], blanks), (["upper", "uppercase"], uppercase),
    (["vs", "variationselector"], variationSelector),
    (["xidc", "xidcontinue"], idContinue \ .ofLines Table.openIdContinue),
    (["xids", "xidstart"], idStart \ .ofLines Table.openIdStart)
  ]

/-- Properties with a table of their own, by their short and long names. -/
def listedProperties : List (List String × List String) :=
  [
    (["ahex", "asciihexdigit"], Table.asciiHexDigit), (["bidic", "bidicontrol"], Table.bidiControl),
    (["bidim", "bidimirrored"], Table.bidiMirrored), (["dash"], Table.dash),
    (["dep", "deprecated"], Table.deprecated), (["dia", "diacritic"], Table.diacritic),
    (["ebase", "emojimodifierbase"], Table.emojiModifierBase),
    (["ecomp", "emojicomponent"], Table.emojiComponent),
    (["emod", "emojimodifier"], Table.emojiModifier), (["emoji"], Table.emoji),
    (["epres", "emojipresentation"], Table.emojiPresentation),
    (["ext", "extender"], Table.extender),
    (["extpict", "extendedpictographic"], Table.extendedPictographic),
    (["grlink", "graphemelink"], Table.graphemeLink), (["hex", "hexdigit"], Table.hexDigit),
    (["hyphen"], Table.hyphen), (["idcompatmathcontinue"], Table.idCompatMathContinue),
    (["idcompatmathstart"], Table.idCompatMathStart), (["ideo", "ideographic"], Table.ideographic),
    (["idsb", "idsbinaryoperator"], Table.idsBinaryOperator),
    (["idst", "idstrinaryoperator"], Table.idsTrinaryOperator),
    (["idsu", "idsunaryoperator"], Table.idsUnaryOperator),
    (["loe", "logicalorderexception"], Table.logicalOrderException),
    (["mcm", "modifiercombiningmark"], Table.modifierCombiningMark),
    (["nchar", "noncharactercodepoint"], Table.noncharacterCodePoint),
    (["qmark", "quotationmark"], Table.quotationMark), (["radical"], Table.radical),
    (["ri", "regionalindicator"], Table.regionalIndicator),
    (["sd", "softdotted"], Table.softDotted),
    (["sterm", "sentenceterminal"], Table.sentenceTerminal),
    (["term", "terminalpunctuation"], Table.terminalPunctuation),
    (["uideo", "unifiedideograph"], Table.unifiedIdeograph)
  ]

/-- A property by its plain name. -/
def propertySet? (name : String) : Option CharSet :=
  match listedProperties.find? (·.1.contains name) with
  | some entry => some (.ofLines entry.2)
  | none => (derivedProperties.find? (·.1.contains name)).map (·.2)

end Watchpost.Text

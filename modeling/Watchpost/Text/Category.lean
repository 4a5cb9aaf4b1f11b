import Watchpost.Text.CharSet
import Watchpost.Text.CategoryTable

/-! General categories.

Every code point has one of thirty categories, each with a code of two letters. -/
namespace Watchpost.Text

def categories : Runs := Runs.ofLines Table.categoryRuns

/-- The characters of some categories. -/
def ofCategories (codes : List String) : CharSet := .ofRuns codes.contains categories

def letters : CharSet := ofCategories ["Lu", "Ll", "Lt", "Lm", "Lo"]
def marks : CharSet := ofCategories ["Mn", "Mc", "Me"]
def numbers : CharSet := ofCategories ["Nd", "Nl", "No"]

/-! ### Names -/

/-- The short and the long name of a category and the codes it covers. -/
def categoryNames : List (List String × List String) :=
  [
    (["lu", "uppercaseletter"], ["Lu"]), (["ll", "lowercaseletter"], ["Ll"]),
    (["lt", "titlecaseletter"], ["Lt"]), (["lm", "modifierletter"], ["Lm"]),
    (["lo", "otherletter"], ["Lo"]), (["lc", "casedletter"], ["Lu", "Ll", "Lt"]),
    (["l", "letter"], ["Lu", "Ll", "Lt", "Lm", "Lo"]),
    (["mn", "nonspacingmark"], ["Mn"]), (["mc", "spacingmark"], ["Mc"]),
    (["me", "enclosingmark"], ["Me"]), (["m", "mark", "combiningmark"], ["Mn", "Mc", "Me"]),
    (["nd", "decimalnumber", "digit"], ["Nd"]), (["nl", "letternumber"], ["Nl"]),
    (["no", "othernumber"], ["No"]), (["n", "number"], ["Nd", "Nl", "No"]),
    (["pc", "connectorpunctuation"], ["Pc"]), (["pd", "dashpunctuation"], ["Pd"]),
    (["ps", "openpunctuation"], ["Ps"]), (["pe", "closepunctuation"], ["Pe"]),
    (["pi", "initialpunctuation"], ["Pi"]), (["pf", "finalpunctuation"], ["Pf"]),
    (["po", "otherpunctuation"], ["Po"]),
    (["p", "punctuation", "punct"], ["Pc", "Pd", "Ps", "Pe", "Pi", "Pf", "Po"]),
    (["sm", "mathsymbol"], ["Sm"]), (["sc", "currencysymbol"], ["Sc"]),
    (["sk", "modifiersymbol"], ["Sk"]), (["so", "othersymbol"], ["So"]),
    (["s", "symbol"], ["Sm", "Sc", "Sk", "So"]),
    (["zs", "spaceseparator"], ["Zs"]), (["zl", "lineseparator"], ["Zl"]),
    (["zp", "paragraphseparator"], ["Zp"]), (["z", "separator"], ["Zs", "Zl", "Zp"]),
    (["cc", "control", "cntrl"], ["Cc"]), (["cf", "format"], ["Cf"]),
    (["co", "privateuse"], ["Co"]), (["cn", "unassigned"], ["Cn"]),
    (["c", "other"], ["Cc", "Cf", "Co", "Cn"])
  ]

/-- A category by its plain name, or one of three sets that hold several. -/
def categorySet? (name : String) : Option CharSet :=
  match name with
  | "any" => some .all
  | "ascii" => some .ascii
  | "assigned" => some (ofCategories ["Cn"]).complement
  | _ => (categoryNames.find? (·.1.contains name)).map fun entry => ofCategories entry.2

end Watchpost.Text

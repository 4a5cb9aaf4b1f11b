import Watchpost.Double.Notation
import Watchpost.Double.Reading
import Watchpost.Text.Letter

/-! Literals in conditions.

A literal is compared as a text or as a number, and written back as it could have
been read. -/
namespace Watchpost

inductive Literal where
  | text (s : String)
  | integer (i : Int64)
  | float (d : Double)
  deriving DecidableEq

/-- A text without the white space around it, read as a number; zero if it is none. -/
def numberOf (s : String) : Double := (Double.read? (Text.trim s.toList)).getD Double.zero

/-- A text between single quotes; a quote in it is written twice. -/
def quoted (s : String) : String :=
  let body := s.toList.flatMap fun c => if c = '\'' then ['\'', '\''] else [c]
  String.ofList ('\'' :: body ++ ['\''])

namespace Literal

/-- Plain between a thousandth and ten million; an exponent stands after `E`. -/
def comparedFloat : FloatNotation :=
  { plainFrom := -3, plainBelow := 7, fraction := true, mark := "E", plus := false, tie := .up,
    nan := "NaN", infinity := "Infinity" }

/-- Plain between `1e-4` and `1e16`; always with a point or an exponent. -/
def writtenFloat : FloatNotation :=
  { plainFrom := -4, plainBelow := 16, fraction := false, mark := "e", plus := false, tie := .up,
    nan := "NaN", infinity := "inf" }

/-- The text that a literal is compared as. -/
def asText : Literal → String
  | text s => s
  | integer i => toString i.toInt
  | float d => comparedFloat.write d

/-- The number that a literal is compared as. -/
def asNumber : Literal → Double
  | text s => numberOf s
  | integer i => Double.ofInt i.toInt
  | float d => d

def render : Literal → String
  | text s => quoted s
  | integer i => toString i.toInt
  | float d => writtenFloat.write d

end Literal
end Watchpost

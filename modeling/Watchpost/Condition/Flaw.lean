import Watchpost.Double.Reading

/-! What can be wrong with the text of a condition, and where. -/
namespace Watchpost

def IntegerKind.Fault.message : Fault → String
  | .notDigits => "invalid digit found in string"
  | .tooLarge => "number too large to fit in target type"
  | .tooSmall => "number too small to fit in target type"

namespace Condition

/-- The most bytes a condition's text may have. -/
def maxBytes : Nat := 65536

/-- How deep parentheses may be nested. -/
def maxNesting : Nat := 64

inductive Flaw where
  | loneBang
  | emptyQuotedName
  | unexpectedCharacter (c : Char)
  | unterminated (quote : Char)
  | expectedNumber
  | numberRunsOn (text : String)
  | badNumber (text : String)
  | badInteger (text : String) (fault : IntegerKind.Fault)
  | tooLong
  | nothing
  | selectWithoutFrom
  | expectedTable
  | selectWithoutWhere
  | endOfText
  | tooDeep
  | expectedClosing
  | loneNot
  | expectedOperator (column : String)
  | unsupportedOperator (column : String)
  | expectedPattern
  | expectedInOrLike
  | expectedColumn
  | keyword (word : String)
  | expectedLiteral
  | nullLiteral
  | expectedList
  | emptyList
  | listRunsOn
  | unterminatedList
  | unsupportedClause
  | unbalanced
  | trailing

namespace Flaw

def message : Flaw → String
  | loneBang => "expected '=' after '!'"
  | emptyQuotedName => "empty quoted identifier"
  | unexpectedCharacter c => s!"unexpected character '{c}'"
  | unterminated quote => s!"unterminated {quote}-quoted text"
  | expectedNumber => "expected a number"
  | numberRunsOn text => s!"invalid number '{text}...'"
  | badNumber text => s!"invalid number '{text}': invalid float literal"
  | badInteger text fault => s!"invalid integer '{text}': {fault.message}"
  | tooLong => s!"predicate exceeds {maxBytes} bytes"
  | nothing => "empty predicate"
  | selectWithoutFrom => "SELECT without FROM"
  | expectedTable => "expected table name after FROM"
  | selectWithoutWhere => "SELECT statement has no WHERE clause"
  | endOfText => "unexpected end of predicate"
  | tooDeep => s!"nesting deeper than {maxNesting}"
  | expectedClosing => "expected ')'"
  | loneNot => "NOT is only supported as NOT IN / NOT LIKE"
  | expectedOperator column => s!"expected operator after '{column}'"
  | unsupportedOperator column => s!"unsupported operator after '{column}'"
  | expectedPattern => "LIKE pattern must be a string literal"
  | expectedInOrLike => "expected IN or LIKE after NOT"
  | expectedColumn => "expected column name"
  | keyword word => s!"unexpected keyword '{word}'"
  | expectedLiteral => "expected literal"
  | nullLiteral => "NULL literals are not supported"
  | expectedList => "expected '(' after IN"
  | emptyList => "IN list must not be empty"
  | listRunsOn => "expected ',' or ')' in IN list"
  | unterminatedList => "unterminated IN list"
  | unsupportedClause => "unsupported clause after WHERE predicate"
  | unbalanced => "unbalanced ')'"
  | trailing => "unexpected trailing input"

end Flaw

/-- Why a text is no condition. -/
inductive Fault where
  /-- A flaw, and the byte of the text it shows at. -/
  | at (offset : Nat) (flaw : Flaw)
  /-- A LIKE pattern that spells no pattern. -/
  | pattern

end Condition
end Watchpost

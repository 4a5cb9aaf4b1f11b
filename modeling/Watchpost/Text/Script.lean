import Watchpost.Text.CharSet
import Watchpost.Text.ScriptTable

/-! Scripts.

Every code point has one script, and some are used with several; then those count
as its own. -/
namespace Watchpost.Text

def scripts : Runs := Runs.ofLines Table.scriptRuns

/-- The code points used with several scripts, and the codes of those. -/
def sharedScripts : List ((Nat × Nat) × List String) :=
  (words Table.scriptExtensions).map fun word =>
    (CharSet.readRange (word.takeWhile (· != ':')),
      (split ',' ((word.dropWhile (· != ':')).drop 1)).map String.ofList)

def ofScript (code : String) : CharSet := .ofRuns (· == code) scripts

/-- Every script a character is used with counts. -/
def ofSharedScript (code : String) : CharSet :=
  let shared (wanted : List String → Bool) : CharSet :=
    .ofRanges ((sharedScripts.filter fun entry => wanted entry.2).map (·.1))
  (ofScript code \ shared fun codes => !codes.contains code) ∪ shared (·.contains code)

end Watchpost.Text

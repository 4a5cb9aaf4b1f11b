import Watchpost.Text.CharSet
import Watchpost.Text.AgeTable

/-! The age of characters: the version of the standard that they came with. -/
namespace Watchpost.Text

def ages : Runs := Runs.ofLines Table.ageRuns

/-- The versions that characters came with, the first one in front. -/
def versions : List String :=
  ["1.1", "2.0", "2.1", "3.0", "3.1", "3.2", "4.0", "4.1", "5.0", "5.1", "5.2", "6.0", "6.1", "6.2",
    "6.3", "7.0", "8.0", "9.0", "10.0", "11.0", "12.0", "12.1", "13.0", "14.0", "15.0", "15.1",
    "16.0"]

/-- What a version has: all that came with it or before. Its name is its number, or the
letter `v` and the digits of its number. -/
def ageSet? (name : String) : Option CharSet :=
  let isNamed (version : String) : Bool :=
    name == version || name.toList == 'v' :: version.toList.filter (· != '.')
  match versions.dropWhile fun version => !isNamed version with
  | version :: _ =>
    let earlier := versions.takeWhile (· != version)
    some (.ofRuns (fun age => (version :: earlier).any fun v => age == s!"v{v}") ages)
  | [] => none

end Watchpost.Text

import RuleTree.Double.Extended
import RuleTree.Entries

/-!
Values of the configuration format TOML, and how values from several places are laid one over the
other: tables are merged key by key, and everything else is replaced.
-/

namespace RuleTree

/-- A TOML value. A date or a time is held as its text, and nothing stands where an array has a place
that has not been filled. -/
inductive Toml
  | nothing
  | text (value : String)
  | integer (value : Int)
  | float (value : Extended)
  | bool (value : Bool)
  | array (items : List Toml)
  | table (entries : List (String × Toml))
deriving Inhabited

namespace Toml

/-- The entries of a table; nothing else has entries. -/
def entries : Toml → List (String × Toml)
  | .table entries => entries
  | _ => []

/-- The items of an array; nothing else has items. -/
def items : Toml → List Toml
  | .array items => items
  | _ => []

def get? (key : String) (value : Toml) : Option Toml :=
  Entries.get? key value.entries

mutual

def coveredBy (below : Toml) : Toml → Toml
  | .table entries => .table (entriesCoveredBy below.entries entries)
  | value => value

def entriesCoveredBy (below : List (String × Toml)) :
    List (String × Toml) → List (String × Toml)
  | [] => below
  | (key, value) :: rest =>
    let inner := (Entries.get? key below).getD .nothing
    entriesCoveredBy (Entries.insert key (coveredBy inner value) below) rest

end

def isBlank (c : Char) : Bool :=
  c = ' ' || c = '\t'

end Toml

end RuleTree

import RuleTree.Json.Basic
import RuleTree.Text.Digits
import RuleTree.Toml.Basic

/-!
JSON values as TOML values. An integer of more than 64 bits with a sign becomes the nearest double.
-/

namespace RuleTree.Toml

def ofNumber : Number → Toml
  | .int i => if isInt64 i then .integer i else .float (.finite (.ofInt i))
  | .double d => .float (.finite d)

mutual

def ofJson : Json → Toml
  | .null => .nothing
  | .bool b => .bool b
  | .number n => ofNumber n
  | .string s => .text s
  | .array items => .array (ofItems items)
  | .object members => .table (ofMembers members)

def ofItems : List Json → List Toml
  | [] => []
  | item :: rest => ofJson item :: ofItems rest

def ofMembers : List (String × Json) → List (String × Toml)
  | [] => []
  | (name, value) :: rest => (name, ofJson value) :: ofMembers rest

end

end RuleTree.Toml

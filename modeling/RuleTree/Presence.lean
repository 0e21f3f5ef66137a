import RuleTree.Json.Basic

/-!
When a field counts as empty, which is what the operators about presence ask.
-/

namespace RuleTree

/-- Says of a field, or of a missing one, whether it is empty. -/
abbrev Emptiness := Option Json → Bool

namespace Emptiness

/-- Missing fields, null, and strings, arrays and objects without content are empty. Zero and false
are not. -/
def standard : Emptiness
  | none => true
  | some .null => true
  | some (.string s) => s.isEmpty
  | some (.array items) => items.isEmpty
  | some (.object members) => members.isEmpty
  | some _ => false

/-- Missing fields, null and the integer zero are empty. -/
def zero : Emptiness
  | none => true
  | some .null => true
  | some value => value == .number (.int 0)

end Emptiness

end RuleTree

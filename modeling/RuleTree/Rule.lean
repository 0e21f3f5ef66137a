import RuleTree.Tree.Codec

/-!
Rules: a name for a list of condition trees, kept in the form in which they were written. Reading
the trees is left to those who need them, so a rule can be stored and inspected whatever its
conditions are.
-/

namespace RuleTree

/-- A rule. A rule without an id has the empty id; `updatedAt` says when it was last stored. -/
structure Rule where
  id : String
  label : String
  conditions : Json
  updatedAt : Option Time

/-- The roots among written conditions: the items of an array, nothing for null, and else the value
itself. -/
def rootsOf (conditions : Json) : List Json :=
  match conditions with
  | .array items => items
  | .null => []
  | other => [other]

namespace Rule

def roots (rule : Rule) : List Json :=
  rootsOf rule.conditions

def trees (rule : Rule) : Except Mismatch (List Tree) :=
  rule.roots.mapM Tree.ofJson

/-- A rule with the given conditions as its roots. A single condition is written without an array
around it. -/
def ofConditions (id label : String) (conditions : List Condition) : Rule :=
  let written := match conditions with
    | [c] => c.toJson
    | cs => .array (cs.map Condition.toJson)
  ⟨id, label, written, none⟩

/-- The rule's own id, nothing where it has none. -/
def origin? (rule : Rule) : Option String :=
  if rule.id = "" then none else some rule.id

end Rule

end RuleTree

import RuleTree.Tree

/-!
What a written node looks like, judged by its keys alone. An object with the key of a quantifier is
a condition whatever else it holds, and it is asked first.
-/

namespace RuleTree.Json

/-- The first quantifier whose key an object has. -/
def quantifier? (node : Json) : Option Quantifier :=
  Quantifier.list.find? fun q => node.hasKey q.key

/-- The number of quantifiers whose key an object has. -/
def branchCount (node : Json) : Nat :=
  (Quantifier.list.filter fun q => node.hasKey q.key).length

def isCondition (node : Json) : Bool :=
  node.quantifier?.isSome

/-- Whether a node has the three keys of a constraint. -/
def isConstraint (node : Json) : Bool :=
  node.hasKey "field" && node.hasKey "operator" && node.hasKey "value"

end RuleTree.Json

import RuleTree.Json.Basic
import RuleTree.Operator

/-!
Condition trees: a condition joins its children by a quantifier, a leaf is a constraint on one field
of the data, and a string stands for the conditions of the stored rule with that id.
-/

namespace RuleTree

/-- How the children of a condition decide it: one of them holds, all of them hold, none holds. -/
inductive Quantifier
  | any
  | all
  | none
deriving DecidableEq, Repr

namespace Quantifier

/-- The key under which the children of a condition are written. -/
def key : Quantifier → String
  | .any => "any"
  | .all => "all"
  | .none => "none"

/-- The quantifiers in their order of precedence. -/
def list : List Quantifier := [.any, .all, .none]

end Quantifier

structure Constraint where
  field : String
  operator : Operator
  value : Json

inductive Tree
  | reference (id : String)
  | constraint (leaf : Constraint)
  | condition (quantifier : Quantifier) (children : List Tree) (result : Option Json)
deriving Inhabited

/-- The root of a tree that is a condition. The result is what the rule answers where it holds. -/
structure Condition where
  quantifier : Quantifier
  children : List Tree
  result : Option Json

def Condition.tree (c : Condition) : Tree :=
  .condition c.quantifier c.children c.result

/-- Induction over a tree with a hypothesis for every child. -/
theorem Tree.induction {P : Tree → Prop}
    (reference : ∀ id, P (.reference id))
    (constraint : ∀ leaf, P (.constraint leaf))
    (condition : ∀ q children result, (∀ child ∈ children, P child) →
      P (.condition q children result))
    (t : Tree) : P t :=
  @Tree.rec P (fun children => ∀ child ∈ children, P child) reference constraint condition
    (by simp) (fun _ _ ihChild ihRest => by simpa using ⟨ihChild, ihRest⟩) t

end RuleTree

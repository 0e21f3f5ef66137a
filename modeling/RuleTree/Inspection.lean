import RuleTree.Comparison
import RuleTree.Expansion
import RuleTree.Review
import RuleTree.Shape

/-!
Reviewing rules before they are evaluated. The written conditions are walked from left to right and
through references, and the first defect of each root is reported. A reference that cannot be
followed is no defect of the rule but a failure.
-/

namespace RuleTree

inductive Flaw
  | notRule
  | noConditions
  | notCondition
  | severalBranches
  | branchNotArray
  | nestedResult
  | emptyBranch
  | notNode
  | fieldNotString
  | operatorNotString
  | unknownOperator (name : String)
  | valueNotArray (operator : Operator)
  | badPattern (operator : Operator)
deriving DecidableEq

namespace Flaw

/-- What is said of a flaw. What was wrong with a pattern is not told: "<regex error>" holds its place. -/
def message : Flaw → String
  | .notRule => "rule must be a valid object"
  | .noConditions => "conditions must contain at least one condition"
  | .notCondition => "invalid condition structure"
  | .severalBranches => "cannot have more than one any/all/none"
  | .branchNotArray => "condition branch must be iterable"
  | .nestedResult => "nested conditions cannot have a result property"
  | .emptyBranch => "condition branch must contain at least one node"
  | .notNode => "each node must be a condition or constraint"
  | .fieldNotString => "constraint field must be a string"
  | .operatorNotString => "constraint operator must be a string"
  | .unknownOperator name => Operator.unknownMessage name
  | .valueNotArray operator => "operator '" ++ operator.name ++ "' requires a sequence value"
  | .badPattern operator =>
    "operator '" ++ operator.name ++ "' requires a valid pattern: <regex error>"

/-- Refuses an element for its flaw; without a flaw it is accepted. -/
def review (element : Json) : Option Flaw → Review
  | none => .ok
  | some flaw => .refused flaw.message element

end Flaw

namespace Json

def children? (node : Json) : Option (List Json) :=
  node.quantifier?.bind fun q => (node.getD q.key).asArray?

/-- The first thing wrong with a condition itself, its children left aside. -/
def conditionFlaw? (node : Json) (depth : Nat) : Option Flaw :=
  if !node.isCondition then some .notCondition
  else if 1 < node.branchCount then some .severalBranches
  else
    match node.children? with
    | none => some .branchNotArray
    | some children =>
      if 0 < depth ∧ node.hasKey "result" then some .nestedResult
      else if children.isEmpty then some .emptyBranch
      else none

/-- The first thing wrong with a constraint. A missing key counts as null. -/
def constraintFlaw? (node : Json) : Option Flaw :=
  if !(node.getD "field").isString then some .fieldNotString
  else
    match node.getD "operator" with
    | .string name =>
      match Operator.ofName? name with
      | none => some (.unknownOperator name)
      | some operator =>
        let value := node.getD "value"
        if operator.needsArray && !value.isArray then some (.valueNotArray operator)
        else if operator.needsPattern && (Pattern.compile value.plainText).isNone then
          some (.badPattern operator)
        else none
    | _ => some .operatorNotString

/-- The first thing wrong with a node that is no condition. -/
def leafFlaw? (node : Json) : Option Flaw :=
  if node.isConstraint then node.constraintFlaw? else some .notNode

def conditionsFlaw? (conditions : Json) : Option Flaw :=
  match rootsOf conditions with
  | [] => some .noConditions
  | .object [] :: _ => some .noConditions
  | _ => none

end Json

namespace Inspection

/-- What a reference stands for, and so what is wanted of its rule's conditions: a root must be a
condition, a child a condition one level deeper or a constraint. -/
inductive Role
  | root
  | child
deriving DecidableEq

/-- What to do with a reference in some role at some depth. -/
abbrev Follow := String → Role → Nat → Logged Step Review

section Walk

variable (limit : Nat) (chain : List String) (follow : Follow)

mutual

def condition (depth : Nat) (node : Json) : Logged Step Review := do
  Expansion.reach limit chain depth
  match node with
  | .string id => follow id .root depth
  | .object members =>
    match (Json.object members).conditionFlaw? depth, (Json.object members).quantifier? with
    | none, some q => branch depth q.key members
    | flaw, _ => return Flaw.review (.object members) flaw
  | other => return Flaw.review other (some .notCondition)

/-- Reviews the children that are written under the given key. -/
def branch (depth : Nat) (key : String) : List (String × Json) → Logged Step Review
  | [] => return .ok
  | (k, v) :: rest => if k = key then items depth v else branch depth key rest

def items (depth : Nat) : Json → Logged Step Review
  | .array nodes => children depth nodes
  | _ => return .ok

/-- Reviews children one after the other, up to the first that is refused. -/
def children (depth : Nat) : List Json → Logged Step Review
  | [] => return .ok
  | node :: rest => do
    let review ←
      match node with
      | .string id => follow id .child depth
      | other =>
        if other.isCondition then condition (depth + 1) other
        else pure (Flaw.review other other.leafFlaw?)
    if review.accepted then children depth rest else return review

end

/-- Reviews a node that stands among children and is no reference. -/
def child (depth : Nat) (node : Json) : Logged Step Review :=
  if node.isCondition then condition limit chain follow (depth + 1) node
  else return Flaw.review node node.leafFlaw?

end Walk

def visit (store : Store) (limit : Nat) (chain : List String) (follow : Follow) (id : String)
    (role : Role) (depth : Nat) : Logged Step Review := do
  let rule ← store.fetch id
  match role with
  | .root => condition limit chain follow depth rule.conditions
  | .child => child limit chain follow depth rule.conditions

def follow (store : Store) (limit : Nat) (chain : List String) : Follow :=
  Expansion.expand limit (fun e _ _ => .fail e) (visit store limit) chain

def root (store : Store) (limit : Nat) (origin : Option String) (node : Json) :
    Logged Step Review :=
  let chain := Expansion.start origin
  condition limit chain (follow store limit chain) 0 node

def roots (store : Store) (limit : Nat) (origin : Option String) (nodes : List Json) :
    Logged Step Review := do
  let reviews ← nodes.mapM (root store limit origin)
  return reviews.foldl Review.merge .ok

def conditions (store : Store) (limit : Nat) (origin : Option String) (written : Json) :
    Logged Step Review :=
  match written.conditionsFlaw? with
  | some flaw => return Flaw.review written (some flaw)
  | none => roots store limit origin (rootsOf written)

end Inspection

namespace Store

def review (store : Store) (limit : Nat) (rule : Rule) : Logged Step Review :=
  Inspection.conditions store limit rule.origin? rule.conditions

/-- Reviews a rule in its JSON form. Only its id and conditions are looked at. -/
def reviewJson (store : Store) (limit : Nat) (rule : Json) : Logged Step Review :=
  if rule.isObject then
    let origin := (rule.getD "id").asString?.filter (· ≠ "")
    Inspection.conditions store limit origin (rule.getD "conditions")
  else return Flaw.review rule (some .notRule)

end Store

end RuleTree

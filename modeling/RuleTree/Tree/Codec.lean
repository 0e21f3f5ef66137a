import RuleTree.Json.Mismatch
import RuleTree.Tree

/-!
The JSON form of condition trees. A reference is a string. A condition is an object with the key of
its quantifier and possibly a result; a constraint is an object with a field, an operator and a
value. Both may also be written as an array of their fields, and an operator as an object that maps
its word to null. Unknown keys are passed over.
-/

namespace RuleTree

/-- Reads an operator: a word for it, or an object that maps such a word to null. -/
def Operator.ofJson (value : Json) : Except Mismatch Operator :=
  let named (s : String) : Except Mismatch Operator :=
    match Entries.get? s Operator.words with
    | some op => .ok op
    | none => .error (.unknownOperator s)
  match value with
  | .string s => named s
  | .object [(s, argument)] => do
    let op ← named s
    match argument with
    | .null => return op
    | v => throw (v.mismatch .null)
  | .object _ => .error .notSingleMember
  | v => .error (v.mismatch .stringOrObject)

def Quantifier.ofJson (value : Json) : Except Mismatch Quantifier :=
  let named (s : String) : Except Mismatch Quantifier :=
    match Quantifier.list.find? (·.key == s) with
    | .some q => .ok q
    | .none => .error (.unknownQuantifier s)
  match value with
  | .string s => named s
  | .object [(s, argument)] => do
    let q ← named s
    match argument with
    | .null => return q
    | v => throw (v.mismatch .null)
  | .object _ => .error .notSingleMember
  | v => .error (v.mismatch .stringOrObject)

namespace Constraint

def required {α : Type} (name : String) : Option α → Except Mismatch α
  | some x => .ok x
  | none => .error (.missingField name)

/-- Reads a constraint. A field of the wrong kind is reported before a missing one. -/
def ofJson (value : Json) : Except Mismatch Constraint :=
  match value with
  | .object members => do
    let field ← (Entries.get? "field" members).mapM Json.text
    let operator ← (Entries.get? "operator" members).mapM Operator.ofJson
    let value := Entries.get? "value" members
    return ⟨← required "field" field, ← required "operator" operator, ← required "value" value⟩
  | .array [] => .error (.tooFew 0 .constraint 3)
  | .array [field] => do
    let _ ← field.text
    throw (.tooFew 1 .constraint 3)
  | .array [field, operator] => do
    let _ ← field.text
    let _ ← Operator.ofJson operator
    throw (.tooFew 2 .constraint 3)
  | .array (field :: operator :: value :: rest) => do
    let field ← field.text
    let operator ← Operator.ofJson operator
    if rest.isEmpty then return ⟨field, operator, value⟩
    throw (.tooMany (rest.length + 3))
  | v => .error (v.mismatch .constraint)

def toJson (c : Constraint) : Json :=
  .object [("field", .string c.field), ("operator", .string c.operator.word), ("value", c.value)]

end Constraint

namespace Condition

/-- The children written under one key, nothing where null is written. -/
abbrev Branch := Option (List Tree)

def branchAt (key : String) : List (String × Branch) → Branch
  | [] => none
  | (k, b) :: rest => if k = key then b else branchAt key rest

/-- The condition with the only branch there is. -/
def ofBranches (branches : List (String × Branch)) (result : Option Json) :
    Except Mismatch Condition :=
  let present := Quantifier.list.filterMap fun q => (branchAt q.key branches).map (q, ·)
  match present with
  | [] => .error .noBranch
  | [(q, children)] => .ok ⟨q, children, result⟩
  | _ => .error .severalBranches

/-- Brings the first mismatch among the branches to the front. -/
def settled : List (String × Except Mismatch Branch) → Except Mismatch (List (String × Branch))
  | [] => .ok []
  | (k, b) :: rest => do
    let b ← b
    let rest ← settled rest
    return (k, b) :: rest

/-- The condition written as an object with the given branches. -/
def ofObject (branches : List (String × Except Mismatch Branch)) (result : Option Json) :
    Except Mismatch Condition := do
  ofBranches (← settled branches) (result.bind Json.nonNull?)

/-- The condition written as an array: the branches in the order of the quantifiers, then the
result. -/
def ofArray (branches : List (Except Mismatch Branch)) (items : List Json) :
    Except Mismatch Condition := do
  let branches ← settled ((Quantifier.list.map Quantifier.key).zip branches)
  if 4 < items.length then throw (.tooMany items.length)
  ofBranches branches (items[3]?.bind Json.nonNull?)

end Condition

namespace Tree

/-- A condition if it can be read as one, else a constraint. -/
def eitherOf (condition : Except Mismatch Condition) (constraint : Except Mismatch Constraint) :
    Except Mismatch Tree :=
  match condition, constraint with
  | .ok c, _ => .ok c.tree
  | .error _, .ok c => .ok (.constraint c)
  | .error _, .error _ => .error .notNode

mutual

def ofJson : Json → Except Mismatch Tree
  | .string id => .ok (.reference id)
  | .object members =>
    eitherOf (Condition.ofObject (branchesOf members) (Entries.get? "result" members))
      (Constraint.ofJson (.object members))
  | .array items =>
    eitherOf (Condition.ofArray (branchOfEach items) items) (Constraint.ofJson (.array items))
  | _ => .error .notNode

/-- Reads the members that hold children, under their keys. Of members with the same key the first
counts, as it does for `Entries.get?`. -/
def branchesOf : List (String × Json) → List (String × Except Mismatch Condition.Branch)
  | [] => []
  | (k, v) :: rest =>
    if Quantifier.list.any (·.key == k) then
      (k, branchOf v) :: Entries.erase k (branchesOf rest)
    else branchesOf rest

def branchOfEach : List Json → List (Except Mismatch Condition.Branch)
  | [] => []
  | v :: rest => branchOf v :: branchOfEach rest

def branchOf : Json → Except Mismatch Condition.Branch
  | .null => .ok none
  | .array items => some <$> listOf items
  | v => .error (v.mismatch .array)

def listOf : List Json → Except Mismatch (List Tree)
  | [] => .ok []
  | v :: rest => do
    let t ← ofJson v
    let rest ← listOf rest
    return t :: rest

end

mutual

def toJson : Tree → Json
  | .reference id => .string id
  | .constraint c => c.toJson
  | .condition q children result =>
    .object ((q.key, .array (listToJson children)) ::
      (result.map fun r => ("result", r)).toList)

def listToJson : List Tree → List Json
  | [] => []
  | t :: rest => toJson t :: listToJson rest

end

end Tree

namespace Condition

def ofJson : Json → Except Mismatch Condition
  | .object members =>
    ofObject (Tree.branchesOf members) (Entries.get? "result" members)
  | .array items => ofArray (Tree.branchOfEach items) items
  | v => .error (v.mismatch .condition)

def toJson (c : Condition) : Json :=
  c.tree.toJson

end Condition

end RuleTree

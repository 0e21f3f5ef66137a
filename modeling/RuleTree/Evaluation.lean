import RuleTree.Comparison
import RuleTree.Expansion

/-!
Evaluating a rule on a record. The roots are tried in order and the first that holds decides; inside
a condition the children are evaluated up to the first that decides it. Everything that happens is
written to a log, and the constraints that held and the trace of an evaluation are read off it.
-/

namespace RuleTree

namespace Quantifier

/-- What a condition comes to if none of its children decides it. -/
def undecided : Quantifier → Bool
  | .any => false
  | .all => true
  | .none => true

/-- Whether a child that holds, or does not hold, decides its condition against that. -/
def decidedBy (q : Quantifier) (held : Bool) : Bool :=
  match q with
  | .any => held
  | .all => !held
  | .none => held

end Quantifier

/-- Where a node stands: under a root of the rule, below which child of which quantifier. References
take no place of their own. -/
structure Place where
  root : Nat
  steps : List (Quantifier × Nat)
deriving DecidableEq

namespace Place

def child (place : Place) (q : Quantifier) (index : Nat) : Place :=
  { place with steps := place.steps ++ [(q, index)] }

def text (place : Place) : String :=
  "conditions[" ++ toString place.root ++ "]" ++
    String.join (place.steps.map fun (q, i) => "." ++ q.key ++ "[" ++ toString i ++ "]")

end Place

inductive Event
  | step (step : Step)
  | opened (place : Place) (quantifier : Quantifier) (children : Nat)
  | closed (place : Place) (quantifier : Quantifier) (held : Bool)
  | tested (place : Place) (constraint : Constraint) (held : Bool)
  | settled (root : Nat) (verdict : Bool)

/-- A part of an evaluation: it uses and keeps patterns, writes a log and may fail. -/
def Walk (α : Type) := PatternCache → Logged Event α × PatternCache

namespace Walk

variable {α β : Type}

protected def pure (a : α) : Walk α := fun cache => (⟨[], .ok a⟩, cache)

protected def bind (x : Walk α) (f : α → Walk β) : Walk β := fun cache =>
  match x cache with
  | (⟨log, .ok a⟩, cache) =>
    let (rest, cache) := f a cache
    (rest.after log, cache)
  | (⟨log, .error e⟩, cache) => (⟨log, .error e⟩, cache)

instance : Monad Walk where
  pure := Walk.pure
  bind := Walk.bind

def fail (failure : Failure) : Walk α := fun cache => (.fail failure, cache)

def write (event : Event) : Walk Unit := fun cache => (.write event, cache)

/-- Takes steps that use no patterns. -/
def ofSteps (x : Logged Step α) : Walk α := fun cache =>
  (⟨x.log.map .step, x.outcome⟩, cache)

end Walk

namespace Evaluation

/-- What a condition came to, and what its rule is to answer if it holds. -/
structure Outcome where
  held : Bool
  result : Option Json

/-- What to do with a reference whose rule is to be evaluated at some depth and place. -/
abbrev Follow := String → Nat → Place → Walk Outcome

section Tree

variable (isEmpty : Emptiness) (record : Json)

def constraint (c : Constraint) (place : Place) : Walk Bool := fun cache =>
  let (held, cache) := c.check isEmpty record cache
  (⟨[.tested place c held], .ok held⟩, cache)

variable (limit : Nat) (chain : List String) (follow : Follow)

mutual

/-- Evaluates a tree; the depth is that of a condition in its place. -/
def tree (depth : Nat) (place : Place) : Tree → Walk Outcome
  | .reference id => follow id depth place
  | .constraint c => do
    let held ← constraint isEmpty record c place
    return ⟨held, none⟩
  | .condition q nodes result => do
    Walk.ofSteps (Expansion.reach limit chain depth)
    Walk.write (.opened place q nodes.length)
    let held ← children depth place q 0 nodes
    Walk.write (.closed place q held)
    return ⟨held, result⟩

/-- Evaluates children from the given index on. -/
def children (depth : Nat) (place : Place) (q : Quantifier) (index : Nat) :
    List Tree → Walk Bool
  | [] => return q.undecided
  | node :: rest => do
    let outcome ← tree (depth + 1) (place.child q index) node
    if q.decidedBy outcome.held then return !q.undecided
    else children depth place q (index + 1) rest

end

end Tree

/-- Evaluates the rule that a reference stands for. It must hold a single condition. -/
def visit (store : Store) (isEmpty : Emptiness) (record : Json) (limit : Nat)
    (chain : List String) (follow : Follow) (id : String) (depth : Nat) (place : Place) :
    Walk Outcome := do
  let rule ← Walk.ofSteps (store.fetch id)
  match Condition.ofJson rule.conditions with
  | .ok c => tree isEmpty record limit chain follow depth place c.tree
  | .error m =>
    Walk.fail (.malformedNode
      ("rule '" ++ id ++ "' does not hold a single condition: " ++ m.message) rule.conditions)

def follow (store : Store) (isEmpty : Emptiness) (record : Json) (limit : Nat)
    (chain : List String) : Follow :=
  Expansion.expand limit (fun e _ _ => .fail e) (visit store isEmpty record limit) chain

/-- Evaluates one root of a rule, which must not be a constraint. -/
def root (store : Store) (isEmpty : Emptiness) (record : Json) (limit : Nat)
    (origin : Option String) (index : Nat) (node : Tree) : Walk Outcome :=
  let chain := Expansion.start origin
  match node with
  | .constraint c => Walk.fail (.malformedNode "top-level node must be a condition" c.toJson)
  | node =>
    tree isEmpty record limit chain (follow store isEmpty record limit chain) 0 ⟨index, []⟩ node

/-- The verdict that comes with a result: the result itself if it is a truth value. -/
def verdictOf : Option Json → Bool
  | some (.bool b) => b
  | _ => true

/-- Tries roots from the given index on, and tells the index and the result of the first that
holds. -/
def roots (store : Store) (isEmpty : Emptiness) (record : Json) (limit : Nat)
    (origin : Option String) (index : Nat) : List Tree → Walk (Option (Nat × Option Json))
  | [] => return none
  | node :: rest => do
    let outcome ← root store isEmpty record limit origin index node
    if outcome.held then
      Walk.write (.settled index (verdictOf outcome.result))
      return some (index, outcome.result)
    else roots store isEmpty record limit origin (index + 1) rest

end Evaluation

/-- Evaluates a rule on a record: the index and the result of the root that holds. -/
def Store.decide (store : Store) (limit : Nat) (isEmpty : Emptiness) (rule : Rule)
    (record : Json) : Walk (Option (Nat × Option Json)) :=
  match rule.trees with
  | .ok trees => Evaluation.roots store isEmpty record limit rule.origin? 0 trees
  | .error m => Walk.fail (.malformedNode m.message rule.conditions)

/-- What an evaluation came to and how. Without a trace the constraints that held are told without
their places. -/
structure Report where
  ruleId : String
  ruleLabel : String
  verdict : Bool
  matchedRoot : Option Nat
  result : Option Json
  matchedConstraints : List String
  trace : List String

namespace Event

def outcomeText (held : Bool) : String :=
  if held then "MATCHED" else "NOT_MATCHED"

def constraintText (c : Constraint) : String :=
  c.field ++ " " ++ c.operator.name ++ " " ++ c.value.compact

def matched? (traced : Bool) : Event → Option String
  | .tested place c true =>
    some (if traced then place.text ++ ": " ++ constraintText c else constraintText c)
  | _ => none

def line? : Event → Option String
  | .step _ => none
  | .opened place q children =>
    some (place.text ++ ": evaluating " ++ q.key ++ " (" ++ toString children ++ " children)")
  | .closed place q held => some (place.text ++ ": " ++ q.key ++ " => " ++ outcomeText held)
  | .tested place c held =>
    some (place.text ++ ": " ++ constraintText c ++ " => " ++ outcomeText held)
  | .settled root verdict =>
    some ((Place.mk root []).text ++ ": matched, verdict " ++ (if verdict then "true" else "false"))

end Event

namespace Report

/-- The report on an evaluation with the given log and outcome. -/
def ofLog (rule : Rule) (traced : Bool) (log : List Event)
    (outcome : Option (Nat × Option Json)) : Report where
  ruleId := rule.id
  ruleLabel := rule.label
  verdict := outcome.any fun (_, result) => Evaluation.verdictOf result
  matchedRoot := outcome.map Prod.fst
  result := outcome.bind Prod.snd
  matchedConstraints := log.filterMap (Event.matched? traced)
  trace := if traced then log.filterMap Event.line? else []

end Report

def Store.evaluate (store : Store) (limit : Nat) (isEmpty : Emptiness) (traced : Bool)
    (rule : Rule) (record : Json) : Walk Report := fun cache =>
  let (⟨log, outcome⟩, cache) := store.decide limit isEmpty rule record cache
  (⟨log, outcome.map (Report.ofLog rule traced log)⟩, cache)

end RuleTree

import RuleTree.Proofs.History

/-!
The evaluation as it keeps its report: lines are added to lists while it runs, the flag for the trace
decides at every place whether a path is built and a line is written, and a constraint that held is told
with its path unless that is empty. Reading the same report off the log of a walk is a morphism
(`ofWalk_bind`), and the evaluation that takes notes is the image of the one that writes a log
(`tree_eq`, `follow_eq`, `roots_eq`). So the flag changes nothing but the report, and there only what is
told about places (`execute_retold`).
-/

namespace RuleTree

theorem Place.text_ne_empty (place : Place) : place.text ≠ "" := by
  simp [text]

/-! ## Notes -/

/-- What is kept while a rule is evaluated. -/
structure Notes where
  cache : PatternCache
  matched : List String
  trace : List String

/-- A part of an evaluation that takes notes and may fail. -/
def Recording (α : Type) := Notes → Except Failure α × Notes

namespace Recording

variable {α β : Type}

protected def pure (a : α) : Recording α := fun notes => (.ok a, notes)

protected def bind (x : Recording α) (f : α → Recording β) : Recording β := fun notes =>
  match x notes with
  | (.ok a, notes) => f a notes
  | (.error e, notes) => (.error e, notes)

instance : Monad Recording where
  pure := Recording.pure
  bind := Recording.bind

def ofOutcome (x : Except Failure α) : Recording α := fun notes => (x, notes)

def note (entry : String) : Recording Unit := fun notes =>
  (.ok (), { notes with matched := notes.matched ++ [entry] })

/-- Adds a line to the trace, if there is one. -/
def line (traced : Bool) (text : String) : Recording Unit := fun notes =>
  (.ok (), if traced then { notes with trace := notes.trace ++ [text] } else notes)

/-- The path of a root. Paths are built for the trace only. -/
def rootPath (traced : Bool) (index : Nat) : String :=
  if traced then "conditions[" ++ toString index ++ "]" else ""

def childPath (traced : Bool) (path : String) (q : Quantifier) (index : Nat) : String :=
  if traced then path ++ "." ++ q.key ++ "[" ++ toString index ++ "]" else ""

/-! ## The evaluation -/

open Evaluation (Outcome verdictOf)

/-- What to do with a reference whose rule is to be evaluated at some depth and path. -/
abbrev Follow := String → Nat → String → Recording Outcome

section Tree

variable (traced : Bool) (isEmpty : Emptiness) (record : Json)

def check (c : Constraint) : Recording Bool := fun notes =>
  let (held, cache) := c.check isEmpty record notes.cache
  (.ok held, { notes with cache := cache })

def constraint (c : Constraint) (path : String) : Recording Bool := do
  let held ← check isEmpty record c
  line traced (path ++ ": " ++ Event.constraintText c ++ " => " ++ Event.outcomeText held)
  if held then
    note (if path = "" then Event.constraintText c else path ++ ": " ++ Event.constraintText c)
  return held

variable (limit : Nat) (chain : List String) (follow : Follow)

mutual

/-- Evaluates a tree; the depth is that of a condition in its place. -/
def tree (depth : Nat) (path : String) : Tree → Recording Outcome
  | .reference id => follow id depth path
  | .constraint c => do
    let held ← constraint traced isEmpty record c path
    return ⟨held, none⟩
  | .condition q nodes result => do
    ofOutcome (Expansion.reach limit chain depth).outcome
    line traced (path ++ ": evaluating " ++ q.key ++ " (" ++ toString nodes.length ++ " children)")
    let held ← children depth path q 0 nodes
    line traced (path ++ ": " ++ q.key ++ " => " ++ Event.outcomeText held)
    return ⟨held, result⟩

def children (depth : Nat) (path : String) (q : Quantifier) (index : Nat) :
    List Tree → Recording Bool
  | [] => return q.undecided
  | node :: rest => do
    let outcome ← tree (depth + 1) (childPath traced path q index) node
    if q.decidedBy outcome.held then return !q.undecided
    else children depth path q (index + 1) rest

end

end Tree

section Rule

variable (store : Store) (traced : Bool) (isEmpty : Emptiness) (record : Json) (limit : Nat)

/-- Evaluates the rule that a reference stands for. It must hold a single condition. -/
def visit (chain : List String) (follow : Follow) (id : String) (depth : Nat) (path : String) :
    Recording Outcome := do
  let rule ← ofOutcome (store.fetch id).outcome
  match Condition.ofJson rule.conditions with
  | .ok c => tree traced isEmpty record limit chain follow depth path c.tree
  | .error m =>
    ofOutcome (.error (.malformedNode
      ("rule '" ++ id ++ "' does not hold a single condition: " ++ m.message) rule.conditions))

def follow (chain : List String) : Follow :=
  Expansion.expand limit (fun e _ _ => ofOutcome (.error e))
    (visit store traced isEmpty record limit) chain

/-- Evaluates one root of a rule, which must not be a constraint. -/
def root (origin : Option String) (index : Nat) (node : Tree) : Recording Outcome :=
  let chain := Expansion.start origin
  match node with
  | .constraint c =>
    ofOutcome (.error (.malformedNode "top-level node must be a condition" c.toJson))
  | node =>
    tree traced isEmpty record limit chain (follow store traced isEmpty record limit chain) 0
      (rootPath traced index) node

/-- Tries roots from the given index on. -/
def roots (origin : Option String) (index : Nat) :
    List Tree → Recording (Option (Nat × Option Json))
  | [] => return none
  | node :: rest => do
    let outcome ← root store traced isEmpty record limit origin index node
    if outcome.held then
      line traced (rootPath traced index ++ ": matched, verdict " ++
        (if verdictOf outcome.result then "true" else "false"))
      return some (index, outcome.result)
    else roots origin (index + 1) rest

def decide (rule : Rule) : Recording (Option (Nat × Option Json)) :=
  match rule.trees with
  | .ok trees => roots store traced isEmpty record limit rule.origin? 0 trees
  | .error m => ofOutcome (.error (.malformedNode m.message rule.conditions))

def execute (rule : Rule) (cache : PatternCache) : Except Failure Report × PatternCache :=
  let (outcome, notes) := decide store traced isEmpty record limit rule ⟨cache, [], []⟩
  let report (found : Option (Nat × Option Json)) : Report :=
    { ruleId := rule.id
      ruleLabel := rule.label
      verdict := found.any fun (_, result) => verdictOf result
      matchedRoot := found.map Prod.fst
      result := found.bind Prod.snd
      matchedConstraints := notes.matched
      trace := notes.trace }
  (outcome.map report, notes.cache)

end Rule

/-! ## Notes read off a log -/

/-- Notes with what a log tells, and the cache that was left. -/
def add (traced : Bool) (notes : Notes) (log : List Event) (cache : PatternCache) : Notes where
  cache := cache
  matched := notes.matched ++ log.filterMap (Event.matched? traced)
  trace := notes.trace ++ if traced then log.filterMap Event.line? else []

@[simp] theorem add_nil (traced : Bool) (notes : Notes) : add traced notes [] notes.cache = notes := by
  cases traced <;> simp [add]

/-- A walk that takes notes of what it writes. -/
def ofWalk (traced : Bool) (x : Walk α) : Recording α := fun notes =>
  let (⟨log, outcome⟩, cache) := x notes.cache
  (outcome, add traced notes log cache)

section Morphism

variable {traced : Bool}

theorem ofWalk_pure (a : α) : ofWalk traced (pure a) = pure a := by
  funext notes
  exact congrArg (Except.ok a, ·) (add_nil traced notes)

theorem ofWalk_bind (x : Walk α) (f : α → Walk β) :
    ofWalk traced (x >>= f) = ofWalk traced x >>= fun a => ofWalk traced (f a) := by
  funext notes
  simp only [ofWalk, Bind.bind, Walk.bind, Recording.bind]
  rcases x notes.cache with ⟨⟨log, outcome⟩, cache⟩
  cases outcome with
  | error e => rfl
  | ok a => simp only [Logged.after, add, List.filterMap_append]; cases traced <;> simp

theorem ofWalk_fail (e : Failure) :
    ofWalk traced (Walk.fail e : Walk α) = ofOutcome (.error e) := by
  funext notes
  exact congrArg (Except.error e, ·) (add_nil traced notes)

theorem ofWalk_ofSteps (x : Logged Step α) :
    ofWalk traced (Walk.ofSteps x) = ofOutcome x.outcome := by
  funext notes
  have hmatched : (x.log.map Event.step).filterMap (Event.matched? traced) = [] := by
    simp [List.filterMap_map, Function.comp_def, Event.matched?]
  have hline : (x.log.map Event.step).filterMap Event.line? = [] := by
    simp [List.filterMap_map, Function.comp_def, Event.line?]
  simp [ofWalk, Walk.ofSteps, ofOutcome, add, hmatched, hline]

/-- An event that is no tested constraint adds its line and nothing else. -/
theorem ofWalk_write {event : Event} {text : String} (hm : event.matched? traced = none)
    (hl : traced = true → event.line? = some text) :
    ofWalk traced (Walk.write event) = line traced text := by
  funext notes
  cases traced with
  | false => simp [ofWalk, Walk.write, Logged.write, line, add, hm]
  | true => simp [ofWalk, Walk.write, Logged.write, line, add, hm, hl rfl]

end Morphism

/-! ## Paths -/

def pathOf (traced : Bool) (place : Place) : String :=
  if traced then place.text else ""

theorem rootPath_eq (traced : Bool) (index : Nat) :
    rootPath traced index = pathOf traced ⟨index, []⟩ := by
  cases traced <;> simp [rootPath, pathOf, Place.text]

theorem childPath_eq (traced : Bool) (place : Place) (q : Quantifier) (index : Nat) :
    childPath traced (pathOf traced place) q index = pathOf traced (place.child q index) := by
  cases traced with
  | false => rfl
  | true => simp [childPath, pathOf, Place.text, Place.child, String.append_assoc]

/-! ## The two evaluations -/

section Evaluations

variable {traced : Bool} {isEmpty : Emptiness} {record : Json} {limit : Nat}

/-- The path decides what is noted of a constraint just as the flag does, since no place has an empty
text. -/
theorem constraint_eq (c : Constraint) (place : Place) :
    constraint traced isEmpty record c (pathOf traced place) =
      ofWalk traced (Evaluation.constraint isEmpty record c place) := by
  funext notes
  have htext := place.text_ne_empty
  rcases hcheck : c.check isEmpty record notes.cache with ⟨held, cache⟩
  cases traced <;> cases held <;>
    simp [constraint, Evaluation.constraint, ofWalk, add, Bind.bind, Recording.bind, Pure.pure,
      Recording.pure, check, hcheck, line, note, pathOf, htext, Event.matched?, Event.line?]

section Lines

variable (place : Place) (q : Quantifier)

theorem opened_eq (n : Nat) :
    line traced (pathOf traced place ++ ": evaluating " ++ q.key ++ " (" ++ toString n ++
      " children)") = ofWalk traced (Walk.write (.opened place q n)) :=
  (ofWalk_write rfl fun ht => by rw [pathOf, if_pos ht, Event.line?]).symm

theorem closed_eq (held : Bool) :
    line traced (pathOf traced place ++ ": " ++ q.key ++ " => " ++ Event.outcomeText held) =
      ofWalk traced (Walk.write (.closed place q held)) :=
  (ofWalk_write rfl fun ht => by rw [pathOf, if_pos ht, Event.line?]).symm

theorem settled_eq (index : Nat) (verdict : Bool) :
    line traced (rootPath traced index ++ ": matched, verdict " ++
      (if verdict then "true" else "false")) = ofWalk traced (Walk.write (.settled index verdict)) :=
  (ofWalk_write rfl fun ht => by rw [rootPath_eq, pathOf, if_pos ht, Event.line?]).symm

end Lines

section Tree

variable {chain : List String} {follow : Follow} {follow' : Evaluation.Follow}

theorem children_eq {depth : Nat} {ts : List Tree}
    (h : ∀ t ∈ ts, ∀ place, tree traced isEmpty record limit chain follow (depth + 1)
      (pathOf traced place) t =
        ofWalk traced (Evaluation.tree isEmpty record limit chain follow' (depth + 1) place t))
    (place : Place) (q : Quantifier) (index : Nat) :
    children traced isEmpty record limit chain follow depth (pathOf traced place) q index ts =
      ofWalk traced
        (Evaluation.children isEmpty record limit chain follow' depth place q index ts) := by
  induction ts generalizing index with
  | nil => rw [children, Evaluation.children, ofWalk_pure]
  | cons t ts ih =>
    have hrest := ih fun u hu => h u (List.mem_cons_of_mem _ hu)
    rw [children, Evaluation.children, ofWalk_bind, childPath_eq, h t List.mem_cons_self]
    congr 1
    funext outcome
    split
    · rw [ofWalk_pure]
    · exact hrest (index + 1)

/-- A tree is evaluated alike where references are followed alike. -/
theorem tree_eq (hfollow : ∀ id depth place,
      follow id depth (pathOf traced place) = ofWalk traced (follow' id depth place))
    (t : Tree) (depth : Nat) (place : Place) :
    tree traced isEmpty record limit chain follow depth (pathOf traced place) t =
      ofWalk traced (Evaluation.tree isEmpty record limit chain follow' depth place t) := by
  induction t using Tree.induction generalizing depth place with
  | reference id => rw [tree, Evaluation.tree, hfollow]
  | constraint c =>
    rw [tree, Evaluation.tree, constraint_eq, ofWalk_bind]
    congr 1
    funext held
    rw [ofWalk_pure]
  | condition q ts result ih =>
    have hchildren := children_eq (fun t ht => ih t ht (depth + 1)) place q 0
    simp only [tree, Evaluation.tree, opened_eq, closed_eq, hchildren, ofWalk_bind, ofWalk_ofSteps,
      ofWalk_pure]

end Tree

section Rule

variable {store : Store}

theorem visit_eq {chain : List String} {follow : Follow} {follow' : Evaluation.Follow}
    (hfollow : ∀ id depth place,
      follow id depth (pathOf traced place) = ofWalk traced (follow' id depth place))
    (id : String) (depth : Nat) (place : Place) :
    visit store traced isEmpty record limit chain follow id depth (pathOf traced place) =
      ofWalk traced
        (Evaluation.visit store isEmpty record limit chain follow' id depth place) := by
  rw [visit, Evaluation.visit, ofWalk_bind, ofWalk_ofSteps]
  congr 1
  funext rule
  cases Condition.ofJson rule.conditions with
  | ok c => exact tree_eq hfollow c.tree depth place
  | error m => exact (ofWalk_fail _).symm

theorem follow_eq (chain : List String) (id : String) (depth : Nat) (place : Place) :
    follow store traced isEmpty record limit chain id depth (pathOf traced place) =
      ofWalk traced (Evaluation.follow store isEmpty record limit chain id depth place) := by
  induction chain using Expansion.chain_induction limit generalizing id depth place with
  | step chain ih =>
    rw [follow, Expansion.expand_eq, Evaluation.follow_eq]
    cases he : Expansion.enter limit chain id with
    | error e => exact (ofWalk_fail e).symm
    | ok inner => exact visit_eq (ih id inner he) id depth place

theorem root_eq (origin : Option String) (index : Nat) (t : Tree) :
    root store traced isEmpty record limit origin index t =
      ofWalk traced (Evaluation.root store isEmpty record limit origin index t) := by
  cases t with
  | constraint c => exact (ofWalk_fail _).symm
  | reference id =>
    simp only [root, rootPath_eq]
    exact tree_eq (follow_eq _) (.reference id) 0 ⟨index, []⟩
  | condition q ts result =>
    simp only [root, rootPath_eq]
    exact tree_eq (follow_eq _) (.condition q ts result) 0 ⟨index, []⟩

theorem roots_eq (origin : Option String) (index : Nat) (ts : List Tree) :
    roots store traced isEmpty record limit origin index ts =
      ofWalk traced (Evaluation.roots store isEmpty record limit origin index ts) := by
  induction ts generalizing index with
  | nil => rw [roots, Evaluation.roots, ofWalk_pure]
  | cons t ts ih =>
    rw [roots, Evaluation.roots, ofWalk_bind, root_eq]
    congr 1
    funext outcome
    split
    · rw [ofWalk_bind, settled_eq]
      congr 1
      funext _
      rw [ofWalk_pure]
    · exact ih (index + 1)

theorem decide_eq (rule : Rule) :
    decide store traced isEmpty record limit rule =
      ofWalk traced (store.decide limit isEmpty rule record) := by
  rw [decide, Store.decide]
  cases rule.trees with
  | ok ts => exact roots_eq rule.origin? 0 ts
  | error m => exact (ofWalk_fail _).symm

/-- The notes of an evaluation are what its log tells. -/
theorem execute_eq (rule : Rule) (cache : PatternCache) :
    execute store traced isEmpty record limit rule cache =
      ((store.evaluate limit isEmpty traced rule record cache).1.outcome,
        (store.evaluate limit isEmpty traced rule record cache).2) := by
  rcases hd : store.decide limit isEmpty rule record cache with ⟨⟨log, outcome⟩, left⟩
  rw [execute, decide_eq]
  simp only [ofWalk, Store.evaluate, hd]
  cases outcome with
  | error e => rfl
  | ok found => simp [add, Report.ofLog, Except.map]

end Rule

end Evaluations

end Recording

/-! ## With and without a trace -/

/-- The second text is the first behind a path. -/
def Event.Placed (entry placed : String) : Prop :=
  ∃ path, path ≠ "" ∧ placed = path ++ ": " ++ entry

/-- A traced report tells what the plain one tells, with a path before every constraint. -/
structure Report.Retold (plain traced : Report) : Prop where
  ruleId : traced.ruleId = plain.ruleId
  ruleLabel : traced.ruleLabel = plain.ruleLabel
  verdict : traced.verdict = plain.verdict
  matchedRoot : traced.matchedRoot = plain.matchedRoot
  result : traced.result = plain.result
  trace : plain.trace = []
  matchedConstraints :
    List.Forall₂ Event.Placed plain.matchedConstraints traced.matchedConstraints

theorem Event.placed_matched? (log : List Event) :
    List.Forall₂ Event.Placed (log.filterMap (matched? false)) (log.filterMap (matched? true)) := by
  induction log with
  | nil => exact .nil
  | cons event log ih =>
    cases event with
    | tested place c held =>
      cases held with
      | false => exact ih
      | true =>
        have hplaced : Placed (constraintText c) (place.text ++ ": " ++ constraintText c) :=
          ⟨place.text, place.text_ne_empty, rfl⟩
        exact .cons hplaced ih
    | _ => exact ih

theorem Report.retold_ofLog (rule : Rule) (log : List Event) (outcome : Option (Nat × Option Json)) :
    (ofLog rule false log outcome).Retold (ofLog rule true log outcome) :=
  ⟨rfl, rfl, rfl, rfl, rfl, rfl, Event.placed_matched? log⟩

/-- Two outcomes of which both fail in the same way, or both are reports and the second tells what the
first tells. -/
inductive Report.RetoldOutcome : Except Failure Report → Except Failure Report → Prop
  | error (e : Failure) : RetoldOutcome (.error e) (.error e)
  | ok {plain traced : Report} : plain.Retold traced → RetoldOutcome (.ok plain) (.ok traced)

namespace Recording

/-- **A trace changes nothing but what is told.** The evaluation in which the flag is asked at every step
is the one that runs, and with and without the flag, whatever patterns are kept on either side, it comes
to the same. -/
theorem execute_retold (store : Store) (isEmpty : Emptiness) (record : Json) (limit : Nat)
    (rule : Rule) :
    (∀ traced cache, execute store traced isEmpty record limit rule cache =
      ((store.evaluate limit isEmpty traced rule record cache).1.outcome,
        (store.evaluate limit isEmpty traced rule record cache).2)) ∧
      ∀ cache cache', Report.RetoldOutcome
        (execute store false isEmpty record limit rule cache).1
        (execute store true isEmpty record limit rule cache').1 := by
  refine ⟨fun traced cache => execute_eq rule cache, fun cache cache' => ?_⟩
  have halike := store.evaluate_alike limit isEmpty false rule record cache cache'
  rw [execute_eq, execute_eq, halike]
  rcases hd : store.decide limit isEmpty rule record cache' with ⟨⟨log, outcome⟩, left⟩
  simp only [Store.evaluate, hd]
  cases outcome with
  | error e => exact .error e
  | ok found => exact .ok (Report.retold_ofLog rule log found)

end Recording

end RuleTree

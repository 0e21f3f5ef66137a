import RuleTree.Engine
import RuleTree.Proofs.Execution
import RuleTree.Proofs.GuardedReview

/-!
The evaluation as a walk that keeps a guard, and what holds of both guarded walks
(`guarded_walks_return`): they return for every store, every call is sound, and a reference that succeeds
leaves the chain as it was.
-/

namespace RuleTree

/-! ## Steps of an evaluation -/

/-- What a walk comes to, with the steps among its events. -/
def Walk.stepped {α : Type} (x : Walk α) (cache : PatternCache) : Logged Step α :=
  ⟨Engine.stepsOf (x cache).1.log, (x cache).1.outcome⟩

namespace Walk

variable {α β : Type}

theorem stepped_bind (x : Walk α) (f : α → Walk β) (cache : PatternCache) :
    (x >>= f).stepped cache = x.stepped cache >>= fun a => (f a).stepped (x cache).2 := by
  unfold stepped
  rw [log_bind]
  cases h : (x cache).1.outcome with
  | error e => simp [outcome_bind_of_error h]
  | ok a => simp [outcome_bind_of_ok h, Logged.after, Engine.stepsOf]

theorem stepped_write {event : Event} (h : Engine.stepsOf [event] = []) (cache : PatternCache) :
    (write event).stepped cache = pure () := by
  simp only [stepped, write, Logged.write, h]
  rfl

theorem stepped_ofSteps (x : Logged Step α) (cache : PatternCache) :
    (ofSteps x).stepped cache = x := by
  simp only [stepped, ofSteps, Engine.stepsOf, List.filterMap_map]
  congr 1
  exact List.filterMap_some

end Walk

namespace Evaluation

section Parts

variable {isEmpty : Emptiness} {record : Json} {limit : Nat} {chain : List String} {follow : Follow}

/-- What the children of a condition come to, unless it lies too deep. -/
def heldAt (isEmpty : Emptiness) (record : Json) (limit : Nat) (chain : List String)
    (follow : Follow) (depth : Nat) (place : Place) (q : Quantifier) (nodes : List Tree)
    (cache : PatternCache) : Logged Step Bool :=
  Expansion.reach limit chain depth >>= fun _ =>
    (children isEmpty record limit chain follow depth place q 0 nodes).stepped cache

theorem stepped_condition (depth : Nat) (place : Place) (q : Quantifier) (nodes : List Tree)
    (result : Option Json) (cache : PatternCache) :
    (tree isEmpty record limit chain follow depth place (.condition q nodes result)).stepped cache =
      heldAt isEmpty record limit chain follow depth place q nodes cache >>= fun held =>
        pure ⟨held, result⟩ := by
  rw [tree, Walk.stepped_bind, Walk.stepped_ofSteps, heldAt, bind_assoc]
  congr 1
  funext _
  rw [Walk.stepped_bind, Walk.stepped_write rfl, pure_bind, Walk.stepped_bind]
  rfl

theorem stepped_constraint (depth : Nat) (place : Place) (c : Constraint) (cache : PatternCache) :
    (tree isEmpty record limit chain follow depth place (.constraint c)).stepped cache =
      pure ⟨c.holds isEmpty record, none⟩ := by
  rw [tree, Walk.stepped_bind, ← c.check_fst isEmpty record cache]
  rfl

def heldOf (x : Logged Step Outcome) : Logged Step Bool :=
  x >>= fun outcome => pure outcome.held

theorem heldOf_bind (x : Logged Step Bool) (result : Option Json) :
    heldOf (x >>= fun held => pure ⟨held, result⟩) = x := by
  simp only [heldOf, bind_assoc, pure_bind, bind_pure]

theorem stepped_children_cons (depth : Nat) (place : Place) (q : Quantifier) (index : Nat) (t : Tree)
    (rest : List Tree) (cache : PatternCache) :
    (children isEmpty record limit chain follow depth place q index (t :: rest)).stepped cache =
      heldOf ((tree isEmpty record limit chain follow (depth + 1) (place.child q index) t).stepped
        cache) >>= fun held =>
          if q.decidedBy held then pure (!q.undecided)
          else (children isEmpty record limit chain follow depth place q (index + 1) rest).stepped
            (tree isEmpty record limit chain follow (depth + 1) (place.child q index) t cache).2 := by
  rw [children, Walk.stepped_bind, heldOf, bind_assoc]
  congr 1
  funext outcome
  rw [pure_bind]
  split <;> rfl

end Parts

def targetOf (store : Store) (id : String) : Logged Step Condition :=
  store.fetch id >>= fun rule =>
    match Condition.ofJson rule.conditions with
    | .ok c => pure c
    | .error m => .fail (.malformedNode
        ("rule '" ++ id ++ "' does not hold a single condition: " ++ m.message) rule.conditions)

theorem stepped_follow (store : Store) (isEmpty : Emptiness) (record : Json) (limit : Nat)
    (chain : List String) (id : String) (depth : Nat) (place : Place) (cache : PatternCache) :
    (follow store isEmpty record limit chain id depth place).stepped cache =
      match Expansion.enter limit chain id with
      | .error e => .fail e
      | .ok inner => targetOf store id >>= fun c =>
        (tree isEmpty record limit inner (follow store isEmpty record limit inner) depth place
          c.tree).stepped cache := by
  rw [follow_eq]
  cases Expansion.enter limit chain id with
  | error e => rfl
  | ok inner =>
    simp only [visit, targetOf, Walk.stepped_bind, Walk.stepped_ofSteps, bind_assoc]
    congr 1
    funext rule
    cases Condition.ofJson rule.conditions with
    | error m => rfl
    | ok c => rw [pure_bind]; rfl

end Evaluation

namespace Evaluation.Guarded

open RuleTree.Guarded

variable (store : Store) (isEmpty : Emptiness) (record : Json) (limit : Nat)

/-- Enters a rule, which is left by the caller, and reads its condition. -/
def resolve (id : String) : Guarded (Except Failure Condition) := do
  call (.reference · id)
  match ← enter limit id with
  | .error e => return .error e
  | .ok _ =>
    match ← ofSteps fun _ => store.fetch id with
    | .error e => return .error e
    | .ok rule =>
      match Condition.ofJson rule.conditions with
      | .ok c => return .ok c
      | .error m =>
        return .error (.malformedNode
          ("rule '" ++ id ++ "' does not hold a single condition: " ++ m.message) rule.conditions)

mutual

def condition : Nat → Nat → Quantifier → List Tree → Guarded (Except Failure Bool)
  | 0, _, _, _ => failure
  | fuel + 1, depth, q, nodes => do
    match ← ofSteps fun chain => Expansion.reach limit chain depth with
    | .error e => return .error e
    | .ok _ => children fuel depth q nodes
termination_by structural fuel _ _ _ => fuel

/-- Evaluates children one after the other, up to the first that decides. -/
def children : Nat → Nat → Quantifier → List Tree → Guarded (Except Failure Bool)
  | 0, _, _, _ => failure
  | _ + 1, _, q, [] => return .ok q.undecided
  | fuel + 1, depth, q, t :: rest => do
    match ← node fuel depth t with
    | .error e => return .error e
    | .ok held =>
      if q.decidedBy held then return .ok (!q.undecided) else children fuel depth q rest
termination_by structural fuel _ _ _ => fuel

def node : Nat → Nat → Tree → Guarded (Except Failure Bool)
  | 0, _, _ => failure
  | fuel + 1, depth, t => do
    call .node
    match t with
    | .condition q nodes _ => condition fuel (depth + 1) q nodes
    | .constraint c => return .ok (c.holds isEmpty record)
    | .reference id =>
      match ← resolve store limit id with
      | .error e => return .error e
      | .ok target =>
        let outcome ← condition fuel (depth + 1) target.quantifier target.children
        leave
        return outcome
termination_by structural fuel _ _ => fuel

end

/-- Evaluates one root, which must not be a constraint. -/
def root (fuel : Nat) : Tree → Guarded (Except Failure Outcome)
  | .condition q nodes result => do
    match ← condition store isEmpty record limit fuel 0 q nodes with
    | .error e => return .error e
    | .ok held => return .ok ⟨held, result⟩
  | .reference id => do
    match ← resolve store limit id with
    | .error e => return .error e
    | .ok target =>
      match ← condition store isEmpty record limit fuel 0 target.quantifier target.children with
      | .error e => return .error e
      | .ok held =>
        leave
        return .ok ⟨held, target.result⟩
  | .constraint c => return .error (.malformedNode "top-level node must be a condition" c.toJson)

/-- Tries roots from the given index on, each with a new chain. -/
def roots (fuel : Nat) (origin : Option String) (index : Nat) :
    List Tree → Guarded (Except Failure (Option (Nat × Option Json)))
  | [] => return .ok none
  | t :: rest => do
    start origin
    match ← root store isEmpty record limit fuel t with
    | .error e => return .error e
    | .ok outcome =>
      if outcome.held then return .ok (some (index, outcome.result))
      else roots fuel origin (index + 1) rest

def decide (fuel : Nat) (rule : Rule) :
    Guarded (Except Failure (Option (Nat × Option Json))) :=
  match rule.trees with
  | .ok trees => roots store isEmpty record limit fuel rule.origin? 0 trees
  | .error m => return .error (.malformedNode m.message rule.conditions)

/-! ## One chain -/

section Chain

variable {store isEmpty record limit} {base chain : List String} {bound : Nat}
  {follow : Follow}

theorem gives_children {depth : Nat} {q : Quantifier} {nodes : List Tree}
    (h : ∀ t ∈ nodes, ∀ place cache,
      Keeps store limit base bound chain (node store isEmpty record limit · depth t)
        (heldOf ((tree isEmpty record limit chain follow (depth + 1) place t).stepped cache)))
    (place : Place) (index : Nat) (cache : PatternCache) :
    Keeps store limit base bound chain (children store isEmpty record limit · depth q nodes)
      ((Evaluation.children isEmpty record limit chain follow depth place q index nodes).stepped
        cache) := by
  refine gives_of_succ ?_
  induction nodes generalizing index cache with
  | nil =>
    simp only [children]
    exact gives_pure q.undecided chain
  | cons t rest ih =>
    simp only [children, stepped_children_cons]
    refine gives_bind (h t List.mem_cons_self _ cache) (fun _ _ => rfl) fun held _ => ?_
    dsimp only
    split
    · exact gives_pure _ chain
    · exact gives_of_succ (ih (fun other hm => h other (List.mem_cons_of_mem _ hm)) _ _)

/-- A condition, where its children give answers. -/
theorem gives_condition {depth : Nat} {q : Quantifier} {nodes : List Tree}
    (hg : Expansion.Grown store limit base chain) (hbound : limit < bound) (hd : depth ≤ bound)
    (h : depth < bound → ∀ t ∈ nodes, ∀ place cache,
      Keeps store limit base bound chain (node store isEmpty record limit · depth t)
        (heldOf ((tree isEmpty record limit chain follow (depth + 1) place t).stepped cache)))
    (place : Place) (cache : PatternCache) :
    Keeps store limit base bound chain (condition store isEmpty record limit · depth q nodes)
      (heldAt isEmpty record limit chain follow depth place q nodes cache) := by
  refine gives_of_succ ?_
  simp only [condition]
  refine gives_bind (gives_reach hg hd) (fun _ _ => rfl) fun a ha => ?_
  exact gives_children (h (Nat.lt_of_le_of_lt (Expansion.le_of_reach ha) hbound)) place 0 cache

/-- A tree, where references give answers. -/
theorem gives_node_of_reference (hg : Expansion.Grown store limit base chain)
    (hbound : limit < bound)
    (hreference : ∀ id depth, depth < bound → ∀ place cache,
      Keeps store limit base bound chain (node store isEmpty record limit · depth (.reference id))
        (heldOf ((follow id (depth + 1) place).stepped cache)))
    (t : Tree) {depth : Nat} (hd : depth < bound) (place : Place) (cache : PatternCache) :
    Keeps store limit base bound chain (node store isEmpty record limit · depth t)
      (heldOf ((tree isEmpty record limit chain follow (depth + 1) place t).stepped cache)) := by
  have hcall : Call.Within store limit base bound (.node chain) := .node hg
  induction t using Tree.induction generalizing depth place cache with
  | reference id => exact hreference id depth hd place cache
  | constraint c =>
    refine gives_of_succ ?_
    simp only [node, stepped_constraint]
    exact gives_call hcall rfl (gives_pure _ chain)
  | condition q nodes result ih =>
    refine gives_of_succ ?_
    simp only [node, stepped_condition, heldOf_bind]
    exact gives_call hcall rfl (gives_condition hg hbound hd
      (fun hd t ht => ih t ht hd) place cache)

theorem gives_condition_of_reference (hg : Expansion.Grown store limit base chain)
    (hbound : limit < bound)
    (hreference : ∀ id depth, depth < bound → ∀ place cache,
      Keeps store limit base bound chain (node store isEmpty record limit · depth (.reference id))
        (heldOf ((follow id (depth + 1) place).stepped cache)))
    (q : Quantifier) (nodes : List Tree) {depth : Nat} (hd : depth ≤ bound) (place : Place)
    (cache : PatternCache) :
    Keeps store limit base bound chain (condition store isEmpty record limit · depth q nodes)
      (heldAt isEmpty record limit chain follow depth place q nodes cache) :=
  gives_condition hg hbound hd
    (fun hd t _ => gives_node_of_reference hg hbound hreference t hd) place cache

end Chain

/-! ## References -/

section Reference

variable {store isEmpty record limit} {base chain : List String} {bound : Nat}

theorem gives_resolve_of_error {id : String} {e : Failure}
    (hg : Expansion.Grown store limit base chain) (he : Expansion.enter limit chain id = .error e) :
    Keeps store limit base bound chain (fun _ => resolve store limit id) (.fail e) :=
  gives_call (.reference hg id) rfl (gives_bind_of_fail (gives_enter_of_error he) fun _ => rfl)

theorem gives_resolve_of_ok {inner : List String} {id : String}
    (hg : Expansion.Grown store limit base chain) (he : Expansion.enter limit chain id = .ok inner) :
    Gives (Call.Within store limit base bound) chain inner (fun _ => resolve store limit id)
      (targetOf store id) := by
  refine gives_call (.reference hg id) rfl (gives_enter_of_ok he ?_)
  refine gives_bind (gives_fetch store limit base bound id inner) (fun _ _ => rfl) fun rule _ => ?_
  dsimp only
  cases Condition.ofJson rule.conditions with
  | error m => exact gives_fail _
  | ok c => exact gives_pure c inner

theorem stored_of_targetOf {id : String} {c : Condition} (h : (targetOf store id).outcome = .ok c) :
    ∃ rule, store.get? id = some rule := by
  obtain ⟨rule, hrule, _⟩ := (Logged.bind_eq_ok_iff _ _ _).mp h
  exact ⟨rule, Store.get?_of_fetch hrule⟩

/-- A reference among children. Its rule is evaluated with a longer chain. -/
theorem gives_reference (hg : Expansion.Grown store limit base chain) (hbound : limit < bound)
    (id : String) {depth : Nat} (hd : depth < bound) (place : Place) (cache : PatternCache) :
    Keeps store limit base bound chain (node store isEmpty record limit · depth (.reference id))
      (heldOf ((follow store isEmpty record limit chain id (depth + 1) place).stepped cache)) := by
  induction chain using Expansion.chain_induction limit generalizing id depth place cache with
  | step chain ih =>
  refine gives_of_succ ?_
  simp only [node]
  rw [stepped_follow]
  refine gives_call (.node hg) rfl ?_
  cases he : Expansion.enter limit chain id with
  | error e => exact gives_bind_of_fail (gives_resolve_of_error hg he) fun _ => rfl
  | ok inner =>
    obtain ⟨_, _, rfl⟩ := (Expansion.enter_eq_ok_iff limit).mp he
    rw [heldOf, bind_assoc]
    refine gives_bind (gives_resolve_of_ok hg he) (fun _ _ => rfl) fun c hc => ?_
    obtain ⟨rule, hrule⟩ := stored_of_targetOf hc
    have hinner := hg.enter ⟨he, hrule⟩
    rw [Condition.tree, stepped_condition, bind_assoc]
    simp only [pure_bind, bind_pure]
    exact gives_leave id (gives_condition_of_reference hinner hbound
      (fun id depth hd => ih _ _ he hinner id hd) c.quantifier c.children hd place cache)

/-- A condition on any chain. -/
theorem gives_condition_at (hg : Expansion.Grown store limit base chain) (hbound : limit < bound)
    (q : Quantifier) (nodes : List Tree) {depth : Nat} (hd : depth ≤ bound) (place : Place)
    (cache : PatternCache) :
    Keeps store limit base bound chain (condition store isEmpty record limit · depth q nodes)
      (heldAt isEmpty record limit chain (follow store isEmpty record limit chain) depth place q nodes
        cache) :=
  gives_condition_of_reference hg hbound (fun id _ hd => gives_reference hg hbound id hd) q nodes hd
    place cache

theorem gives_root_condition (hg : Expansion.Grown store limit base chain) (hbound : limit < bound)
    (q : Quantifier) (nodes : List Tree) (result : Option Json) (place : Place)
    (cache : PatternCache) :
    Keeps store limit base bound chain
      (root store isEmpty record limit · (.condition q nodes result))
      ((tree isEmpty record limit chain (follow store isEmpty record limit chain) 0 place
        (.condition q nodes result)).stepped cache) := by
  simp only [root, stepped_condition]
  exact gives_bind (gives_condition_at hg hbound q nodes (Nat.zero_le bound) place cache)
    (fun _ _ => rfl) fun held _ => gives_pure (Outcome.mk held result) chain

/-- A reference among the roots takes the result along before its rule is left. -/
theorem gives_root_reference (hg : Expansion.Grown store limit base chain) (hbound : limit < bound)
    (id : String) (place : Place) (cache : PatternCache) :
    Keeps store limit base bound chain (root store isEmpty record limit · (.reference id))
      ((follow store isEmpty record limit chain id 0 place).stepped cache) := by
  simp only [root]
  rw [stepped_follow]
  cases he : Expansion.enter limit chain id with
  | error e => exact gives_bind_of_fail (gives_resolve_of_error hg he) fun _ => rfl
  | ok inner =>
    obtain ⟨_, _, rfl⟩ := (Expansion.enter_eq_ok_iff limit).mp he
    refine gives_bind (gives_resolve_of_ok hg he) (fun _ _ => rfl) fun c hc => ?_
    obtain ⟨rule, hrule⟩ := stored_of_targetOf hc
    have hinner := hg.enter ⟨he, hrule⟩
    rw [Condition.tree, stepped_condition]
    exact gives_bind
      (gives_condition_at hinner hbound c.quantifier c.children (Nat.zero_le bound) place cache)
      (fun _ _ => rfl) fun held _ => gives_leave id (gives_pure (Outcome.mk held c.result) (chain ++ [id]))

/-- A reference can be evaluated on any chain, among children and among roots. -/
theorem restores_reference (id : String) :
    (∀ depth, Restores (node store isEmpty record limit · depth (.reference id))) ∧
      Restores (root store isEmpty record limit · (.reference id)) := by
  constructor
  · intro depth
    exact restores_of_gives fun chain => ⟨_, gives_reference (.refl store limit chain)
      (Nat.lt_succ_of_le (Nat.le_max_left limit depth)) id
      (Nat.lt_succ_of_le (Nat.le_max_right limit depth)) ⟨0, []⟩ (.empty 0)⟩
  · exact restores_of_gives fun chain => ⟨_, gives_root_reference (.refl store limit chain)
      (Nat.lt_succ_self limit) id ⟨0, []⟩ (.empty 0)⟩

end Reference

/-! ## Rules -/

section Rules

variable {store isEmpty record limit} {origin : Option String}

theorem gives_root (origin : Option String) (index : Nat) (t : Tree) (cache : PatternCache) :
    Keeps store limit (Expansion.start origin) (limit + 1) (Expansion.start origin)
      (root store isEmpty record limit · t)
      ((Evaluation.root store isEmpty record limit origin index t).stepped cache) := by
  have hg : Expansion.Grown store limit (Expansion.start origin) (Expansion.start origin) :=
    .refl store limit _
  cases t with
  | constraint c => exact gives_fail _
  | reference id => exact gives_root_reference hg (Nat.lt_succ_self limit) id ⟨index, []⟩ cache
  | condition q nodes result =>
    exact gives_root_condition hg (Nat.lt_succ_self limit) q nodes result ⟨index, []⟩ cache

theorem gives_roots (origin : Option String) (index : Nat) (ts : List Tree) (cache : PatternCache) :
    Keeps store limit (Expansion.start origin) (limit + 1) (Expansion.start origin)
      (roots store isEmpty record limit · origin index ts)
      ((Evaluation.roots store isEmpty record limit origin index ts).stepped cache) := by
  induction ts generalizing index cache with
  | nil => exact gives_pure none _
  | cons t rest ih =>
    simp only [roots]
    rw [Evaluation.roots, Walk.stepped_bind]
    refine gives_start (gives_bind (gives_root origin index t cache) (fun _ _ => rfl) fun outcome _ => ?_)
    dsimp only
    split
    · exact gives_pure _ _
    · exact ih (index + 1) _

/-- The guarded evaluation comes to what the evaluation comes to, by the same steps. -/
theorem gives_decide (store : Store) (limit : Nat) (isEmpty : Emptiness) (rule : Rule) (record : Json)
    (cache : PatternCache) :
    Keeps store limit (Expansion.start rule.origin?) (limit + 1) (Expansion.start rule.origin?)
      (decide store isEmpty record limit · rule)
      ((store.decide limit isEmpty rule record).stepped cache) := by
  unfold decide Store.decide
  cases rule.trees with
  | error m => exact gives_fail _
  | ok ts => exact gives_roots rule.origin? 0 ts cache

end Rules

end Evaluation.Guarded

open Guarded in
/-- **Following references ends, and the guard stays sound.** With a single chain that is changed in place
and nothing but fuel to bound them, the review and the evaluation of every rule return, whatever rules
refer to each other: they come to what they come to without a guard, by the same steps, and every call is
sound. Wherever a reference succeeds the chain is what it was before, so that a later reference to the
rule is no cycle and comes to the same. -/
theorem guarded_walks_return (store : Store) (limit : Nat) :
    (∀ rule : Rule, ∃ guard,
      Returns (Inspection.Guarded.conditions store limit · rule.origin? rule.conditions)
        (.new rule.origin?) ((store.review limit rule).outcome, guard) ∧
      guard.calls.filterMap Call.step? = (store.review limit rule).log ∧
      ∀ call ∈ guard.calls, call.Sound store limit rule.origin?) ∧
    (∀ (rule : Rule) isEmpty record cache, ∃ guard,
      Returns (Evaluation.Guarded.decide store isEmpty record limit · rule)
        (.new rule.origin?) ((store.decide limit isEmpty rule record cache).1.outcome, guard) ∧
      guard.calls.filterMap Call.step? =
        Engine.stepsOf (store.decide limit isEmpty rule record cache).1.log ∧
      ∀ call ∈ guard.calls, call.Sound store limit rule.origin?) ∧
    (∀ role depth id, Restores (Inspection.Guarded.reference store limit · role depth id)) ∧
    ∀ isEmpty record id,
      (∀ depth, Restores (Evaluation.Guarded.node store isEmpty record limit · depth (.reference id))) ∧
        Restores (Evaluation.Guarded.root store isEmpty record limit · (.reference id)) := by
  refine ⟨fun rule => ?_, fun rule isEmpty record cache => ?_,
    Inspection.Guarded.restores_reference, fun isEmpty record =>
      Evaluation.Guarded.restores_reference⟩
  · exact returns_of_gives
      (Inspection.Guarded.gives_conditions store limit rule.origin? rule.conditions)
  · exact returns_of_gives
      (Evaluation.Guarded.gives_decide store limit isEmpty rule record cache)

end RuleTree

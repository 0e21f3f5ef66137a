import RuleTree.Proofs.Related

/-!
What holds of whole walks because it holds of their parts. A property of computations that is kept when
one follows another holds of every review and of every evaluation as soon as it holds of coming to a
condition, of looking up a rule and of each failure (`Inspection.Parts.of_conditions`,
`Evaluation.Parts.of_decide`). Something may be known of a reference when it is followed: whatever is known
of a reference has to be handed on to those in the rule that is entered through it. So the failures of
walks are of some kind if the few failures there are can be covered by it (`Failure.Covered`).
-/

namespace RuleTree

/-- A property of computations that is kept when one that has it goes on with others that have it. -/
structure Logged.Closed (P : ∀ {α : Type}, Logged Step α → Prop) : Prop where
  pure : ∀ {α : Type} (a : α), P (pure a : Logged Step α)
  bind : ∀ {α β : Type} {x : Logged Step α} {f : α → Logged Step β},
    P x → (∀ a, x.outcome = .ok a → P (f a)) → P (x >>= f)

/-- The same for walks that use patterns. -/
structure Walk.Closed (P : ∀ {α : Type}, Walk α → Prop) : Prop where
  pure : ∀ {α : Type} (a : α), P (pure a : Walk α)
  bind : ∀ {α β : Type} {x : Walk α} {f : α → Walk β},
    P x → (∀ cache a, (x cache).1.outcome = .ok a → P (f a)) → P (x >>= f)

theorem Logged.Closed.mapM {P : ∀ {α : Type}, Logged Step α → Prop} (h : Logged.Closed P)
    {α β : Type} {f : α → Logged Step β} {xs : List α} (hf : ∀ x ∈ xs, P (f x)) : P (xs.mapM f) := by
  induction xs with
  | nil => exact h.pure []
  | cons x xs ih =>
    rw [List.mapM_cons]
    have hrest : P (xs.mapM f) := ih fun y hy => hf y (List.mem_cons_of_mem _ hy)
    exact h.bind (hf x List.mem_cons_self) fun _ _ => h.bind hrest fun _ _ => h.pure _

/-! ## Reviews -/

namespace Inspection

/-- The parts of reviews have a closed property, where `known` is what is known of a reference by the
chain in which it stands. It is handed on: where a rule is entered it is known of the references in its
conditions. -/
structure Parts (store : Store) (limit : Nat) (known : List String → String → Prop)
    (P : ∀ {α : Type}, Logged Step α → Prop) : Prop extends Logged.Closed P where
  reach : ∀ chain depth, P (Expansion.reach limit chain depth)
  fetch : ∀ id, P (store.fetch id)
  refuse : ∀ {chain id e}, known chain id → Expansion.enter limit chain id = .error e →
    P (Logged.fail e : Logged Step Review)
  handOn : ∀ {chain id inner stored other}, known chain id →
    Expansion.enter limit chain id = .ok inner → store.get? id = some stored →
    stored.conditions.HasNode (.string other) → known inner other

namespace Parts

variable {store : Store} {limit : Nat} {known : List String → String → Prop}
  {P : ∀ {α : Type}, Logged Step α → Prop} {chain : List String} {follow : Follow}

theorem of_children (h : Parts store limit known P) {depth : Nat} {nodes : List Json}
    (hitem : ∀ node ∈ nodes, P (item limit chain follow depth node)) :
    P (children limit chain follow depth nodes) := by
  induction nodes with
  | nil =>
    rw [children]
    exact h.pure _
  | cons node rest ih =>
    rw [children_cons]
    refine h.bind (hitem node List.mem_cons_self) fun review _ => ?_
    split
    · exact ih fun other hm => hitem other (List.mem_cons_of_mem _ hm)
    · exact h.pure _

/-- The review of a node has the property if it holds of following the references that stand in the
node. -/
theorem of_node (h : Parts store limit known P) (node : Json)
    (hfollow : ∀ id, node.HasNode (.string id) → ∀ role depth, P (follow id role depth)) :
    (∀ depth, P (condition limit chain follow depth node)) ∧
      ∀ depth, P (item limit chain follow depth node) := by
  have hwalk : ∀ node,
      (∀ depth, (∀ id, node.HasNode (.string id) → ∀ role depth, P (follow id role depth)) →
        P (condition limit chain follow depth node)) ∧
      ∀ depth, (∀ id, node.HasNode (.string id) → ∀ role depth, P (follow id role depth)) →
        P (item limit chain follow depth node) := by
    refine walk_induction ?root ?flawed ?flawless ?reference ?inner ?leaf
    case root =>
      intro depth id hfollow
      rw [condition_string]
      exact h.bind (h.reach chain depth) fun _ _ => hfollow id .self .root depth
    case flawed =>
      intro depth node flaw hs hf _
      rw [condition_of_flaw hs hf]
      exact h.bind (h.reach chain depth) fun _ _ => h.pure _
    case flawless =>
      intro depth node nodes _ hf hc ih hfollow
      rw [condition_of_flawless hf hc]
      refine h.bind (h.reach chain depth) fun _ _ => h.of_children fun child hm => ?_
      exact ih child hm fun id hid => hfollow id (.of_children? hc hm hid)
    case reference =>
      intro depth id hfollow
      exact hfollow id .self .child depth
    case inner =>
      intro depth node hc ih hfollow
      rw [item_of_isCondition hc]
      exact ih hfollow
    case leaf =>
      intro depth node hs hc _
      rw [item_of_leaf hs hc]
      exact h.pure _
  exact ⟨fun depth => (hwalk node).1 depth hfollow, fun depth => (hwalk node).2 depth hfollow⟩

theorem of_child (h : Parts store limit known P) {depth : Nat} {node : Json}
    (hcondition : P (condition limit chain follow (depth + 1) node)) :
    P (child limit chain follow depth node) := by
  rw [child]
  split
  · exact hcondition
  · exact h.pure _

/-- Following a reference of which is known what has to be known. -/
theorem of_follow (h : Parts store limit known P) {id : String} (hid : known chain id) (role : Role)
    (depth : Nat) : P (Inspection.follow store limit chain id role depth) := by
  induction chain using Expansion.chain_induction limit generalizing id role depth with
  | step chain ih =>
  rw [follow_eq]
  cases he : Expansion.enter limit chain id with
  | error e => exact h.refuse hid he
  | ok inner =>
    refine h.bind (h.fetch id) fun stored hstored => ?_
    have hs : store.get? id = some stored := Store.get?_of_fetch hstored
    have hcondition (depth : Nat) :
        P (condition limit inner (Inspection.follow store limit inner) depth stored.conditions) := by
      refine (h.of_node stored.conditions fun other hm => ?_).1 depth
      exact ih id inner he (h.handOn hid he hs hm)
    cases role with
    | root => exact hcondition depth
    | child => exact h.of_child (hcondition (depth + 1))

theorem of_conditions (h : Parts store limit known P) {origin : Option String} {written : Json}
    (hroots : ∀ node ∈ rootsOf written, ∀ id, node.HasNode (.string id) →
      known (Expansion.start origin) id) :
    P (conditions store limit origin written) := by
  unfold conditions
  split
  · exact h.pure _
  · have hroot : ∀ node ∈ rootsOf written, P (root store limit origin node) := by
      intro node hm
      exact (h.of_node node fun id hid => h.of_follow (hroots node hm id hid)).1 0
    exact h.bind (h.mapM hroot) fun _ _ => h.pure _

end Parts

end Inspection

/-! ## Evaluations -/

namespace Evaluation

/-- The parts of evaluations have a closed property, where `known` is what is known of a reference by the
chain in which it stands. -/
structure Parts (store : Store) (isEmpty : Emptiness) (record : Json) (limit : Nat)
    (known : List String → String → Prop) (P : ∀ {α : Type}, Walk α → Prop) : Prop
    extends Walk.Closed P where
  reach : ∀ chain depth, P (Walk.ofSteps (Expansion.reach limit chain depth))
  fetch : ∀ id, P (Walk.ofSteps (store.fetch id))
  write : ∀ event, (∀ step, event ≠ .step step) → P (Walk.write event)
  constraint : ∀ c place, P (constraint isEmpty record c place)
  malformed : ∀ {α : Type} message element, P (Walk.fail (.malformedNode message element) : Walk α)
  refuse : ∀ {chain id e}, known chain id → Expansion.enter limit chain id = .error e →
    P (Walk.fail e : Walk Outcome)
  handOn : ∀ {chain id inner stored c other}, known chain id →
    Expansion.enter limit chain id = .ok inner → store.get? id = some stored →
    Condition.ofJson stored.conditions = .ok c → c.tree.HasNode (.reference other) →
    known inner other

namespace Parts

variable {store : Store} {isEmpty : Emptiness} {record : Json} {limit : Nat}
  {known : List String → String → Prop} {P : ∀ {α : Type}, Walk α → Prop} {chain : List String}
  {follow : Follow}

theorem of_children (h : Parts store isEmpty record limit known P) {depth : Nat} {ts : List Tree}
    (htree : ∀ t ∈ ts, ∀ place, P (tree isEmpty record limit chain follow (depth + 1) place t))
    (place : Place) (q : Quantifier) (index : Nat) :
    P (children isEmpty record limit chain follow depth place q index ts) := by
  induction ts generalizing index with
  | nil =>
    rw [children]
    exact h.pure _
  | cons t rest ih =>
    rw [children]
    refine h.bind (htree t List.mem_cons_self _) fun _ outcome _ => ?_
    split
    · exact h.pure _
    · exact ih (fun other hm => htree other (List.mem_cons_of_mem _ hm)) (index + 1)

/-- The evaluation of a tree has the property if it holds of following the references of the tree. -/
theorem of_tree (h : Parts store isEmpty record limit known P) (t : Tree)
    (hfollow : ∀ id, t.HasNode (.reference id) → ∀ depth place, P (follow id depth place))
    (depth : Nat) (place : Place) : P (tree isEmpty record limit chain follow depth place t) := by
  induction t using Tree.induction generalizing depth place with
  | reference id =>
    rw [tree]
    exact hfollow id .self depth place
  | constraint c =>
    rw [tree]
    exact h.bind (h.constraint c place) fun _ _ _ => h.pure _
  | condition q ts result ih =>
    have hchildren (place : Place) :
        P (children isEmpty record limit chain follow depth place q 0 ts) := by
      refine h.of_children (fun t hm place => ?_) place q 0
      exact ih t hm (fun id hid => hfollow id (.inside hm hid)) (depth + 1) place
    rw [tree]
    refine h.bind (h.reach chain depth) fun _ _ _ => ?_
    refine h.bind (h.write _ (by simp)) fun _ _ _ => h.bind (hchildren place) fun _ held _ => ?_
    exact h.bind (h.write _ (by simp)) fun _ _ _ => h.pure _

theorem of_follow (h : Parts store isEmpty record limit known P) {id : String} (hid : known chain id)
    (depth : Nat) (place : Place) :
    P (Evaluation.follow store isEmpty record limit chain id depth place) := by
  induction chain using Expansion.chain_induction limit generalizing id depth place with
  | step chain ih =>
  rw [follow_eq]
  cases he : Expansion.enter limit chain id with
  | error e => exact h.refuse hid he
  | ok inner =>
    refine h.bind (h.fetch id) fun _ stored hstored => ?_
    have hs : store.get? id = some stored := Store.get?_of_fetch hstored
    cases hc : Condition.ofJson stored.conditions with
    | error m => exact h.malformed _ _
    | ok c =>
      refine h.of_tree c.tree (fun other hm => ?_) depth place
      exact ih id inner he (h.handOn hid he hs hc hm)

theorem of_root (h : Parts store isEmpty record limit known P) {origin : Option String} {t : Tree}
    (hroot : ∀ id, t.HasNode (.reference id) → known (Expansion.start origin) id) (index : Nat) :
    P (root store isEmpty record limit origin index t) := by
  have htree : P (tree isEmpty record limit (Expansion.start origin)
      (Evaluation.follow store isEmpty record limit (Expansion.start origin)) 0 ⟨index, []⟩ t) :=
    h.of_tree t (fun id hid => h.of_follow (hroot id hid)) 0 ⟨index, []⟩
  cases t with
  | constraint c => exact h.malformed _ _
  | reference id => exact htree
  | condition q ts result => exact htree

theorem of_roots (h : Parts store isEmpty record limit known P) {origin : Option String}
    {ts : List Tree} (hroots : ∀ t ∈ ts, ∀ id, t.HasNode (.reference id) →
      known (Expansion.start origin) id) (index : Nat) :
    P (roots store isEmpty record limit origin index ts) := by
  induction ts generalizing index with
  | nil =>
    rw [roots]
    exact h.pure _
  | cons t rest ih =>
    rw [roots]
    refine h.bind (h.of_root (hroots t List.mem_cons_self) index) fun _ outcome _ => ?_
    split
    · exact h.bind (h.write _ (by simp)) fun _ _ _ => h.pure _
    · exact ih (fun other hm => hroots other (List.mem_cons_of_mem _ hm)) (index + 1)

theorem of_decide (h : Parts store isEmpty record limit known P) {rule : Rule}
    (hroots : ∀ node ∈ rule.roots, ∀ t, Tree.ofJson node = .ok t → ∀ id,
      t.HasNode (.reference id) → known (Expansion.start rule.origin?) id) :
    P (store.decide limit isEmpty rule record) := by
  rw [Store.decide]
  cases hts : rule.trees with
  | error m => exact h.malformed _ _
  | ok ts =>
    obtain ⟨hl, hpairs⟩ := List.forall₂_iff_zip.mp ((Store.trees_eq_ok_iff ts).mp hts)
    refine h.of_roots (fun t hm => ?_) 0
    obtain ⟨node, hz⟩ := exists_mem_zip_of_mem_right hl hm
    exact hroots node (List.of_mem_zip hz).1 t (hpairs hz)

end Parts

end Evaluation

/-! ## Failures -/

/-- Whatever failure a computation comes to is of some kind. -/
def Logged.FailsAs {ε α : Type} (Q : Failure → Prop) (x : Logged ε α) : Prop :=
  ∀ e, x.outcome = .error e → Q e

/-- The failures of a walk are of some kind, whatever patterns are kept. -/
def Walk.FailsAs {α : Type} (Q : Failure → Prop) (x : Walk α) : Prop :=
  ∀ cache, (x cache).1.FailsAs Q

theorem Logged.FailsAs.bind {ε α β : Type} {Q : Failure → Prop} {x : Logged ε α}
    {f : α → Logged ε β} (hx : x.FailsAs Q) (hf : ∀ a, x.outcome = .ok a → (f a).FailsAs Q) :
    (x >>= f).FailsAs Q := by
  intro e he
  cases ho : x.outcome with
  | error e' =>
    rw [outcome_bind_of_error ho] at he
    cases he
    exact hx e ho
  | ok a =>
    rw [outcome_bind_of_ok ho] at he
    exact hf a ho e he

theorem Walk.FailsAs.bind {α β : Type} {Q : Failure → Prop} {x : Walk α} {f : α → Walk β}
    (hx : x.FailsAs Q) (hf : ∀ cache a, (x cache).1.outcome = .ok a → (f a).FailsAs Q) :
    (x >>= f).FailsAs Q := by
  intro cache
  rw [bind_fst]
  exact (hx cache).bind fun a ha => hf cache a ha _

theorem Expansion.enter_eq_error {limit : Nat} {chain : List String} {id : String} {e : Failure}
    (h : enter limit chain id = .error e) :
    id ∈ chain ∧ e = .referenceCycle (chain ++ [id]) ∨ e = .tooDeep limit := by
  rw [enter] at h
  split at h
  next hmem =>
    cases h
    exact .inl ⟨hmem, rfl⟩
  next =>
    split at h
    · cases h
      exact .inr rfl
    · cases h

/-- The failures that walks over rules can come to are of some kind, where `known` is what is known of the
references that are followed. -/
structure Failure.Covered (limit : Nat) (known : List String → String → Prop) (Q : Failure → Prop) :
    Prop where
  notFound : ∀ id, Q (.notFound id)
  tooDeep : Q (.tooDeep limit)
  referenceCycle : ∀ chain id, known chain id → id ∈ chain → Q (.referenceCycle (chain ++ [id]))
  malformedNode : ∀ message element, Q (.malformedNode message element)

namespace Failure.Covered

variable {limit : Nat} {known : List String → String → Prop} {Q : Failure → Prop}
  (h : Failure.Covered limit known Q)
include h

theorem of_enter {chain : List String} {id : String} {e : Failure} (hid : known chain id)
    (he : Expansion.enter limit chain id = .error e) : Q e := by
  rcases Expansion.enter_eq_error he with ⟨hmem, rfl⟩ | rfl
  · exact h.referenceCycle chain id hid hmem
  · exact h.tooDeep

theorem failsAs_reach (chain : List String) (depth : Nat) :
    (Expansion.reach limit chain depth).FailsAs Q := by
  intro e he
  rw [Expansion.reach] at he
  split at he
  · cases he
    exact h.tooDeep
  · cases he

theorem failsAs_fetch (store : Store) (id : String) : (store.fetch id).FailsAs Q := by
  intro e he
  rw [Store.fetch] at he
  cases hs : store.get? id with
  | some rule =>
    rw [hs] at he
    cases he
  | none =>
    rw [hs] at he
    cases he
    exact h.notFound id

theorem inspectionParts (store : Store)
    (handOn : ∀ {chain id inner stored other}, known chain id →
      Expansion.enter limit chain id = .ok inner → store.get? id = some stored →
      stored.conditions.HasNode (.string other) → known inner other) :
    Inspection.Parts store limit known (Logged.FailsAs Q) where
  pure _ _ he := by cases he
  bind := Logged.FailsAs.bind
  reach := h.failsAs_reach
  fetch := h.failsAs_fetch store
  refuse hid he _ hfail := by
    cases hfail
    exact h.of_enter hid he
  handOn := handOn

theorem evaluationParts (store : Store) (isEmpty : Emptiness) (record : Json)
    (handOn : ∀ {chain id inner stored c other}, known chain id →
      Expansion.enter limit chain id = .ok inner → store.get? id = some stored →
      Condition.ofJson stored.conditions = .ok c → c.tree.HasNode (.reference other) →
      known inner other) :
    Evaluation.Parts store isEmpty record limit known (Walk.FailsAs Q) where
  pure _ _ _ he := by cases he
  bind := Walk.FailsAs.bind
  reach chain depth _ := h.failsAs_reach chain depth
  fetch id _ := h.failsAs_fetch store id
  write _ _ _ _ he := by cases he
  constraint _ _ _ _ he := by cases he
  malformed message element _ _ he := by
    cases he
    exact h.malformedNode message element
  refuse hid he _ _ hfail := by
    cases hfail
    exact h.of_enter hid he
  handOn := handOn

/-- The failures of a review are of the kind. -/
theorem failsAs_review {store : Store} {rule : Rule}
    (handOn : ∀ {chain id inner stored other}, known chain id →
      Expansion.enter limit chain id = .ok inner → store.get? id = some stored →
      stored.conditions.HasNode (.string other) → known inner other)
    (hroots : ∀ node ∈ rule.roots, ∀ id, node.HasNode (.string id) →
      known (Expansion.start rule.origin?) id) : (store.review limit rule).FailsAs Q :=
  (h.inspectionParts store handOn).of_conditions hroots

/-- The failures of an evaluation are of the kind. A report is no failure, so it does not matter whether
there is a trace. -/
theorem failsAs_evaluate {store : Store} {isEmpty : Emptiness} {traced : Bool} {rule : Rule}
    {record : Json}
    (handOn : ∀ {chain id inner stored c other}, known chain id →
      Expansion.enter limit chain id = .ok inner → store.get? id = some stored →
      Condition.ofJson stored.conditions = .ok c → c.tree.HasNode (.reference other) →
      known inner other)
    (hroots : ∀ node ∈ rule.roots, ∀ t, Tree.ofJson node = .ok t → ∀ id,
      t.HasNode (.reference id) → known (Expansion.start rule.origin?) id) :
    (store.evaluate limit isEmpty traced rule record).FailsAs Q := by
  have hdecide : (store.decide limit isEmpty rule record).FailsAs Q :=
    (h.evaluationParts store isEmpty record handOn).of_decide hroots
  intro cache e he
  rw [Store.outcome_evaluate] at he
  cases ho : (store.decide limit isEmpty rule record cache).1.outcome with
  | error e' =>
    rw [ho] at he
    cases he
    exact hdecide cache e ho
  | ok found =>
    rw [ho] at he
    cases he

end Failure.Covered

end RuleTree

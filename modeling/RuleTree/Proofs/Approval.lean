import RuleTree.Proofs.Nodes
import RuleTree.Proofs.Runs

/-!
What a review accepts, as derivations. `Approved` has one rule for each way in which a written node
can pass: as a condition, as a constraint, and as a reference to the conditions of a stored rule. Its
derivations are the accepting runs of the review (`accepted_condition_iff`, `accepted_item_iff`), so
that later modules do induction on derivations and no longer meet the walk itself.
-/

namespace RuleTree

namespace Expansion

/-- Induction along references: what holds of a chain may be assumed of every chain that is entered
from it. Each entry uses up room below the limit. -/
theorem chain_induction (limit : Nat) {P : List String → Prop}
    (step : ∀ chain, (∀ id inner, enter limit chain id = .ok inner → P inner) → P chain)
    (chain : List String) : P chain :=
  step chain fun _ inner _h => chain_induction limit step inner
termination_by limit - chain.length
decreasing_by
  obtain ⟨_, hlt, rfl⟩ := (enter_eq_ok_iff limit).mp _h
  simp only [List.length_append, List.length_cons, List.length_nil]
  omega

end Expansion

/-- The review came to its end and accepts. -/
def Logged.Accepted (x : Logged Step Review) : Prop :=
  ∃ review, x.outcome = .ok review ∧ review.accepted = true

namespace Inspection

/-- A reference that may be followed: the chain inside the rule it stands for, and that rule. -/
structure Entered (store : Store) (limit : Nat) (chain : List String) (id : String)
    (inner : List String) (rule : Rule) : Prop where
  enter : Expansion.enter limit chain id = .ok inner
  stored : store.get? id = some rule

/-- A node passes in some role, inside a chain of rules, at the depth of a condition in its place. -/
inductive Approved (store : Store) (limit : Nat) : Role → List String → Nat → Json → Prop
  | condition {role chain depth node nodes} :
      depth ≤ limit → node.conditionFlaw? depth = none → node.children? = some nodes →
      (∀ child ∈ nodes, Approved store limit .child chain (depth + 1) child) →
      Approved store limit role chain depth node
  | leaf {chain depth node} :
      node.isCondition = false → node.leafFlaw? = none →
      Approved store limit .child chain depth node
  | rootReference {chain inner depth id rule} :
      depth ≤ limit → Entered store limit chain id inner rule →
      Approved store limit .root inner depth rule.conditions →
      Approved store limit .root chain depth (.string id)
  | childReference {chain inner depth id rule} :
      Entered store limit chain id inner rule → rule.conditions.isString = false →
      Approved store limit .child inner depth rule.conditions →
      Approved store limit .child chain depth (.string id)

/-! ## Parts of the walk -/

section Parts

variable {limit : Nat} {chain : List String} {follow : Follow}

@[simp] theorem accepted_ok_iff (log : List Step) (review : Review) :
    (⟨log, .ok review⟩ : Logged Step Review).Accepted ↔ review.accepted = true := by
  simp [Logged.Accepted]

@[simp] theorem not_accepted_error (log : List Step) (e : Failure) :
    ¬ (⟨log, .error e⟩ : Logged Step Review).Accepted := by
  simp [Logged.Accepted]

@[simp] theorem accepted_review (element : Json) (flaw : Option Flaw) :
    (Flaw.review element flaw).accepted = true ↔ flaw = none := by
  cases flaw <;> simp [Flaw.review, Review.ok, Review.refused]

theorem accepted_bind_iff {α : Type} (x : Logged Step α) (f : α → Logged Step Review) :
    (x >>= f).Accepted ↔ ∃ a, x.outcome = .ok a ∧ (f a).Accepted := by
  simp only [Logged.Accepted, Logged.bind_eq_ok_iff]
  constructor
  · rintro ⟨review, ⟨a, ha, hf⟩, hr⟩; exact ⟨a, ha, review, hf, hr⟩
  · rintro ⟨a, ha, review, hf, hr⟩; exact ⟨review, ⟨a, ha, hf⟩, hr⟩

theorem accepted_reach_bind_iff (depth : Nat) (f : Unit → Logged Step Review) :
    (Expansion.reach limit chain depth >>= f).Accepted ↔ depth ≤ limit ∧ (f ()).Accepted := by
  rw [accepted_bind_iff, Expansion.reach]
  by_cases h : limit < depth
  · simp [h, Nat.not_le.mpr h]
  · simp only [h, if_false, Nat.not_lt.mp h, true_and]
    exact ⟨fun ⟨_, hf⟩ => hf, fun hf => ⟨(), hf⟩⟩

/-- Reviews a node that stands among children at some depth. -/
def item (limit : Nat) (chain : List String) (follow : Follow) (depth : Nat) (node : Json) :
    Logged Step Review :=
  match node with
  | .string id => follow id .child depth
  | other => child limit chain follow depth other

theorem children_cons (depth : Nat) (node : Json) (rest : List Json) :
    children limit chain follow depth (node :: rest) =
      item limit chain follow depth node >>= fun review =>
        if review.accepted then children limit chain follow depth rest else pure review := by
  cases node with
  | string id => rw [children.eq_def]; rfl
  | _ =>
    rw [children.eq_def]
    simp only [item, child]
    split <;> rfl

theorem condition_string (depth : Nat) (id : String) :
    condition limit chain follow depth (.string id) =
      Expansion.reach limit chain depth >>= fun _ => follow id .root depth := by
  rw [condition]

theorem branch_eq_items (depth : Nat) (key : String) (members : List (String × Json)) :
    branch limit chain follow depth key members =
      items limit chain follow depth ((Entries.get? key members).getD .null) := by
  induction members with
  | nil => rfl
  | cons e rest ih =>
    obtain ⟨k, v⟩ := e
    rw [branch, Entries.get?_cons]
    split
    · rfl
    · exact ih

/-- A condition without a flaw is as good as its children. -/
theorem condition_of_flawless {depth : Nat} {node : Json} {nodes : List Json}
    (hf : node.conditionFlaw? depth = none) (hc : node.children? = some nodes) :
    condition limit chain follow depth node =
      Expansion.reach limit chain depth >>= fun _ => children limit chain follow depth nodes := by
  obtain ⟨q, hq, hget⟩ := Json.children?_eq_some_iff.mp hc
  obtain ⟨members, rfl, _⟩ := Json.exists_of_get? hget
  rw [condition]
  have hb : branch limit chain follow depth q.key members =
      children limit chain follow depth nodes := by
    have hm : Entries.get? q.key members = some (.array nodes) := hget
    rw [branch_eq_items, hm]
    rfl
  simp only [hf, hq, hb]

/-- A condition with a flaw is refused for it. -/
theorem condition_of_flaw {depth : Nat} {node : Json} {flaw : Flaw}
    (hs : node.isString = false) (hf : node.conditionFlaw? depth = some flaw) :
    condition limit chain follow depth node =
      Expansion.reach limit chain depth >>= fun _ => pure (Flaw.review node (some flaw)) := by
  rw [condition.eq_def]
  cases node with
  | string s => cases hs
  | object members => simp only [hf]
  | _ => cases hf; rfl

theorem accepted_children_iff (depth : Nat) (nodes : List Json) :
    (children limit chain follow depth nodes).Accepted ↔
      ∀ node ∈ nodes, (item limit chain follow depth node).Accepted := by
  induction nodes with
  | nil => rw [children]; simp [Review.ok]
  | cons node rest ih =>
    rw [children_cons, accepted_bind_iff, List.forall_mem_cons, ← ih]
    constructor
    · rintro ⟨review, hr, h⟩
      cases ha : review.accepted with
      | true => exact ⟨⟨review, hr, ha⟩, by simpa [ha] using h⟩
      | false => simp [ha] at h
    · rintro ⟨⟨review, hr, ha⟩, h⟩
      exact ⟨review, hr, by simpa [ha] using h⟩

theorem accepted_condition_of_string (depth : Nat) (id : String) :
    (condition limit chain follow depth (.string id)).Accepted ↔
      depth ≤ limit ∧ (follow id .root depth).Accepted := by
  rw [condition_string, accepted_reach_bind_iff]

theorem accepted_condition_of_not_string {depth : Nat} {node : Json}
    (hs : node.isString = false) :
    (condition limit chain follow depth node).Accepted ↔
      depth ≤ limit ∧ node.conditionFlaw? depth = none ∧
        ∃ nodes, node.children? = some nodes ∧
          ∀ child ∈ nodes, (item limit chain follow depth child).Accepted := by
  cases hf : node.conditionFlaw? depth with
  | some flaw =>
    rw [condition_of_flaw hs hf, accepted_reach_bind_iff]
    simp
  | none =>
    obtain ⟨_, ⟨nodes, hc, _⟩, _⟩ := Json.conditionFlaw?_eq_none_iff.mp hf
    rw [condition_of_flawless hf hc, accepted_reach_bind_iff]
    simp [hc, accepted_children_iff]

theorem item_of_not_string {depth : Nat} {node : Json} (hs : node.isString = false) :
    item limit chain follow depth node = child limit chain follow depth node := by
  cases node with
  | string id => cases hs
  | _ => rfl

theorem item_of_isCondition {depth : Nat} {node : Json} (h : node.isCondition = true) :
    item limit chain follow depth node = condition limit chain follow (depth + 1) node := by
  rw [item_of_not_string (Json.isString_eq_false_of_isCondition h), child, if_pos h]

theorem item_of_leaf {depth : Nat} {node : Json} (hs : node.isString = false)
    (hc : node.isCondition = false) :
    item limit chain follow depth node = pure (Flaw.review node node.leafFlaw?) := by
  rw [item_of_not_string hs, child, hc]
  rfl

theorem accepted_item_of_not_string {depth : Nat} {node : Json} (hs : node.isString = false) :
    (item limit chain follow depth node).Accepted ↔
      if node.isCondition then (condition limit chain follow (depth + 1) node).Accepted
      else node.leafFlaw? = none := by
  rw [item_of_not_string hs, child]
  split <;> simp

/-- Induction along the review of a node: `P` is about a node in the place of a condition, `Q` about one
among the children of a condition. -/
theorem walk_induction {P Q : Nat → Json → Prop} (root : ∀ depth id, P depth (.string id))
    (flawed : ∀ depth node flaw, node.isString = false → node.conditionFlaw? depth = some flaw →
      P depth node)
    (flawless : ∀ depth node nodes, node.isString = false → node.conditionFlaw? depth = none →
      node.children? = some nodes → (∀ child ∈ nodes, Q depth child) → P depth node)
    (reference : ∀ depth id, Q depth (.string id))
    (inner : ∀ depth node, node.isCondition = true → P (depth + 1) node → Q depth node)
    (leaf : ∀ depth node, node.isString = false → node.isCondition = false → Q depth node)
    (node : Json) : (∀ depth, P depth node) ∧ ∀ depth, Q depth node := by
  induction node using Json.children_induction with
  | step node ih =>
  have hcondition (depth : Nat) : P depth node := by
    cases hs : node.isString with
    | true =>
      obtain ⟨id, rfl⟩ := Json.exists_of_isString hs
      exact root depth id
    | false =>
      cases hf : node.conditionFlaw? depth with
      | some flaw => exact flawed depth node flaw hs hf
      | none =>
        obtain ⟨_, ⟨nodes, hc, _⟩, _⟩ := Json.conditionFlaw?_eq_none_iff.mp hf
        exact flawless depth node nodes hs hf hc fun child hm => (ih nodes hc child hm).2 depth
  refine ⟨hcondition, fun depth => ?_⟩
  cases hs : node.isString with
  | true =>
    obtain ⟨id, rfl⟩ := Json.exists_of_isString hs
    exact reference depth id
  | false =>
    cases hc : node.isCondition with
    | true => exact inner depth node hc (hcondition (depth + 1))
    | false => exact leaf depth node hs hc

/-- A string does not stand for a node a second time. -/
theorem accepted_child_iff (depth : Nat) (node : Json) :
    (child limit chain follow depth node).Accepted ↔
      node.isString = false ∧ (item limit chain follow depth node).Accepted := by
  cases node with
  | string id =>
    have hl : (Json.string id).leafFlaw? = some .notNode := rfl
    simp [child, Json.isCondition, Json.quantifier?, Json.hasKey, Json.get?, hl, Json.isString]
  | _ => simp [item, Json.isString]

end Parts

/-! ## References -/

theorem follow_eq (store : Store) (limit : Nat) (chain : List String) (id : String) (role : Role)
    (depth : Nat) :
    follow store limit chain id role depth =
      match Expansion.enter limit chain id with
      | .error e => .fail e
      | .ok inner => visit store limit inner (follow store limit inner) id role depth := by
  rw [follow, Expansion.expand_eq]
  cases Expansion.enter limit chain id <;> rfl

variable {store : Store} {limit : Nat}

theorem accepted_fetch_bind_iff (id : String) (f : Rule → Logged Step Review) :
    (store.fetch id >>= f).Accepted ↔ ∃ rule, store.get? id = some rule ∧ (f rule).Accepted := by
  rw [accepted_bind_iff, Store.fetch]
  cases store.get? id <;> simp

theorem accepted_follow_iff (chain : List String) (id : String) (role : Role) (depth : Nat) :
    (follow store limit chain id role depth).Accepted ↔
      ∃ inner rule, Entered store limit chain id inner rule ∧
        match role with
        | .root => (condition limit inner (follow store limit inner) depth rule.conditions).Accepted
        | .child => (child limit inner (follow store limit inner) depth rule.conditions).Accepted := by
  rw [follow_eq]
  cases he : Expansion.enter limit chain id with
  | error e =>
    simp only [Logged.fail, not_accepted_error, false_iff]
    rintro ⟨inner, rule, hr, _⟩
    simp [hr.enter] at he
  | ok inner =>
    simp only [visit, accepted_fetch_bind_iff]
    constructor
    · rintro ⟨rule, hr, h⟩
      exact ⟨inner, rule, ⟨he, hr⟩, by cases role <;> exact h⟩
    · rintro ⟨inner', rule, hr, h⟩
      obtain rfl : inner = inner' := by simpa [hr.enter] using he.symm
      exact ⟨rule, hr.stored, by cases role <;> exact h⟩

/-! ## Reviews and derivations -/

theorem approved_of_accepted (chain : List String) (node : Json) :
    (∀ depth, (condition limit chain (follow store limit chain) depth node).Accepted →
      Approved store limit .root chain depth node) ∧
    (∀ depth, (item limit chain (follow store limit chain) depth node).Accepted →
      Approved store limit .child chain (depth + 1) node) := by
  -- Through a reference the chain grows, and on one chain nodes get smaller.
  induction chain using Expansion.chain_induction limit generalizing node with
  | step chain ihChain =>
  induction node using Json.children_induction with
  | step node ihNode =>
  have hcondition (depth : Nat)
      (h : (condition limit chain (follow store limit chain) depth node).Accepted)
      (hs : node.isString = false) (role : Role) : Approved store limit role chain depth node := by
    obtain ⟨hd, hf, nodes, hc, hn⟩ := (accepted_condition_of_not_string hs).mp h
    exact .condition hd hf hc fun child hm => (ihNode nodes hc child hm).2 depth (hn child hm)
  cases hs : node.isString with
  | true =>
    obtain ⟨id, rfl⟩ := Json.exists_of_isString hs
    constructor
    · intro depth h
      obtain ⟨hd, h⟩ := (accepted_condition_of_string depth id).mp h
      obtain ⟨inner, rule, he, h⟩ := (accepted_follow_iff chain id .root depth).mp h
      exact .rootReference hd he ((ihChain id inner he.enter rule.conditions).1 depth h)
    · intro depth h
      obtain ⟨inner, rule, he, h⟩ := (accepted_follow_iff chain id .child depth).mp h
      obtain ⟨ht, h⟩ := (accepted_child_iff depth rule.conditions).mp h
      exact .childReference he ht ((ihChain id inner he.enter rule.conditions).2 depth h)
  | false =>
    refine ⟨fun depth h => hcondition depth h hs .root, fun depth h => ?_⟩
    rw [accepted_item_of_not_string hs] at h
    split at h
    · exact hcondition (depth + 1) h hs .child
    next hn => exact .leaf (Bool.eq_false_iff.mpr hn) h

theorem accepted_of_approved {role : Role} {chain : List String} {depth : Nat} {node : Json}
    (h : Approved store limit role chain depth node) :
    match role with
    | .root => (condition limit chain (follow store limit chain) depth node).Accepted
    | .child => ∀ d, depth = d + 1 →
      (item limit chain (follow store limit chain) d node).Accepted := by
  induction h with
  | @condition role chain depth node nodes hd hf hc _ ih =>
    have hs := Json.isString_eq_false_of_isCondition (Json.isCondition_of_children? hc)
    have h := (accepted_condition_of_not_string hs).mpr
      ⟨hd, hf, nodes, hc, fun child hm => ih child hm depth rfl⟩
    cases role with
    | root => exact h
    | child =>
      rintro d rfl
      rw [accepted_item_of_not_string hs, if_pos (Json.isCondition_of_children? hc)]
      exact h
  | @leaf chain depth node hn hf =>
    intro d _
    have hs : node.isString = false := by
      cases node with
      | string s => cases hf
      | _ => rfl
    rw [accepted_item_of_not_string hs]
    simpa [hn] using hf
  | @rootReference chain inner depth id rule hd he _ ih =>
    exact (accepted_condition_of_string depth id).mpr
      ⟨hd, (accepted_follow_iff chain id .root depth).mpr ⟨inner, rule, he, ih⟩⟩
  | @childReference chain inner depth id rule he ht _ ih =>
    rintro d rfl
    exact (accepted_follow_iff chain id .child d).mpr
      ⟨inner, rule, he, (accepted_child_iff d rule.conditions).mpr ⟨ht, ih d rfl⟩⟩

/-- A root passes the review exactly when there is a derivation for it. -/
theorem accepted_condition_iff (chain : List String) (depth : Nat) (node : Json) :
    (condition limit chain (follow store limit chain) depth node).Accepted ↔
      Approved store limit .root chain depth node :=
  ⟨(approved_of_accepted chain node).1 depth, accepted_of_approved⟩

/-- A child passes the review exactly when there is a derivation for it. -/
theorem accepted_item_iff (chain : List String) (depth : Nat) (node : Json) :
    (item limit chain (follow store limit chain) depth node).Accepted ↔
      Approved store limit .child chain (depth + 1) node :=
  ⟨(approved_of_accepted chain node).2 depth, fun h => accepted_of_approved h depth rfl⟩

/-! ## Rules -/

theorem accepted_foldl_merge (reviews : List Review) (first : Review) :
    (reviews.foldl Review.merge first).accepted = true ↔
      first.accepted = true ∧ ∀ review ∈ reviews, review.accepted = true := by
  induction reviews generalizing first with
  | nil => simp
  | cons review rest ih => simp [ih, Review.merge, and_assoc]

theorem accepted_roots_iff (origin : Option String) (nodes : List Json) :
    (roots store limit origin nodes).Accepted ↔
      ∀ node ∈ nodes, Approved store limit .root (Expansion.start origin) 0 node := by
  have h := Logged.exists_mapM_ok_iff (root store limit origin) (·.accepted = true) nodes
  simp only [← accepted_condition_iff]
  rw [roots, accepted_bind_iff]
  simp only [Logged.pure_def, accepted_ok_iff, accepted_foldl_merge]
  simpa [Review.ok, Logged.Accepted, root] using h

theorem conditionsFlaw?_eq_none_iff (written : Json) :
    written.conditionsFlaw? = none ↔
      rootsOf written ≠ [] ∧ (rootsOf written).head? ≠ some (.object []) := by
  unfold Json.conditionsFlaw?
  split
  · simp_all
  · simp_all
  next hne hfirst =>
    refine iff_of_true rfl ⟨hne, fun h => ?_⟩
    obtain ⟨rest, hr⟩ := List.head?_eq_some_iff.mp h
    exact hfirst rest hr

end Inspection

/-- A rule is accepted if it has a root, the first one is not an object without members, and there is a
derivation for every root. -/
theorem Store.accepted_review_iff (store : Store) (limit : Nat) (rule : Rule) :
    (store.review limit rule).Accepted ↔
      rule.roots ≠ [] ∧ rule.roots.head? ≠ some (.object []) ∧
        ∀ root ∈ rule.roots,
          Inspection.Approved store limit .root (Expansion.start rule.origin?) 0 root := by
  have hf := Inspection.conditionsFlaw?_eq_none_iff rule.conditions
  rw [Store.review, Inspection.conditions]
  cases hc : rule.conditions.conditionsFlaw? with
  | some flaw =>
    simp only [hc, reduceCtorEq, false_iff] at hf
    simp only [Inspection.accepted_ok_iff, Logged.pure_def, Inspection.accepted_review, reduceCtorEq,
      false_iff]
    exact fun h => hf ⟨h.1, h.2.1⟩
  | none =>
    simp only [Inspection.accepted_roots_iff, Rule.roots, hf.mp hc, true_and, ne_eq,
      not_false_eq_true]

end RuleTree

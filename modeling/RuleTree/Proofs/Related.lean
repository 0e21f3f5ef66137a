import RuleTree.Proofs.Execution

/-!
Two evaluations side by side. A relation between walks that is kept when one part follows another holds
of whole evaluations as soon as it holds of their parts: of coming to a condition, of testing a
constraint and of following a reference (`tree_related`, `roots_related`). The trees on the two sides
may differ, as long as their parts stand beside each other. Two reviews side by side are related in the
same way by their parts (`condition_related`, `conditions_related`). Of constraints and references only
those that stand in the tree or node matter (`tree_related_of_nodes`, `condition_related_of_nodes`).
-/

namespace RuleTree

/-- A relation between walks that every walk without patterns has to itself and that is kept when one
walk follows another. -/
structure Walk.Congruence (R : ∀ {α : Type}, Walk α → Walk α → Prop) : Prop where
  plain : ∀ {α : Type} (x : Logged Event α), R (fun cache => (x, cache)) (fun cache => (x, cache))
  bind : ∀ {α β : Type} {x y : Walk α} {f g : α → Walk β},
    R x y → (∀ a, R (f a) (g a)) → R (x >>= f) (y >>= g)

/-- The nodes of a tree: itself, and those of the children of a condition. -/
inductive Tree.HasNode : Tree → Tree → Prop
  | self {t} : HasNode t t
  | inside {q children result child t} : child ∈ children → HasNode child t →
      HasNode (.condition q children result) t

namespace Evaluation

variable {R : ∀ {α : Type}, Walk α → Walk α → Prop} {isEmpty isEmpty' : Emptiness}
  {record record' : Json} {limit limit' : Nat}

/-! ## Trees -/

section Tree

variable {chain chain' : List String} {follow follow' : Follow} {depth : Nat}

/-- Children side by side are evaluated up to the same one. -/
theorem children_related (hR : Walk.Congruence R) {ts us : List Tree}
    (h : List.Forall₂ (fun t u => ∀ place,
      R (tree isEmpty record limit chain follow (depth + 1) place t)
        (tree isEmpty' record' limit' chain' follow' (depth + 1) place u)) ts us)
    (place : Place) (q : Quantifier) (index : Nat) :
    R (children isEmpty record limit chain follow depth place q index ts)
      (children isEmpty' record' limit' chain' follow' depth place q index us) := by
  induction h generalizing index with
  | nil => exact hR.plain _
  | @cons t u ts us ht _ ih =>
    rw [children, children]
    refine hR.bind (ht (place.child q index)) fun outcome => ?_
    split
    · exact hR.plain _
    · exact ih (index + 1)

theorem condition_related (hR : Walk.Congruence R) {ts us : List Tree}
    (hreach : R (Walk.ofSteps (Expansion.reach limit chain depth))
      (Walk.ofSteps (Expansion.reach limit' chain' depth)))
    (h : List.Forall₂ (fun t u => ∀ place,
      R (tree isEmpty record limit chain follow (depth + 1) place t)
        (tree isEmpty' record' limit' chain' follow' (depth + 1) place u)) ts us)
    (place : Place) (q : Quantifier) (result : Option Json) :
    R (tree isEmpty record limit chain follow depth place (.condition q ts result))
      (tree isEmpty' record' limit' chain' follow' depth place (.condition q us result)) := by
  rw [tree, tree, h.length_eq]
  refine hR.bind hreach fun _ => hR.bind (hR.plain _) fun _ => ?_
  exact hR.bind (children_related hR h place q 0) fun _ =>
    hR.bind (hR.plain _) fun _ => hR.plain _

/-- A tree is related to itself if the constraints and references that stand in it are. -/
theorem tree_related_of_nodes (hR : Walk.Congruence R)
    (hreach : ∀ depth, R (Walk.ofSteps (Expansion.reach limit chain depth))
      (Walk.ofSteps (Expansion.reach limit' chain' depth))) (t : Tree)
    (hconstraint : ∀ c, t.HasNode (.constraint c) → ∀ place,
      R (constraint isEmpty record c place) (constraint isEmpty' record' c place))
    (hfollow : ∀ id, t.HasNode (.reference id) → ∀ depth place,
      R (follow id depth place) (follow' id depth place)) (depth : Nat) (place : Place) :
    R (tree isEmpty record limit chain follow depth place t)
      (tree isEmpty' record' limit' chain' follow' depth place t) := by
  induction t using Tree.induction generalizing depth place with
  | reference id => rw [tree, tree]; exact hfollow id .self depth place
  | constraint c =>
    rw [tree, tree]
    exact hR.bind (hconstraint c .self place) fun _ => hR.plain _
  | condition q ts result ih =>
    have hchildren : List.Forall₂ (fun t u => ∀ place,
        R (tree isEmpty record limit chain follow (depth + 1) place t)
          (tree isEmpty' record' limit' chain' follow' (depth + 1) place u)) ts ts := by
      refine List.forall₂_same.mpr fun t ht place => ?_
      exact ih t ht (fun c hc => hconstraint c (.inside ht hc))
        (fun id hid => hfollow id (.inside ht hid)) (depth + 1) place
    exact condition_related hR (hreach depth) hchildren place q result

/-- A tree is related to itself if its parts are. -/
theorem tree_related (hR : Walk.Congruence R)
    (hreach : ∀ depth, R (Walk.ofSteps (Expansion.reach limit chain depth))
      (Walk.ofSteps (Expansion.reach limit' chain' depth)))
    (hconstraint : ∀ c place,
      R (constraint isEmpty record c place) (constraint isEmpty' record' c place))
    (hfollow : ∀ id depth place, R (follow id depth place) (follow' id depth place))
    (t : Tree) (depth : Nat) (place : Place) :
    R (tree isEmpty record limit chain follow depth place t)
      (tree isEmpty' record' limit' chain' follow' depth place t) :=
  tree_related_of_nodes hR hreach t (fun c _ => hconstraint c) (fun id _ => hfollow id) depth place

end Tree

/-! ## Roots -/

/-- A root is a failure on both sides, or it is evaluated like any other tree. -/
theorem root_related (hR : Walk.Congruence R) {store store' : Store} {origin origin' : Option String}
    {t : Tree} {index : Nat}
    (h : R (tree isEmpty record limit (Expansion.start origin)
        (Evaluation.follow store isEmpty record limit (Expansion.start origin)) 0 ⟨index, []⟩ t)
      (tree isEmpty' record' limit' (Expansion.start origin')
        (Evaluation.follow store' isEmpty' record' limit' (Expansion.start origin')) 0
        ⟨index, []⟩ t)) :
    R (root store isEmpty record limit origin index t)
      (root store' isEmpty' record' limit' origin' index t) := by
  cases t with
  | constraint c => exact hR.plain _
  | reference id => exact h
  | condition q ts result => exact h

/-- Roots side by side are tried up to the same one. -/
theorem roots_related (hR : Walk.Congruence R) {store store' : Store}
    {origin origin' : Option String} {ts us : List Tree}
    (h : List.Forall₂ (fun t u => ∀ index, R (root store isEmpty record limit origin index t)
      (root store' isEmpty' record' limit' origin' index u)) ts us) (index : Nat) :
    R (roots store isEmpty record limit origin index ts)
      (roots store' isEmpty' record' limit' origin' index us) := by
  induction h generalizing index with
  | nil => exact hR.plain _
  | @cons t u ts us ht _ ih =>
    rw [roots, roots]
    refine hR.bind (ht index) fun outcome => ?_
    split
    · exact hR.bind (hR.plain _) fun _ => hR.plain _
    · exact ih (index + 1)

end Evaluation

/-! ## Reviews -/

/-- A relation between computations that each has to itself and that is kept when one follows another. -/
structure Logged.Congruence (R : ∀ {α : Type}, Logged Step α → Logged Step α → Prop) : Prop where
  refl : ∀ {α : Type} (x : Logged Step α), R x x
  bind : ∀ {α β : Type} {x y : Logged Step α} {f g : α → Logged Step β},
    R x y → (∀ a, R (f a) (g a)) → R (x >>= f) (y >>= g)

section Reviews

variable {R : ∀ {α : Type}, Logged Step α → Logged Step α → Prop}

theorem Logged.Congruence.mapM (hR : Logged.Congruence R) {α β : Type} {f g : α → Logged Step β}
    {xs : List α} (h : ∀ a ∈ xs, R (f a) (g a)) : R (xs.mapM f) (xs.mapM g) := by
  induction xs with
  | nil => exact hR.refl _
  | cons a xs ih =>
    rw [List.mapM_cons, List.mapM_cons]
    have hrest := ih fun b hb => h b (List.mem_cons_of_mem _ hb)
    exact hR.bind (h a List.mem_cons_self) fun _ => hR.bind hrest fun _ => hR.refl _

namespace Inspection

variable {limit limit' : Nat} {chain chain' : List String} {follow follow' : Follow}

theorem children_related (hR : Logged.Congruence R) {depth : Nat} {nodes : List Json}
    (h : ∀ node ∈ nodes,
      R (item limit chain follow depth node) (item limit' chain' follow' depth node)) :
    R (children limit chain follow depth nodes) (children limit' chain' follow' depth nodes) := by
  induction nodes with
  | nil => rw [children, children]; exact hR.refl _
  | cons node rest ih =>
    rw [children_cons, children_cons]
    refine hR.bind (h node List.mem_cons_self) fun review => ?_
    split
    · exact ih fun other hm => h other (List.mem_cons_of_mem _ hm)
    · exact hR.refl _

theorem child_related (hR : Logged.Congruence R) {depth : Nat} {node : Json}
    (h : R (condition limit chain follow (depth + 1) node)
      (condition limit' chain' follow' (depth + 1) node)) :
    R (child limit chain follow depth node) (child limit' chain' follow' depth node) := by
  rw [child, child]
  split
  · exact h
  · exact hR.refl _

/-- Reviews of a node are related if the references that stand in it are. The flaws of a node itself are
the same on both sides. -/
theorem condition_related_of_nodes (hR : Logged.Congruence R)
    (hreach : ∀ depth, R (Expansion.reach limit chain depth) (Expansion.reach limit' chain' depth))
    (node : Json) (hfollow : ∀ id, node.HasNode (.string id) → ∀ role depth,
      R (follow id role depth) (follow' id role depth)) :
    (∀ depth, R (condition limit chain follow depth node)
      (condition limit' chain' follow' depth node)) ∧
    ∀ depth, R (item limit chain follow depth node) (item limit' chain' follow' depth node) := by
  induction node using Json.children_induction with
  | step node ih =>
  have hcondition (depth : Nat) :
      R (condition limit chain follow depth node) (condition limit' chain' follow' depth node) := by
    cases hs : node.isString with
    | true =>
      obtain ⟨id, rfl⟩ := Json.exists_of_isString hs
      rw [condition_string, condition_string]
      exact hR.bind (hreach depth) fun _ => hfollow id .self .root depth
    | false =>
      cases hf : node.conditionFlaw? depth with
      | some flaw =>
        rw [condition_of_flaw hs hf, condition_of_flaw hs hf]
        exact hR.bind (hreach depth) fun _ => hR.refl _
      | none =>
        obtain ⟨_, ⟨nodes, hc, _⟩, _⟩ := Json.conditionFlaw?_eq_none_iff.mp hf
        rw [condition_of_flawless hf hc, condition_of_flawless hf hc]
        refine hR.bind (hreach depth) fun _ => children_related hR fun child hm => ?_
        exact (ih nodes hc child hm fun id hid => hfollow id (.of_children? hc hm hid)).2 depth
  refine ⟨hcondition, fun depth => ?_⟩
  cases hs : node.isString with
  | true =>
    obtain ⟨id, rfl⟩ := Json.exists_of_isString hs
    exact hfollow id .self .child depth
  | false =>
    rw [item_of_not_string hs, item_of_not_string hs]
    exact child_related hR (hcondition (depth + 1))

/-- Reviews of a node are related if their parts are. -/
theorem condition_related (hR : Logged.Congruence R)
    (hreach : ∀ depth, R (Expansion.reach limit chain depth) (Expansion.reach limit' chain' depth))
    (hfollow : ∀ id role depth, R (follow id role depth) (follow' id role depth)) (node : Json) :
    (∀ depth, R (condition limit chain follow depth node)
      (condition limit' chain' follow' depth node)) ∧
    ∀ depth, R (item limit chain follow depth node) (item limit' chain' follow' depth node) :=
  condition_related_of_nodes hR hreach node fun id _ => hfollow id

/-- Reviews of the conditions that a reference stands for are related if their parts are. -/
theorem visit_related (hR : Logged.Congruence R)
    (hreach : ∀ depth, R (Expansion.reach limit chain depth) (Expansion.reach limit' chain' depth))
    (hfollow : ∀ id role depth, R (follow id role depth) (follow' id role depth)) (store : Store)
    (id : String) (role : Role) (depth : Nat) :
    R (visit store limit chain follow id role depth)
      (visit store limit' chain' follow' id role depth) := by
  refine hR.bind (hR.refl _) fun rule => ?_
  obtain ⟨hcondition, _⟩ := condition_related hR hreach hfollow rule.conditions
  cases role with
  | root => exact hcondition depth
  | child => exact child_related hR (hcondition (depth + 1))

theorem conditions_related (hR : Logged.Congruence R) {store store' : Store}
    {origin origin' : Option String} {written : Json}
    (hroot : ∀ node ∈ rootsOf written,
      R (root store limit origin node) (root store' limit' origin' node)) :
    R (conditions store limit origin written) (conditions store' limit' origin' written) := by
  unfold conditions
  split
  · exact hR.refl _
  · exact hR.bind (hR.mapM hroot) fun _ => hR.refl _

end Inspection

end Reviews

end RuleTree

import RuleTree.Proofs.Guard

/-!
The review as a walk that keeps a guard. The fuel is all that bounds its recursion, and with enough of it
the walk returns for every store, whatever rules refer to each other (`gives_conditions`): it comes to what
`Inspection.conditions` comes to, by the same steps.
-/

namespace RuleTree.Inspection.Guarded

open RuleTree.Guarded

variable (store : Store) (limit : Nat)

mutual

def condition : Nat → Nat → Json → Guarded (Except Failure Review)
  | 0, _, _ => failure
  | fuel + 1, depth, node => do
    match ← ofSteps fun chain => Expansion.reach limit chain depth with
    | .error e => return .error e
    | .ok _ =>
      match node.asString? with
      | some id => reference fuel .root depth id
      | none =>
        match node.conditionFlaw? depth, node.children? with
        | none, some nodes => children fuel depth nodes
        | flaw, _ => return .ok (Flaw.review node flaw)
termination_by structural fuel _ _ => fuel

/-- Reviews children one after the other, up to the first that is refused. -/
def children : Nat → Nat → List Json → Guarded (Except Failure Review)
  | 0, _, _ => failure
  | _ + 1, _, [] => return .ok .ok
  | fuel + 1, depth, node :: rest => do
    match ← item fuel depth node with
    | .error e => return .error e
    | .ok review => if review.accepted then children fuel depth rest else return .ok review
termination_by structural fuel _ _ => fuel

def item : Nat → Nat → Json → Guarded (Except Failure Review)
  | 0, _, _ => failure
  | fuel + 1, depth, node =>
    match node.asString? with
    | some id => reference fuel .child depth id
    | none => child fuel depth node
termination_by structural fuel _ _ => fuel

/-- Reviews a node that stands among children and is no reference. -/
def child : Nat → Nat → Json → Guarded (Except Failure Review)
  | 0, _, _ => failure
  | fuel + 1, depth, node => do
    call .node
    if node.isCondition then condition fuel (depth + 1) node
    else return .ok (Flaw.review node node.leafFlaw?)
termination_by structural fuel _ _ => fuel

/-- Reviews the conditions of a rule, which is entered before and left afterwards. -/
def reference : Nat → Role → Nat → String → Guarded (Except Failure Review)
  | 0, _, _, _ => failure
  | fuel + 1, role, depth, id => do
    call (.reference · id)
    match ← enter limit id with
    | .error e => return .error e
    | .ok _ =>
      match ← ofSteps fun _ => store.fetch id with
      | .error e => return .error e
      | .ok rule =>
        let outcome ← target fuel role depth rule.conditions
        leave
        return outcome
termination_by structural fuel _ _ _ => fuel

/-- Reviews what a reference in some role stands for. -/
def target : Nat → Role → Nat → Json → Guarded (Except Failure Review)
  | 0, _, _, _ => failure
  | fuel + 1, .root, depth, node => condition fuel depth node
  | fuel + 1, .child, depth, node => child fuel depth node
termination_by structural fuel _ _ _ => fuel

end

/-- Reviews roots, each with a new chain, and joins the reviews. -/
def roots (fuel : Nat) (origin : Option String) (first : Review) :
    List Json → Guarded (Except Failure Review)
  | [] => return .ok first
  | node :: rest => do
    start origin
    match ← condition store limit fuel 0 node with
    | .error e => return .error e
    | .ok review => roots fuel origin (first.merge review) rest

def conditions (fuel : Nat) (origin : Option String) (written : Json) :
    Guarded (Except Failure Review) :=
  match written.conditionsFlaw? with
  | some flaw => return .ok (Flaw.review written (some flaw))
  | none => roots store limit fuel origin .ok (rootsOf written)

/-! ## One chain -/

section Chain

variable {store limit} {base chain : List String} {bound : Nat} {follow : Follow}

theorem gives_children {depth : Nat} {nodes : List Json}
    (h : ∀ node ∈ nodes, Keeps store limit base bound chain (item store limit · depth node)
      (Inspection.item limit chain follow depth node)) :
    Keeps store limit base bound chain (children store limit · depth nodes)
      (Inspection.children limit chain follow depth nodes) := by
  refine gives_of_succ ?_
  induction nodes with
  | nil =>
    simp only [children, Inspection.children]
    exact gives_pure _ chain
  | cons node rest ih =>
    simp only [children, children_cons]
    refine gives_bind (h node List.mem_cons_self) (fun _ _ => rfl) fun review _ => ?_
    dsimp only
    split
    · exact gives_of_succ (ih fun other hm => h other (List.mem_cons_of_mem _ hm))
    · exact gives_pure review chain

theorem gives_child {depth : Nat} {node : Json}
    (hg : Expansion.Grown store limit base chain)
    (h : Keeps store limit base bound chain (condition store limit · (depth + 1) node)
      (Inspection.condition limit chain follow (depth + 1) node)) :
    Keeps store limit base bound chain (child store limit · depth node)
      (Inspection.child limit chain follow depth node) := by
  refine gives_of_succ ?_
  simp only [child, Inspection.child]
  refine gives_call (.node hg) rfl ?_
  split
  · exact h
  · exact gives_pure _ chain

/-- A condition, where references give answers. -/
theorem gives_condition_of_reference (hg : Expansion.Grown store limit base chain)
    (hbound : limit < bound)
    (hreference : ∀ role depth id, depth < bound →
      Keeps store limit base bound chain (reference store limit · role depth id)
        (follow id role depth))
    (node : Json) {depth : Nat} (hd : depth ≤ bound) :
    Keeps store limit base bound chain (condition store limit · depth node)
      (Inspection.condition limit chain follow depth node) := by
  induction node using Json.children_induction generalizing depth with
  | step node ih =>
  -- Below a condition that does not lie too deep there is room for one level more.
  have hdeeper (a : Unit) (ha : (Expansion.reach limit chain depth).outcome = .ok a) :
      depth < bound :=
    Nat.lt_of_le_of_lt (Expansion.le_of_reach ha) hbound
  refine gives_of_succ ?_
  simp only [condition]
  cases hs : node.isString with
  | true =>
    obtain ⟨id, rfl⟩ := Json.exists_of_isString hs
    rw [condition_string]
    exact gives_bind (gives_reach hg hd) (fun _ _ => rfl) fun a ha =>
      hreference .root depth id (hdeeper a ha)
  | false =>
    simp only [Json.asString?_of_not_isString hs]
    cases hf : node.conditionFlaw? depth with
    | some flaw =>
      rw [condition_of_flaw hs hf]
      exact gives_bind (gives_reach hg hd) (fun _ _ => rfl) fun _ _ => gives_pure _ chain
    | none =>
      obtain ⟨_, ⟨nodes, hc, _⟩, _⟩ := Json.conditionFlaw?_eq_none_iff.mp hf
      rw [condition_of_flawless hf hc, hc]
      refine gives_bind (gives_reach hg hd) (fun _ _ => rfl) fun a ha =>
        gives_children fun other hm => gives_of_succ ?_
      simp only [item]
      cases hs' : other.isString with
      | true =>
        obtain ⟨id, rfl⟩ := Json.exists_of_isString hs'
        exact hreference .child depth id (hdeeper a ha)
      | false =>
        simp only [Json.asString?_of_not_isString hs']
        rw [item_of_not_string hs']
        exact gives_child hg (ih nodes hc other hm (hdeeper a ha))

end Chain

/-! ## References -/

variable {store limit} {base chain : List String} {bound : Nat}

/-- A reference is entered with a longer chain, and below the limit there is room for only so many. -/
theorem gives_reference (hg : Expansion.Grown store limit base chain) (hbound : limit < bound)
    (role : Role) {depth : Nat} (hd : depth < bound) (id : String) :
    Keeps store limit base bound chain (reference store limit · role depth id)
      (follow store limit chain id role depth) := by
  induction chain using Expansion.chain_induction limit generalizing role depth id with
  | step chain ih =>
  refine gives_of_succ ?_
  simp only [reference]
  rw [follow_eq]
  refine gives_call (.reference hg id) rfl ?_
  cases he : Expansion.enter limit chain id with
  | error e => exact gives_bind_of_fail (gives_enter_of_error he) fun _ => rfl
  | ok inner =>
    obtain ⟨_, _, rfl⟩ := (Expansion.enter_eq_ok_iff limit).mp he
    refine gives_enter_of_ok he (gives_bind (gives_fetch store limit base bound id _)
      (fun _ _ => rfl) fun rule hrule => ?_)
    have hinner : Expansion.Grown store limit base (chain ++ [id]) :=
      hg.enter ⟨he, Store.get?_of_fetch hrule⟩
    have hcondition {depth : Nat} (hd : depth ≤ bound) :
        Keeps store limit base bound (chain ++ [id]) (condition store limit · depth rule.conditions)
          (Inspection.condition limit (chain ++ [id]) (follow store limit (chain ++ [id])) depth
            rule.conditions) :=
      gives_condition_of_reference hinner hbound
        (fun role depth id hd => ih _ _ he hinner role hd id) rule.conditions hd
    -- The rule is left again, so the chain inside it does not show.
    refine gives_leave id (gives_of_succ ?_)
    cases role with
    | root =>
      simp only [target]
      exact hcondition (Nat.le_of_lt hd)
    | child =>
      simp only [target]
      exact gives_child hinner (hcondition hd)

/-- A reference can be reviewed on any chain. -/
theorem restores_reference (role : Role) (depth : Nat) (id : String) :
    Restores (reference store limit · role depth id) :=
  restores_of_gives fun chain => ⟨_, gives_reference (.refl store limit chain)
    (Nat.lt_succ_of_le (Nat.le_max_left limit depth)) role
    (Nat.lt_succ_of_le (Nat.le_max_right limit depth)) id⟩

/-! ## Rules -/

theorem gives_roots (origin : Option String) (first : Review) (nodes : List Json) :
    Keeps store limit (Expansion.start origin) (limit + 1) (Expansion.start origin)
      (roots store limit · origin first nodes)
      (nodes.mapM (root store limit origin) >>= fun reviews =>
        pure (reviews.foldl Review.merge first)) := by
  induction nodes generalizing first with
  | nil => exact gives_pure first _
  | cons node rest ih =>
    simp only [roots, List.mapM_cons, bind_assoc, pure_bind]
    have hnode : Keeps store limit (Expansion.start origin) (limit + 1) (Expansion.start origin)
        (condition store limit · 0 node) (root store limit origin node) :=
      gives_condition_of_reference (.refl store limit _) (Nat.lt_succ_self limit)
        (fun role depth id hd =>
          gives_reference (.refl store limit _) (Nat.lt_succ_self limit) role hd id)
        node (Nat.zero_le _)
    exact gives_start (gives_bind hnode (fun _ _ => rfl) fun review _ => ih (first.merge review))

/-- The guarded review comes to what the review comes to, by the same steps. -/
theorem gives_conditions (store : Store) (limit : Nat) (origin : Option String) (written : Json) :
    Keeps store limit (Expansion.start origin) (limit + 1) (Expansion.start origin)
      (conditions store limit · origin written)
      (Inspection.conditions store limit origin written) := by
  unfold conditions Inspection.conditions
  cases written.conditionsFlaw? with
  | some flaw => exact gives_pure _ _
  | none => exact gives_roots origin .ok (rootsOf written)

def circularStore : Store :=
  ⟨[("a", ⟨"a", "", .object [("all", .array [.string "b"])], none⟩),
    ("b", ⟨"b", "", .object [("all", .array [.string "a"])], none⟩)]⟩

example : (conditions circularStore 64 10 (some "a") (.object [("all", .array [.string "b"])])
    (.new (some "a"))).map Prod.fst = some (.error (.referenceCycle ["a", "b", "a"])) := rfl

end RuleTree.Inspection.Guarded

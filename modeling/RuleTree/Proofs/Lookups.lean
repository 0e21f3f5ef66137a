import RuleTree.Proofs.Execution

/-!
The rules that are asked for. A review that accepts goes through everything; an evaluation goes through
the same nodes in the same order, but stops where a child decides. So it asks for a part of what the
review has asked for, in the same order, and no lookup fails (`Store.evaluate_lookups`).
-/

namespace RuleTree

open Inspection (Approved Entered Role)

def Step.lookup? : Step → Option String
  | .lookedUp id _ => some id
  | .reached .. => none

def Event.lookup? : Event → Option String
  | .step s => s.lookup?
  | _ => none

def Logged.lookups {α : Type} (x : Logged Step α) : List String :=
  x.log.filterMap Step.lookup?

def Logged.asked {α : Type} (x : Logged Event α) : List String :=
  x.log.filterMap Event.lookup?

variable {store : Store} {limit : Nat} {isEmpty : Emptiness} {record : Json}

/-! ## The review -/

namespace Inspection

variable {chain : List String} {follow : Follow} {depth : Nat}

theorem lookups_reach_bind (hd : depth ≤ limit) (f : Unit → Logged Step Review) :
    (Expansion.reach limit chain depth >>= f).lookups = (f ()).lookups := by
  simp [Logged.lookups, Expansion.reach, Nat.not_lt.mpr hd, Logged.after,
    List.filterMap_cons_none (f := Step.lookup?) (a := .reached chain depth) rfl]

theorem lookups_fetch_bind {id : String} {rule : Rule} (hr : store.get? id = some rule)
    (f : Rule → Logged Step Review) :
    (store.fetch id >>= f).lookups = id :: (f rule).lookups := by
  simp [Logged.lookups, Store.fetch, hr, Logged.after, Step.lookup?]

/-- Where all children are accepted, each of them is gone through. -/
theorem lookups_children {nodes : List Json}
    (h : ∀ node ∈ nodes, (item limit chain follow depth node).Accepted) :
    (children limit chain follow depth nodes).lookups =
      nodes.flatMap fun node => (item limit chain follow depth node).lookups := by
  induction nodes with
  | nil => rw [children]; rfl
  | cons node rest ih =>
    obtain ⟨review, ho, ha⟩ := h node List.mem_cons_self
    rw [List.flatMap_cons, ← ih fun other hm => h other (List.mem_cons_of_mem _ hm), children_cons]
    simp only [Logged.lookups]
    rw [Logged.log_bind_of_ok ho, if_pos ha, List.filterMap_append]

theorem lookups_follow_of_entered {inner : List String} {id : String} {rule : Rule}
    (he : Entered store limit chain id inner rule) (role : Role) (depth : Nat) :
    (Inspection.follow store limit chain id role depth).lookups =
      id :: match role with
        | .root => (condition limit inner (Inspection.follow store limit inner) depth
            rule.conditions).lookups
        | .child => (child limit inner (Inspection.follow store limit inner) depth
            rule.conditions).lookups := by
  rw [follow_eq, he.enter]
  simp only [visit]
  rw [lookups_fetch_bind he.stored]
  cases role <;> rfl

end Inspection

/-! ## The evaluation -/

namespace Evaluation

variable {chain : List String} {follow : Follow} {depth : Nat} {place : Place} {q : Quantifier}

theorem asked_bind {α β : Type} (x : Walk α) (f : α → Walk β) (cache : PatternCache) :
    ((x >>= f) cache).1.asked = (x cache).1.asked ++
      match (x cache).1.outcome with
      | .ok a => (f a (x cache).2).1.asked
      | .error _ => [] := by
  rw [Logged.asked, Walk.log_bind, List.filterMap_append]
  cases (x cache).1.outcome <;> rfl

/-- A condition asks for what its children ask for. -/
theorem asked_tree_condition (hd : depth ≤ limit) (nodes : List Tree) (result : Option Json)
    (cache : PatternCache) :
    (tree isEmpty record limit chain follow depth place (.condition q nodes result) cache).1.asked =
      (children isEmpty record limit chain follow depth place q 0 nodes cache).1.asked := by
  rw [tree, asked_bind, outcome_reach hd cache]
  show [] ++ ((Walk.write (.opened place q nodes.length) >>= fun _ =>
    children isEmpty record limit chain follow depth place q 0 nodes >>= fun held => _)
      cache).1.asked = _
  rw [List.nil_append, asked_bind]
  show [] ++ ((children isEmpty record limit chain follow depth place q 0 nodes >>= fun held => _)
    cache).1.asked = _
  rw [List.nil_append, asked_bind]
  cases (children isEmpty record limit chain follow depth place q 0 nodes cache).1.outcome with
  | error e => exact List.append_nil _
  | ok held => exact List.append_nil _

/-- Children ask for a part of what their counterparts ask for: those after a decision are left
out. -/
theorem asked_children_sublist {nodes : List Json} {ts : List Tree} {ids : Json → List String}
    (h : List.Forall₂ (fun node t => ∀ place cache,
      (tree isEmpty record limit chain follow (depth + 1) place t cache).1.asked.Sublist
        (ids node)) nodes ts)
    (index : Nat) (cache : PatternCache) :
    (children isEmpty record limit chain follow depth place q index ts cache).1.asked.Sublist
      (nodes.flatMap ids) := by
  induction h generalizing index cache with
  | nil => exact .slnil
  | @cons node t nodes ts ht _ ih =>
    rw [children, asked_bind, List.flatMap_cons]
    refine (ht (place.child q index) cache).append ?_
    cases (tree isEmpty record limit chain follow (depth + 1) (place.child q index) t
      cache).1.outcome with
    | error e => exact List.nil_sublist _
    | ok outcome =>
      simp only
      split
      · exact List.nil_sublist _
      · exact ih (index + 1) _

theorem asked_follow_of_entered {inner : List String} {id : String} {rule : Rule}
    (he : Entered store limit chain id inner rule) (depth : Nat) (place : Place)
    (cache : PatternCache) :
    (Evaluation.follow store isEmpty record limit chain id depth place cache).1.asked =
      id :: match Condition.ofJson rule.conditions with
        | .ok c => (tree isEmpty record limit inner
            (Evaluation.follow store isEmpty record limit inner) depth place c.tree cache).1.asked
        | .error _ => [] := by
  have hfetch : Walk.ofSteps (store.fetch id) cache =
      (⟨[.step (.lookedUp id true)], .ok rule⟩, cache) := by
    simp [Store.fetch, he.stored]
  rw [follow_eq, he.enter]
  simp only [visit]
  rw [asked_bind, hfetch]
  simp only
  cases Condition.ofJson rule.conditions <;> rfl

end Evaluation

/-! ## Side by side -/

/-- What a review of a node in some role asks for. A child stands one level below its parent. -/
def Inspection.reviewed (store : Store) (limit : Nat) (chain : List String) (depth : Nat)
    (node : Json) : Role → Logged Step Review
  | .root => condition limit chain (follow store limit chain) depth node
  | .child => item limit chain (follow store limit chain) (depth - 1) node

theorem Inspection.reviewed_of_isCondition {role : Role} {chain : List String} {depth : Nat}
    {node : Json} (h : node.isCondition = true) (hd : role = .child → 0 < depth) :
    reviewed store limit chain depth node role =
      condition limit chain (follow store limit chain) depth node := by
  cases role with
  | root => rfl
  | child => rw [reviewed, item_of_isCondition h, Nat.sub_add_cancel (hd rfl)]

theorem asked_sublist_of_approved {role : Role} {chain : List String} {depth : Nat} {node : Json}
    (h : Approved store limit role chain depth node) (hd : role = .child → 0 < depth) {t : Tree}
    (ht : Tree.ofJson node = .ok t) (place : Place) (cache : PatternCache) :
    (Evaluation.tree isEmpty record limit chain
      (Evaluation.follow store isEmpty record limit chain) depth place t cache).1.asked.Sublist
      (Inspection.reviewed store limit chain depth node role).lookups := by
  induction h generalizing t place cache with
  | @condition role chain depth node nodes hle hf hc hn ih =>
    obtain ⟨q, hq, _⟩ := Json.children?_eq_some_iff.mp hc
    obtain ⟨ts, hts, _, hread⟩ :=
      exists_condition_of_flawless hf hq hc fun child hm => (hn child hm).exists_tree
    obtain rfl := Except.ok.inj (hread.symm.trans ht)
    rw [Evaluation.asked_tree_condition hle,
      Inspection.reviewed_of_isCondition (Json.isCondition_of_children? hc) hd,
      Inspection.condition_of_flawless hf hc, Inspection.lookups_reach_bind hle,
      Inspection.lookups_children fun child hm =>
        (Inspection.accepted_item_iff chain depth child).mpr (hn child hm)]
    obtain ⟨hl, hpairs⟩ := List.forall₂_iff_zip.mp hts
    refine Evaluation.asked_children_sublist (List.forall₂_iff_zip.mpr ⟨hl, fun hm => ?_⟩) 0 cache
    exact fun place cache =>
      ih _ (List.of_mem_zip hm).1 (fun _ => Nat.succ_pos depth) (hpairs hm) place cache
  | @leaf chain depth node hn hf =>
    obtain ⟨c, hw, _⟩ := Json.leafFlaw?_eq_none_iff.mp hf
    obtain rfl := Except.ok.inj ((Tree.ofJson_of_writes hn hw).symm.trans ht)
    exact List.nil_sublist _
  | @rootReference chain inner depth id rule hle he ha ih =>
    cases ht
    rw [Evaluation.tree, Evaluation.asked_follow_of_entered he, Inspection.reviewed,
      Inspection.condition_string, Inspection.lookups_reach_bind hle,
      Inspection.lookups_follow_of_entered he]
    refine List.Sublist.cons_cons id ?_
    rcases Evaluation.condition_of_approved ha with ⟨_, c, _, hcond, htree⟩ | ⟨_, _, m, hcond⟩
    · rw [hcond]
      exact ih (fun hrole => by cases hrole) htree place cache
    · rw [hcond]
      exact List.nil_sublist _
  | @childReference chain inner depth id rule he hs ha ih =>
    cases ht
    rw [Evaluation.tree, Evaluation.asked_follow_of_entered he, Inspection.reviewed, Inspection.item,
      Inspection.lookups_follow_of_entered he]
    refine List.Sublist.cons_cons id ?_
    rcases Evaluation.condition_of_approved ha with ⟨_, c, _, hcond, htree⟩ | ⟨_, _, m, hcond⟩
    · rw [hcond]
      simp only
      rw [← Inspection.item_of_not_string hs]
      exact ih hd htree place cache
    · rw [hcond]
      exact List.nil_sublist _

/-! ## Roots -/

/-- Roots ask for a part of what their counterparts ask for: those after the first that holds are left
out. -/
theorem Evaluation.asked_roots_sublist {origin : Option String} {nodes : List Json}
    {ts : List Tree} {ids : Json → List String}
    (h : List.Forall₂ (fun node t => ∀ index cache,
      (root store isEmpty record limit origin index t cache).1.asked.Sublist (ids node)) nodes ts)
    (index : Nat) (cache : PatternCache) :
    (roots store isEmpty record limit origin index ts cache).1.asked.Sublist
      (nodes.flatMap ids) := by
  induction h generalizing index cache with
  | nil => exact .slnil
  | @cons node t nodes ts ht _ ih =>
    rw [roots, asked_bind, List.flatMap_cons]
    refine (ht index cache).append ?_
    cases (root store isEmpty record limit origin index t cache).1.outcome with
    | error e => exact List.nil_sublist _
    | ok outcome =>
      simp only
      split
      · exact List.nil_sublist _
      · exact ih (index + 1) _

theorem Inspection.lookups_roots {origin : Option String} {nodes : List Json}
    (h : (roots store limit origin nodes).Accepted) :
    (roots store limit origin nodes).lookups =
      nodes.flatMap fun node => (root store limit origin node).lookups := by
  obtain ⟨reviews, hr, _⟩ := (accepted_bind_iff _ _).mp h
  rw [roots, Logged.lookups, Logged.log_bind_of_ok hr, Logged.log_mapM_of_ok hr]
  simp [Logged.lookups, List.filterMap_flatMap]

namespace Store

variable {rule : Rule}

theorem lookups_review (h : (store.review limit rule).Accepted) :
    (store.review limit rule).lookups =
      rule.roots.flatMap fun node => (Inspection.root store limit rule.origin? node).lookups := by
  have hf : rule.conditions.conditionsFlaw? = none := by
    obtain ⟨hne, hfirst, _⟩ := (accepted_review_iff store limit rule).mp h
    exact (Inspection.conditionsFlaw?_eq_none_iff _).mpr ⟨hne, hfirst⟩
  rw [review, Inspection.conditions, hf] at h ⊢
  exact Inspection.lookups_roots h

/-- **A review discharges the lookups.** Evaluating an accepted rule fails over no lookup of a rule: none
is missing, refers back to itself or lies too deep. The ids that it asks for are a subsequence of those
that the review has asked for. -/
theorem evaluate_lookups (h : (store.review limit rule).Accepted) (isEmpty : Emptiness)
    (traced : Bool) (record : Json) (cache : PatternCache) :
    (∀ e, (store.evaluate limit isEmpty traced rule record cache).1.outcome = .error e →
      e.isLookup = false) ∧
    (store.evaluate limit isEmpty traced rule record cache).1.asked.Sublist
      (store.review limit rule).lookups := by
  constructor
  · intro e he
    obtain ⟨us, hus⟩ := exists_unfoldings_of_accepted h
    obtain ⟨herror, hok⟩ := outcome_decide_of_accepted h hus isEmpty record cache
    rw [outcome_evaluate] at he
    by_cases hs : Unfolding.StumblesAmong isEmpty record .any us
    · obtain ⟨e', ho, _, _, _, _, _, rfl⟩ := herror hs
      rw [ho] at he
      cases he
      rfl
    · obtain ⟨found, ho, _⟩ := hok hs
      rw [ho] at he
      cases he
  · obtain ⟨_, _, ha⟩ := (accepted_review_iff store limit rule).mp h
    obtain ⟨ts, hts⟩ := exists_trees_of_accepted h
    obtain ⟨hl, hpairs⟩ := List.forall₂_iff_zip.mp ((trees_eq_ok_iff ts).mp hts)
    rw [lookups_review h]
    show (store.decide limit isEmpty rule record cache).1.asked.Sublist _
    rw [decide, hts]
    refine Evaluation.asked_roots_sublist (List.forall₂_iff_zip.mpr ⟨hl, fun hm => ?_⟩) 0 cache
    intro index cache
    have hroot := ha _ (List.of_mem_zip hm).1
    rw [Evaluation.root_eq_tree hroot (hpairs hm)]
    exact asked_sublist_of_approved hroot (fun hrole => by cases hrole) (hpairs hm) ⟨index, []⟩
      cache

/-- A rule that refers to the same rule twice, and is decided by the first reference. -/
def twiceRule : Rule := ⟨"r", "", .object [("any", .array [.string "adult", .string "adult"])], none⟩

theorem twiceRule_lookups :
    (sampleStore.review 64 twiceRule).Accepted ∧
      (sampleStore.review 64 twiceRule).lookups = ["adult", "adult"] ∧
      (sampleStore.evaluate 64 .standard false twiceRule agedRecord (.empty 256)).1.asked =
        ["adult"] ∧
      ["adult"].Sublist ["adult", "adult"] := by
  have h : (sampleStore.review 64 twiceRule).Accepted := ⟨_, rfl, rfl⟩
  exact ⟨h, rfl, rfl, (evaluate_lookups h .standard false agedRecord (.empty 256)).2⟩

end Store

end RuleTree

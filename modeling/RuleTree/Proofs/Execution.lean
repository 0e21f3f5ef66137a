import RuleTree.Proofs.Grammar
import RuleTree.Proofs.Lowering
import RuleTree.Proofs.Meaning

/-!
Evaluating what a review has accepted. The evaluation of an approved node explains its unfolding
(`explains_of_approved`): it comes to what the unfolding means, unless it stumbles over a reference to a
rule that does not hold a condition, and it fails for no other reason.
-/

namespace RuleTree

open Inspection (Approved Entered Role)

/-- The failure over a rule whose conditions are not a single condition. -/
def Unfit (store : Store) (e : Failure) : Prop :=
  ∃ id rule m, store.get? id = some rule ∧ rule.conditions.isCondition = false ∧
    e = .malformedNode
      ("rule '" ++ id ++ "' does not hold a single condition: " ++ Mismatch.message m)
      rule.conditions

namespace Evaluation

variable {store : Store} {limit : Nat} {isEmpty : Emptiness} {record : Json}

/-- An outcome is what an unfolding means, or a failure exactly where it stumbles. -/
structure Explains (store : Store) (isEmpty : Emptiness) (record : Json) (u : Unfolding)
    (outcome : Except Failure Outcome) : Prop where
  ok : ¬ u.Stumbles isEmpty record → outcome = .ok ⟨u.holds isEmpty record, u.result?⟩
  error : u.Stumbles isEmpty record → ∃ e, outcome = .error e ∧ Unfit store e

/-! ## Parts of the walk -/

section Parts

variable {chain : List String} {follow : Follow} {depth : Nat} {place : Place} {q : Quantifier}

theorem outcome_reach (hd : depth ≤ limit) (cache : PatternCache) :
    (Walk.ofSteps (Expansion.reach limit chain depth) cache).1.outcome = .ok () := by
  simp [Expansion.reach, Nat.not_lt.mpr hd]

/-- A condition that does not lie too deep comes to what its children come to. -/
theorem outcome_tree_condition (hd : depth ≤ limit) (nodes : List Tree) (result : Option Json)
    (cache : PatternCache) :
    (tree isEmpty record limit chain follow depth place (.condition q nodes result) cache).1.outcome =
      (children isEmpty record limit chain follow depth place q 0 nodes cache).1.outcome.map
        (⟨·, result⟩) := by
  rw [tree, Walk.outcome_bind_of_ok (outcome_reach hd cache),
    Walk.outcome_bind_of_ok (a := ()) rfl]
  show ((children isEmpty record limit chain follow depth place q 0 nodes >>= fun held => _)
    cache).1.outcome = _
  cases h : (children isEmpty record limit chain follow depth place q 0 nodes cache).1.outcome with
  | error e => rw [Walk.outcome_bind_of_error h]; rfl
  | ok held => rw [Walk.outcome_bind_of_ok h, Walk.outcome_bind_of_ok (a := ()) rfl]; rfl

/-- Short circuit against the whole: children that explain their unfoldings come to the join of all
of these, unless they stumble before one decides. -/
theorem outcome_children (place : Place) (q : Quantifier) {us : List Unfolding} {ts : List Tree}
    (h : List.Forall₂ (fun u t => ∀ place cache, Explains store isEmpty record u
      (tree isEmpty record limit chain follow (depth + 1) place t cache).1.outcome) us ts)
    (index : Nat) (cache : PatternCache) :
    (Unfolding.StumblesAmong isEmpty record q us → ∃ e,
      (children isEmpty record limit chain follow depth place q index ts cache).1.outcome =
        .error e ∧ Unfit store e) ∧
    (¬ Unfolding.StumblesAmong isEmpty record q us →
      (children isEmpty record limit chain follow depth place q index ts cache).1.outcome =
        .ok (q.join (Unfolding.holdsEach isEmpty record us))) := by
  induction h generalizing index cache with
  | nil =>
    refine ⟨fun hs => absurd hs Unfolding.not_stumblesAmong_nil, fun _ => ?_⟩
    rw [children, Unfolding.holdsEach, Quantifier.join_nil]
    rfl
  | @cons u t us ts hu _ ih =>
    rw [Unfolding.stumblesAmong_cons_iff, children, Unfolding.holdsEach, Quantifier.join_cons]
    have he := hu (place.child q index) cache
    by_cases hs : u.Stumbles isEmpty record
    · obtain ⟨e, ho, hunfit⟩ := he.error hs
      rw [Walk.outcome_bind_of_error ho]
      exact ⟨fun _ => ⟨e, rfl, hunfit⟩, fun hn => absurd (.inl hs) hn⟩
    · rw [Walk.outcome_bind_of_ok (he.ok hs)]
      simp only [hs, false_or]
      cases hd : q.decidedBy (u.holds isEmpty record) with
      | true => exact ⟨fun h => by simp at h, fun _ => rfl⟩
      | false =>
        have hrest := ih (index + 1)
          (tree isEmpty record limit chain follow (depth + 1) (place.child q index) t cache).2
        simpa using hrest

end Parts

/-! ## References -/

theorem follow_eq (store : Store) (isEmpty : Emptiness) (record : Json) (limit : Nat)
    (chain : List String) (id : String) (depth : Nat) (place : Place) :
    follow store isEmpty record limit chain id depth place =
      match Expansion.enter limit chain id with
      | .error e => Walk.fail e
      | .ok inner =>
        visit store isEmpty record limit inner (follow store isEmpty record limit inner) id depth
          place := by
  rw [follow, Expansion.expand_eq]
  cases Expansion.enter limit chain id <;> rfl

theorem follow_of_entered {chain inner : List String} {id : String} {rule : Rule}
    (he : Entered store limit chain id inner rule) (depth : Nat) (place : Place)
    (cache : PatternCache) :
    (follow store isEmpty record limit chain id depth place cache).1.outcome =
      match Condition.ofJson rule.conditions with
      | .ok c =>
        (tree isEmpty record limit inner (follow store isEmpty record limit inner) depth place c.tree
          cache).1.outcome
      | .error m => .error (.malformedNode
          ("rule '" ++ id ++ "' does not hold a single condition: " ++ m.message)
          rule.conditions) := by
  have hfetch : (Walk.ofSteps (store.fetch id) cache).1.outcome = .ok rule := by
    simp [Store.fetch, he.stored]
  rw [follow_eq, he.enter]
  simp only [visit]
  rw [Walk.outcome_bind_of_ok hfetch]
  cases Condition.ofJson rule.conditions <;> rfl

/-- The conditions of a rule that was entered are a condition that can be read, or no condition. -/
theorem condition_of_approved {role : Role} {chain : List String} {depth : Nat} {node : Json}
    (h : Approved store limit role chain depth node) :
    (∃ nodes c, node.children? = some nodes ∧ Condition.ofJson node = .ok c ∧
      Tree.ofJson node = .ok c.tree) ∨
    (node.isCondition = false ∧ node.children? = none ∧ ∃ m, Condition.ofJson node = .error m) := by
  cases h with
  | condition _ hf hc hn =>
    obtain ⟨q, hq, _⟩ := Json.children?_eq_some_iff.mp hc
    obtain ⟨ts, _, hcond, ht⟩ :=
      exists_condition_of_flawless hf hq hc fun child hm => (hn child hm).exists_tree
    exact .inl ⟨_, _, hc, hcond, ht⟩
  | leaf hn hf =>
    obtain ⟨c, hw, _⟩ := Json.leafFlaw?_eq_none_iff.mp hf
    refine .inr ⟨hn, ?_, _, Condition.ofJson_of_writes hn hw⟩
    cases hc : Json.children? _ with
    | none => rfl
    | some nodes => rw [Json.isCondition_of_children? hc] at hn; cases hn
  | rootReference _ _ _ => exact .inr ⟨rfl, rfl, _, rfl⟩
  | childReference _ _ _ => exact .inr ⟨rfl, rfl, _, rfl⟩

theorem explains_reference {role : Role} {chain inner : List String} {depth : Nat} {id : String}
    {rule : Rule} {target : Unfolding} (he : Entered store limit chain id inner rule)
    (ha : Approved store limit role inner depth rule.conditions)
    (ht : Unfolds store rule.conditions target) (place : Place) (cache : PatternCache)
    (ih : ∀ t, Tree.ofJson rule.conditions = .ok t → Explains store isEmpty record target
      (tree isEmpty record limit inner (follow store isEmpty record limit inner) depth place t
        cache).1.outcome) :
    Explains store isEmpty record (.reference id target)
      (follow store isEmpty record limit chain id depth place cache).1.outcome := by
  rw [follow_of_entered he]
  rcases condition_of_approved ha with ⟨nodes, c, hc, hcond, htree⟩ | ⟨hn, hc, m, hcond⟩
  · obtain ⟨q, us, _, _, _, rfl⟩ := ht.of_children? hc
    have hi := ih c.tree htree
    rw [hcond]
    refine ⟨fun hs => hi.ok fun h => hs (.target h), fun hs => hi.error ?_⟩
    exact (Unfolding.stumbles_reference_iff.mp hs).resolve_left nofun
  · have hunfit := ht.isCondition_eq_false hc
    rw [hcond]
    exact ⟨fun hs => absurd (.unfit hunfit) hs, fun _ => ⟨_, rfl, id, rule, m, he.stored, hn, rfl⟩⟩

/-! ## Approved nodes -/

theorem explains_of_approved {role : Role} {chain : List String} {depth : Nat} {node : Json}
    (h : Approved store limit role chain depth node) {u : Unfolding} (hu : Unfolds store node u)
    {t : Tree} (ht : Tree.ofJson node = .ok t) (place : Place) (cache : PatternCache) :
    Explains store isEmpty record u
      (tree isEmpty record limit chain (follow store isEmpty record limit chain) depth place t
        cache).1.outcome := by
  induction h generalizing u t place cache with
  | @condition role chain depth node nodes hd hf hc hn ih =>
    obtain ⟨q, us, hq, hl, hus, rfl⟩ := hu.of_children? hc
    obtain ⟨ts, hts, _, hread⟩ :=
      exists_condition_of_flawless hf hq hc fun child hm => (hn child hm).exists_tree
    obtain rfl := Except.ok.inj (hread.symm.trans ht)
    have hpairs := forall₂_of_forall₂_left (List.forall₂_iff_zip.mpr ⟨hl, fun hm => hus _ _ hm⟩) hts
      fun child hm c t hcu hct place cache => ih child hm hcu hct place cache
    obtain ⟨herror, hok⟩ := outcome_children place q hpairs 0 cache
    rw [outcome_tree_condition hd]
    refine ⟨fun hs => ?_, fun hs => ?_⟩
    · rw [hok fun h => hs (Unfolding.stumbles_condition_iff.mpr h)]
      rfl
    · obtain ⟨e, he, hunfit⟩ := herror (Unfolding.stumbles_condition_iff.mp hs)
      exact ⟨e, by rw [he]; rfl, hunfit⟩
  | @leaf chain depth node hn hf =>
    obtain ⟨c, hw, _⟩ := Json.leafFlaw?_eq_none_iff.mp hf
    obtain rfl := Except.ok.inj ((Tree.ofJson_of_writes hn hw).symm.trans ht)
    obtain rfl := hu.of_leafFlaw? hn hf
    refine ⟨fun _ => ?_, fun hs => absurd hs Unfolding.not_stumbles_leaf⟩
    rw [Unfolding.holds, Constraint.ofJson_of_writes hw]
    show Except.ok (Outcome.mk (c.check isEmpty record cache).1 none) = _
    rw [c.check_fst]
    rfl
  | rootReference _ he ha ih | childReference he _ ha ih =>
    obtain ⟨target, htarget, rfl⟩ := hu.of_entered he
    cases ht
    exact explains_reference he ha htarget place cache fun t ht => ih htarget ht place cache

/-! ## Roots -/

/-- An approved root is no constraint, so it is evaluated like any other node. -/
theorem root_eq_tree {origin : Option String} {node : Json}
    (h : Approved store limit .root (Expansion.start origin) 0 node) {t : Tree}
    (ht : Tree.ofJson node = .ok t) (index : Nat) :
    root store isEmpty record limit origin index t =
      tree isEmpty record limit (Expansion.start origin)
        (follow store isEmpty record limit (Expansion.start origin)) 0 ⟨index, []⟩ t := by
  cases h with
  | condition _ hf hc hn =>
    obtain ⟨q, hq, _⟩ := Json.children?_eq_some_iff.mp hc
    obtain ⟨_, _, _, hread⟩ :=
      exists_condition_of_flawless hf hq hc fun child hm => (hn child hm).exists_tree
    obtain rfl := Except.ok.inj (hread.symm.trans ht)
    rfl
  | rootReference _ _ _ =>
    cases ht
    rfl

/-- Roots that explain their unfoldings are tried up to the first that holds, unless they stumble
before. -/
theorem outcome_roots {origin : Option String} {us : List Unfolding} {ts : List Tree}
    (h : List.Forall₂ (fun u t => ∀ index cache, Explains store isEmpty record u
      (root store isEmpty record limit origin index t cache).1.outcome) us ts)
    (index : Nat) (cache : PatternCache) :
    (Unfolding.StumblesAmong isEmpty record .any us → ∃ e,
      (roots store isEmpty record limit origin index ts cache).1.outcome = .error e ∧
        Unfit store e) ∧
    (¬ Unfolding.StumblesAmong isEmpty record .any us → ∃ found,
      (roots store isEmpty record limit origin index ts cache).1.outcome = .ok found ∧
        found.map Prod.fst = (us.findIdx? (·.holds isEmpty record)).map (index + ·) ∧
        found.map Prod.snd = (us.find? (·.holds isEmpty record)).map (·.result?)) := by
  induction h generalizing index cache with
  | nil =>
    exact ⟨fun hs => absurd hs Unfolding.not_stumblesAmong_nil, fun _ => ⟨none, rfl, rfl, rfl⟩⟩
  | @cons u t us ts hu _ ih =>
    rw [Unfolding.stumblesAmong_cons_iff, roots, List.findIdx?_cons, List.find?_cons]
    have he := hu index cache
    by_cases hs : u.Stumbles isEmpty record
    · obtain ⟨e, ho, hunfit⟩ := he.error hs
      rw [Walk.outcome_bind_of_error ho]
      exact ⟨fun _ => ⟨e, rfl, hunfit⟩, fun hn => absurd (.inl hs) hn⟩
    · rw [Walk.outcome_bind_of_ok (he.ok hs)]
      simp only [hs, false_or, Quantifier.decidedBy]
      cases hd : u.holds isEmpty record with
      | true => exact ⟨fun h => by simp at h, fun _ => ⟨_, rfl, by simp, by simp⟩⟩
      | false =>
        obtain ⟨herror, hok⟩ := ih (index + 1)
          (root store isEmpty record limit origin index t cache).2
        refine ⟨fun h => herror h.2, fun hn => ?_⟩
        obtain ⟨found, ho, hindex, hresult⟩ := hok fun h => hn ⟨rfl, h⟩
        refine ⟨found, ho, ?_, hresult⟩
        rw [hindex]
        cases List.findIdx? _ us <;> simp [Nat.add_assoc, Nat.add_comm 1]

end Evaluation

/-! ## Rules -/

namespace Store

variable {store : Store} {limit : Nat} {rule : Rule}

/-- An accepted rule can be read, and each of its roots has an unfolding. -/
theorem exists_unfoldings_of_accepted (h : (store.review limit rule).Accepted) :
    ∃ us, List.Forall₂ (Unfolds store) rule.roots us := by
  obtain ⟨_, _, ha⟩ := (accepted_review_iff store limit rule).mp h
  obtain ⟨us, hl, hus⟩ := exists_zip_of_forall_exists fun root hm => by
    obtain ⟨u, hu, _⟩ := exists_unfolding_of_approved (ha root hm) (Expansion.start_nodup _)
    exact ⟨u, hu⟩
  exact ⟨us, List.forall₂_iff_zip.mpr ⟨hl, fun hm => hus _ _ hm⟩⟩

theorem trees_eq_ok_iff (ts : List Tree) :
    rule.trees = .ok ts ↔ List.Forall₂ (fun root t => Tree.ofJson root = .ok t) rule.roots ts :=
  mapM_eq_ok_iff Tree.ofJson rule.roots ts

theorem exists_trees_of_accepted (h : (store.review limit rule).Accepted) :
    ∃ ts, rule.trees = .ok ts := by
  obtain ⟨_, _, ha⟩ := (accepted_review_iff store limit rule).mp h
  obtain ⟨ts, hts⟩ := exists_trees_of_forall_exists fun root hm => (ha root hm).exists_tree
  exact ⟨ts, (trees_eq_ok_iff ts).mpr hts⟩

/-- An accepted rule is decided by the first of its roots that holds, unless they stumble before. -/
theorem outcome_decide_of_accepted (h : (store.review limit rule).Accepted)
    {us : List Unfolding} (hus : List.Forall₂ (Unfolds store) rule.roots us) (isEmpty : Emptiness)
    (record : Json) (cache : PatternCache) :
    (Unfolding.StumblesAmong isEmpty record .any us → ∃ e,
      (store.decide limit isEmpty rule record cache).1.outcome = .error e ∧ Unfit store e) ∧
    (¬ Unfolding.StumblesAmong isEmpty record .any us → ∃ found,
      (store.decide limit isEmpty rule record cache).1.outcome = .ok found ∧
        found.map Prod.fst = us.findIdx? (·.holds isEmpty record) ∧
        found.map Prod.snd = (us.find? (·.holds isEmpty record)).map (·.result?)) := by
  obtain ⟨_, _, ha⟩ := (accepted_review_iff store limit rule).mp h
  obtain ⟨ts, hts⟩ := exists_trees_of_accepted h
  have hpairs : List.Forall₂ (fun u t => ∀ index cache, Evaluation.Explains store isEmpty record u
      (Evaluation.root store isEmpty record limit rule.origin? index t cache).1.outcome) us ts :=
    forall₂_of_forall₂_left hus ((trees_eq_ok_iff ts).mp hts) fun root hm u t hu ht index cache => by
      rw [Evaluation.root_eq_tree (ha root hm) ht]
      exact Evaluation.explains_of_approved (ha root hm) hu ht ⟨index, []⟩ cache
  rw [decide, hts]
  simpa using Evaluation.outcome_roots hpairs 0 cache

theorem outcome_evaluate (store : Store) (limit : Nat) (isEmpty : Emptiness) (traced : Bool)
    (rule : Rule) (record : Json) (cache : PatternCache) :
    (store.evaluate limit isEmpty traced rule record cache).1.outcome =
      (store.decide limit isEmpty rule record cache).1.outcome.map (Report.ofLog rule traced
        (store.decide limit isEmpty rule record cache).1.log) :=
  rfl

/-- A report is on roots that could be read. -/
theorem exists_of_report {isEmpty : Emptiness} {traced : Bool} {record : Json}
    {cache : PatternCache} {report : Report}
    (h : (store.evaluate limit isEmpty traced rule record cache).1.outcome = .ok report) :
    ∃ ts found, rule.trees = .ok ts ∧
      (Evaluation.roots store isEmpty record limit rule.origin? 0 ts cache).1.outcome = .ok found ∧
      report = .ofLog rule traced
        (Evaluation.roots store isEmpty record limit rule.origin? 0 ts cache).1.log found := by
  rw [outcome_evaluate, decide] at h
  obtain ⟨found, ho, rfl⟩ := (map_eq_ok_iff _ _ _).mp h
  cases hts : rule.trees with
  | error m =>
    rw [hts] at ho
    cases ho
  | ok ts =>
    rw [hts] at ho
    exact ⟨ts, found, rfl, ho, rfl⟩

/-- **Malformed nodes after a review.** Evaluating an accepted rule comes upon a malformed node exactly
where its roots stumble, and each failure is over a referenced rule that does not hold a single
condition: the roots themselves can always be read, and none of them is a constraint. -/
theorem evaluate_malformed_iff_stumbles (h : (store.review limit rule).Accepted)
    (isEmpty : Emptiness) (traced : Bool) (record : Json) (cache : PatternCache) :
    ∃ us, List.Forall₂ (Unfolds store) rule.roots us ∧
      ((∃ message element, (store.evaluate limit isEmpty traced rule record cache).1.outcome =
          .error (.malformedNode message element)) ↔
        Unfolding.StumblesAmong isEmpty record .any us) ∧
      ∀ e, (store.evaluate limit isEmpty traced rule record cache).1.outcome = .error e →
        Unfit store e := by
  obtain ⟨us, hus⟩ := exists_unfoldings_of_accepted h
  obtain ⟨herror, hok⟩ := outcome_decide_of_accepted h hus isEmpty record cache
  simp only [outcome_evaluate]
  refine ⟨us, hus, ?_⟩
  by_cases hs : Unfolding.StumblesAmong isEmpty record .any us
  · obtain ⟨e, ho, hunfit⟩ := herror hs
    have hform := hunfit
    obtain ⟨id, stored, m, _, _, rfl⟩ := hform
    rw [ho]
    exact ⟨iff_of_true ⟨_, _, rfl⟩ hs, fun e he => by cases he; exact hunfit⟩
  · obtain ⟨found, ho, _⟩ := hok hs
    rw [ho]
    exact ⟨iff_of_false nofun hs, nofun⟩

/-! ## A child that refers to a constraint -/

/-- A store whose rule `adult` holds a condition and whose rule `leaf` holds a constraint. -/
def sampleStore : Store :=
  ⟨[("adult", ⟨"adult", "", .object [("all", .array [agePresent])], none⟩),
    ("leaf", ⟨"leaf", "", agePresent, none⟩)]⟩

/-- A rule with a reference to the constraint among the children of its root. -/
def leafRule : Rule := ⟨"r", "", .object [("all", .array [.string "leaf"])], none⟩

def agedRecord : Json := .object [("age", .number (.int 1))]

theorem leafRule_accepted : (sampleStore.review 64 leafRule).Accepted := ⟨_, rfl, rfl⟩

/-- The review accepts a child that refers to a constraint, and evaluating it comes upon a malformed
node. -/
theorem leafRule_accepted_and_malformed :
    (sampleStore.review 64 leafRule).Accepted ∧
      (sampleStore.evaluate 64 .standard false leafRule agedRecord (.empty 256)).1.outcome =
        .error (.malformedNode
          "rule 'leaf' does not hold a single condition: invalid condition structure" agePresent) :=
  ⟨leafRule_accepted, rfl⟩

theorem leafRule_stumbles :
    (sampleStore.review 64 leafRule).Accepted ∧
      ∃ us, List.Forall₂ (Unfolds sampleStore) leafRule.roots us ∧
        Unfolding.StumblesAmong .standard agedRecord .any us := by
  obtain ⟨us, hus, hiff, _⟩ :=
    evaluate_malformed_iff_stumbles leafRule_accepted .standard false agedRecord (.empty 256)
  exact ⟨leafRule_accepted, us, hus, hiff.mp ⟨_, _, rfl⟩⟩

end Store

end RuleTree

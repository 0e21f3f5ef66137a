import RuleTree.Proofs.Changes
import RuleTree.Proofs.Reachable
import RuleTree.Proofs.RoundTrip

/-!
What has a say in the answers about a rule. Of a store these are the rules that the rule leads to by
references, and of them nothing but their conditions (`review_congr`); of a record these are the fields
that the rule and the rules it leads to test (`decide_congr`). For conditions that were written from
trees both can be read off the trees (`mentions_toJson_iff`, `tests_toJson_iff`). So the rest of a record
does not count (`only_tested_fields_count`), nor what requests do to other rules
(`only_led_rules_count`).
-/

namespace RuleTree

/-! ## References and constraints -/

namespace Json

/-- The id stands in the node as it is written. -/
def Quotes (node : Json) (id : String) : Prop :=
  node.HasNode (.string id)

/-- The id is a reference of the tree that the node is read as. -/
def Refers (node : Json) (id : String) : Prop :=
  ∃ t, Tree.ofJson node = .ok t ∧ t.HasNode (.reference id)

/-- The node mentions an id as it is written or as it is read. The two differ where a node has several
branches, or is written as an array. -/
def Mentions (node : Json) (id : String) : Prop :=
  node.Quotes id ∨ node.Refers id

/-- The constraint stands in the tree that the node is read as. -/
def Tests (node : Json) (c : Constraint) : Prop :=
  ∃ t, Tree.ofJson node = .ok t ∧ t.HasNode (.constraint c)

end Json

namespace Store

/-- The ids that a rule leads to, where it is up to `mentions` which ids a node leads to by itself:
those of its roots, and those of the conditions that are stored under such an id. Stored conditions count
as a single node, for that is how they are taken where a reference is followed, be they an array or
not. -/
inductive Leads (store : Store) (mentions : Json → String → Prop) (rule : Rule) : String → Prop
  | direct {node id} : node ∈ rule.roots → mentions node id → Leads store mentions rule id
  | further {id stored other} :
      Leads store mentions rule id → store.get? id = some stored →
      mentions stored.conditions other → Leads store mentions rule other

theorem Leads.mono {store : Store} {rule : Rule} {mentions mentions' : Json → String → Prop}
    (h : ∀ node id, mentions node id → mentions' node id) {id : String}
    (hid : store.Leads mentions rule id) : store.Leads mentions' rule id := by
  induction hid with
  | direct hm hn => exact .direct hm (h _ _ hn)
  | further _ hs hn ih => exact .further ih hs (h _ _ hn)

/-- The constraints of a rule and of the rules that it leads to as they are read. -/
inductive Tests (store : Store) (rule : Rule) (c : Constraint) : Prop
  | own {node} : node ∈ rule.roots → node.Tests c → Tests store rule c
  | further {id stored} :
      store.Leads Json.Refers rule id → store.get? id = some stored → stored.conditions.Tests c →
      Tests store rule c

/-- Two stores hold the same conditions under an id, or both of them nothing. -/
def AgreeAt (left right : Store) (id : String) : Prop :=
  (left.get? id).map Rule.conditions = (right.get? id).map Rule.conditions

/-- Reviews and evaluations of a rule come to the same with both stores, whatever patterns are kept. -/
structure SameFor (left right : Store) (rule : Rule) : Prop where
  review : ∀ limit, left.review limit rule = right.review limit rule
  evaluate : ∀ limit isEmpty traced record cache cache',
    (left.evaluate limit isEmpty traced rule record cache).1 =
      (right.evaluate limit isEmpty traced rule record cache').1

theorem AgreeAt.cases {left right : Store} {id : String} (h : left.AgreeAt right id) :
    (left.get? id = none ∧ right.get? id = none) ∨
      ∃ stored stored', left.get? id = some stored ∧ right.get? id = some stored' ∧
        stored.conditions = stored'.conditions := by
  rw [AgreeAt] at h
  cases hl : left.get? id with
  | none =>
    rw [hl, Option.map_none] at h
    exact .inl ⟨rfl, Option.map_eq_none_iff.mp h.symm⟩
  | some stored =>
    rw [hl, Option.map_some] at h
    obtain ⟨stored', hr, hc⟩ := Option.map_eq_some_iff.mp h.symm
    exact .inr ⟨stored, stored', rfl, hr, hc.symm⟩

end Store

/-! ## Written trees -/

namespace Tree

theorem hasNode_reference_iff {t : Tree} {id : String} :
    t.HasNode (.reference id) ↔ id ∈ t.references := by
  constructor
  · intro h
    generalize hr : Tree.reference id = r at h
    induction h with
    | self => subst hr; exact List.mem_singleton_self id
    | inside hm _ ih => exact mem_references_condition.mpr ⟨_, hm, ih hr⟩
  · intro h
    induction t using Tree.induction with
    | reference other =>
      obtain rfl := List.mem_singleton.mp h
      exact .self
    | constraint c => cases h
    | condition q ts result ih =>
      obtain ⟨t, hm, ht⟩ := mem_references_condition.mp h
      exact .inside hm (ih t hm ht)

/-- A string that stands in a written tree is written for a reference of the tree. -/
theorem hasNode_of_toJson {t : Tree} {id : String} (h : t.toJson.HasNode (.string id)) :
    t.HasNode (.reference id) := by
  induction t using Tree.induction with
  | reference other =>
    cases h with
    | self => exact .self
    | inside hget _ _ => cases hget
  | constraint c =>
    generalize hs : Json.string id = s at h
    cases h with
    | self => cases hs
    | inside hget _ _ =>
      have hnone := Json.get?_eq_none_of_not_isCondition c.isCondition_toJson
      rw [toJson, hnone] at hget
      cases hget
  | condition q ts result ih =>
    generalize hs : Json.string id = s at h
    cases h with
    | self => cases hs
    | @inside _ q' nodes child _ hget hm h =>
      have hkey : q'.key = q.key := by
        by_contra hne
        have hq : (Tree.condition q ts result).toJson.hasKey q.key = true := by
          simp [Json.hasKey, get?_key_toJson]
        have hnone := Json.get?_eq_none_of_branchCount (branchCount_toJson q ts result) hq q' hne
        rw [hnone] at hget
        cases hget
      rw [hkey, get?_key_toJson] at hget
      cases hget
      obtain ⟨t, ht, rfl⟩ := List.mem_map.mp hm
      subst hs
      exact .inside ht (ih t ht h)

theorem refers_toJson_iff {t : Tree} (hw : t.Writable) {id : String} :
    t.toJson.Refers id ↔ id ∈ t.references := by
  rw [Json.Refers, ofJson_toJson hw, ← hasNode_reference_iff]
  simp

/-- What is written for a tree mentions the references of the tree. -/
theorem mentions_toJson_iff {t : Tree} (hw : t.Writable) {id : String} :
    t.toJson.Mentions id ↔ id ∈ t.references := by
  rw [Json.Mentions, refers_toJson_iff hw]
  constructor
  · rintro (h | h)
    · exact hasNode_reference_iff.mp (hasNode_of_toJson h)
    · exact h
  · exact .inr

theorem tests_toJson_iff {t : Tree} (hw : t.Writable) {c : Constraint} :
    t.toJson.Tests c ↔ t.HasNode (.constraint c) := by
  rw [Json.Tests, ofJson_toJson hw]
  simp

end Tree

/-! ## The same walk twice -/

theorem Logged.eq_congruence : Logged.Congruence fun x y => x = y where
  refl _ := rfl
  bind hx hf := by rw [hx, funext hf]

theorem Walk.eq_congruence : Walk.Congruence fun x y => x = y where
  plain _ := rfl
  bind hx hf := by rw [hx, funext hf]

variable {left right : Store} {rule : Rule} {limit : Nat} {chain : List String} {id : String}

section Fetch

variable {α : Type} (h : left.AgreeAt right id)
include h

/-- Looking a rule up in stores that agree about it leads to the same, if what follows only depends on
its conditions. -/
theorem Store.AgreeAt.logged_bind {f g : Rule → Logged Step α}
    (hfg : ∀ stored stored', left.get? id = some stored →
      stored.conditions = stored'.conditions → f stored = g stored') :
    left.fetch id >>= f = right.fetch id >>= g := by
  rcases h.cases with ⟨hl, hr⟩ | ⟨stored, stored', hl, hr, hc⟩
  · simp only [Store.fetch, hl, hr, Logged.error_bind]
  · simp only [Store.fetch, hl, hr, Logged.ok_bind, hfg stored stored' hl hc]

theorem Store.AgreeAt.walk_bind {f g : Rule → Walk α}
    (hfg : ∀ stored stored', left.get? id = some stored →
      stored.conditions = stored'.conditions → f stored = g stored') :
    Walk.ofSteps (left.fetch id) >>= f = Walk.ofSteps (right.fetch id) >>= g := by
  funext cache
  rcases h.cases with ⟨hl, hr⟩ | ⟨stored, stored', hl, hr, hc⟩
  · simp only [Store.fetch, hl, hr, bind, Walk.bind, Walk.ofSteps_apply]
  · simp only [Store.fetch, hl, hr, bind, Walk.bind, Walk.ofSteps_apply, hfg stored stored' hl hc]

end Fetch

/-! ### Reviews -/

section Review

variable (h : ∀ id, left.Leads Json.Quotes rule id → left.AgreeAt right id)
include h

theorem Inspection.follow_congr (hid : left.Leads Json.Quotes rule id) (role : Role) (depth : Nat) :
    follow left limit chain id role depth = follow right limit chain id role depth := by
  have hR := Logged.eq_congruence
  induction chain using Expansion.chain_induction limit generalizing id role depth with
  | step chain ih =>
  rw [follow_eq, follow_eq]
  cases he : Expansion.enter limit chain id with
  | error e => rfl
  | ok inner =>
    -- Only `left` is asked what it leads to; what the conditions mention is the same on both sides.
    refine (h id hid).logged_bind fun stored stored' hs hc => ?_
    have hfollow (other : String) (hm : stored.conditions.HasNode (.string other)) :
        ∀ role depth, follow left limit inner other role depth =
          follow right limit inner other role depth :=
      ih id inner he (.further hid hs hm)
    have hcondition (depth : Nat) :
        condition limit inner (follow left limit inner) depth stored.conditions =
          condition limit inner (follow right limit inner) depth stored.conditions :=
      (condition_related_of_nodes hR (fun _ => rfl) stored.conditions hfollow).1 depth
    rw [← hc]
    cases role with
    | root => exact hcondition depth
    | child => exact child_related hR (hcondition (depth + 1))

/-- A review looks at nothing in a store but the conditions that the rule leads to as it is written. -/
theorem Store.review_congr (limit : Nat) : left.review limit rule = right.review limit rule := by
  have hR := Logged.eq_congruence
  refine Inspection.conditions_related hR fun node hnode => ?_
  refine (Inspection.condition_related_of_nodes hR (fun _ => rfl) node fun id hm => ?_).1 0
  exact Inspection.follow_congr h (.direct hnode hm)

end Review

/-! ### Evaluations -/

section Evaluation

variable {isEmpty : Emptiness} {record record' : Json}

/-- A constraint looks at nothing in a record but its field. -/
theorem Evaluation.constraint_congr {c : Constraint}
    (h : record.field? c.field = record'.field? c.field) (place : Place) :
    constraint isEmpty record c place = constraint isEmpty record' c place := by
  funext cache
  simp only [constraint, Constraint.check, h]

variable (h : ∀ id, left.Leads Json.Refers rule id → left.AgreeAt right id)
  (hfields : ∀ c, left.Tests rule c → record.field? c.field = record'.field? c.field)
include h hfields

theorem Evaluation.follow_congr (hid : left.Leads Json.Refers rule id) (depth : Nat) (place : Place) :
    follow left isEmpty record limit chain id depth place =
      follow right isEmpty record' limit chain id depth place := by
  induction chain using Expansion.chain_induction limit generalizing id depth place with
  | step chain ih =>
  rw [follow_eq, follow_eq]
  cases he : Expansion.enter limit chain id with
  | error e => rfl
  | ok inner =>
    refine (h id hid).walk_bind fun stored stored' hs hc => ?_
    rw [← hc]
    cases hread : Condition.ofJson stored.conditions with
    | error m => rfl
    | ok c =>
      have ht : Tree.ofJson stored.conditions = .ok c.tree := Tree.ofJson_of_condition hread
      refine tree_related_of_nodes Walk.eq_congruence (fun _ => rfl) c.tree (fun leaf hm => ?_)
        (fun other hm => ?_) depth place
      · exact constraint_congr (hfields leaf (.further hid hs ⟨_, ht, hm⟩))
      · exact ih id inner he (.further hid hs ⟨_, ht, hm⟩)

/-- An evaluation looks at nothing in a store but the conditions that the rule leads to as it is read, and
at nothing in a record but the fields that are tested. -/
theorem Store.decide_congr (limit : Nat) (isEmpty : Emptiness) :
    left.decide limit isEmpty rule record = right.decide limit isEmpty rule record' := by
  unfold decide
  cases hts : rule.trees with
  | error m => rfl
  | ok ts =>
    obtain ⟨hl, hpairs⟩ := List.forall₂_iff_zip.mp ((trees_eq_ok_iff ts).mp hts)
    have hroot (t : Tree) (hm : t ∈ ts) (index : Nat) :
        Evaluation.root left isEmpty record limit rule.origin? index t =
          Evaluation.root right isEmpty record' limit rule.origin? index t := by
      -- What a root leads to is said of its node, which has to be found again for its tree.
      obtain ⟨node, hz⟩ := exists_mem_zip_of_mem_right hl hm
      have hnode : node ∈ rule.roots := (List.of_mem_zip hz).1
      have ht : Tree.ofJson node = .ok t := hpairs hz
      refine Evaluation.root_related Walk.eq_congruence ?_
      refine Evaluation.tree_related_of_nodes Walk.eq_congruence (fun _ => rfl) t (fun c hm => ?_)
        (fun id hm => ?_) 0 ⟨index, []⟩
      · exact Evaluation.constraint_congr (hfields c (.own hnode ⟨t, ht, hm⟩))
      · exact Evaluation.follow_congr h hfields (.direct hnode ⟨t, ht, hm⟩)
    exact Evaluation.roots_related Walk.eq_congruence (List.forall₂_same.mpr hroot) 0

theorem Store.evaluate_congr (limit : Nat) (isEmpty : Emptiness) (traced : Bool)
    (cache cache' : PatternCache) :
    (left.evaluate limit isEmpty traced rule record cache).1 =
      (right.evaluate limit isEmpty traced rule record' cache').1 := by
  have hdecide : left.decide limit isEmpty rule record = right.decide limit isEmpty rule record' :=
    decide_congr h hfields limit isEmpty
  rw [left.evaluate_alike limit isEmpty traced rule record cache cache']
  simp only [evaluate, hdecide]

end Evaluation

theorem Store.sameFor_of_agree
    (h : ∀ id, left.Leads Json.Mentions rule id → left.AgreeAt right id) :
    left.SameFor right rule where
  review := review_congr fun id hid => h id (hid.mono fun _ _ => .inl)
  evaluate limit isEmpty traced _ cache cache' :=
    evaluate_congr (fun id hid => h id (hid.mono fun _ _ => .inr)) (fun _ _ => rfl) limit isEmpty
      traced cache cache'

/-! ## Other fields -/

/-- **Only tested fields count.** Let two records agree on every field that a constraint of the rule, or
of a rule that it leads to, is about. Then the evaluation of the rule fails with the same failure for
both or comes to the same report, matched constraints and trace included. -/
theorem Store.only_tested_fields_count (store : Store) {rule : Rule} {record record' : Json}
    (h : ∀ c, store.Tests rule c → record.field? c.field = record'.field? c.field) (limit : Nat)
    (isEmpty : Emptiness) (traced : Bool) (cache cache' : PatternCache) :
    (store.evaluate limit isEmpty traced rule record cache).1 =
      (store.evaluate limit isEmpty traced rule record' cache').1 :=
  evaluate_congr (fun _ _ => rfl) h limit isEmpty traced cache cache'

/-- A condition on two fields: that there is an age, and that the city of the address is Rome. -/
def agedInRome : Tree :=
  .condition .all [.constraint ⟨"age", .isPresent, .null⟩,
    .constraint ⟨"address.city", .equals, .string "Rome"⟩] none

def noneOf (id : String) : Tree := .condition .none [.reference id] none

/-- A store whose rule `outer` refers to `inner`, and whose rule `other` refers to `outer`. -/
def romeStore : Store :=
  ⟨[("inner", ⟨"inner", "", agedInRome.toJson, none⟩),
    ("other", ⟨"other", "", (noneOf "outer").toJson, none⟩),
    ("outer", ⟨"outer", "", (noneOf "inner").toJson, none⟩)]⟩

def romeRule : Rule := ⟨"r", "", (noneOf "outer").toJson, none⟩

theorem writable_noneOf (id : String) : (noneOf id).Writable := by
  refine .condition nofun fun t hm => ?_
  obtain rfl := List.mem_singleton.mp hm
  exact .reference

theorem writable_agedInRome : agedInRome.Writable := by
  refine .condition nofun fun t hm => ?_
  rcases List.mem_pair.mp hm with rfl | rfl
  · exact .constraint
  · exact .constraint

theorem romeRule_leads {id : String} (h : romeStore.Leads Json.Mentions romeRule id) :
    id = "outer" ∨ id = "inner" := by
  induction h with
  | direct hm h =>
    obtain rfl := List.mem_singleton.mp hm
    have hid := (Tree.mentions_toJson_iff (writable_noneOf "outer")).mp h
    exact .inl (List.mem_singleton.mp hid)
  | further _ hs h ih =>
    rcases ih with rfl | rfl
    · cases hs
      have hid := (Tree.mentions_toJson_iff (writable_noneOf "inner")).mp h
      exact .inr (List.mem_singleton.mp hid)
    · cases hs
      have hid := (Tree.mentions_toJson_iff writable_agedInRome).mp h
      cases hid

theorem romeRule_tests {c : Constraint} (h : romeStore.Tests romeRule c) :
    c.field = "age" ∨ c.field = "address.city" := by
  have hnone (id : String) (h : (noneOf id).toJson.Tests c) : False := by
    have h := (Tree.tests_toJson_iff (writable_noneOf id)).mp h
    cases h with
    | inside hm h =>
      obtain rfl := List.mem_singleton.mp hm
      cases h
  cases h with
  | own hm h =>
    obtain rfl := List.mem_singleton.mp hm
    exact (hnone "outer" h).elim
  | further hid hs h =>
    rcases romeRule_leads (hid.mono fun _ _ => .inr) with rfl | rfl
    · cases hs
      exact (hnone "inner" h).elim
    · cases hs
      have h := (Tree.tests_toJson_iff writable_agedInRome).mp h
      cases h with
      | inside hm h =>
        rcases List.mem_pair.mp hm with rfl | rfl
        · cases h; exact .inl rfl
        · cases h; exact .inr rfl

def romanRecord (street name : String) : Json :=
  .object [("address", .object [("city", .string "Rome"), ("street", .string street)]),
    ("age", .number (.int 40)), ("name", .string name)]

/-- Two records that differ where nothing is tested; both tested fields lie two references away. -/
theorem romeRule_same_report :
    let left := romanRecord "Via Appia" "Livia"
    let right := romanRecord "Via Sacra" "Julia"
    (∀ c, romeStore.Tests romeRule c → left.field? c.field = right.field? c.field) ∧
      ∃ report, report.verdict = true ∧ report.matchedConstraints.length = 2 ∧
        (romeStore.evaluate 64 .standard true romeRule left (.empty 4)).1.outcome = .ok report ∧
        (romeStore.evaluate 64 .standard true romeRule right (.empty 0)).1.outcome = .ok report := by
  intro left right
  have hfields (c : Constraint) (hc : romeStore.Tests romeRule c) :
      left.field? c.field = right.field? c.field := by
    rcases romeRule_tests hc with h | h
    · rw [h]; rfl
    · rw [h]; rfl
  have hsame :=
    romeStore.only_tested_fields_count hfields 64 .standard true (.empty 4) (.empty 0)
  have h : ∃ report, report.verdict = true ∧ report.matchedConstraints.length = 2 ∧
      (romeStore.evaluate 64 .standard true romeRule left (.empty 4)).1.outcome = .ok report :=
    ⟨_, rfl, rfl, rfl⟩
  obtain ⟨report, hverdict, hmatched, hreport⟩ := h
  exact ⟨hfields, report, hverdict, hmatched, hreport, by rw [← hsame, hreport]⟩

/-! ## Other rules -/

/-- A rule with the same conditions in the place of a stored one. -/
theorem Store.agreeAt_relabelled {store : Store} {now : Time} {stored relabelled : Rule}
    (hs : store.get? relabelled.id = some stored) (hc : relabelled.conditions = stored.conditions)
    (id : String) : store.AgreeAt (store.changed now (.stored relabelled)) id := by
  rw [AgreeAt, get?_changed]
  by_cases hid : relabelled.id = id
  · subst hid
    simp [Change.concerns, Change.rule?, hs, hc]
  · simp [Change.concerns, hid]

namespace Engine

variable {engine after : Engine} {history : List (Request × Except Failure Reply)}

/-- What no request of a run changes is found as before. -/
theorem Run.get?_eq (hrun : engine.Run history after)
    (h : ∀ change ∈ changesOf history, change.concerns id = false) :
    after.store.get? id = engine.store.get? id := by
  have hleaves := hrun.get?_leaves id
  rw [Change.last?_eq_none_iff.mpr h] at hleaves
  exact hleaves

theorem perform_relabelled (engine : Engine) (now : Time) {stored relabelled : Rule}
    (hs : engine.store.get? relabelled.id = some stored)
    (hc : relabelled.conditions = stored.conditions) (id : String) :
    engine.store.AgreeAt (engine.perform now (.load relabelled)).2.store id ∧
      engine.store.AgreeAt (engine.perform now (.update relabelled)).2.store id := by
  have hload : engine.store.AgreeAt (engine.perform now (.load relabelled)).2.store id := by
    rw [perform_load]
    split
    · rfl
    · exact Store.agreeAt_relabelled hs hc id
  refine ⟨hload, ?_⟩
  rw [perform_update]
  split
  · exact hload
  · rfl

/-- **Only rules that are led to count.** Reviews and evaluations of a rule come to the same with any
store that agrees about the ids the rule leads to, failures included. So they do after a run that
changes nothing under any of these ids, whatever it does under others, and after a stored rule, led to
or not, is stored with another label. -/
theorem only_led_rules_count (engine : Engine) (rule : Rule) :
    (∀ other : Store,
      (∀ id, engine.store.Leads Json.Mentions rule id → engine.store.AgreeAt other id) →
      engine.store.SameFor other rule) ∧
    (∀ history after, engine.Run history after →
      (∀ change ∈ changesOf history, ∀ id, engine.store.Leads Json.Mentions rule id →
        change.concerns id = false) →
      engine.store.SameFor after.store rule) ∧
    ∀ now stored relabelled, engine.store.get? relabelled.id = some stored →
      relabelled.conditions = stored.conditions →
      engine.store.SameFor (engine.perform now (.load relabelled)).2.store rule ∧
        engine.store.SameFor (engine.perform now (.update relabelled)).2.store rule := by
  refine ⟨fun other h => Store.sameFor_of_agree h, fun history after hrun h => ?_,
    fun now stored relabelled hs hc => ?_⟩
  · refine Store.sameFor_of_agree fun id hid => ?_
    rw [Store.AgreeAt, hrun.get?_eq fun change hm => h change hm id hid]
  · have hagree := engine.perform_relabelled now hs hc
    exact ⟨Store.sameFor_of_agree fun id _ => (hagree id).1,
      Store.sameFor_of_agree fun id _ => (hagree id).2⟩

/-- Requests that change and delete the rule `other` and store rules that refer to the others. -/
def otherRequests : List Request :=
  [.update ⟨"other", "changed", .null, none⟩, .delete "other",
    .loadBatch [⟨"r", "", (noneOf "inner").toJson, none⟩, ⟨"", "", .null, none⟩],
    .load ⟨"last", "", (noneOf "outer").toJson, none⟩]

def labelledInner : Rule := ⟨"inner", "aged in Rome", agedInRome.toJson, none⟩

/-- The sample rule leads to `outer` and `inner` only. Without any other rule, after the requests, and
with `inner` labelled, its answers are the same. -/
theorem romeRule_same_answers :
    let engine := Engine.new .standard .standard .recording romeStore
    let history := otherRequests.zip (engine.performAll ⟨0, 0⟩ otherRequests).1
    let after := (engine.performAll ⟨0, 0⟩ otherRequests).2
    engine.store.Leads Json.Mentions romeRule "inner" ∧ engine.Run history after ∧
      after.store.ids = ["inner", "last", "outer", "r"] ∧
      engine.store.SameFor ⟨[("inner", labelledInner),
        ("outer", ⟨"", "", (noneOf "inner").toJson, none⟩)]⟩ romeRule ∧
      engine.store.SameFor after.store romeRule ∧
      engine.store.SameFor (engine.perform ⟨0, 0⟩ (.load labelledInner)).2.store romeRule ∧
      engine.store.SameFor (engine.perform ⟨0, 0⟩ (.update labelledInner)).2.store romeRule := by
  intro engine history after
  have houter : engine.store.Leads Json.Mentions romeRule "outer" :=
    .direct (List.mem_singleton_self _)
      ((Tree.mentions_toJson_iff (writable_noneOf "outer")).mpr (List.mem_singleton_self _))
  have hinner : engine.store.Leads Json.Mentions romeRule "inner" :=
    .further houter rfl
      ((Tree.mentions_toJson_iff (writable_noneOf "inner")).mpr (List.mem_singleton_self _))
  have hrun : engine.Run history after := engine.run_performAll ⟨0, 0⟩ otherRequests
  have hchanges : changesOf history =
      [.stored ⟨"other", "changed", .null, none⟩, .deleted "other",
        .stored ⟨"r", "", (noneOf "inner").toJson, none⟩,
        .stored ⟨"last", "", (noneOf "outer").toJson, none⟩] := rfl
  obtain ⟨hother, hafter, hlabelled⟩ := engine.only_led_rules_count romeRule
  refine ⟨hinner, hrun, rfl, hother _ fun id hid => ?_, hafter history after hrun ?_,
    hlabelled ⟨0, 0⟩ _ labelledInner rfl rfl⟩
  · rcases romeRule_leads hid with rfl | rfl
    · rfl
    · rfl
  · intro change hm id hid
    have hconcerns : ∀ change ∈ changesOf history,
        change.concerns "outer" = false ∧ change.concerns "inner" = false := by
      rw [hchanges]
      simp [Change.concerns]
    rcases romeRule_leads hid with rfl | rfl
    · exact (hconcerns change hm).1
    · exact (hconcerns change hm).2

end Engine

end RuleTree

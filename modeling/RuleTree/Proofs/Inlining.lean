import RuleTree.Proofs.History
import RuleTree.Proofs.Replacement

/-!
References are transparent. A reference may be replaced by the condition that its rule holds: an
evaluation that succeeded then succeeds with the same report (`evaluate_inlined`). Below the replaced
reference the chain of rules is shorter by one, and a shorter chain only removes failures.
-/

namespace RuleTree

/-! ## Refinement -/

/-- What is told of a walk: all events but the steps. -/
def Event.told : Event → Bool
  | .step _ => false
  | _ => true

/-- The second walk comes to what the first one comes to and tells the same, unless the first fails. -/
def Walk.Refines {α : Type} (x y : Walk α) : Prop :=
  ∀ cache cache' a, (x cache).1.outcome = .ok a →
    (y cache').1.outcome = .ok a ∧
      (x cache).1.log.filter Event.told = (y cache').1.log.filter Event.told

namespace Walk

variable {α β : Type}

theorem refines_congruence : Congruence @Refines where
  plain _ _ _ _ h := ⟨h, rfl⟩
  bind {α β x y f g} hx hf cache cache' b h := by
    obtain ⟨a, ha, hb⟩ := exists_of_bind_ok h
    obtain ⟨ha', hlog⟩ := hx cache cache' a ha
    obtain ⟨hb', hrest⟩ := hf a _ (y cache').2 b hb
    refine ⟨by rw [outcome_bind_of_ok ha', hb'], ?_⟩
    simp only [log_bind, ha, ha', List.filter_append, hlog, hrest]

theorem refines_fail (e : Failure) (y : Walk α) : (fail e).Refines y :=
  fun _ _ _ h => by cases h

/-- Steps are not told, so that steps which succeed may be left out. -/
theorem refines_of_steps_bind {x : Logged Step α} {a : α} (hx : x.outcome = .ok a)
    {f : α → Walk β} {y : Walk β} (h : (f a).Refines y) : (ofSteps x >>= f).Refines y := by
  intro cache cache' b hb
  have ha : (ofSteps x cache).1.outcome = .ok a := hx
  rw [outcome_bind_of_ok ha] at hb
  obtain ⟨hb', hlog⟩ := h _ cache' b hb
  refine ⟨hb', ?_⟩
  rw [log_bind, ha]
  simpa [List.filter_append, List.filter_map, Function.comp_def, Event.told] using hlog

theorem refines_reach {limit : Nat} (chain chain' : List String) (depth : Nat) :
    (ofSteps (Expansion.reach limit chain depth)).Refines
      (ofSteps (Expansion.reach limit chain' depth)) :=
  fun _ _ _ h => ⟨h, rfl⟩

end Walk

/-! ## Shorter chains -/

/-- What may be entered from a chain may be entered from a part of it. -/
theorem Expansion.enter_of_sublist {limit : Nat} {chain chain' inner : List String} {id : String}
    (hs : chain'.Sublist chain) (h : enter limit chain id = .ok inner) :
    ∃ inner', enter limit chain' id = .ok inner' ∧ inner'.Sublist inner := by
  obtain ⟨hmem, hlt, rfl⟩ := (enter_eq_ok_iff limit).mp h
  exact ⟨_, (enter_eq_ok_iff limit).mpr ⟨fun hm => hmem (hs.subset hm),
    Nat.lt_of_le_of_lt hs.length_le hlt, rfl⟩, hs.append_right [id]⟩

namespace Evaluation

variable {isEmpty : Emptiness} {record : Json} {limit : Nat} {store : Store}

theorem constraint_refines (c : Constraint) (place : Place) :
    (constraint isEmpty record c place).Refines (constraint isEmpty record c place) := by
  intro cache cache' b h
  rw [← constraint_alike c place cache cache']
  exact ⟨h, rfl⟩

theorem follow_refines {chain chain' : List String} (hs : chain'.Sublist chain) (id : String)
    (depth : Nat) (place : Place) :
    (follow store isEmpty record limit chain id depth place).Refines
      (follow store isEmpty record limit chain' id depth place) := by
  have hR := Walk.refines_congruence
  induction chain using Expansion.chain_induction limit generalizing chain' id depth place with
  | step chain ih =>
    rw [follow_eq, follow_eq]
    cases he : Expansion.enter limit chain id with
    | error e => exact Walk.refines_fail e _
    | ok inner =>
      obtain ⟨inner', he', hs'⟩ := Expansion.enter_of_sublist hs he
      rw [he']
      refine hR.bind (hR.plain _) fun rule => ?_
      cases Condition.ofJson rule.conditions with
      | error m => exact hR.plain _
      | ok c =>
        exact tree_related hR (Walk.refines_reach inner inner') constraint_refines
          (ih id inner he hs') c.tree depth place

theorem tree_refines {chain chain' : List String} (hs : chain'.Sublist chain) (t : Tree) (depth : Nat)
    (place : Place) :
    (tree isEmpty record limit chain (follow store isEmpty record limit chain) depth place t).Refines
      (tree isEmpty record limit chain' (follow store isEmpty record limit chain') depth place t) :=
  tree_related Walk.refines_congruence (Walk.refines_reach chain chain') constraint_refines
    (follow_refines hs) t depth place

/-! ## Replaced references -/

variable {id : String} {stored : Rule} {c : Condition}

/-- A reference comes to what the condition of its rule comes to in its place. -/
theorem follow_refines_tree (hs : store.get? id = some stored)
    (hc : Condition.ofJson stored.conditions = .ok c) (chain : List String) (depth : Nat)
    (place : Place) :
    (follow store isEmpty record limit chain id depth place).Refines
      (tree isEmpty record limit chain (follow store isEmpty record limit chain) depth place
        c.tree) := by
  rw [follow_eq]
  cases he : Expansion.enter limit chain id with
  | error e => exact Walk.refines_fail e _
  | ok inner =>
    obtain ⟨_, _, rfl⟩ := (Expansion.enter_eq_ok_iff limit).mp he
    have hfetch : (store.fetch id).outcome = .ok stored := by simp [Store.fetch, hs]
    refine Walk.refines_of_steps_bind hfetch ?_
    rw [hc]
    exact tree_refines (List.sublist_append_left chain [id]) c.tree depth place

theorem tree_inlined (hs : store.get? id = some stored)
    (hc : Condition.ofJson stored.conditions = .ok c) {t u : Tree}
    (h : Tree.Inlined id c.tree t u) (chain : List String) (depth : Nat) (place : Place) :
    (tree isEmpty record limit chain (follow store isEmpty record limit chain) depth place t).Refines
      (tree isEmpty record limit chain (follow store isEmpty record limit chain) depth place u) := by
  induction h generalizing depth place with
  | same => exact tree_refines (List.Sublist.refl chain) _ depth place
  | here => exact follow_refines_tree hs hc chain depth place
  | @child q left t u right result _ ih =>
    have hsides (ts : List Tree) : List.Forall₂ (fun t u => ∀ place,
        (tree isEmpty record limit chain (follow store isEmpty record limit chain) (depth + 1) place
          t).Refines
        (tree isEmpty record limit chain (follow store isEmpty record limit chain) (depth + 1) place
          u)) ts ts :=
      List.forall₂_same.mpr fun t _ place => tree_refines (List.Sublist.refl chain) t (depth + 1) place
    exact condition_related Walk.refines_congruence (Walk.refines_reach chain chain depth)
      (List.rel_append (hsides left) (.cons (ih (depth + 1)) (hsides right))) place q result

theorem root_inlined (hs : store.get? id = some stored)
    (hc : Condition.ofJson stored.conditions = .ok c) {t u : Tree}
    (h : Tree.Inlined id c.tree t u) (origin : Option String) (index : Nat) :
    (root store isEmpty record limit origin index t).Refines
      (root store isEmpty record limit origin index u) := by
  have htree : (tree isEmpty record limit (Expansion.start origin)
      (follow store isEmpty record limit (Expansion.start origin)) 0 ⟨index, []⟩ t).Refines
      (tree isEmpty record limit (Expansion.start origin)
        (follow store isEmpty record limit (Expansion.start origin)) 0 ⟨index, []⟩ u) :=
    tree_inlined hs hc h (Expansion.start origin) 0 ⟨index, []⟩
  cases h with
  | same => exact root_related Walk.refines_congruence htree
  | here => exact htree
  | child => exact htree

end Evaluation

/-! ## Reports -/

/-- A report is read off what is told. -/
theorem Report.ofLog_filter (rule : Rule) (traced : Bool) (log : List Event)
    (outcome : Option (Nat × Option Json)) :
    Report.ofLog rule traced (log.filter Event.told) outcome =
      Report.ofLog rule traced log outcome := by
  have hmatched : (log.filter Event.told).filterMap (Event.matched? traced) =
      log.filterMap (Event.matched? traced) := by
    rw [List.filterMap_filter]
    congr 1
    funext event
    cases event <;> rfl
  have hlines : (log.filter Event.told).filterMap Event.line? = log.filterMap Event.line? := by
    rw [List.filterMap_filter]
    congr 1
    funext event
    cases event <;> rfl
  simp only [Report.ofLog, hmatched, hlines]

/-! ## Rules -/

theorem Json.RootInlined.roots {id : String} {target written other : Json}
    (hobject : target.isObject = true) (h : Json.RootInlined id target written other) :
    ∃ left node node' right, rootsOf written = left ++ node :: right ∧
      rootsOf other = left ++ node' :: right ∧ Json.Inlined id target node node' := by
  cases h with
  | among h => exact ⟨_, _, _, _, rfl, rfl, h⟩
  | bare harray h =>
    refine ⟨[], written, other, [], ?_, ?_, h⟩
    · cases h with
      | item => cases harray
      | _ => rfl
    · cases h with
      | here =>
        cases target with
        | object => rfl
        | _ => cases hobject
      | member => rfl
      | item => cases harray

theorem Tree.InlinedAmong.forall₂ {id : String} {target : Tree} {ts us : List Tree}
    (h : InlinedAmong id target ts us) : List.Forall₂ (Tree.Inlined id target) ts us := by
  have hsame (ts : List Tree) : List.Forall₂ (Tree.Inlined id target) ts ts :=
    List.forall₂_same.mpr fun _ _ => .same
  rcases h with rfl | ⟨left, t, u, right, rfl, rfl, htu⟩
  · exact hsame ts
  · exact List.rel_append (hsame left) (.cons htu (hsame right))

namespace Store

variable {store : Store} {limit : Nat} {rule : Rule} {id : String} {stored : Rule}
  {written : Json} {c : Condition} {report : Report}

/-- The roots of the two rules are read side by side. -/
theorem exists_trees_of_inlined (hobject : stored.conditions.isObject = true)
    (hc : Condition.ofJson stored.conditions = .ok c)
    (hin : Json.RootInlined id stored.conditions rule.conditions written) {ts : List Tree}
    (hts : rule.trees = .ok ts) :
    ∃ us, Rule.trees { rule with conditions := written } = .ok us ∧
      List.Forall₂ (Tree.Inlined id c.tree) ts us := by
  obtain ⟨left, node, node', right, hroots, hroots', hin⟩ := hin.roots hobject
  have hnew : Tree.ofJson stored.conditions = .ok c.tree := Tree.ofJson_of_condition hc
  have hread := (trees_eq_ok_iff ts).mp hts
  rw [Rule.roots, hroots, ← Tree.listOf_eq_ok_iff] at hread
  have hside := Tree.listOf_alongside (hin.alongside hnew) left right
  rw [hread] at hside
  obtain ⟨us, hus, hamong⟩ := hside.exists_of_ok
  refine ⟨us, (trees_eq_ok_iff us).mpr ?_, hamong.forall₂⟩
  rw [Tree.listOf_eq_ok_iff, ← hroots'] at hus
  exact hus

theorem decide_inlined (hs : store.get? id = some stored)
    (hobject : stored.conditions.isObject = true)
    (hc : Condition.ofJson stored.conditions = .ok c)
    (hin : Json.RootInlined id stored.conditions rule.conditions written) (isEmpty : Emptiness)
    (record : Json) :
    (store.decide limit isEmpty rule record).Refines
      (store.decide limit isEmpty { rule with conditions := written } record) := by
  unfold decide
  cases hts : rule.trees with
  | error m => exact Walk.refines_fail _ _
  | ok ts =>
    obtain ⟨us, hus, hpairs⟩ := exists_trees_of_inlined hobject hc hin hts
    rw [hus]
    exact Evaluation.roots_related Walk.refines_congruence
      (hpairs.imp fun _ _ h index => Evaluation.root_inlined hs hc h rule.origin? index) 0

/-- **References are transparent.** Let a rule's conditions hold a reference, as a root or among the
children of a condition at any depth, to a rule that holds an object which is read as a condition. If the
evaluation comes to a report, then it comes to the same report with the object in place of the
reference. -/
theorem evaluate_inlined (hs : store.get? id = some stored)
    (hobject : stored.conditions.isObject = true)
    (hc : Condition.ofJson stored.conditions = .ok c)
    (hin : Json.RootInlined id stored.conditions rule.conditions written) (isEmpty : Emptiness)
    (traced : Bool) (record : Json) (cache cache' : PatternCache)
    (h : (store.evaluate limit isEmpty traced rule record cache).1.outcome = .ok report) :
    (store.evaluate limit isEmpty traced { rule with conditions := written } record
      cache').1.outcome = .ok report := by
  have hrefines : (store.decide limit isEmpty rule record).Refines
      (store.decide limit isEmpty { rule with conditions := written } record) :=
    decide_inlined hs hobject hc hin isEmpty record
  rw [outcome_evaluate] at h ⊢
  cases hdecide : (store.decide limit isEmpty rule record cache).1.outcome with
  | error e => rw [hdecide] at h; cases h
  | ok decision =>
    obtain ⟨hsame, hlog⟩ := hrefines cache cache' decision hdecide
    rw [hdecide] at h
    cases h
    rw [hsame, ← Report.ofLog_filter rule traced (store.decide limit isEmpty rule record cache).1.log,
      hlog]
    exact congrArg Except.ok (Report.ofLog_filter rule traced _ decision).symm

/-! ## A reference two conditions deep -/

/-- Conditions with a node in the second of the conditions below their root. -/
def nestedConditions (node : Json) : Json :=
  .object [("all", .array [.string "adult",
    .object [("any", .array [node, agePresent])]])]

def nestedRule : Rule := ⟨"r", "", nestedConditions (.string "adult"), none⟩

/-- The rule `adult` is referred to twice, and its conditions replace the reference at the deeper
place. -/
theorem nestedRule_inlined :
    sampleStore.get? "adult" = some ⟨"adult", "", .object [("all", .array [agePresent])], none⟩ ∧
      Json.RootInlined "adult" (.object [("all", .array [agePresent])]) nestedRule.conditions
        (nestedConditions (.object [("all", .array [agePresent])])) ∧
      ∃ report, report.verdict = true ∧ report.matchedConstraints.length = 2 ∧
        (sampleStore.evaluate 64 .standard true nestedRule agedRecord (.empty 256)).1.outcome =
          .ok report ∧
        (sampleStore.evaluate 64 .standard true { nestedRule with
            conditions := nestedConditions (.object [("all", .array [agePresent])]) } agedRecord
          (.empty 0)).1.outcome = .ok report := by
  have hstored : sampleStore.get? "adult" =
      some ⟨"adult", "", .object [("all", .array [agePresent])], none⟩ := rfl
  have hin : Json.RootInlined "adult" (.object [("all", .array [agePresent])]) nestedRule.conditions
      (nestedConditions (.object [("all", .array [agePresent])])) :=
    .bare rfl (@Json.Inlined.member _ _ .all [] [] [.string "adult"] [] _ _
      (@Json.Inlined.member _ _ .any [] [] [] [agePresent] _ _ .here))
  have h : ∃ report, report.verdict = true ∧ report.matchedConstraints.length = 2 ∧
      (sampleStore.evaluate 64 .standard true nestedRule agedRecord (.empty 256)).1.outcome =
        .ok report := ⟨_, rfl, rfl, rfl⟩
  obtain ⟨report, hverdict, hmatched, hreport⟩ := h
  exact ⟨hstored, hin, report, hverdict, hmatched, hreport,
    evaluate_inlined hstored rfl rfl hin .standard true agedRecord (.empty 256) (.empty 0) hreport⟩

end Store

end RuleTree

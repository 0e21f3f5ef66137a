import RuleTree.Proofs.Cycles
import RuleTree.Proofs.History
import RuleTree.Proofs.Origin

/-!
The same rule under a low limit and under a higher one. The limit is asked where a condition is reached
and where a rule is entered, and nowhere else: there the higher limit lets everything pass that the low
one lets pass, and what the low one refuses is a failure that names it. So a walk under the low limit
goes like the walk under the higher one, or it ends because something lies too deep
(`Store.outcome_of_limit_le`).
-/

namespace RuleTree

/-! ## Where the limit is asked -/

namespace Expansion

variable {low high : Nat} (h : low ≤ high)
include h

theorem reach_of_le (chain : List String) (depth : Nat) :
    reach low chain depth = reach high chain depth ∨
      (reach low chain depth).outcome = .error (.tooDeep low) := by
  by_cases hdepth : low < depth
  · right
    exact if_pos hdepth
  · left
    have hhigh : ¬ high < depth := by omega
    simp only [reach, if_neg hdepth, if_neg hhigh]

/-- A cycle is noticed before the limit is asked, so it is the same cycle under both. -/
theorem enter_of_le (chain : List String) (id : String) :
    enter low chain id = enter high chain id ∨ enter low chain id = .error (.tooDeep low) := by
  by_cases hmem : id ∈ chain
  · left
    rw [enter, enter, if_pos hmem, if_pos hmem]
  · by_cases hroom : low ≤ chain.length
    · right
      rw [enter, if_neg hmem, if_pos hroom]
    · left
      have hhigh : ¬ high ≤ chain.length := by omega
      rw [enter, enter, if_neg hmem, if_neg hmem, if_neg hroom, if_neg hhigh]

end Expansion

/-! ## Reviews -/

namespace Inspection

variable {low high : Nat} (h : low ≤ high)
include h

theorem reach_tightens (chain : List String) (depth : Nat) :
    (Expansion.reach low chain depth).Tightens (· = .tooDeep low)
      (Expansion.reach high chain depth) := by
  rcases Expansion.reach_of_le h chain depth with hsame | hdeep
  · exact .inl (by rw [hsame])
  · exact .inr ⟨_, hdeep, rfl⟩

theorem follow_of_le (store : Store) (chain : List String) (id : String) (role : Role)
    (depth : Nat) :
    (follow store low chain id role depth).Tightens (· = .tooDeep low)
      (follow store high chain id role depth) := by
  have hR := Logged.tightens_congruence (P := (· = .tooDeep low))
  -- The chain grows towards the low limit. What is entered below it is entered on both sides.
  induction chain using Expansion.chain_induction low generalizing id role depth with
  | step chain ih =>
  rw [follow_eq, follow_eq]
  rcases Expansion.enter_of_le h chain id with hsame | hdeep
  · rw [← hsame]
    cases he : Expansion.enter low chain id with
    | error e => exact hR.refl _
    | ok inner => exact visit_related hR (reach_tightens h inner) (ih id inner he) store id role depth
  · rw [hdeep]
    exact Logged.tightens_fail rfl

theorem conditions_of_le (store : Store) (origin : Option String) (written : Json) :
    (conditions store low origin written).Tightens (· = .tooDeep low)
      (conditions store high origin written) := by
  have hR := Logged.tightens_congruence (P := (· = .tooDeep low))
  refine conditions_related hR fun node _ => ?_
  exact (condition_related hR (reach_tightens h _) (follow_of_le h store _) node).1 0

end Inspection

/-! ## Evaluations -/

/-- From every kept patterns, the first goes like the second, or it fails in one of the given ways. -/
def Walk.Tightens (P : Failure → Prop) {α : Type} (x y : Walk α) : Prop :=
  ∀ cache, x cache = y cache ∨ ∃ e, (x cache).1.outcome = .error e ∧ P e

namespace Walk

variable {P : Failure → Prop}

theorem tightens_fail {α : Type} {y : Walk α} {e : Failure} (h : P e) :
    (fail e : Walk α).Tightens P y :=
  fun _ => .inr ⟨e, rfl, h⟩

theorem Tightens.bind {α β : Type} {x y : Walk α} {f g : α → Walk β} (hx : x.Tightens P y)
    (hf : ∀ a, (f a).Tightens P (g a)) : (x >>= f).Tightens P (y >>= g) := by
  intro cache
  rcases hx cache with hsame | ⟨e, he, hP⟩
  -- The first parts leave the same patterns, so the second parts start alike.
  · rcases hl : x cache with ⟨⟨log, e | a⟩, kept⟩
    · left
      simp only [Bind.bind, Walk.bind, ← hsame, hl]
    · rcases hf a kept with hrest | ⟨e, he, hP⟩
      · left
        simp only [Bind.bind, Walk.bind, ← hsame, hl, hrest]
      · right
        have ho : (x cache).1.outcome = .ok a := by rw [hl]
        exact ⟨e, by rw [outcome_bind_of_ok ho, hl]; exact he, hP⟩
  · exact .inr ⟨e, outcome_bind_of_error he f, hP⟩

theorem tightens_congruence : Congruence (@Tightens P) where
  plain _ _ := .inl rfl
  bind := .bind

end Walk

namespace Evaluation

variable {low high : Nat} (h : low ≤ high) (store : Store) (isEmpty : Emptiness) (record : Json)
include h

theorem reach_tightens (chain : List String) (depth : Nat) :
    (Walk.ofSteps (Expansion.reach low chain depth)).Tightens (· = .tooDeep low)
      (Walk.ofSteps (Expansion.reach high chain depth)) := by
  intro cache
  rcases Expansion.reach_of_le h chain depth with hsame | hdeep
  · exact .inl (by rw [hsame])
  · exact .inr ⟨_, hdeep, rfl⟩

/-- Trees are evaluated alike where references are followed alike. -/
theorem tree_of_le {chain : List String} {follow follow' : Follow}
    (hfollow : ∀ id depth place,
      (follow id depth place).Tightens (· = .tooDeep low) (follow' id depth place))
    (t : Tree) (depth : Nat) (place : Place) :
    (tree isEmpty record low chain follow depth place t).Tightens (· = .tooDeep low)
      (tree isEmpty record high chain follow' depth place t) :=
  tree_related Walk.tightens_congruence (reach_tightens h chain) (fun _ _ _ => .inl rfl) hfollow t
    depth place

theorem follow_of_le (chain : List String) (id : String) (depth : Nat) (place : Place) :
    (follow store isEmpty record low chain id depth place).Tightens (· = .tooDeep low)
      (follow store isEmpty record high chain id depth place) := by
  have hR := Walk.tightens_congruence (P := (· = .tooDeep low))
  induction chain using Expansion.chain_induction low generalizing id depth place with
  | step chain ih =>
  rw [follow_eq, follow_eq]
  rcases Expansion.enter_of_le h chain id with hsame | hdeep
  · rw [← hsame]
    cases he : Expansion.enter low chain id with
    | error e => exact hR.plain _
    | ok inner =>
      refine hR.bind (hR.plain _) fun rule => ?_
      cases Condition.ofJson rule.conditions with
      | error m => exact hR.plain _
      | ok c => exact tree_of_le h isEmpty record (ih id inner he) c.tree depth place
  · rw [hdeep]
    exact Walk.tightens_fail rfl

theorem decide_of_le (rule : Rule) :
    (store.decide low isEmpty rule record).Tightens (· = .tooDeep low)
      (store.decide high isEmpty rule record) := by
  have hR := Walk.tightens_congruence (P := (· = .tooDeep low))
  rw [Store.decide, Store.decide]
  cases rule.trees with
  | error m => exact hR.plain _
  | ok ts =>
    refine roots_related hR (List.forall₂_same.mpr fun t _ index => root_related hR ?_) 0
    exact tree_of_le h isEmpty record (follow_of_le h store isEmpty record _) t 0 ⟨index, []⟩

end Evaluation

/-! ## Rules -/

/-- Of the failures only one names a limit, and it names the limit that the walk was given. -/
theorem Failure.covered_tooDeep (limit : Nat) :
    Failure.Covered limit (fun _ _ => True) fun e =>
      ∀ reported, e = .tooDeep reported → reported = limit where
  notFound _ := nofun
  tooDeep := by
    rintro _ ⟨⟩
    rfl
  referenceCycle _ _ _ _ := nofun
  malformedNode _ _ := nofun

namespace Store

variable (store : Store)

theorem review_of_le {low high : Nat} (h : low ≤ high) {rule : Rule}
    (hlow : (store.review low rule).outcome ≠ .error (.tooDeep low)) :
    (store.review high rule).outcome = (store.review low rule).outcome := by
  rcases Inspection.conditions_of_le h store rule.origin? rule.conditions with hsame | ⟨e, he, rfl⟩
  · exact hsame.symm
  · exact absurd he hlow

/-- Under the higher limit an evaluation comes to the same and also goes the same way. -/
theorem evaluate_of_le {low high : Nat} (h : low ≤ high) {isEmpty : Emptiness} {traced : Bool}
    {rule : Rule} {record : Json} {cache : PatternCache}
    (hlow : (store.evaluate low isEmpty traced rule record cache).1.outcome ≠
      .error (.tooDeep low)) (cache' : PatternCache) :
    (store.evaluate high isEmpty traced rule record cache').1 =
      (store.evaluate low isEmpty traced rule record cache).1 := by
  rw [store.evaluate_alike high isEmpty traced rule record cache' cache]
  rcases Evaluation.decide_of_le h store isEmpty record rule cache with hsame | ⟨e, he, rfl⟩
  · simp only [evaluate, hsame]
  · rw [outcome_evaluate, he] at hlow
    exact absurd rfl hlow

theorem reported_limit_review {limit : Nat} {rule : Rule} {reported : Nat}
    (h : (store.review limit rule).outcome = .error (.tooDeep reported)) : reported = limit := by
  have hreview : (store.review limit rule).FailsAs _ :=
    (Failure.covered_tooDeep limit).failsAs_review (fun _ _ _ _ => trivial) fun _ _ _ _ => trivial
  exact hreview _ h reported rfl

theorem reported_limit_evaluate {limit : Nat} {isEmpty : Emptiness} {traced : Bool} {rule : Rule}
    {record : Json} {cache : PatternCache} {reported : Nat}
    (h : (store.evaluate limit isEmpty traced rule record cache).1.outcome =
      .error (.tooDeep reported)) : reported = limit := by
  have hevaluate : (store.evaluate limit isEmpty traced rule record).FailsAs _ :=
    (Failure.covered_tooDeep limit).failsAs_evaluate (fun _ _ _ _ _ => trivial)
      fun _ _ _ _ _ _ => trivial
  exact hevaluate cache _ h reported rfl

/-- **A higher limit only lets more pass.** Unless something lies too deep, a review or an evaluation
under the higher limit comes to what it comes to under the low one, be that a review, a report or
another failure. And where something lies too deep, the failure names the limit that was given. -/
theorem outcome_of_limit_le {low high : Nat} (h : low ≤ high) (rule : Rule) :
    ((store.review low rule).outcome ≠ .error (.tooDeep low) →
      (store.review high rule).outcome = (store.review low rule).outcome) ∧
    (∀ isEmpty traced record cache cache',
      (store.evaluate low isEmpty traced rule record cache).1.outcome ≠ .error (.tooDeep low) →
      (store.evaluate high isEmpty traced rule record cache').1 =
        (store.evaluate low isEmpty traced rule record cache).1) ∧
    (∀ limit reported, (store.review limit rule).outcome = .error (.tooDeep reported) →
      reported = limit) ∧
    ∀ limit isEmpty traced record cache reported,
      (store.evaluate limit isEmpty traced rule record cache).1.outcome =
        .error (.tooDeep reported) → reported = limit := by
  refine ⟨store.review_of_le h, ?_, fun _ _ hdeep => store.reported_limit_review hdeep, ?_⟩
  · intro isEmpty traced record cache cache' hlow
    exact store.evaluate_of_le h hlow cache'
  · intro limit isEmpty traced record cache reported hdeep
    exact store.reported_limit_evaluate hdeep

/-- Under the own id the circle needs room for three more rules, since `adult` is entered inside the
last of them; with less, the cycle is not found. -/
theorem circlingRule_limits :
    (circlingStore.review 3 (circlingRule "r")).outcome = .error (.tooDeep 3) ∧
      (circlingStore.review 4 (circlingRule "r")).outcome =
        .error (.referenceCycle ["r", "a", "b", "a"]) ∧
      (circlingStore.review 64 (circlingRule "r")).outcome =
        (circlingStore.review 4 (circlingRule "r")).outcome ∧
      (circlingStore.evaluate 4 .standard true (circlingRule "r") agedRecord (.empty 0)).1.outcome =
        .error (.referenceCycle ["r", "a", "b", "a"]) ∧
      (circlingStore.evaluate 64 .standard true (circlingRule "r") agedRecord (.empty 1)).1 =
        (circlingStore.evaluate 4 .standard true (circlingRule "r") agedRecord (.empty 0)).1 := by
  have hreview : (circlingStore.review 4 (circlingRule "r")).outcome =
      .error (.referenceCycle ["r", "a", "b", "a"]) := rfl
  have hevaluate : (circlingStore.evaluate 4 .standard true (circlingRule "r") agedRecord
      (.empty 0)).1.outcome = .error (.referenceCycle ["r", "a", "b", "a"]) := rfl
  have hle : 4 ≤ 64 := by omega
  obtain ⟨hsame, hreport, _⟩ := circlingStore.outcome_of_limit_le hle (circlingRule "r")
  refine ⟨rfl, hreview, hsame ?_, hevaluate, hreport _ _ _ _ _ ?_⟩
  · rw [hreview]
    nofun
  · rw [hevaluate]
    nofun

end Store

end RuleTree

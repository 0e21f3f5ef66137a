import RuleTree.Engine
import RuleTree.Proofs.Approval

/-!
What becomes of a rule that cannot be evaluated. A review accepts exactly where it has no defect
(`Store.review_settled`), so the two ways of asking it agree. From this follows what every operation that
evaluates does (`Engine.gated_of_evaluating`): a refused rule is complained about once and never
evaluated, a rule that cannot be found or reviewed only fails, and of an accepted rule nobody complains.
-/

namespace RuleTree

/-! ## Reviews that settle the matter -/

/-- A review that accepts exactly where it has no defect. -/
def Review.Settled (review : Review) : Prop :=
  review.accepted = true ↔ review.defect = none

theorem Flaw.settled_review (element : Json) (flaw : Option Flaw) :
    (Flaw.review element flaw).Settled := by
  cases flaw <;> simp [Flaw.review, Review.Settled, Review.ok, Review.refused]

theorem Review.Settled.merge {first second : Review} (hf : first.Settled) (hs : second.Settled) :
    (first.merge second).Settled := by
  unfold Settled at *
  simp only [Review.merge, Bool.and_eq_true, hf, hs]
  cases first.defect <;> simp

theorem Review.settled_foldl_merge {reviews : List Review} (h : ∀ r ∈ reviews, r.Settled)
    {first : Review} (hf : first.Settled) : (reviews.foldl Review.merge first).Settled := by
  induction reviews generalizing first with
  | nil => exact hf
  | cons review rest ih =>
    exact ih (fun r hr => h r (List.mem_cons_of_mem _ hr)) (hf.merge (h review List.mem_cons_self))

/-- Whatever the computation comes to has a property. -/
def Logged.Yields {ε α : Type} (P : α → Prop) (x : Logged ε α) : Prop :=
  ∀ a, x.outcome = .ok a → P a

namespace Logged

variable {ε α β : Type} {P : β → Prop}

theorem yields_pure {b : β} (h : P b) : (pure b : Logged ε β).Yields P := by
  rintro _ ⟨⟩
  exact h

theorem yields_bind {x : Logged ε α} {f : α → Logged ε β}
    (h : ∀ a, x.outcome = .ok a → (f a).Yields P) : (x >>= f).Yields P := by
  intro b hb
  obtain ⟨a, ha, hfa⟩ := (bind_eq_ok_iff x f b).mp hb
  exact h a ha b hfa

theorem yields_mapM {f : α → Logged ε β} {xs : List α} (h : ∀ x ∈ xs, (f x).Yields P) :
    (xs.mapM f).Yields fun ys => ∀ y ∈ ys, P y := by
  induction xs with
  | nil => exact yields_pure (by simp)
  | cons x xs ih =>
    rw [List.mapM_cons]
    refine yields_bind fun y hy => yields_bind fun ys hys => yields_pure ?_
    rw [List.forall_mem_cons]
    exact ⟨h x List.mem_cons_self y hy, ih (fun z hz => h z (List.mem_cons_of_mem _ hz)) ys hys⟩

end Logged

namespace Inspection

variable {store : Store} {limit : Nat}

/-- Children that settle the matter one by one settle it together: the last one that is looked at
decides. -/
theorem settled_children {chain : List String} {follow : Follow} {depth : Nat} {nodes : List Json}
    (h : ∀ node ∈ nodes, (item limit chain follow depth node).Yields Review.Settled) :
    (children limit chain follow depth nodes).Yields Review.Settled := by
  induction nodes with
  | nil =>
    rw [children]
    exact Logged.yields_pure (Flaw.settled_review .null none)
  | cons node rest ih =>
    rw [children_cons]
    refine Logged.yields_bind fun review hr => ?_
    split
    · exact ih fun other hm => h other (List.mem_cons_of_mem _ hm)
    · exact Logged.yields_pure (h node List.mem_cons_self review hr)

theorem settled_condition_of_follow {chain : List String} {follow : Follow}
    (hfollow : ∀ id role depth, (follow id role depth).Yields Review.Settled) :
    ∀ node, (∀ depth, (condition limit chain follow depth node).Yields Review.Settled) ∧
      ∀ depth, (item limit chain follow depth node).Yields Review.Settled := by
  refine walk_induction ?root ?flawed ?flawless ?reference ?inner ?leaf
  case root =>
    intro depth id
    rw [condition_string]
    exact Logged.yields_bind fun _ _ => hfollow id .root depth
  case flawed =>
    intro depth node flaw hs hf
    rw [condition_of_flaw hs hf]
    exact Logged.yields_bind fun _ _ => Logged.yields_pure (Flaw.settled_review node _)
  case flawless =>
    intro depth node nodes _ hf hc ih
    rw [condition_of_flawless hf hc]
    exact Logged.yields_bind fun _ _ => settled_children ih
  case reference =>
    intro depth id
    exact hfollow id .child depth
  case inner =>
    intro depth node hc ih
    rw [item_of_isCondition hc]
    exact ih
  case leaf =>
    intro depth node hs hc
    rw [item_of_leaf hs hc]
    exact Logged.yields_pure (Flaw.settled_review node _)

theorem settled_follow (chain : List String) (id : String) (role : Role) (depth : Nat) :
    (follow store limit chain id role depth).Yields Review.Settled := by
  induction chain using Expansion.chain_induction limit generalizing id role depth with
  | step chain ih =>
  rw [follow_eq]
  cases he : Expansion.enter limit chain id with
  | error e => exact nofun
  | ok inner =>
    have hinner (node : Json) (depth : Nat) :
        (condition limit inner (follow store limit inner) depth node).Yields Review.Settled :=
      (settled_condition_of_follow (ih id inner he) node).1 depth
    refine Logged.yields_bind fun rule _ => ?_
    cases role with
    | root => exact hinner rule.conditions depth
    | child =>
      show (child limit inner (follow store limit inner) depth rule.conditions).Yields _
      rw [child]
      split
      · exact hinner rule.conditions (depth + 1)
      · exact Logged.yields_pure (Flaw.settled_review _ _)

theorem settled_conditions (origin : Option String) (written : Json) :
    (conditions store limit origin written).Yields Review.Settled := by
  unfold conditions
  split
  · exact Logged.yields_pure (Flaw.settled_review written _)
  · have hroot (node : Json) : (root store limit origin node).Yields Review.Settled :=
      (settled_condition_of_follow (settled_follow _) node).1 0
    refine Logged.yields_bind fun reviews hr => Logged.yields_pure ?_
    exact Review.settled_foldl_merge (Logged.yields_mapM (fun node _ => hroot node) reviews hr)
      (Flaw.settled_review .null none)

end Inspection

/-- A review of a rule accepts exactly where it has no defect. -/
theorem Store.review_settled (store : Store) (limit : Nat) (rule : Rule) :
    (store.review limit rule).Yields Review.Settled :=
  Inspection.settled_conditions rule.origin? rule.conditions

theorem Store.reviewJson_settled (store : Store) (limit : Nat) (rule : Json) :
    (store.reviewJson limit rule).Yields Review.Settled := by
  unfold reviewJson
  split
  · exact Inspection.settled_conditions _ _
  · exact Logged.yields_pure (Flaw.settled_review rule _)

/-! ## Counters -/

namespace Tally

/-- Two tallies with the same reviews and the same evaluations. -/
structure SameJudgements (before after : Tally) : Prop where
  evaluations : ∀ ending, after.evaluations ending = before.evaluations ending
  timed : after.timed = before.timed
  accepted : after.accepted = before.accepted
  refused : after.refused = before.refused

theorem SameJudgements.trans {a b c : Tally} (h : a.SameJudgements b) (h' : b.SameJudgements c) :
    a.SameJudgements c :=
  ⟨fun ending => (h'.evaluations ending).trans (h.evaluations ending), h'.timed.trans h.timed,
    h'.accepted.trans h.accepted, h'.refused.trans h.refused⟩

theorem sameJudgements_countStep (t : Tally) (step : Step) :
    t.SameJudgements (t.countStep step) := by
  cases step with
  | reached => exact ⟨fun _ => rfl, rfl, rfl, rfl⟩
  | lookedUp _ found =>
    cases found <;> exact ⟨fun ending => by cases ending <;> rfl, rfl, rfl, rfl⟩

/-- Steps are counted as look-ups and nothing else. -/
theorem sameJudgements_countSteps (t : Tally) (steps : List Step) :
    t.SameJudgements (t.countSteps steps) := by
  induction steps generalizing t with
  | nil => exact ⟨fun _ => rfl, rfl, rfl, rfl⟩
  | cons step rest ih =>
    exact (sameJudgements_countStep t step).trans (ih (t.countStep step))

theorem evaluations_countEvaluation (t : Tally) (ending other : Ending) :
    (t.countEvaluation ending).evaluations other =
      t.evaluations other + if other = ending then 1 else 0 := by
  cases ending <;> cases other <;> rfl

theorem evaluations_countReview (t : Tally) (accepted : Bool) (ending : Ending) :
    (t.countReview accepted).evaluations ending = t.evaluations ending := by
  cases accepted <;> cases ending <;> rfl

end Tally

/-! ## Finding and reviewing a rule -/

namespace Engine

abbrev reviewOf (engine : Engine) (rule : Rule) : Logged Step Review :=
  engine.store.review engine.config.maxDepth rule

def searchOf (engine : Engine) : Source → List Step
  | .inline _ => []
  | .stored id => (engine.store.fetch id).log

/-- The engine after the rule was found and its review came to an end or failed. -/
def examined (engine : Engine) (source : Source) (rule : Rule) : Engine :=
  (engine.counting (engine.searchOf source)).counting (engine.reviewOf rule).log

variable {engine : Engine} {source : Source} {rule : Rule} {review : Review} {e : Failure}

theorem resolve_eq {outcome : Except Failure Rule} (h : (engine.resolve source).1 = outcome) :
    engine.resolve source = (outcome, engine.counting (engine.searchOf source)) := by
  subst h
  cases source <;> rfl

theorem prepare_of_unresolved (h : (engine.resolve source).1 = .error e) :
    engine.prepare source = (.error e, engine.counting (engine.searchOf source)) := by
  simp only [prepare, resolve_eq h]

theorem prepare_of_unreviewed (h : (engine.resolve source).1 = .ok rule)
    (hr : (engine.reviewOf rule).outcome = .error e) :
    engine.prepare source = (.error e, engine.examined source rule) := by
  have hreview : (engine.counting (engine.searchOf source)).reviewRule rule =
      (.error e, engine.examined source rule) := by
    simp only [reviewRule, reviewed, counting, hr, examined]
  simp only [prepare, resolve_eq h, hreview]

/-- The engine after the review of the rule was counted. -/
def judged (engine : Engine) (source : Source) (rule : Rule) (accepted : Bool) : Engine :=
  { engine.examined source rule with
    tally := (engine.examined source rule).tally.countReview accepted }

theorem reviewRule_of_reviewed (hr : (engine.reviewOf rule).outcome = .ok review) :
    (engine.counting (engine.searchOf source)).reviewRule rule =
      (.ok review, engine.judged source rule review.accepted) := by
  simp only [reviewRule, reviewed, counting, hr, judged, examined]

theorem prepare_of_defect {defect : Defect} (h : (engine.resolve source).1 = .ok rule)
    (hr : (engine.reviewOf rule).outcome = .ok review) (hd : review.defect = some defect) :
    engine.prepare source = (engine.judged source rule review.accepted).refuse rule defect := by
  simp only [prepare, resolve_eq h, reviewRule_of_reviewed hr, hd]

theorem prepare_of_no_defect (h : (engine.resolve source).1 = .ok rule)
    (hr : (engine.reviewOf rule).outcome = .ok review) (hd : review.defect = none) :
    engine.prepare source = (.ok rule, engine.judged source rule review.accepted) := by
  simp only [prepare, resolve_eq h, reviewRule_of_reviewed hr, hd]

/-! ## What becomes of a rule -/

/-- Neither a complaint nor a review nor an evaluation comes between two states of an engine. -/
structure Quiet (before after : Engine) : Prop where
  complaints : after.complaints = before.complaints
  judgements : before.tally.SameJudgements after.tally

/-- What a refusal does: it complains once, and counts a refused review and an evaluation that ended with
an invalid rule. Nothing is evaluated: no pattern was compiled and no rule asked for but by the
search and the review. -/
structure Refused (before after : Engine) (source : Source) (rule : Rule) (defect : Defect) :
    Prop where
  complaints : after.complaints = before.complaints ++
    [⟨"rule '" ++ rule.id ++ "' is not valid: " ++ defect.message,
      .object [("element", defect.element), ("ruleId", .string rule.id)]⟩]
  evaluations : ∀ ending, after.tally.evaluations ending =
    before.tally.evaluations ending + if ending = .invalid then 1 else 0
  reviews : after.tally.refused = before.tally.refused + 1 ∧
    after.tally.accepted = before.tally.accepted
  lookups : after.tally.found = (before.examined source rule).tally.found ∧
    after.tally.missing = (before.examined source rule).tally.missing
  cache : after.cache = before.cache

/-- What an operation that evaluates a rule makes of the ways in which finding and reviewing the rule can
end. -/
structure Gated {α : Type} (engine : Engine) (source : Source)
    (answer : Except Failure α × Engine) : Prop where
  unresolved : ∀ e, (engine.resolve source).1 = .error e →
    answer.1 = .error e ∧ engine.Quiet answer.2
  unreviewed : ∀ rule e, (engine.resolve source).1 = .ok rule →
    (engine.reviewOf rule).outcome = .error e → answer.1 = .error e ∧ engine.Quiet answer.2
  refused : ∀ rule review, (engine.resolve source).1 = .ok rule →
    (engine.reviewOf rule).outcome = .ok review → review.accepted = false →
    ∃ defect, review.defect = some defect ∧
      answer.1 = .error (.invalidRule rule.id defect.message defect.element) ∧
      engine.Refused answer.2 source rule defect
  accepted : ∀ rule review, (engine.resolve source).1 = .ok rule →
    (engine.reviewOf rule).outcome = .ok review → review.accepted = true →
    answer.2.complaints = engine.complaints

theorem quiet_examined (engine : Engine) (source : Source) (rule : Rule) :
    engine.Quiet (engine.examined source rule) := by
  have hs := engine.tally.sameJudgements_countSteps (engine.searchOf source)
  have hr := (engine.tally.countSteps (engine.searchOf source)).sameJudgements_countSteps
    (engine.reviewOf rule).log
  exact ⟨rfl, hs.trans hr⟩

theorem refused_refuse (engine : Engine) (source : Source) (rule : Rule) (defect : Defect) :
    engine.Refused (refuse (α := Rule) (engine.judged source rule false) rule defect).2
      source rule defect := by
  have hq := (engine.quiet_examined source rule).judgements
  refine ⟨rfl, fun ending => ?_, ⟨?_, ?_⟩, ⟨rfl, rfl⟩, rfl⟩
  · show (((engine.examined source rule).tally.countReview false).countEvaluation
      .invalid).evaluations ending = _
    rw [Tally.evaluations_countEvaluation, Tally.evaluations_countReview, hq.evaluations]
  · rw [← hq.refused]; rfl
  · rw [← hq.accepted]; rfl

/-- An operation is gated if it starts by preparing the rule and complains of nothing afterwards. -/
theorem Gated.of_prepare {α : Type} {answer : Except Failure α × Engine}
    (next : Rule → Engine → Except Failure α × Engine)
    (herror : ∀ e after, engine.prepare source = (.error e, after) → answer = (.error e, after))
    (hok : ∀ rule after, engine.prepare source = (.ok rule, after) → answer = next rule after)
    (hnext : ∀ rule after, (next rule after).2.complaints = after.complaints) :
    engine.Gated source answer where
  unresolved e h := by
    rw [herror _ _ (prepare_of_unresolved h)]
    exact ⟨rfl, rfl, engine.tally.sameJudgements_countSteps _⟩
  unreviewed rule e h hr := by
    rw [herror _ _ (prepare_of_unreviewed h hr)]
    exact ⟨rfl, engine.quiet_examined source rule⟩
  refused rule review h hr hrefused := by
    have hsettled := engine.store.review_settled engine.config.maxDepth rule review hr
    cases hd : review.defect with
    | none => rw [hsettled.mpr hd] at hrefused; cases hrefused
    | some defect =>
      have hp := prepare_of_defect h hr hd
      rw [hrefused] at hp
      rw [herror _ _ hp]
      exact ⟨defect, rfl, rfl, engine.refused_refuse source rule defect⟩
  accepted rule review h hr haccepted := by
    have hsettled := engine.store.review_settled engine.config.maxDepth rule review hr
    have hp := prepare_of_no_defect h hr (hsettled.mp haccepted)
    rw [hok _ _ hp, hnext]
    rfl

theorem Gated.map {α β : Type} {answer : Except Failure α × Engine} (f : α → β)
    (h : engine.Gated source answer) : engine.Gated source (answer.1.map f, answer.2) where
  unresolved e hs := by
    obtain ⟨ha, hq⟩ := h.unresolved e hs
    exact ⟨by rw [ha]; rfl, hq⟩
  unreviewed rule e hs hr := by
    obtain ⟨ha, hq⟩ := h.unreviewed rule e hs hr
    exact ⟨by rw [ha]; rfl, hq⟩
  refused rule review hs hr hrefused := by
    obtain ⟨defect, hd, ha, hafter⟩ := h.refused rule review hs hr hrefused
    exact ⟨defect, hd, by rw [ha]; rfl, hafter⟩
  accepted := h.accepted

theorem complaints_runAll (engine : Engine) (rule : Rule) (records : List Json) :
    (engine.runAll rule records).2.complaints = engine.complaints := by
  induction records generalizing engine with
  | nil => rfl
  | cons record rest ih =>
    rw [runAll]
    rcases h : engine.run rule record false with ⟨_ | report, after⟩
    · exact congrArg (·.2.complaints) h.symm
    · exact (ih after).trans (congrArg (·.2.complaints) h.symm)

theorem gated_evaluate (engine : Engine) (source : Source) (record : Json) :
    engine.Gated source (engine.evaluate source record) :=
  .of_prepare (fun rule after =>
      ((after.run rule record false).1.map Report.verdict, (after.run rule record false).2))
    (fun _ _ h => by simp only [evaluate, h]) (fun _ _ h => by simp only [evaluate, h])
    fun _ _ => rfl

theorem gated_evaluateAll (engine : Engine) (source : Source) (records : List Json) :
    engine.Gated source (engine.evaluateAll source records) :=
  .of_prepare (fun rule after => after.runAll rule records)
    (fun _ _ h => by simp only [evaluateAll, h]) (fun _ _ h => by simp only [evaluateAll, h])
    fun rule after => complaints_runAll after rule records

theorem gated_explain (engine : Engine) (source : Source) (record : Json) :
    engine.Gated source (engine.explain source record) :=
  .of_prepare (fun rule after => after.run rule record after.config.traceEnabled)
    (fun _ _ h => by simp only [explain, h]) (fun _ _ h => by simp only [explain, h])
    fun _ _ => rfl

/-- **No verdict on a refused rule.** Each operation that evaluates tells every way in which finding and
reviewing the rule can go wrong on exactly one channel, and complains of a rule only if it is refused.
That the operations look at the defect and callers at the acceptance makes no difference: a review
accepts exactly where there is no defect. -/
theorem gated_of_evaluating (engine : Engine) (source : Source) :
    (∀ record, engine.Gated source (engine.evaluate source record)) ∧
    (∀ records, engine.Gated source (engine.evaluateAll source records)) ∧
    (∀ data, engine.Gated source (engine.evaluateData source data)) ∧
    (∀ record, engine.Gated source (engine.explain source record)) ∧
    (∀ rule review, (engine.reviewOf rule).outcome = .ok review →
      (review.accepted = true ↔ review.defect = none)) ∧
    ∀ written review, (engine.store.reviewJson engine.config.maxDepth written).outcome = .ok review →
      (review.accepted = true ↔ review.defect = none) := by
  refine ⟨engine.gated_evaluate source, engine.gated_evaluateAll source, fun data => ?_,
    engine.gated_explain source, engine.store.review_settled engine.config.maxDepth,
    engine.store.reviewJson_settled engine.config.maxDepth⟩
  cases data with
  | array records => exact (engine.gated_evaluateAll source records).map Verdict.batch
  | _ => exact (engine.gated_evaluate source _).map Verdict.single

end Engine

end RuleTree

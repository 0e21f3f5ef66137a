import RuleTree.Proofs.Related
import RuleTree.Session

/-!
What an engine remembers cannot be told from its answers. Walks come to the same whatever patterns are
kept (`evaluate_alike`), and no question changes the rules, the limit or the reading of emptiness. So
two engines that are alike in these three give the same answers, whatever the capacities of their caches
and whatever they have been asked before (`answers_of_like`).
-/

namespace RuleTree

/-! ## Walks -/

/-- Two walks that write and come to the same, whatever patterns are kept on either side. -/
def Walk.Alike {α : Type} (x y : Walk α) : Prop :=
  ∀ cache cache', (x cache).1 = (y cache').1

theorem Walk.alike_congruence : Walk.Congruence @Walk.Alike where
  plain _ _ _ := rfl
  bind {α β x y f g} hx hf cache cache' := by
    have h := hx cache cache'
    simp only [Bind.bind, Walk.bind]
    rcases hl : x cache with ⟨⟨log, outcome⟩, kept⟩
    rcases hr : y cache' with ⟨⟨log', outcome'⟩, kept'⟩
    rw [hl, hr] at h
    cases h
    cases outcome with
    | error e => rfl
    | ok a => exact congrArg (Logged.after log) (hf a kept kept')

namespace Evaluation

variable {isEmpty : Emptiness} {record : Json} {limit : Nat} {store : Store}

theorem constraint_alike (c : Constraint) (place : Place) :
    (constraint isEmpty record c place).Alike (constraint isEmpty record c place) := by
  intro cache cache'
  have h : (c.check isEmpty record cache).1 = (c.check isEmpty record cache').1 := by
    rw [c.check_fst, c.check_fst]
  simp only [constraint, h]

theorem follow_alike (chain : List String) (id : String) (depth : Nat) (place : Place) :
    (follow store isEmpty record limit chain id depth place).Alike
      (follow store isEmpty record limit chain id depth place) := by
  have hR := Walk.alike_congruence
  induction chain using Expansion.chain_induction limit generalizing id depth place with
  | step chain ih =>
    rw [follow_eq]
    cases he : Expansion.enter limit chain id with
    | error e => exact hR.plain _
    | ok inner =>
      refine hR.bind (hR.plain _) fun rule => ?_
      cases Condition.ofJson rule.conditions with
      | error m => exact hR.plain _
      | ok c =>
        exact tree_related hR (fun _ => hR.plain _) constraint_alike (ih id inner he) c.tree depth place

theorem root_alike (origin : Option String) (index : Nat) (t : Tree) :
    (root store isEmpty record limit origin index t).Alike
      (root store isEmpty record limit origin index t) := by
  have hR := Walk.alike_congruence
  refine root_related hR ?_
  exact tree_related hR (fun _ => hR.plain _) constraint_alike (follow_alike _) t 0 ⟨index, []⟩

end Evaluation

/-- An evaluation writes and comes to the same, whatever patterns are kept. -/
theorem Store.evaluate_alike (store : Store) (limit : Nat) (isEmpty : Emptiness) (traced : Bool)
    (rule : Rule) (record : Json) :
    (store.evaluate limit isEmpty traced rule record).Alike
      (store.evaluate limit isEmpty traced rule record) := by
  have hdecide : (store.decide limit isEmpty rule record).Alike
      (store.decide limit isEmpty rule record) := by
    unfold decide
    cases rule.trees with
    | error m => exact Walk.alike_congruence.plain _
    | ok ts =>
      exact Evaluation.roots_related Walk.alike_congruence
        (List.forall₂_same.mpr fun t _ index => Evaluation.root_alike _ index t) 0
  intro cache cache'
  simp only [evaluate, hdecide cache cache']

namespace Engine

/-! ## Engines -/

/-- Two engines with the same rules, the same limit and the same reading of emptiness. -/
structure Like (left right : Engine) : Prop where
  store : left.store = right.store
  maxDepth : left.config.maxDepth = right.config.maxDepth
  isEmpty : left.isEmpty = right.isEmpty

theorem Like.refl (engine : Engine) : engine.Like engine := ⟨rfl, rfl, rfl⟩

theorem Like.symm {left right : Engine} (h : left.Like right) : right.Like left :=
  ⟨h.store.symm, h.maxDepth.symm, h.isEmpty.symm⟩

theorem Like.trans {left middle right : Engine} (h : left.Like middle) (h' : middle.Like right) :
    left.Like right :=
  ⟨h.store.trans h'.store, h.maxDepth.trans h'.maxDepth, h.isEmpty.trans h'.isEmpty⟩

/-- An operation that leaves an engine like it was, and that engines which are alike answer alike. -/
structure Steady {α : Type} (op : Engine → α × Engine) : Prop where
  kept : ∀ engine : Engine, engine.Like (op engine).2
  answer : ∀ {left right : Engine}, left.Like right → (op left).1 = (op right).1

/-- Engines that are alike are answered alike by a steady operation, and are alike afterwards. -/
theorem Steady.beside {α : Type} {op : Engine → α × Engine} (hop : Steady op) {left right : Engine}
    (h : left.Like right) :
    ∃ answer left' right', op left = (answer, left') ∧ op right = (answer, right') ∧
      left'.Like right' := by
  refine ⟨(op left).1, (op left).2, (op right).2, rfl, ?_, ?_⟩
  · rw [hop.answer h]
  · exact (hop.kept left).symm.trans (h.trans (hop.kept right))

/-- One steady operation after another, unless the first fails. -/
theorem Steady.andThen {α β : Type} {op : Engine → Except Failure α × Engine}
    {both : Engine → Except Failure β × Engine} {next : α → Engine → Except Failure β × Engine}
    (hop : Steady op) (hnext : ∀ a, Steady (next a))
    (herror : ∀ engine e after, op engine = (.error e, after) → both engine = (.error e, after))
    (hok : ∀ engine a after, op engine = (.ok a, after) → both engine = next a after) :
    Steady both := by
  constructor
  · intro engine
    have hk := hop.kept engine
    rcases h : op engine with ⟨_ | a, after⟩
    · rw [herror _ _ _ h]
      rwa [h] at hk
    · rw [hok _ _ _ h]
      rw [h] at hk
      exact hk.trans ((hnext a).kept after)
  · intro left right h
    obtain ⟨outcome, left', right', hl, hr, hafter⟩ := hop.beside h
    cases outcome with
    | error e => rw [herror _ _ _ hl, herror _ _ _ hr]
    | ok a =>
      rw [hok _ _ _ hl, hok _ _ _ hr]
      exact (hnext a).answer hafter

theorem Steady.map {α β : Type} {op : Engine → Except Failure α × Engine} (f : α → β)
    (hop : Steady op) : Steady fun engine => ((op engine).1.map f, (op engine).2) :=
  ⟨hop.kept, fun h => by rw [hop.answer h]⟩

theorem steady_resolve (source : Source) : Steady (resolve · source) := by
  cases source with
  | inline rule => exact ⟨Like.refl, fun _ => rfl⟩
  | stored id => exact ⟨fun _ => ⟨rfl, rfl, rfl⟩, fun h => by simp only [resolve, fetch, h.store]⟩

theorem steady_reviewed {review : Engine → Logged Step Review}
    (h : ∀ {left right : Engine}, left.Like right → review left = review right) :
    Steady fun engine => engine.reviewed (review engine) := by
  constructor
  · intro engine
    unfold reviewed
    split <;> exact ⟨rfl, rfl, rfl⟩
  · intro left right hl
    simp only [reviewed, h hl]
    split <;> rfl

theorem steady_reviewRule (rule : Rule) : Steady (reviewRule · rule) :=
  steady_reviewed fun h => by rw [h.store, h.maxDepth]

theorem steady_review (source : Source) : Steady (review · source) :=
  (steady_resolve source).andThen steady_reviewRule (fun _ _ _ h => by simp only [review, h])
    fun _ _ _ h => by simp only [review, h]

theorem steady_reviewJson (written : Json) : Steady (reviewJson · written) :=
  steady_reviewed fun h => by rw [h.store, h.maxDepth]

theorem steady_refuse {α : Type} (rule : Rule) (defect : Defect) :
    Steady (refuse (α := α) · rule defect) :=
  ⟨fun _ => ⟨rfl, rfl, rfl⟩, fun _ => rfl⟩

/-- Preparing a rule is finding it and then preparing it as one that is given. -/
theorem steady_prepare (source : Source) : Steady (prepare · source) := by
  have hsettled (rule : Rule) (review : Review) : Steady fun engine : Engine =>
      review.defect.elim (.ok rule, engine) (engine.refuse rule) := by
    cases review.defect with
    | none => exact ⟨Like.refl, fun _ => rfl⟩
    | some defect => exact steady_refuse rule defect
  have hinline (rule : Rule) : Steady (prepare · (.inline rule)) := by
    refine (steady_reviewRule rule).andThen (hsettled rule) (fun engine e after h => ?_)
      fun engine review after h => ?_
    · simp only [prepare, resolve, h]
    · cases hd : review.defect <;> simp only [prepare, resolve, h, hd, Option.elim]
  exact (steady_resolve source).andThen hinline (fun _ _ _ h => by simp only [prepare, h])
    fun engine rule after h => by
      have hgiven : after.resolve (.inline rule) = (.ok rule, after) := rfl
      simp only [prepare, h, hgiven]

/-- The cache is the only state an evaluation reads, and it does not show. -/
theorem steady_run (rule : Rule) (record : Json) (traced : Bool) :
    Steady (run · rule record traced) := by
  refine ⟨fun engine => ⟨rfl, rfl, rfl⟩, fun {left right} h => ?_⟩
  simp only [run, h.store, h.maxDepth, h.isEmpty]
  exact congrArg Logged.outcome (right.store.evaluate_alike _ _ _ _ _ left.cache right.cache)

theorem steady_runAll (rule : Rule) (records : List Json) : Steady (runAll · rule records) := by
  induction records with
  | nil => exact ⟨Like.refl, fun _ => rfl⟩
  | cons record rest ih =>
    exact (steady_run rule record false).andThen (fun report => ih.map (report.verdict :: ·))
      (fun _ _ _ h => by simp only [runAll, h]) fun _ _ _ h => by simp only [runAll, h]

theorem steady_evaluate (source : Source) (record : Json) : Steady (evaluate · source record) :=
  (steady_prepare source).andThen (fun rule => (steady_run rule record false).map Report.verdict)
    (fun _ _ _ h => by simp only [evaluate, h]) fun _ _ _ h => by simp only [evaluate, h]

theorem steady_evaluateAll (source : Source) (records : List Json) :
    Steady (evaluateAll · source records) :=
  (steady_prepare source).andThen (fun rule => steady_runAll rule records)
    (fun _ _ _ h => by simp only [evaluateAll, h]) fun _ _ _ h => by simp only [evaluateAll, h]

theorem steady_evaluateData (source : Source) (data : Json) :
    Steady (evaluateData · source data) := by
  cases data with
  | array records => exact (steady_evaluateAll source records).map Verdict.batch
  | _ => exact (steady_evaluate source _).map Verdict.single

/-- Explaining reads whether a trace is wanted, which engines that are alike may disagree about. -/
theorem explain_kept (engine : Engine) (source : Source) (record : Json) :
    engine.Like (engine.explain source record).2 := by
  have hk := (steady_prepare source).kept engine
  unfold explain
  rcases h : engine.prepare source with ⟨_ | rule, after⟩
  · rwa [h] at hk
  · rw [h] at hk
    exact hk.trans ((steady_run rule record after.config.traceEnabled).kept after)

/-! ## Histories -/

end Engine

/-- A request that asks something and changes no rule. -/
def Request.asks : Request → Bool
  | .load _ | .loadText _ | .loadBatch _ | .update _ | .delete _ | .clear => false
  | _ => true

namespace Engine

theorem perform_kept (engine : Engine) (now : Time) {request : Request}
    (h : request.asks = true) : engine.Like (engine.perform now request).2 := by
  cases request with
  | fetch id => exact (steady_resolve (.stored id)).kept engine
  | review source => exact (steady_review source).kept engine
  | reviewJson written => exact (steady_reviewJson written).kept engine
  | evaluate source record => exact (steady_evaluate source record).kept engine
  | evaluateAll source records => exact (steady_evaluateAll source records).kept engine
  | evaluateData source data => exact (steady_evaluateData source data).kept engine
  | explain source record => exact engine.explain_kept source record
  | load | loadText | loadBatch | update | delete | clear => cases h
  | _ => exact Like.refl engine

theorem performAll_kept (engine : Engine) (now : Time) {requests : List Request}
    (h : ∀ request ∈ requests, request.asks = true) :
    engine.Like (engine.performAll now requests).2 := by
  induction requests generalizing engine with
  | nil => exact Like.refl engine
  | cons request rest ih =>
    have hfirst := engine.perform_kept now (h request List.mem_cons_self)
    exact hfirst.trans (ih _ fun other hm => h other (List.mem_cons_of_mem _ hm))

/-- **The past does not show.** Take two engines with the same rules, limit and reading of emptiness,
with caches of any capacity, and ask them anything before. Then both give the same answers to
evaluations of every kind and to reviews. -/
theorem answers_of_like {left right : Engine} (h : left.Like right) (now now' : Time)
    {history history' : List Request} (hl : ∀ request ∈ history, request.asks = true)
    (hr : ∀ request ∈ history', request.asks = true) (source : Source) :
    let left := (left.performAll now history).2
    let right := (right.performAll now' history').2
    (∀ record, (left.evaluate source record).1 = (right.evaluate source record).1) ∧
    (∀ records, (left.evaluateAll source records).1 = (right.evaluateAll source records).1) ∧
    (∀ data, (left.evaluateData source data).1 = (right.evaluateData source data).1) ∧
    (left.review source).1 = (right.review source).1 ∧
    (∀ written, (left.reviewJson written).1 = (right.reviewJson written).1) := by
  have hlike := ((left.performAll_kept now hl).symm.trans h).trans (right.performAll_kept now' hr)
  exact ⟨fun record => (steady_evaluate source record).answer hlike,
    fun records => (steady_evaluateAll source records).answer hlike,
    fun data => (steady_evaluateData source data).answer hlike,
    (steady_review source).answer hlike,
    fun written => (steady_reviewJson written).answer hlike⟩

/-- A rule whose field holds a pattern for its value. -/
def patternRule : Rule :=
  ⟨"r", "", .object [("all", .array [.object [("field", .string "code"),
    ("operator", .string "matches"), ("value", .string "aab")]])], none⟩

def patternRecord (pattern : String) : Json := .object [("code", .string pattern)]

/-- Questions that fill a cache of one pattern with several, one of them no pattern at all. -/
def patternHistory : List Request :=
  [.evaluate (.inline patternRule) (patternRecord "b$"),
    .explain (.inline patternRule) (patternRecord "a+b"), .review (.inline patternRule),
    .evaluateAll (.inline patternRule) [patternRecord "(", patternRecord "^b"]]

/-- A new engine that keeps no patterns, and one that keeps one and has been asked before. -/
theorem patternRule_answers :
    let fresh := Engine.new ⟨64, false, 0⟩ .standard .recording .empty
    let used := Engine.new ⟨64, true, 1⟩ .standard .messages .empty
    fresh.Like used ∧ (∀ request ∈ patternHistory, request.asks = true) ∧
      (fresh.evaluate (.inline patternRule) (patternRecord "a+b")).1 = .ok true ∧
      (fresh.evaluate (.inline patternRule) (patternRecord "a+b")).1 =
        ((used.performAll ⟨0, 0⟩ patternHistory).2.evaluate (.inline patternRule)
          (patternRecord "a+b")).1 := by
  intro fresh used
  have hlike : fresh.Like used := ⟨rfl, rfl, rfl⟩
  have hasks : ∀ request ∈ patternHistory, request.asks = true := by
    simp [patternHistory, Request.asks]
  have hnone : ∀ request ∈ ([] : List Request), request.asks = true := by simp
  obtain ⟨hevaluate, _⟩ :=
    answers_of_like hlike ⟨0, 0⟩ ⟨0, 0⟩ hnone hasks (.inline patternRule)
  exact ⟨hlike, hasks, rfl, hevaluate (patternRecord "a+b")⟩

end Engine

end RuleTree

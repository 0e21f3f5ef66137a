import Mathlib.Algebra.BigOperators.Group.List.Basic
import RuleTree.Proofs.Changes
import RuleTree.Proofs.EntryPoints
import RuleTree.Proofs.Misses

/-!
What the counters say about a run. Every request adds to each account what the request, its answer and
the engine before it tell (`Turn.adds_next`). So over a whole run the counters and the complaints are the
sums of that (`Engine.adds_afterAll`), and they balance with each other (`Engine.tally_balances`).
-/

namespace RuleTree

/-! ## Accounts -/

/-- What is added up in the course of a run. -/
inductive Account
  | complaints
  | timed
  | invalid
  | executed
  | accepted
  | refused
  | missing

theorem Tally.missing_countSteps (t : Tally) (steps : List Step) :
    (t.countSteps steps).missing = t.missing + steps.countP Step.misses := by
  induction steps generalizing t with
  | nil => rfl
  | cons step rest ih =>
    have hstep : (t.countStep step).missing = t.missing + step.misses.toNat := by
      cases step with
      | reached chain depth => rfl
      | lookedUp id found => cases found <;> rfl
    have hcons : (t.countSteps (step :: rest)) = (t.countStep step).countSteps rest := rfl
    rw [hcons, ih, hstep, List.countP_cons]
    cases step.misses
    · simp
    · simp
      omega

namespace Engine

def balance (engine : Engine) : Account → Nat
  | .complaints => engine.complaints.length
  | .timed => engine.tally.timed
  | .invalid => engine.tally.invalid
  | .executed => engine.tally.matched + engine.tally.notMatched + engine.tally.error
  | .accepted => engine.tally.accepted
  | .refused => engine.tally.refused
  | .missing => engine.tally.missing

/-- Between two states of an engine so much is added to each account. -/
structure Adds (engine after : Engine) (entry : Account → Nat) : Prop where
  sink : after.sink = engine.sink
  balance : ∀ account, after.balance account = engine.balance account + entry account

/-- What an operation adds that has made a review with the given result, if any, has executed so many
evaluations and comes to the outcome. -/
def dues {α : Type} (judgement : Option Bool) (executed : Nat) (outcome : Except Failure α) :
    Account → Nat
  | .complaints => (Failure.within Failure.isInvalid outcome).toNat
  | .timed => (Failure.within Failure.isInvalid outcome).toNat + executed
  | .invalid => (Failure.within Failure.isInvalid outcome).toNat
  | .executed => executed
  | .accepted => (judgement == some true).toNat
  | .refused => (judgement == some false).toNat
  | .missing => (Failure.within Failure.isMissing outcome).toNat

/-! ## Operations -/

variable {engine middle after : Engine} {entry : Account → Nat} {α β : Type}
  {judgement : Option Bool} {executed : Nat} {outcome : Except Failure α} {source : Source}

theorem dues_map (f : α → β) :
    dues judgement executed (outcome.map f) = dues judgement executed outcome := by
  funext account
  cases account <;> simp [dues, Failure.within_map]

theorem Adds.refl (engine : Engine) (a : α) : engine.Adds engine (dues none 0 (.ok a)) :=
  ⟨rfl, fun account => by cases account <;> rfl⟩

/-- After an operation that has come to something another one adds what it adds. At most one of them has
made a review. -/
theorem Adds.andThen {a : β} {before : Option Bool} {earlier : Nat}
    (h : engine.Adds middle (dues before earlier (.ok a)))
    (h' : middle.Adds after (dues judgement executed outcome))
    (hone : before = none ∨ judgement = none) :
    engine.Adds after (dues (before.or judgement) (earlier + executed) outcome) := by
  refine ⟨h'.sink.trans h.sink, fun account => ?_⟩
  rw [h'.balance, h.balance]
  rcases hone with rfl | rfl
  · cases account <;> simp [dues, Failure.within] <;> omega
  · cases account <;> simp [dues, Failure.within] <;> omega

/-- Evaluations may as well be counted after the operation that they are part of has failed. -/
theorem Adds.andCount {a : β} {more : Nat} (h : engine.Adds middle (dues judgement executed outcome))
    (h' : middle.Adds after (dues none more (.ok a))) :
    engine.Adds after (dues judgement (executed + more) outcome) := by
  refine ⟨h'.sink.trans h.sink, fun account => ?_⟩
  rw [h'.balance, h.balance]
  cases account <;> simp [dues, Failure.within] <;> omega

theorem adds_countReview (engine : Engine) (accepted : Bool) (a : α) :
    engine.Adds { engine with tally := engine.tally.countReview accepted }
      (dues (some accepted) 0 (.ok a)) := by
  refine ⟨rfl, fun account => ?_⟩
  cases accepted <;> cases account <;> rfl

theorem adds_refuse (engine : Engine) (rule : Rule) (defect : Defect) :
    engine.Adds (engine.refuse (α := α) rule defect).2
      (dues none 0 (engine.refuse (α := α) rule defect).1) := by
  refine ⟨rfl, fun account => ?_⟩
  cases account with
  | complaints => exact List.length_append
  | _ => rfl

theorem adds_countEvaluation (engine : Engine) (a : α) {ending : Ending} (h : ending ≠ .invalid) :
    engine.Adds { engine with tally := engine.tally.countEvaluation ending }
      (dues none 1 (.ok a)) := by
  refine ⟨rfl, fun account => ?_⟩
  cases ending with
  | invalid => exact absurd rfl h
  | _ =>
    cases account with
    | executed => simp only [balance, Tally.countEvaluation, dues]; omega
    | _ => rfl

theorem endingOf_ne_invalid (outcome : Except Failure Report) : endingOf outcome ≠ .invalid := by
  cases outcome with
  | error e => exact nofun
  | ok report =>
    rw [endingOf]
    split
    · exact nofun
    · exact nofun

/-- The steps of an honest computation add what its outcome tells. -/
theorem adds_counting (engine : Engine) {x : Logged Step α} (h : x.Honest Step.misses) :
    engine.Adds (engine.counting x.log) (dues none 0 x.outcome) := by
  have hsame := engine.tally.sameJudgements_countSteps x.log
  refine ⟨rfl, fun account => ?_⟩
  cases account with
  | complaints => simp [balance, counting, dues, h.valid]
  | timed => simp [balance, counting, dues, h.valid, hsame.timed]
  | invalid =>
    have hi := hsame.evaluations .invalid
    simp only [Tally.evaluations] at hi
    simp [balance, counting, dues, h.valid, hi]
  | executed =>
    have hm := hsame.evaluations .matched
    have hn := hsame.evaluations .notMatched
    have he := hsame.evaluations .error
    simp only [Tally.evaluations] at hm hn he
    simp [balance, counting, dues, hm, hn, he]
  | accepted => simp [balance, counting, dues, hsame.accepted]
  | refused => simp [balance, counting, dues, hsame.refused]
  | missing =>
    have hm := engine.tally.missing_countSteps x.log
    rw [h.missing] at hm
    exact hm

/-- The review that a rule from the source gets. -/
def judgement? (engine : Engine) (source : Source) : Option Bool :=
  (engine.review source).1.toOption.map Review.accepted

theorem adds_resolve (source : Source) :
    engine.Adds (engine.resolve source).2 (dues none 0 (engine.resolve source).1) := by
  cases source with
  | inline rule => exact .refl engine rule
  | stored id => exact engine.adds_counting (engine.store.honest_fetch id)

theorem adds_reviewed {x : Logged Step Review} (h : x.Honest Step.misses) :
    engine.Adds (engine.reviewed x).2
      (dues ((engine.reviewed x).1.toOption.map Review.accepted) 0 (engine.reviewed x).1) := by
  have hcount := engine.adds_counting h
  unfold reviewed
  cases ho : x.outcome with
  | error e =>
    rw [ho] at hcount
    exact hcount
  | ok review =>
    rw [ho] at hcount
    exact hcount.andThen (adds_countReview _ review.accepted review) (.inl rfl)

theorem valid_reviewed {x : Logged Step Review} (h : x.Honest Step.misses) :
    Failure.within Failure.isInvalid (engine.reviewed x).1 = false := by
  have hv := h.valid
  unfold reviewed
  cases ho : x.outcome with
  | error e =>
    rw [ho] at hv
    exact hv
  | ok review => rfl

theorem valid_review (source : Source) :
    Failure.within Failure.isInvalid (engine.review source).1 = false := by
  rw [review]
  cases source with
  | inline rule => exact valid_reviewed (engine.store.honest_review _ rule)
  | stored id =>
    have hv := (engine.store.honest_fetch id).valid
    simp only [resolve, fetch]
    cases ho : (engine.store.fetch id).outcome with
    | error e =>
      rw [ho] at hv
      exact hv
    | ok rule => exact valid_reviewed (Store.honest_review _ _ rule)

theorem adds_review (source : Source) :
    engine.Adds (engine.review source).2
      (dues (engine.judgement? source) 0 (engine.review source).1) := by
  have hresolve := engine.adds_resolve source
  unfold judgement? review
  rcases hr : engine.resolve source with ⟨_ | rule, found⟩
  · rw [hr] at hresolve
    exact hresolve
  · rw [hr] at hresolve
    exact hresolve.andThen (adds_reviewed (found.store.honest_review _ rule)) (.inl rfl)

theorem judgement?_of_review {review : Review} (h : engine.review source = (.ok review, after)) :
    engine.judgement? source = some review.accepted := by
  rw [judgement?, h]
  rfl

/-! ### Preparing a rule -/

/-- To prepare a rule is to review it, and then to refuse it or to hand it out. -/
theorem prepare_cases (engine : Engine) (source : Source) :
    (∃ e after, engine.review source = (.error e, after) ∧
      engine.prepare source = (.error e, after)) ∨
    (∃ review rule defect after, engine.review source = (.ok review, after) ∧
      review.accepted = false ∧ engine.prepare source = after.refuse rule defect) ∨
    ∃ review rule after, engine.review source = (.ok review, after) ∧
      review.accepted = true ∧ engine.prepare source = (.ok rule, after) := by
  rw [prepare, review]
  rcases engine.resolve source with ⟨e | rule, found⟩
  · exact .inl ⟨e, found, rfl, rfl⟩
  · simp only
    rcases hr : found.reviewRule rule with ⟨e | review, after⟩
    · exact .inl ⟨e, after, rfl, rfl⟩
    · have ho : (found.reviewOf rule).outcome = .ok review := by
        simp only [reviewRule, reviewed] at hr
        split at hr
        · cases hr
        next ho =>
          cases hr
          exact ho
      have hsettled := found.store.review_settled found.config.maxDepth rule review ho
      cases hd : review.defect with
      | some defect =>
        have hrefused : review.accepted = false := by
          cases ha : review.accepted with
          | false => rfl
          | true =>
            rw [hsettled.mp ha] at hd
            cases hd
        exact .inr (.inl ⟨review, rule, defect, after, rfl, hrefused, by simp only [hd]⟩)
      | none => exact .inr (.inr ⟨review, rule, after, rfl, hsettled.mpr hd, by simp only [hd]⟩)

/-- A prepared rule has been reviewed; where it is refused the caller is told so. -/
theorem adds_prepare (source : Source) :
    engine.Adds (engine.prepare source).2
      (dues (engine.judgement? source) 0 (engine.prepare source).1) := by
  have hreview := engine.adds_review source
  rcases engine.prepare_cases source with
    ⟨e, after, hr, hp⟩ | ⟨review, rule, defect, after, hr, _, hp⟩ | ⟨review, rule, after, hr, _, hp⟩
  · rw [hr] at hreview
    rw [hp]
    exact hreview
  · rw [hr] at hreview
    rw [hp]
    have hboth := hreview.andThen (after.adds_refuse (α := Rule) rule defect) (.inr rfl)
    rwa [Option.or_none] at hboth
  · rw [hr] at hreview
    rw [hp]
    exact hreview

/-- A rule comes out of its preparation exactly where its review accepts. -/
theorem judgement?_eq_true_iff :
    engine.judgement? source = some true ↔
      ∃ rule after, engine.prepare source = (.ok rule, after) := by
  rcases engine.prepare_cases source with
    ⟨e, after, hr, hp⟩ | ⟨review, rule, defect, after, hr, ha, hp⟩ | ⟨review, rule, after, hr, ha, hp⟩
  · rw [judgement?, hr, hp]
    exact iff_of_false nofun nofun
  · rw [judgement?_of_review hr, ha, hp]
    exact iff_of_false nofun nofun
  · rw [judgement?_of_review hr, ha, hp]
    exact iff_of_true rfl ⟨rule, after, rfl⟩

/-! ### Evaluations -/

theorem countP_stepsOf (log : List Event) :
    (stepsOf log).countP Step.misses = log.countP Event.misses := by
  rw [stepsOf, List.countP_filterMap]
  refine List.countP_congr fun event _ => ?_
  cases event <;> simp [Event.misses]

/-- Evaluating a fit rule is counted once, however it ends. -/
theorem adds_run (engine : Engine) (rule : Rule) (record : Json) (traced : Bool) :
    engine.Adds (engine.run rule record traced).2
      (dues none 1 (engine.run rule record traced).1) := by
  have hhonest := engine.store.honest_evaluate engine.config.maxDepth engine.isEmpty traced rule record
    engine.cache
  rw [run]
  rcases hev : engine.store.evaluate engine.config.maxDepth engine.isEmpty traced rule record
    engine.cache with ⟨⟨log, outcome⟩, cache⟩
  rw [hev] at hhonest
  have hsteps : (⟨stepsOf log, outcome⟩ : Logged Step Report).Honest Step.misses := by
    refine ⟨?_, hhonest.valid⟩
    rw [countP_stepsOf]
    exact hhonest.missing
  have hcount : engine.Adds { engine.counting (stepsOf log) with cache } (dues none 0 outcome) := by
    have hbalance := (engine.adds_counting hsteps).balance
    refine ⟨rfl, fun account => ?_⟩
    rw [← hbalance]
    cases account <;> rfl
  exact hcount.andCount (adds_countEvaluation _ () (endingOf_ne_invalid outcome))

/-- How many elements are gone through up to the first with which something goes wrong, and with it. -/
def goneThrough (ok : α → Bool) (xs : List α) : Nat :=
  (xs.takeWhile ok).length + if xs.all ok then 0 else 1

theorem goneThrough_cons (ok : α → Bool) (x : α) (xs : List α) :
    goneThrough ok (x :: xs) = 1 + if ok x then goneThrough ok xs else 0 := by
  cases h : ok x with
  | false => simp [goneThrough, h]
  | true => simp [goneThrough, h]; omega

theorem adds_runAll (engine : Engine) (rule : Rule) (records : List Json) :
    engine.Adds (engine.runAll rule records).2
      (dues none (goneThrough (fun record => (engine.run rule record false).1.isOk) records)
        (engine.runAll rule records).1) := by
  induction records generalizing engine with
  | nil => exact .refl engine _
  | cons record rest ih =>
    have hrun := engine.adds_run rule record false
    have hkept := (steady_run rule record false).kept engine
    rw [runAll, goneThrough_cons]
    rcases hr : engine.run rule record false with ⟨e | report, after⟩
    · rw [hr] at hrun
      exact hrun
    · rw [hr] at hrun hkept
      have hsame : (fun record => (engine.run rule record false).1.isOk) =
          fun record => (after.run rule record false).1.isOk := by
        funext other
        rw [(steady_run rule other false).answer hkept]
      have hrest := hrun.andThen (ih after) (.inl rfl)
      rw [hsame]
      show engine.Adds (after.runAll rule rest).2
        (dues none (1 + goneThrough _ rest) ((after.runAll rule rest).1.map (report.verdict :: ·)))
      rw [dues_map]
      exact hrest

/-- An operation that evaluates a rule where its preparation has handed it out. -/
theorem adds_of_prepare {answer : Except Failure α × Engine} (n : Nat)
    (herror : ∀ e after, engine.prepare source = (.error e, after) → answer = (.error e, after))
    (hok : ∀ rule after, engine.prepare source = (.ok rule, after) →
      after.Adds answer.2 (dues none n answer.1)) :
    engine.Adds answer.2
      (dues (engine.judgement? source) (if engine.judgement? source = some true then n else 0)
        answer.1) := by
  have hprepare := engine.adds_prepare source
  rcases hp : engine.prepare source with ⟨e | rule, after⟩
  · have hrefused : engine.judgement? source ≠ some true := by
      rw [ne_eq, judgement?_eq_true_iff, hp]
      exact nofun
    rw [hp] at hprepare
    rw [if_neg hrefused, herror e after hp]
    exact hprepare
  · have haccepted : engine.judgement? source = some true :=
      judgement?_eq_true_iff.mpr ⟨rule, after, hp⟩
    rw [hp] at hprepare
    have hboth := hprepare.andThen (hok rule after hp) (.inr rfl)
    rw [Option.or_none, Nat.zero_add] at hboth
    rw [if_pos haccepted]
    exact hboth

theorem adds_evaluate (engine : Engine) (source : Source) (record : Json) :
    engine.Adds (engine.evaluate source record).2
      (dues (engine.judgement? source) (if engine.judgement? source = some true then 1 else 0)
        (engine.evaluate source record).1) := by
  refine adds_of_prepare 1 (fun e after h => by simp only [evaluate, h]) fun rule after h => ?_
  simp only [evaluate, h, dues_map]
  exact after.adds_run rule record false

theorem adds_explain (engine : Engine) (source : Source) (record : Json) :
    engine.Adds (engine.explain source record).2
      (dues (engine.judgement? source) (if engine.judgement? source = some true then 1 else 0)
        (engine.explain source record).1) := by
  refine adds_of_prepare 1 (fun e after h => by simp only [explain, h]) fun rule after h => ?_
  simp only [explain, h]
  exact after.adds_run rule record _

/-- How many records are evaluated one after the other: those that come to a verdict, up to the first that
does not, and that one. -/
def evaluable (engine : Engine) (source : Source) (records : List Json) : Nat :=
  goneThrough (fun record => (engine.evaluate source record).1.isOk) records

theorem adds_evaluateAll (engine : Engine) (source : Source) (records : List Json) :
    engine.Adds (engine.evaluateAll source records).2
      (dues (engine.judgement? source)
        (if engine.judgement? source = some true then engine.evaluable source records else 0)
        (engine.evaluateAll source records).1) := by
  refine adds_of_prepare _ (fun e after h => by simp only [evaluateAll, h]) fun rule after h => ?_
  have hsame : (fun record => (engine.evaluate source record).1.isOk) =
      fun record => (after.run rule record false).1.isOk := by
    funext record
    simp only [evaluate, h]
    cases (after.run rule record false).1 <;> rfl
  rw [evaluable, hsame]
  simp only [evaluateAll, h]
  exact after.adds_runAll rule records

/-- How many records the data holds that are evaluated: those of an array as above, or the data itself. -/
def evaluableIn (engine : Engine) (source : Source) : Json → Nat
  | .array records => engine.evaluable source records
  | _ => 1

theorem adds_evaluateData (engine : Engine) (source : Source) (data : Json) :
    engine.Adds (engine.evaluateData source data).2
      (dues (engine.judgement? source)
        (if engine.judgement? source = some true then engine.evaluableIn source data else 0)
        (engine.evaluateData source data).1) := by
  cases data with
  | array records =>
    show engine.Adds _ (dues _ _ ((engine.evaluateAll source records).1.map _))
    rw [dues_map]
    exact engine.adds_evaluateAll source records
  | _ =>
    show engine.Adds _ (dues _ _ ((engine.evaluate source _).1.map _))
    rw [dues_map]
    exact engine.adds_evaluate source _

end Engine

/-! ## Requests -/

def Request.evaluates : Request → Bool
  | .evaluate .. | .evaluateAll .. | .evaluateData .. | .explain .. => true
  | _ => false

/-- A request that comes to an engine at some moment. -/
structure Turn where
  engine : Engine
  now : Time
  request : Request

namespace Turn

def answer (t : Turn) : Except Failure Reply :=
  (t.engine.perform t.now t.request).1

def next (t : Turn) : Engine :=
  (t.engine.perform t.now t.request).2

/-- What the review says that the request makes, if it makes one and the review comes to an end. -/
def judgement? (t : Turn) : Option Bool :=
  match t.request with
  | .review source | .evaluate source _ | .evaluateAll source _ | .evaluateData source _
  | .explain source _ => t.engine.judgement? source
  | .reviewJson written => (t.engine.reviewJson written).1.toOption.map Review.accepted
  | _ => none

/-- The number of records on which the request evaluates a rule: none unless the review accepts; else the
one record, or of several those up to the first that fails. -/
def executed (t : Turn) : Nat :=
  match t.request with
  | .evaluate source _ | .explain source _ =>
    if t.engine.judgement? source = some true then 1 else 0
  | .evaluateAll source records =>
    if t.engine.judgement? source = some true then t.engine.evaluable source records else 0
  | .evaluateData source data =>
    if t.engine.judgement? source = some true then t.engine.evaluableIn source data else 0
  | _ => 0

/-- The request evaluates a rule, and the answer is that the rule is invalid. -/
def toldInvalid (t : Turn) : Bool :=
  t.request.evaluates && Failure.within Failure.isInvalid t.answer

/-- The request fails because some rule was looked up and not found. Changes fail for other reasons: they
look for the rule that they change, and do not look it up. -/
def missed (t : Turn) : Bool :=
  t.request.asks && Failure.within Failure.isMissing t.answer

/-- What a turn adds to each account. -/
def entry (t : Turn) : Account → Nat
  | .complaints => t.toldInvalid.toNat
  | .timed => t.toldInvalid.toNat + t.executed
  | .invalid => t.toldInvalid.toNat
  | .executed => t.executed
  | .accepted => (t.judgement? == some true).toNat
  | .refused => (t.judgement? == some false).toNat
  | .missing => t.missed.toNat

/-- What a question adds. Only evaluations tell that a rule is invalid. -/
theorem entry_of_asks {t : Turn} (ha : t.request.asks = true)
    (hv : t.request.evaluates = true ∨ Failure.within Failure.isInvalid t.answer = false) :
    t.entry = Engine.dues t.judgement? t.executed t.answer := by
  have htold : t.toldInvalid = Failure.within Failure.isInvalid t.answer := by
    rcases hv with hv | hv
    · simp [toldInvalid, hv]
    · simp [toldInvalid, hv]
  have hmissed : t.missed = Failure.within Failure.isMissing t.answer := by simp [missed, ha]
  funext account
  cases account <;> simp [entry, Engine.dues, htold, hmissed]

/-- A change of the stored rules adds nothing. -/
theorem entry_of_not_asks {t : Turn} (h : t.request.asks = false) (account : Account) :
    t.entry account = 0 := by
  obtain ⟨engine, now, request⟩ := t
  cases request with
  | load | loadText | loadBatch | update | delete | clear => cases account <;> rfl
  | _ => cases h

variable {engine : Engine} {now : Time} {request : Request}

theorem adds_of_storing {α : Type} {reply : α → Reply} {result : Except Failure (α × Store)}
    (hp : engine.perform now request = engine.storing reply result) (h : request.asks = false) :
    engine.Adds (next ⟨engine, now, request⟩) (entry ⟨engine, now, request⟩) := by
  have hentry (account : Account) : entry ⟨engine, now, request⟩ account = 0 :=
    entry_of_not_asks h account
  rw [next, hp]
  cases result with
  | error e => exact ⟨rfl, fun account => by rw [hentry]; rfl⟩
  | ok made => exact ⟨rfl, fun account => by rw [hentry]; cases account <;> rfl⟩

theorem adds_of_replying {α : Type} {reply : α → Reply} {result : Except Failure α × Engine}
    (hp : engine.perform now request = Engine.replying reply result) (ha : request.asks = true)
    (hv : request.evaluates = true ∨ Failure.within Failure.isInvalid result.1 = false)
    (h : engine.Adds result.2 (Engine.dues (judgement? ⟨engine, now, request⟩)
      (executed ⟨engine, now, request⟩) result.1)) :
    engine.Adds (next ⟨engine, now, request⟩) (entry ⟨engine, now, request⟩) := by
  have hanswer : answer ⟨engine, now, request⟩ = result.1.map reply := by rw [answer, hp]; rfl
  have hnext : next ⟨engine, now, request⟩ = result.2 := by rw [next, hp]; rfl
  have hvalid : request.evaluates = true ∨
      Failure.within Failure.isInvalid (answer ⟨engine, now, request⟩) = false := by
    rwa [hanswer, Failure.within_map]
  rw [entry_of_asks ha hvalid, hanswer, hnext, Engine.dues_map]
  exact h

/-- **One request.** Whatever is asked of an engine, it adds to the accounts what the request, its answer
and the engine before it tell. -/
theorem adds_next (t : Turn) : t.engine.Adds t.next t.entry := by
  obtain ⟨engine, now, request⟩ := t
  cases request with
  | load | loadText | update | delete => exact adds_of_storing rfl rfl
  | loadBatch rules =>
    have hp : engine.perform now (.loadBatch rules) =
      engine.storing .loaded (.ok (engine.store.loadBatch now rules)) := rfl
    exact adds_of_storing hp rfl
  | clear => exact ⟨rfl, fun account => by cases account <;> rfl⟩
  | fetch id =>
    exact adds_of_replying rfl rfl (.inr (engine.store.honest_fetch id).valid)
      (engine.adds_resolve (.stored id))
  | review source =>
    exact adds_of_replying rfl rfl (.inr (engine.valid_review source)) (engine.adds_review source)
  | reviewJson written =>
    have hhonest := engine.store.honest_reviewJson engine.config.maxDepth written
    exact adds_of_replying rfl rfl (.inr (Engine.valid_reviewed hhonest)) (Engine.adds_reviewed hhonest)
  | evaluate source record =>
    exact adds_of_replying rfl rfl (.inl rfl) (engine.adds_evaluate source record)
  | evaluateAll source records =>
    exact adds_of_replying rfl rfl (.inl rfl) (engine.adds_evaluateAll source records)
  | evaluateData source data =>
    exact adds_of_replying rfl rfl (.inl rfl) (engine.adds_evaluateData source data)
  | explain source record =>
    exact adds_of_replying rfl rfl (.inl rfl) (engine.adds_explain source record)
  | get | contains | list | statistics | config | complaints =>
    rw [entry_of_asks rfl (.inr rfl)]
    exact .refl engine ()

end Turn

/-! ## Runs -/

namespace Engine

/-- The turns of requests that come one after the other, each at its own moment. -/
def turns (engine : Engine) : List (Time × Request) → List Turn
  | [] => []
  | (now, request) :: rest =>
    ⟨engine, now, request⟩ :: turns (Turn.next ⟨engine, now, request⟩) rest

def afterAll (engine : Engine) : List (Time × Request) → Engine
  | [] => engine
  | (now, request) :: rest => afterAll (Turn.next ⟨engine, now, request⟩) rest

/-- Requests in turn, with the answers that they get, are a run. -/
theorem run_afterAll (engine : Engine) (requests : List (Time × Request)) :
    engine.Run ((engine.turns requests).map fun t => (t.request, t.answer))
      (engine.afterAll requests) := by
  induction requests generalizing engine with
  | nil => exact .nil
  | cons first rest ih => exact .cons rfl (ih (Turn.next ⟨engine, first.1, first.2⟩))

/-- Over a run the entries of its turns add up. -/
theorem adds_afterAll (engine : Engine) (requests : List (Time × Request)) :
    engine.Adds (engine.afterAll requests)
      fun account => ((engine.turns requests).map (·.entry account)).sum := by
  induction requests generalizing engine with
  | nil => exact ⟨rfl, fun account => rfl⟩
  | cons first rest ih =>
    obtain ⟨now, request⟩ := first
    have hnext := Turn.adds_next ⟨engine, now, request⟩
    have hrest := ih (Turn.next ⟨engine, now, request⟩)
    refine ⟨hrest.sink.trans hnext.sink, fun account => ?_⟩
    show (afterAll _ rest).balance account = _ + (_ :: _).sum
    rw [hrest.balance, hnext.balance, List.sum_cons]
    exact Nat.add_assoc _ _ _

theorem sum_map_toNat {α : Type} (p : α → Bool) (xs : List α) :
    (xs.map fun x => (p x).toNat).sum = xs.countP p := by
  induction xs with
  | nil => rfl
  | cons x xs ih =>
    rw [List.map_cons, List.sum_cons, List.countP_cons, ih]
    cases p x
    · simp
    · simp
      omega

theorem countP_isSome {α : Type} (f : α → Option Bool) (xs : List α) :
    xs.countP (fun x => f x == some true) + xs.countP (fun x => f x == some false) =
      xs.countP fun x => (f x).isSome := by
  have heither (x : α) : (f x == some true).toNat + (f x == some false).toNat =
      (f x).isSome.toNat := by
    rcases f x with _ | _ | _ <;> rfl
  rw [← sum_map_toNat, ← sum_map_toNat, ← List.sum_map_add, ← sum_map_toNat]
  simp only [heither]

/-- A new engine starts with nothing on any account. -/
theorem balance_afterAll_new (config : Config) (isEmpty : Emptiness) (sink : Sink) (store : Store)
    (requests : List (Time × Request)) (account : Account) :
    ((Engine.new config isEmpty sink store).afterAll requests).balance account =
      (((Engine.new config isEmpty sink store).turns requests).map (·.entry account)).sum := by
  have hzero : (Engine.new config isEmpty sink store).balance account = 0 := by
    cases account <;> rfl
  rw [(adds_afterAll _ requests).balance, hzero, Nat.zero_add]

/-- **The counters balance.** Let a new engine record its complaints, over any store, and let any requests
come to it. Then as many evaluations are timed as are counted under all endings together; as many end with
an invalid rule as are complained about, and as there are requests whose answer is that. The others are the
records on which rules are executed. The reviews are those that came to an end, by what they said, and the
missing rules are the requests that failed for want of a rule. -/
theorem tally_balances (config : Config) (isEmpty : Emptiness) (store : Store)
    (requests : List (Time × Request)) :
    let start := Engine.new config isEmpty .recording store
    let turns := start.turns requests
    let last := start.afterAll requests
    last.tally.timed = ([.matched, .notMatched, .invalid, .error].map last.tally.evaluations).sum ∧
    last.tally.invalid = last.recorded.length ∧
    last.tally.invalid = turns.countP Turn.toldInvalid ∧
    last.tally.matched + last.tally.notMatched + last.tally.error = (turns.map Turn.executed).sum ∧
    last.tally.accepted = turns.countP (fun t => t.judgement? == some true) ∧
    last.tally.refused = turns.countP (fun t => t.judgement? == some false) ∧
    last.tally.accepted + last.tally.refused = turns.countP (fun t => t.judgement?.isSome) ∧
    last.tally.missing = turns.countP Turn.missed := by
  intro start turns last
  have hadds (account : Account) : last.balance account = (turns.map (·.entry account)).sum :=
    balance_afterAll_new config isEmpty .recording store requests account
  have hinvalid : last.tally.invalid = turns.countP Turn.toldInvalid :=
    (hadds .invalid).trans (sum_map_toNat _ _)
  have hcomplaints : last.complaints.length = turns.countP Turn.toldInvalid :=
    (hadds .complaints).trans (sum_map_toNat _ _)
  have hexecuted : last.tally.matched + last.tally.notMatched + last.tally.error =
      (turns.map Turn.executed).sum := hadds .executed
  have htimed : last.tally.timed = last.tally.invalid +
      (last.tally.matched + last.tally.notMatched + last.tally.error) := by
    have ht : last.tally.timed = (turns.map fun t => t.toldInvalid.toNat + t.executed).sum :=
      hadds .timed
    rw [ht, List.sum_map_add, sum_map_toNat, hinvalid, hexecuted]
  have haccepted : last.tally.accepted = turns.countP (fun t => t.judgement? == some true) :=
    (hadds .accepted).trans (sum_map_toNat _ _)
  have hrefused : last.tally.refused = turns.countP (fun t => t.judgement? == some false) :=
    (hadds .refused).trans (sum_map_toNat _ _)
  have hrecorded : last.recorded = last.complaints := by
    rw [recorded, (start.adds_afterAll requests).sink]
    rfl
  refine ⟨?_, ?_, hinvalid, hexecuted, haccepted, hrefused, ?_,
    (hadds .missing).trans (sum_map_toNat _ _)⟩
  · simp only [List.map_cons, List.map_nil, List.sum_cons, List.sum_nil, Tally.evaluations, htimed]
    omega
  · rw [hinvalid, hrecorded, hcomplaints]
  · rw [haccepted, hrefused]
    exact countP_isSome Turn.judgement? turns

/-- A batch that stops at its second record, a rule that is refused twice, and one that is missing. -/
example :
    let batch : Rule := ⟨"r", "", .object [("any", .array [agePresent, .string "leaf"])], none⟩
    let hollow : Rule := ⟨"hollow", "", .object [("all", .array [])], none⟩
    let requests : List Request :=
      [.evaluateAll (.inline batch) [Store.agedRecord, .object [], Store.agedRecord],
        .review (.inline hollow), .evaluate (.inline hollow) .null, .explain (.stored "missing") .null]
    let last := (Engine.new .standard .standard .recording Store.sampleStore).afterAll
      (requests.map fun request => (⟨0, 0⟩, request))
    last.tally = ⟨1, 0, 1, 1, 3, 1, 2, 2, 1⟩ ∧ last.recorded.length = 1 := ⟨rfl, rfl⟩

end Engine

end RuleTree

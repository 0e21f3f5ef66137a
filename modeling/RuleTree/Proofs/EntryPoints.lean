import RuleTree.Proofs.History
import RuleTree.Proofs.Refusal

/-!
The ways of asking an engine for a verdict. Evaluating many records reviews the rule once and lets all of
them share one cache, evaluating one record reviews the rule each time, and explaining may write a
trace. None of this shows in the verdicts (`entry_points_agree`): a rule is prepared for all of them
alike (`prepare_eq_ok_iff`), and a verdict depends neither on the cache nor on the trace (`run_verdict`).
-/

namespace RuleTree

/-! ## One by one -/

/-- What comes of answering one question after another: all the answers in order, or the failure of the
first question that cannot be answered. -/
structure OneByOne {α β : Type} (answer : α → Except Failure β) (questions : List α)
    (answers : Except Failure (List β)) : Prop where
  ok : ∀ given, List.Forall₂ (fun question a => answer question = .ok a) questions given →
    answers = .ok given
  error : ∀ before question after e, questions = before ++ question :: after →
    (∀ earlier ∈ before, ∃ a, answer earlier = .ok a) → answer question = .error e →
    answers = .error e

section OneByOne

variable {α β : Type} {answer : α → Except Failure β} {questions : List α}

theorem mapM_append_of_error {before after : List α} {question : α} {e : Failure}
    (hbefore : ∀ earlier ∈ before, ∃ a, answer earlier = .ok a) (he : answer question = .error e) :
    (before ++ question :: after).mapM answer = .error e := by
  induction before with
  | nil => rw [List.nil_append, List.mapM_cons, he]; rfl
  | cons first before ih =>
    obtain ⟨a, ha⟩ := hbefore first List.mem_cons_self
    have hrest := ih fun earlier hm => hbefore earlier (List.mem_cons_of_mem _ hm)
    rw [List.cons_append, List.mapM_cons, ha, hrest]
    rfl

/-- Where some question cannot be answered there is a first one. -/
theorem exists_first_of_mapM_error {e : Failure} (h : questions.mapM answer = .error e) :
    ∃ before question after, questions = before ++ question :: after ∧
      (∀ earlier ∈ before, ∃ a, answer earlier = .ok a) ∧ answer question = .error e := by
  induction questions with
  | nil => cases h
  | cons first rest ih =>
    rw [List.mapM_cons] at h
    cases hf : answer first with
    | error e' =>
      rw [hf] at h
      cases h
      exact ⟨[], first, rest, rfl, by simp, hf⟩
    | ok a =>
      cases hr : rest.mapM answer with
      | ok given => rw [hf, hr] at h; cases h
      | error e' =>
        rw [hf, hr] at h
        cases h
        obtain ⟨before, question, after, rfl, hbefore, he⟩ := ih hr
        exact ⟨first :: before, question, after, rfl,
          List.forall_mem_cons.mpr ⟨⟨a, hf⟩, hbefore⟩, he⟩

/-- So there is only one thing that can come of it. -/
theorem oneByOne_iff {answers : Except Failure (List β)} :
    OneByOne answer questions answers ↔ answers = questions.mapM answer := by
  constructor
  · intro h
    cases hm : questions.mapM answer with
    | ok given => exact h.ok given ((mapM_eq_ok_iff answer questions given).mp hm)
    | error e =>
      obtain ⟨before, question, after, hq, hbefore, he⟩ := exists_first_of_mapM_error hm
      exact h.error before question after e hq hbefore he
  · rintro rfl
    refine ⟨fun given h => (mapM_eq_ok_iff answer questions given).mpr h, ?_⟩
    rintro before question after e rfl hbefore he
    exact mapM_append_of_error hbefore he

end OneByOne

namespace Engine

variable {engine left right : Engine} {source : Source} {rule : Rule}

/-! ## Preparing -/

/-- A rule comes out of its preparation if it is found and its review accepts. -/
theorem prepare_eq_ok_iff :
    (engine.prepare source).1 = .ok rule ↔
      (engine.resolve source).1 = .ok rule ∧ (engine.reviewOf rule).Accepted := by
  cases hs : (engine.resolve source).1 with
  | error e => rw [prepare_of_unresolved hs]; simp
  | ok found =>
    cases hr : (engine.reviewOf found).outcome with
    | error e =>
      rw [prepare_of_unreviewed hs hr]
      refine iff_of_false nofun ?_
      rintro ⟨hfound, review, hreview, _⟩
      cases hfound
      rw [hr] at hreview
      cases hreview
    | ok review =>
      have hsettled := engine.store.review_settled engine.config.maxDepth found review hr
      cases hd : review.defect with
      | none =>
        rw [prepare_of_no_defect hs hr hd]
        constructor
        · intro hfound
          cases hfound
          exact ⟨rfl, review, hr, hsettled.mpr hd⟩
        · exact fun h => h.1
      | some defect =>
        rw [prepare_of_defect hs hr hd]
        refine iff_of_false nofun ?_
        rintro ⟨hfound, other, hother, haccepted⟩
        cases hfound
        obtain rfl : review = other := Except.ok.inj (hr.symm.trans hother)
        rw [hsettled.mp haccepted] at hd
        cases hd

/-! ## Verdicts -/

/-- The verdict depends neither on the patterns that are kept nor on whether a trace is written. -/
theorem run_verdict (h : left.Like right) (rule : Rule) (record : Json) (traced traced' : Bool) :
    (left.run rule record traced).1.map Report.verdict =
      (right.run rule record traced').1.map Report.verdict := by
  rw [(steady_run rule record traced).answer h]
  show (right.store.evaluate _ _ traced rule record right.cache).1.outcome.map Report.verdict =
    (right.store.evaluate _ _ traced' rule record right.cache).1.outcome.map Report.verdict
  rw [Store.outcome_evaluate, Store.outcome_evaluate]
  cases (right.store.decide _ _ rule record right.cache).1.outcome with
  | error e => rfl
  | ok decision => rfl

/-- Records that are evaluated one after the other, with the patterns of the earlier ones kept, come to
what each comes to alone. -/
theorem runAll_eq_mapM (h : left.Like right) (rule : Rule) (records : List Json) :
    (left.runAll rule records).1 =
      records.mapM fun record => (right.run rule record false).1.map Report.verdict := by
  induction records generalizing left with
  | nil => rfl
  | cons record rest ih =>
    have hrun := (steady_run rule record false).answer h
    have hkept := (steady_run rule record false).kept left
    rw [List.mapM_cons, runAll, ← hrun]
    rcases hl : left.run rule record false with ⟨_ | report, after⟩
    · rfl
    · -- The first record may have changed the cache, but not what the engine is like.
      rw [hl] at hkept
      show (after.runAll rule rest).1.map _ = _
      rw [ih (hkept.symm.trans h)]
      rfl

theorem evaluateAll_eq_mapM (h : left.Like right) {records : List Json} (hne : records ≠ []) :
    (left.evaluateAll source records).1 =
      records.mapM fun record => (right.evaluate source record).1 := by
  obtain ⟨outcome, left', right', hl, hr, hafter⟩ := (steady_prepare source).beside h
  cases outcome with
  | error e =>
    obtain ⟨record, rest, rfl⟩ := List.exists_cons_of_ne_nil hne
    simp only [evaluateAll, evaluate, hl, hr]
    rfl
  | ok rule =>
    simp only [evaluateAll, evaluate, hl, hr]
    exact runAll_eq_mapM hafter rule records

theorem evaluateAll_nil_eq_ok_iff :
    (engine.evaluateAll source []).1 = .ok [] ↔
      ∃ rule, (engine.resolve source).1 = .ok rule ∧ (engine.reviewOf rule).Accepted := by
  simp only [← prepare_eq_ok_iff, evaluateAll]
  rcases engine.prepare source with ⟨_ | rule, after⟩
  · simp
  · simp [runAll]

theorem explain_verdict (h : left.Like right) (source : Source) (record : Json) :
    (left.explain source record).1.map Report.verdict = (right.evaluate source record).1 := by
  obtain ⟨outcome, left', right', hl, hr, hafter⟩ := (steady_prepare source).beside h
  cases outcome with
  | error e => simp only [explain, evaluate, hl, hr]; rfl
  | ok rule =>
    simp only [explain, evaluate, hl, hr]
    exact run_verdict hafter rule record _ false

/-- **All ways of asking agree.** Take two engines that are alike; they may differ in the patterns they
keep and in whether they write traces. To evaluate several records is to evaluate one after the other.
Without records there is nothing to fail but finding the rule and its review. Data is an array of
records or a single one, and the verdict that is explained is the one that is given otherwise. -/
theorem entry_points_agree (h : left.Like right) (source : Source) :
    (∀ records, records ≠ [] → OneByOne (fun record => (right.evaluate source record).1) records
      (left.evaluateAll source records).1) ∧
    ((left.evaluateAll source []).1 = .ok [] ↔
      ∃ rule, (right.resolve source).1 = .ok rule ∧ (right.reviewOf rule).Accepted) ∧
    (∀ records, (left.evaluateData source (.array records)).1 =
      (right.evaluateAll source records).1.map .batch) ∧
    (∀ data, data.isArray = false →
      (left.evaluateData source data).1 = (right.evaluate source data).1.map .single) ∧
    ∀ record, (left.explain source record).1.map Report.verdict =
      (right.evaluate source record).1 := by
  refine ⟨fun records hne => ?_, ?_, fun records => ?_, fun data hdata => ?_,
    explain_verdict h source⟩
  · exact oneByOne_iff.mpr (evaluateAll_eq_mapM h hne)
  · rw [(steady_evaluateAll source []).answer h]
    exact evaluateAll_nil_eq_ok_iff
  · rw [(steady_evaluateData source (.array records)).answer h]
    rfl
  · rw [(steady_evaluateData source data).answer h]
    cases data with
    | array records => cases hdata
    | _ => rfl

/-- A rule that comes to a reference to a constraint where there is no age. -/
def agedOrLeafRule : Rule :=
  ⟨"r", "", .object [("any", .array [agePresent, .string "leaf"])], none⟩

/-- The second of three records fails; an engine that traces and keeps patterns fails for all of them as
one without both does for the second. -/
theorem agedOrLeafRule_entry_points :
    let tracing := Engine.new ⟨64, true, 4⟩ .standard .messages Store.sampleStore
    let plain := Engine.new ⟨64, false, 0⟩ .standard .recording Store.sampleStore
    let source := Source.inline agedOrLeafRule
    let aged := Store.agedRecord
    let ageless := Json.object []
    tracing.Like plain ∧
      (∃ e, (plain.evaluate source ageless).1 = .error e ∧
        (tracing.evaluateAll source [aged, ageless, aged]).1 = .error e) ∧
      (tracing.evaluateAll source [aged, aged]).1 = .ok [true, true] ∧
      (tracing.evaluateAll source []).1 = .ok [] ∧
      (tracing.explain source aged).1.map Report.verdict = .ok true := by
  intro tracing plain source aged ageless
  have hlike : tracing.Like plain := ⟨rfl, rfl, rfl⟩
  have haged : (plain.evaluate source aged).1 = .ok true := rfl
  have hageless : ∃ e, (plain.evaluate source ageless).1 = .error e := ⟨_, rfl⟩
  obtain ⟨hall, hnil, _, _, hexplain⟩ := entry_points_agree hlike source
  obtain ⟨e, he⟩ := hageless
  refine ⟨hlike, ⟨e, he, ?_⟩, ?_, ?_, ?_⟩
  · refine (hall [aged, ageless, aged] (List.cons_ne_nil _ _)).error [aged] ageless [aged] e rfl
      (fun earlier hm => ?_) he
    rw [List.mem_singleton.mp hm]
    exact ⟨true, haged⟩
  · exact (hall [aged, aged] (List.cons_ne_nil _ _)).ok [true, true] (.cons haged (.cons haged .nil))
  · exact hnil.mpr ⟨agedOrLeafRule, rfl, .ok, rfl, rfl⟩
  · rw [hexplain aged, haged]

end Engine

end RuleTree

import RuleTree.Command
import RuleTree.Proofs.History
import RuleTree.Proofs.Origin
import RuleTree.Proofs.Refusal

/-!
The review that a command prints beside the review that stands before an evaluation. A stored rule is
judged alike by both. A file is judged as it is written by the one, while the other reads its rule first
and names a rule without an id after the file, so the two can part: a file is accepted that evaluation
finds to be no rule, or whose rule refers to its own name (`draft_accepted_and_cyclic`). `Compared` tells
for every named rule how far the two agree, and `Evaluated` what an evaluation makes of the second.
-/

namespace RuleTree

theorem Disk.readText_of_file {disk : Disk} {path text : String} {bytes : List UInt8}
    (h : disk path = .ok (.file bytes)) (ht : Utf8.text? bytes = some text) :
    disk.readText path = .ok text := by
  simp only [readText, read, h, bind, Except.bind, ht]
  rfl

/-! ## Written rules -/

theorem Json.exists_of_text {value : Json} {s : String} (h : value.text = .ok s) :
    value = .string s := by
  cases value with
  | string s' => cases h; rfl
  | _ => cases h

/-- The id under which an object is reviewed is that of the rule it holds. -/
theorem Rule.origin?_of_ofJson {members : List (String × Json)} {rule : Rule}
    (h : Rule.ofJson (.object members) = .ok rule) :
    ((Json.object members).getD "id").asString?.filter (· ≠ "") = rule.origin? := by
  simp only [Rule.ofJson, bind_eq_ok_iff] at h
  obtain ⟨id, hid, label, _, updatedAt, _, hrule⟩ := h
  obtain rfl := Except.ok.inj hrule
  cases hget : Entries.get? "id" members with
  | none =>
    rw [hget] at hid
    obtain rfl := Except.ok.inj hid
    simp [Json.getD, Json.get?, hget, Json.asString?, Rule.origin?]
  | some v =>
    rw [hget, Option.mapM_some] at hid
    obtain ⟨s, hs, hid⟩ := (bind_eq_ok_iff _ _ _).mp hid
    obtain rfl := Except.ok.inj hid
    obtain rfl := Json.exists_of_text hs
    by_cases hempty : s = "" <;>
      simp [Json.getD, Json.get?, hget, Json.asString?, Rule.origin?, Option.filter, hempty]

/-- An object that can be read as a rule is reviewed like the rule. -/
theorem Store.reviewJson_eq_review (store : Store) (limit : Nat) {value : Json} {rule : Rule}
    (ho : value.isObject = true) (h : Rule.ofJson value = .ok rule) :
    store.reviewJson limit value = store.review limit rule := by
  cases value with
  | object members =>
    have horigin := Rule.origin?_of_ofJson h
    have hconditions : rule.conditions = (Json.object members).getD "conditions" := by
      simp only [Rule.ofJson, bind_eq_ok_iff] at h
      obtain ⟨id, _, label, _, updatedAt, _, hrule⟩ := h
      obtain rfl := Except.ok.inj hrule
      rfl
    rw [reviewJson, if_pos ho, horigin, review, hconditions]
  | _ => cases ho

namespace Engine

theorem reviewed_fst (engine : Engine) (review : Logged Step Review) :
    (engine.reviewed review).1 = review.outcome := by
  rw [reviewed]
  cases review.outcome <;> rfl

theorem reviewJson_fst (engine : Engine) (value : Json) :
    (engine.reviewJson value).1 =
      (engine.store.reviewJson engine.config.maxDepth value).outcome :=
  engine.reviewed_fst _

theorem review_stored_fst {engine : Engine} {id : String} {rule : Rule}
    (h : engine.store.get? id = some rule) :
    (engine.review (.stored id)).1 = (engine.reviewOf rule).outcome := by
  have hresolve : engine.resolve (.stored id) =
      (.ok rule, engine.counting (engine.searchOf (.stored id))) := by
    simp [resolve, fetch, searchOf, Store.fetch, h]
  rw [review, hresolve]
  exact reviewed_fst _ _

end Engine

namespace Command

/-! ## The two reviews -/

def reviewBefore (engine : Engine) (disk : Disk) (rule : String) : Except CommandFailure Review := do
  let named ← find engine.store disk rule
  let rule ← named.rule
  (engine.reviewOf rule).outcome.mapError .engine

/-- What the two reviews of a named rule have to do with each other. -/
structure Compared (engine : Engine) (disk : Disk) (rule : String) (named : Named) : Prop where
  /-- A stored rule is judged alike. -/
  stored : ∀ found, named = .stored found →
    (review engine disk rule).1 = reviewBefore engine disk rule
  /-- A file that holds no rule is not evaluated, whatever its review says. -/
  unread : ∀ value stem mismatch, named = .file value stem → Rule.ofJson value = .error mismatch →
    reviewBefore engine disk rule = .error (.notRule mismatch)
  /-- A rule that is written as an array is always refused. -/
  refused : ∀ value stem, named = .file value stem → value.isObject = false →
    (review engine disk rule).1 = .ok (.refused Flaw.notRule.message value)
  /-- A rule that brings its own id, or whose file has no name to give, is judged alike. -/
  ownId : ∀ value stem found, named = .file value stem → value.isObject = true →
    Rule.ofJson value = .ok found → found.id ≠ "" ∨ stem = "" →
    (review engine disk rule).1 = reviewBefore engine disk rule
  /-- A rule that is named after its file is judged alike, or cannot be reviewed because of its name. -/
  unnamed : ∀ value stem found, named = .file value stem → value.isObject = true →
    Rule.ofJson value = .ok found → found.id = "" →
    (review engine disk rule).1 = reviewBefore engine disk rule ∨
      ∃ e, reviewBefore engine disk rule = .error (.engine e) ∧
        Inspection.FailsFor engine.config.maxDepth stem e

section Named

variable {engine : Engine} {disk : Disk} {rule : String} {named : Named} {value : Json} {stem : String}
  {found : Rule}

theorem get?_of_find (h : find engine.store disk rule = .ok (.stored found)) :
    engine.store.get? rule = some found := by
  unfold find at h
  cases hget : engine.store.get? rule with
  | some other =>
    rw [hget] at h
    cases h
    rfl
  | none =>
    rw [hget] at h
    dsimp only at h
    cases hread : disk.readText rule with
    | error fault => rw [hread] at h; cases h
    | ok text =>
      rw [hread] at h
      dsimp only at h
      cases hparse : Json.parse text <;> rw [hparse] at h <;> cases h

theorem review_of_file (h : find engine.store disk rule = .ok (.file value stem)) :
    (review engine disk rule).1 =
      (engine.store.reviewJson engine.config.maxDepth value).outcome.mapError .engine := by
  rw [review, h]
  exact congrArg (Except.mapError CommandFailure.engine) (engine.reviewJson_fst value)

theorem reviewBefore_of_find_error {f : CommandFailure} (h : find engine.store disk rule = .error f) :
    reviewBefore engine disk rule = .error f := by
  rw [reviewBefore, h]
  rfl

theorem reviewBefore_of_rule_error {f : CommandFailure}
    (h : find engine.store disk rule = .ok named) (hr : named.rule = .error f) :
    reviewBefore engine disk rule = .error f := by
  rw [reviewBefore, h]
  show (named.rule >>= fun rule => (engine.reviewOf rule).outcome.mapError .engine) = _
  rw [hr]
  rfl

theorem reviewBefore_of_rule (h : find engine.store disk rule = .ok named)
    (hr : named.rule = .ok found) :
    reviewBefore engine disk rule = (engine.reviewOf found).outcome.mapError .engine := by
  rw [reviewBefore, h]
  show (named.rule >>= fun rule => (engine.reviewOf rule).outcome.mapError .engine) = _
  rw [hr]
  rfl

theorem review_eq_of_stored (h : find engine.store disk rule = .ok (.stored found)) :
    (review engine disk rule).1 = reviewBefore engine disk rule := by
  rw [reviewBefore_of_rule h rfl, review, h]
  exact congrArg (Except.mapError CommandFailure.engine) (Engine.review_stored_fst (get?_of_find h))

/-- A file with an object that is a rule is judged as this rule is judged without a new name. -/
theorem review_of_object (h : find engine.store disk rule = .ok (.file value stem))
    (ho : value.isObject = true) (hr : Rule.ofJson value = .ok found) :
    (review engine disk rule).1 = (engine.reviewOf found).outcome.mapError .engine := by
  rw [review_of_file h, engine.store.reviewJson_eq_review engine.config.maxDepth ho hr]

/-- What is evaluated for a file is its rule, under the name of the file if it has no id. -/
theorem reviewBefore_of_file (h : find engine.store disk rule = .ok (.file value stem))
    (hr : Rule.ofJson value = .ok found) :
    reviewBefore engine disk rule =
      (engine.reviewOf (RuleFile.named stem found)).outcome.mapError .engine :=
  reviewBefore_of_rule h (by rw [Named.rule, hr])

theorem compared_of_find (h : find engine.store disk rule = .ok named) :
    Compared engine disk rule named where
  stored found hn := by
    subst hn
    exact review_eq_of_stored h
  unread value stem mismatch hn hr := by
    subst hn
    exact reviewBefore_of_rule_error h (by rw [Named.rule, hr])
  refused value stem hn ho := by
    subst hn
    rw [review_of_file h, Store.reviewJson, if_neg (by simp [ho])]
    rfl
  ownId value stem found hn ho hr hid := by
    subst hn
    have hkept : RuleFile.named stem found = found := by
      rcases hid with hid | rfl
      · exact if_neg hid
      · unfold RuleFile.named
        split
        next hempty => rw [← hempty]
        next => rfl
    rw [review_of_object h ho hr, reviewBefore_of_file h hr, hkept]
  unnamed value stem found hn ho hr hid := by
    subst hn
    have hnamed : RuleFile.named stem found = { found with id := stem } := if_pos hid
    rw [review_of_object h ho hr, reviewBefore_of_file h hr, hnamed]
    by_cases hstem : stem = ""
    · rw [hstem, ← hid]
      exact .inl rfl
    · rcases engine.store.tightens_review engine.config.maxDepth hid hstem with hsame | ⟨e, he, hP⟩
      · exact .inl (congrArg (Except.mapError CommandFailure.engine) hsame.symm)
      · exact .inr ⟨e, congrArg (Except.mapError CommandFailure.engine) he, hP⟩

end Named

/-! ## Evaluations -/

/-- What a rule that is not reviewed any more comes to on data. -/
def conclude (engine : Engine) (rule : Rule) (data : Json) (explained : Bool) :
    Except CommandFailure Conclusion :=
  if explained then
    ((engine.run rule data engine.config.traceEnabled).1.map .report).mapError .engine
  else
    match data with
    | .array records =>
      ((engine.runAll rule records).1.map fun verdicts => .verdict (.batch verdicts)).mapError .engine
    | record =>
      ((engine.run rule record false).1.map fun report =>
        .verdict (.single report.verdict)).mapError .engine

/-- What an evaluation on readable data makes of the review that stands before it. -/
structure Evaluated (engine : Engine) (disk : Disk) (rule : String) (data : Json) (explained : Bool)
    (answer : Except CommandFailure Conclusion) : Prop where
  failed : ∀ f, reviewBefore engine disk rule = .error f → answer = .error f
  refused : ∀ review, reviewBefore engine disk rule = .ok review → review.accepted = false →
    ∃ id defect, review.defect = some defect ∧
      answer = .error (.engine (.invalidRule id defect.message defect.element))
  accepted : ∀ review, reviewBefore engine disk rule = .ok review → review.accepted = true →
    ∃ named found prepared, find engine.store disk rule = .ok named ∧ named.rule = .ok found ∧
      engine.Like prepared ∧ answer = conclude prepared found data explained

section Evaluate

variable {engine : Engine} {surroundings : Surroundings} {rule path : String} {named : Named}
  {found : Rule} {data : Json} {explained : Bool} {after : Engine}

theorem evaluate_of_find_error {f : CommandFailure}
    (h : find engine.store surroundings.disk rule = .error f) :
    (evaluate engine surroundings rule path explained).1 = .error f := by
  rw [evaluate, h]
  rfl

theorem evaluate_of_rule_error {f : CommandFailure}
    (h : find engine.store surroundings.disk rule = .ok named) (hr : named.rule = .error f) :
    (evaluate engine surroundings rule path explained).1 = .error f := by
  simp only [evaluate, h, bind, Except.bind, hr]

theorem evaluate_of_rule (h : find engine.store surroundings.disk rule = .ok named)
    (hr : named.rule = .ok found) (hd : readData surroundings path = .ok data) :
    (evaluate engine surroundings rule path explained).1 =
      if explained then ((engine.explain (.inline found) data).1.map .report).mapError .engine
      else ((engine.evaluateData (.inline found) data).1.map .verdict).mapError .engine := by
  simp only [evaluate, h, bind, Except.bind, hr, hd, pure, Except.pure]
  split <;> rfl

theorem evaluate_of_unprepared {e : Failure}
    (h : find engine.store surroundings.disk rule = .ok named) (hr : named.rule = .ok found)
    (hd : readData surroundings path = .ok data)
    (hp : engine.prepare (.inline found) = (.error e, after)) :
    (evaluate engine surroundings rule path explained).1 = .error (.engine e) := by
  rw [evaluate_of_rule h hr hd]
  cases explained with
  | true => simp only [if_true, Engine.explain, hp]; rfl
  | false =>
    cases data <;>
      simp only [Bool.false_eq_true, if_false, Engine.evaluateData, Engine.evaluateAll,
        Engine.evaluate, hp] <;> rfl

theorem evaluate_of_prepared
    (h : find engine.store surroundings.disk rule = .ok named) (hr : named.rule = .ok found)
    (hd : readData surroundings path = .ok data)
    (hp : engine.prepare (.inline found) = (.ok found, after)) :
    (evaluate engine surroundings rule path explained).1 = conclude after found data explained := by
  rw [evaluate_of_rule h hr hd]
  cases explained with
  | true => simp only [if_true, Engine.explain, hp, conclude]
  | false =>
    have hsingle (record : Json) : Except.map Conclusion.verdict
        (Except.map Verdict.single (engine.evaluate (.inline found) record).1) =
          (after.run found record false).1.map fun report => .verdict (.single report.verdict) := by
      rw [Engine.evaluate, hp]
      dsimp only
      cases (after.run found record false).1 <;> rfl
    have hbatch (records : List Json) : Except.map Conclusion.verdict
        (Except.map Verdict.batch (engine.evaluateAll (.inline found) records).1) =
          (after.runAll found records).1.map fun verdicts => .verdict (.batch verdicts) := by
      rw [Engine.evaluateAll, hp]
      dsimp only
      cases (after.runAll found records).1 <;> rfl
    cases data with
    | array records => exact congrArg (Except.mapError CommandFailure.engine) (hbatch records)
    | _ => exact congrArg (Except.mapError CommandFailure.engine) (hsingle _)

theorem evaluated_of_error {disk : Disk} {answer : Except CommandFailure Conclusion}
    {f : CommandFailure} (hb : reviewBefore engine disk rule = .error f) (ha : answer = .error f) :
    Evaluated engine disk rule data explained answer where
  failed f' hf := by
    obtain rfl := Except.error.inj (hb.symm.trans hf)
    exact ha
  refused review hr _ := by rw [hb] at hr; cases hr
  accepted review hr _ := by rw [hb] at hr; cases hr

/-- The review has come to an end: the evaluation follows it. -/
theorem evaluated_of_reviewed {review : Review}
    (h : find engine.store surroundings.disk rule = .ok named) (hr : named.rule = .ok found)
    (hd : readData surroundings path = .ok data)
    (hreview : (engine.reviewOf found).outcome = .ok review) :
    Evaluated engine surroundings.disk rule data explained
      (evaluate engine surroundings rule path explained).1 := by
  have hbefore : reviewBefore engine surroundings.disk rule = .ok review := by
    rw [reviewBefore_of_rule h hr, hreview]
    rfl
  have hsettled := engine.store.review_settled engine.config.maxDepth found review hreview
  refine ⟨fun f hf => ?_, fun other ho hrefused => ?_, fun other ho haccepted => ?_⟩
  · rw [hbefore] at hf
    cases hf
  · obtain rfl := Except.ok.inj (hbefore.symm.trans ho)
    cases hdefect : review.defect with
    | none => rw [hsettled.mpr hdefect] at hrefused; cases hrefused
    | some defect =>
      have hp : engine.prepare (.inline found) = _ :=
        Engine.prepare_of_defect rfl hreview hdefect
      exact ⟨found.id, defect, rfl, evaluate_of_unprepared h hr hd hp⟩
  · obtain rfl := Except.ok.inj (hbefore.symm.trans ho)
    have hp : engine.prepare (.inline found) = _ :=
      Engine.prepare_of_no_defect rfl hreview (hsettled.mp haccepted)
    exact ⟨named, found, engine.judged (.inline found) found review.accepted, h, hr, ⟨rfl, rfl, rfl⟩,
      evaluate_of_prepared h hr hd hp⟩

theorem evaluated_of_readData (rule : String) (explained : Bool)
    (hd : readData surroundings path = .ok data) :
    Evaluated engine surroundings.disk rule data explained
      (evaluate engine surroundings rule path explained).1 := by
  cases h : find engine.store surroundings.disk rule with
  | error f => exact evaluated_of_error (reviewBefore_of_find_error h) (evaluate_of_find_error h)
  | ok named =>
    cases hr : named.rule with
    | error f =>
      exact evaluated_of_error (reviewBefore_of_rule_error h hr) (evaluate_of_rule_error h hr)
    | ok found =>
      cases hreview : (engine.reviewOf found).outcome with
      | error e =>
        have hbefore : reviewBefore engine surroundings.disk rule = .error (.engine e) := by
          rw [reviewBefore_of_rule h hr, hreview]
          rfl
        have hp : engine.prepare (.inline found) = _ := Engine.prepare_of_unreviewed rfl hreview
        exact evaluated_of_error hbefore (evaluate_of_unprepared h hr hd hp)
      | ok review => exact evaluated_of_reviewed h hr hd hreview

end Evaluate

/-- **What is reviewed and what is evaluated.** For every named rule that can be found: a stored rule and
a file whose rule has an id are judged alike by the two commands; a file with any other rule is judged
alike, or its evaluation fails because of the name it is given; a file that is no rule is not
evaluated, and one that is no object is refused. On readable data the evaluation does what the
review that stands before it says. -/
theorem compared_and_evaluated {engine : Engine} {surroundings : Surroundings} {rule path : String}
    {named : Named} {data : Json} (h : find engine.store surroundings.disk rule = .ok named)
    (hd : readData surroundings path = .ok data) (explained : Bool) :
    Compared engine surroundings.disk rule named ∧
      Evaluated engine surroundings.disk rule data explained
        (evaluate engine surroundings rule path explained).1 :=
  ⟨compared_of_find h, evaluated_of_readData rule explained hd⟩

/-! ## A draft under the name of a stored rule -/

def sampleEngine : Engine := .new .standard .standard .messages Store.sampleStore

/-- A rule without an id that refers to the stored rule `adult`. -/
def draft : Json := .object [("conditions", .object [("all", .array [.string "adult"])])]

def draftText : String := "\x7b\"conditions\":\x7b\"all\":[\"adult\"]\x7d\x7d"

/-- The draft in a file that is called like the stored rule, and data on the input. -/
def draftSurroundings : Surroundings where
  disk := (FileTree.folder [("drafts", .folder
    [("adult.json", .file (Utf8.bytesOf draftText))])]).disk
  input := Utf8.bytesOf "null"

theorem find_draft : find sampleEngine.store draftSurroundings.disk "drafts/adult.json" =
    .ok (.file draft "adult") := by
  have hpieces : piecesOf '/' "drafts/adult.json" = ["drafts", "adult.json"] := by decide +kernel
  have hfault : pathFault? "drafts/adult.json" = none := by decide +kernel
  have hinside : ¬("drafts/adult.json" = "" ∨ "drafts/adult.json".toList.head? = some '/') := by
    decide +kernel
  have hdisk : draftSurroundings.disk "drafts/adult.json" =
      .ok (.file (Utf8.bytesOf draftText)) := by
    simp only [draftSurroundings, FileTree.disk, hfault, hpieces, if_neg hinside]
    rfl
  have htext : Utf8.text? (Utf8.bytesOf draftText) = some draftText := by decide +kernel
  have hread : draftSurroundings.disk.readText "drafts/adult.json" = .ok draftText :=
    Disk.readText_of_file hdisk htext
  have hparse : Json.parse draftText = .ok draft := by cbv
  have hstem : FileName.stem (fileName "drafts/adult.json") = "adult" := by decide +kernel
  have hget : sampleEngine.store.get? "drafts/adult.json" = none := by rfl
  simp only [find, hget, hread, hparse, hstem]

theorem readData_draft : readData draftSurroundings "-" = .ok .null := by
  have htext : Utf8.text? draftSurroundings.input = some "null" := by decide +kernel
  have hparse : Json.parse "null" = .ok .null := by cbv
  simp only [readData, if_true, htext, bind, Except.bind, pure, Except.pure, hparse]

/-- The draft is accepted, and its evaluation fails because it refers to its own name. -/
theorem draft_accepted_and_cyclic :
    (review sampleEngine draftSurroundings.disk "drafts/adult.json").1 = .ok .ok ∧
      (evaluate sampleEngine draftSurroundings "drafts/adult.json" "-" false).1 =
        .error (.engine (.referenceCycle ["adult", "adult"])) := by
  constructor
  · rw [review_of_file find_draft]
    rfl
  · have hr : (Named.file draft "adult").rule = .ok ⟨"adult", "", draft.getD "conditions", none⟩ := rfl
    rw [evaluate_of_rule find_draft hr readData_draft]
    rfl

theorem draft_compared_and_evaluated :
    Compared sampleEngine draftSurroundings.disk "drafts/adult.json" (.file draft "adult") ∧
      reviewBefore sampleEngine draftSurroundings.disk "drafts/adult.json" =
        .error (.engine (.referenceCycle ["adult", "adult"])) ∧
      (evaluate sampleEngine draftSurroundings "drafts/adult.json" "-" false).1 =
        .error (.engine (.referenceCycle ["adult", "adult"])) := by
  obtain ⟨hcompared, hevaluated⟩ := compared_and_evaluated find_draft readData_draft false
  have hbefore : reviewBefore sampleEngine draftSurroundings.disk "drafts/adult.json" =
      .error (.engine (.referenceCycle ["adult", "adult"])) := by
    have hr : Rule.ofJson draft = .ok ⟨"", "", draft.getD "conditions", none⟩ := rfl
    rw [reviewBefore_of_file find_draft hr]
    rfl
  exact ⟨hcompared, hbefore, hevaluated.failed _ hbefore⟩

end Command

end RuleTree

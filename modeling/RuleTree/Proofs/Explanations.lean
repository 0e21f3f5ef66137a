import RuleTree.Proofs.Commands
import RuleTree.Proofs.EntryPoints

/-!
What an evaluation explains beside what it prints without an explanation. The bare verdicts on an array are
those on its records, but an explanation takes its data for one record whatever they are (`judgeWhole`).
So the two tell the same of everything but an array, and an array is explained as if it were the only record
of a further array (`explained_beside_plain`).
-/

namespace RuleTree

def Conclusion.told : Conclusion → Verdict
  | .verdict v => v
  | .report r => .single r.verdict

/-- The verdict on one record, told as that on an array with this record. -/
def Verdict.asBatch : Verdict → Verdict
  | .single b => .batch [b]
  | .batch bs => .batch bs

namespace Engine

variable {left right : Engine}

/-- A record that stands alone in an array comes to what it comes to without the array. -/
theorem evaluateData_singleton (h : left.Like right) (source : Source) (record : Json) :
    (left.evaluateData source (.array [record])).1 =
      (right.evaluate source record).1.map fun b => .batch [b] := by
  have hall : (left.evaluateAll source [record]).1 =
      (right.evaluate source record).1.map fun b => [b] := by
    rw [evaluateAll_eq_mapM h (List.cons_ne_nil _ _), List.mapM_cons]
    cases (right.evaluate source record).1 <;> rfl
  show (left.evaluateAll source [record]).1.map Verdict.batch = _
  rw [hall]
  cases (right.evaluate source record).1 <;> rfl

/-- Data that are no array are one record. -/
theorem evaluateData_of_isArray_false (h : left.Like right) (source : Source) {data : Json}
    (hdata : data.isArray = false) :
    (left.evaluateData source data).1 = (right.evaluate source data).1.map .single := by
  rw [(steady_evaluateData source data).answer h]
  cases data with
  | array records => cases hdata
  | _ => rfl

end Engine

namespace Command

/-! ## Operands -/

def ruleOf (store : Store) (disk : Disk) (rule : String) : Except CommandFailure Rule :=
  find store disk rule >>= Named.rule

/-- The rule and the data of an evaluation. The rule is read first. -/
def operands (store : Store) (surroundings : Surroundings) (rule path : String) :
    Except CommandFailure (Rule × Json) := do
  let found ← ruleOf store surroundings.disk rule
  let data ← readData surroundings path
  return (found, data)

section Operands

variable {store : Store} {surroundings : Surroundings} {rule path : String} {found : Rule} {data : Json}

theorem operands_of_readData (hd : readData surroundings path = .ok data) :
    operands store surroundings rule path =
      (ruleOf store surroundings.disk rule).map fun found => (found, data) := by
  rw [operands, hd]
  rfl

theorem readData_of_operands (h : operands store surroundings rule path = .ok (found, data)) :
    readData surroundings path = .ok data := by
  obtain ⟨_, _, h⟩ := (bind_eq_ok_iff _ _ _).mp h
  obtain ⟨_, hd, h⟩ := (bind_eq_ok_iff _ _ _).mp h
  cases h
  exact hd

end Operands

/-- An evaluation hands its operands to the engine, in one of two ways. -/
theorem evaluate_fst (engine : Engine) (surroundings : Surroundings) (rule path : String)
    (explained : Bool) :
    (evaluate engine surroundings rule path explained).1 =
      operands engine.store surroundings rule path >>= fun (found, data) =>
        if explained then ((engine.explain (.inline found) data).1.map .report).mapError .engine
        else ((engine.evaluateData (.inline found) data).1.map .verdict).mapError .engine := by
  simp only [evaluate, operands, ruleOf, bind, Except.bind]
  cases find engine.store surroundings.disk rule with
  | error f => rfl
  | ok named =>
    dsimp only
    cases named.rule with
    | error f => rfl
    | ok found =>
      dsimp only
      cases readData surroundings path with
      | error f => rfl
      | ok data => cases explained <;> rfl

/-! ## Data taken for one record -/

/-- The verdict on data that are taken for one record, whatever they are. -/
def judgeWhole (engine : Engine) (surroundings : Surroundings) (rule path : String) :
    Except CommandFailure Bool := do
  let (found, data) ← operands engine.store surroundings rule path
  (engine.evaluate (.inline found) data).1.mapError .engine

section Told

variable {left right : Engine} {surroundings : Surroundings} {rule path other : String} {data : Json}

theorem told_explained (h : left.Like right) (surroundings : Surroundings) (rule path : String) :
    (evaluate left surroundings rule path true).1.map Conclusion.told =
      (judgeWhole right surroundings rule path).map .single := by
  rw [evaluate_fst, judgeWhole, h.store]
  cases operands right.store surroundings rule path with
  | error f => rfl
  | ok both =>
    simp only [bind, Except.bind, if_true, ← Engine.explain_verdict h]
    cases (left.explain (.inline both.1) both.2).1 <;> rfl

theorem told_of_no_array (engine : Engine) (rule : String)
    (hdata : ∀ records, readData surroundings path ≠ .ok (.array records)) :
    (evaluate engine surroundings rule path false).1.map Conclusion.told =
      (judgeWhole engine surroundings rule path).map .single := by
  rw [evaluate_fst, judgeWhole]
  cases ho : operands engine.store surroundings rule path with
  | error f => rfl
  | ok both =>
    have hd := readData_of_operands ho
    have hrecord : both.2.isArray = false := by
      cases hb : both.2 with
      | array records => rw [hb] at hd; exact absurd hd (hdata records)
      | _ => rfl
    simp only [bind, Except.bind, Bool.false_eq_true, if_false,
      Engine.evaluateData_of_isArray_false (.refl engine) _ hrecord]
    cases (engine.evaluate (.inline both.1) both.2).1 <;> rfl

/-- The only record of an array is judged like data that are taken for one record. -/
theorem told_of_singleton (engine : Engine) (rule : String)
    (hd : readData surroundings path = .ok data)
    (ho : readData surroundings other = .ok (.array [data])) :
    (evaluate engine surroundings rule other false).1.map Conclusion.told =
      (judgeWhole engine surroundings rule path).map fun b => .batch [b] := by
  rw [evaluate_fst, judgeWhole, operands_of_readData hd, operands_of_readData ho]
  cases ruleOf engine.store surroundings.disk rule with
  | error f => rfl
  | ok found =>
    simp only [bind, Except.bind, Except.map, Bool.false_eq_true, if_false,
      Engine.evaluateData_singleton (.refl engine)]
    cases (engine.evaluate (.inline found) data).1 <;> rfl

/-- What an evaluation of an array tells without an explanation is no single verdict. -/
theorem told_of_array {records : List Json} {conclusion : Conclusion} (engine : Engine) (rule : String)
    (hd : readData surroundings path = .ok (.array records))
    (h : (evaluate engine surroundings rule path false).1 = .ok conclusion) :
    ∃ verdicts, conclusion.told = .batch verdicts := by
  rw [evaluate_fst, operands_of_readData hd] at h
  cases hr : ruleOf engine.store surroundings.disk rule with
  | error f => rw [hr] at h; cases h
  | ok found =>
    rw [hr] at h
    change (((engine.evaluateAll (.inline found) records).1.map Verdict.batch).map
      Conclusion.verdict).mapError CommandFailure.engine = .ok conclusion at h
    cases ha : (engine.evaluateAll (.inline found) records).1 with
    | error e => rw [ha] at h; cases h
    | ok verdicts =>
      rw [ha] at h
      cases h
      exact ⟨verdicts, rfl⟩

end Told

/-! ## Explanations -/

/-- What an explanation tells beside what is told of data without one. -/
structure Explained (surroundings : Surroundings) (path : String)
    (plain : String → Except CommandFailure Conclusion) (explained : Except CommandFailure Conclusion) :
    Prop where
  /-- Of everything but an array both tell the same, and where one fails the other fails alike. -/
  alike : (∀ records, readData surroundings path ≠ .ok (.array records)) →
    explained.map Conclusion.told = (plain path).map Conclusion.told
  /-- Data are explained as if they were the only record of an array. -/
  asRecord : ∀ data other, readData surroundings path = .ok data →
    readData surroundings other = .ok (.array [data]) →
    explained.map (Verdict.asBatch ∘ Conclusion.told) = (plain other).map Conclusion.told
  /-- What is told of the records of an array is never told by an explanation. -/
  unlike : ∀ records conclusion, readData surroundings path = .ok (.array records) →
    plain path = .ok conclusion → explained.map Conclusion.told ≠ .ok conclusion.told

/-- **An explanation is about one record.** Take two engines that are alike, and any rule and data. What
is explained and what is told otherwise agree on all data but arrays, of which they never tell the same: the
explanation of an array is about the array and not about its records. -/
theorem explained_beside_plain {left right : Engine} (h : left.Like right) (surroundings : Surroundings)
    (rule path : String) :
    Explained surroundings path (fun path => (evaluate right surroundings rule path false).1)
      (evaluate left surroundings rule path true).1 where
  alike hdata := (told_explained h surroundings rule path).trans
    (told_of_no_array right rule hdata).symm
  asRecord data other hd ho := by
    have hwhole := congrArg (Except.map Verdict.asBatch) (told_explained h surroundings rule path)
    rw [told_of_singleton right rule hd ho]
    cases hj : judgeWhole right surroundings rule path <;>
      cases he : (evaluate left surroundings rule path true).1 <;>
      rw [hj, he] at hwhole <;> exact hwhole
  unlike records conclusion hd hplain htold := by
    obtain ⟨verdicts, hverdicts⟩ := told_of_array right rule hd hplain
    rw [told_explained h, hverdicts] at htold
    cases hj : judgeWhole right surroundings rule path <;> rw [hj] at htold <;> cases htold

/-! ## One aged record in an array -/

def agedBatch : Json := .array [.object [("age", .string "ten")]]

def batchText : String := "[\x7b\"age\":\"ten\"\x7d]"

def wrappedText : String := "[[\x7b\"age\":\"ten\"\x7d]]"

/-- An array with one record on the input, and in a file this array in a further one. -/
def batchSurroundings : Surroundings where
  disk := (FileTree.folder [("wrapped.json", .file (Utf8.bytesOf wrappedText))]).disk
  input := Utf8.bytesOf batchText

theorem readData_batch : readData batchSurroundings "-" = .ok agedBatch := by
  have htext : Utf8.text? batchSurroundings.input = some batchText := by decide +kernel
  have hparse : Json.parse batchText = .ok agedBatch := by cbv
  simp only [readData, if_true, htext, bind, Except.bind, pure, Except.pure, hparse]

theorem readData_wrapped : readData batchSurroundings "wrapped.json" = .ok (.array [agedBatch]) := by
  have hpieces : piecesOf '/' "wrapped.json" = ["wrapped.json"] := by decide +kernel
  have hfault : pathFault? "wrapped.json" = none := by decide +kernel
  have hinside : ¬("wrapped.json" = "" ∨ "wrapped.json".toList.head? = some '/') := by
    decide +kernel
  have hdisk : batchSurroundings.disk "wrapped.json" =
      .ok (.file (Utf8.bytesOf wrappedText)) := by
    simp only [batchSurroundings, FileTree.disk, hfault, hpieces, if_neg hinside]
    rfl
  have htext : Utf8.text? (Utf8.bytesOf wrappedText) = some wrappedText := by
    decide +kernel
  have hread := Disk.readText_of_file hdisk htext
  have hparse : Json.parse wrappedText = .ok (.array [agedBatch]) := by cbv
  have hdash : ("wrapped.json" = "-") = False := by simp
  simp only [readData, hdash, if_false, hread, bind, Except.bind, pure, Except.pure, hparse]

theorem ruleOf_adult : ruleOf sampleEngine.store batchSurroundings.disk "adult" =
    .ok ⟨"adult", "", .object [("all", .array [agePresent])], none⟩ := rfl

theorem evaluate_agedBatch : (evaluate sampleEngine batchSurroundings "adult" "-" false).1 =
    .ok (.verdict (.batch [true])) := by
  rw [evaluate_fst, operands_of_readData readData_batch, ruleOf_adult]
  rfl

/-- The record in the array has an age, and its explanation denies it. -/
theorem agedBatch_explained_otherwise :
    (evaluate sampleEngine batchSurroundings "adult" "-" false).1 = .ok (.verdict (.batch [true])) ∧
      ∃ report, (evaluate sampleEngine batchSurroundings "adult" "-" true).1 = .ok (.report report) ∧
        report.verdict = false := by
  refine ⟨evaluate_agedBatch, ?_⟩
  rw [evaluate_fst, operands_of_readData readData_batch, ruleOf_adult]
  exact ⟨_, rfl, rfl⟩

/-- The array is explained as the only record of the further array is judged. -/
theorem agedBatch_explained_beside_plain :
    let tracing := Engine.new ⟨64, true, 4⟩ .standard .recording Store.sampleStore
    tracing.Like sampleEngine ∧
      (evaluate sampleEngine batchSurroundings "adult" "wrapped.json" false).1 =
        .ok (.verdict (.batch [false])) ∧
      (evaluate tracing batchSurroundings "adult" "-" true).1.map
        (Verdict.asBatch ∘ Conclusion.told) = .ok (.batch [false]) ∧
      (evaluate tracing batchSurroundings "adult" "-" true).1.map Conclusion.told ≠
        .ok (.batch [true]) := by
  intro tracing
  have hlike : tracing.Like sampleEngine := ⟨rfl, rfl, rfl⟩
  have hwrapped : (evaluate sampleEngine batchSurroundings "adult" "wrapped.json" false).1 =
      .ok (.verdict (.batch [false])) := by
    rw [evaluate_fst, operands_of_readData readData_wrapped, ruleOf_adult]
    rfl
  have hexplained := explained_beside_plain hlike batchSurroundings "adult" "-"
  refine ⟨hlike, hwrapped, ?_, ?_⟩
  · have h := hexplained.asRecord agedBatch "wrapped.json" readData_batch readData_wrapped
    rw [h, hwrapped]
    rfl
  · exact hexplained.unlike _ _ readData_batch evaluate_agedBatch

end Command

end RuleTree

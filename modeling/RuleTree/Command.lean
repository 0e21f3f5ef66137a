import RuleTree.Engine
import RuleTree.RuleFile

/-!
What the commands do. A rule is named by the id of a loaded rule or by the path of a file; data come
from a file or from the program's input. A file is reviewed as it is written, but its rule has to be
read before it can be evaluated.
-/

namespace RuleTree

/-- What lies at the bottom of a command's failure. -/
inductive Cause
  | failure (failure : Failure)
  | fault (fault : FileFault)
  | reading (error : ReadError)

inductive CommandFailure
  | engine (failure : Failure)
  | unreadableRule (rule : String) (fault : FileFault)
  | ruleNotJson (rule : String) (fault : Json.Fault)
  | notRule (mismatch : Mismatch)
  | unreadableInput (fault : FileFault)
  | unreadableData (path : String) (fault : FileFault)
  | dataNotJson (fault : Json.Fault)

def Cause.message : Cause → String
  | .failure f => f.message
  | .fault f => f.message
  | .reading e => e.message

namespace CommandFailure

/-- What the command was about when it failed. A failure of the engine speaks for itself. -/
def context? : CommandFailure → Option String
  | .engine _ => none
  | .unreadableRule rule _ => some ("'" ++ rule ++ "' 既不是已加载的规则 ID，也不是可读的规则文件")
  | .ruleNotJson rule _ => some ("规则文件 JSON 解析失败: " ++ rule)
  | .notRule _ => some "规则文件不是合法的规则"
  | .unreadableInput _ => some "读取标准输入失败"
  | .unreadableData path _ => some ("读取评估数据失败: " ++ path)
  | .dataNotJson _ => some "评估数据 JSON 解析失败"

def cause : CommandFailure → Cause
  | .engine f => .failure f
  | .unreadableRule _ f => .fault f
  | .ruleNotJson _ f => .reading (.fault f)
  | .notRule m => .reading (.data m)
  | .unreadableInput f => .fault f
  | .unreadableData _ f => .fault f
  | .dataNotJson f => .reading (.fault f)

def message (f : CommandFailure) : String :=
  f.context?.getD f.cause.message

end CommandFailure

/-- What commands read from: files, and the bytes of the program's input. -/
structure Surroundings where
  disk : Disk
  input : List UInt8

/-- What an evaluation came to: the bare verdicts, or a report. -/
inductive Conclusion
  | verdict (verdict : Verdict)
  | report (report : Report)

/-! ## Printing -/

/-- The review as it is printed, with its parts in the order in which they are told. -/
def Review.shown (r : Review) : Json :=
  .object (("isValid", .bool r.accepted) :: (r.defect.map fun d =>
    ("error", Json.object [("message", .string d.message), ("element", d.element)])).toList)

def Verdict.shown : Verdict → Json
  | .single b => .bool b
  | .batch bs => .array (bs.map .bool)

/-- The report as it is printed. No clock is read, so that no time is told to have passed. -/
def Report.shown (r : Report) : Json :=
  .object [("rule_id", .string r.ruleId), ("rule_label", .string r.ruleLabel),
    ("verdict", .bool r.verdict),
    ("matched_condition", r.matchedRoot.elim .null fun i => .number (.int i)),
    ("result", r.result.getD .null),
    ("matched_constraints", .array (r.matchedConstraints.map .string)),
    ("evaluation_trace", .array (r.trace.map .string)),
    ("evaluation_time_us", .number (.int 0))]

def Conclusion.shown : Conclusion → Json
  | .verdict v => v.shown
  | .report r => r.shown

def printed (shown : Json) : String :=
  shown.indented ++ "\n"

/-! ## Commands -/

namespace Command

inductive Named
  | stored (rule : Rule)
  | file (value : Json) (stem : String)

/-- Finds the rule with the given id, or else the file at the given path. -/
def find (store : Store) (disk : Disk) (rule : String) : Except CommandFailure Named :=
  match store.get? rule with
  | some found => .ok (.stored found)
  | none =>
    match disk.readText rule with
    | .error fault => .error (.unreadableRule rule fault)
    | .ok text =>
      match Json.parse text with
      | .error fault => .error (.ruleNotJson rule fault)
      | .ok value => .ok (.file value (FileName.stem (fileName rule)))

/-- The rule that is evaluated for a named one. -/
def Named.rule : Named → Except CommandFailure Rule
  | .stored rule => .ok rule
  | .file value stem =>
    match Rule.ofJson value with
    | .error mismatch => .error (.notRule mismatch)
    | .ok rule => .ok (RuleFile.named stem rule)

/-- Reads data from a file, or from the program's input where the path is a dash. -/
def readData (surroundings : Surroundings) (path : String) : Except CommandFailure Json := do
  let text ←
    if path = "-" then
      match Utf8.text? surroundings.input with
      | some text => pure text
      | none => throw (.unreadableInput .notText)
    else
      match surroundings.disk.readText path with
      | .ok text => pure text
      | .error fault => throw (.unreadableData path fault)
  match Json.parse text with
  | .ok value => return value
  | .error fault => throw (.dataNotJson fault)

/-- Loads the rules of a folder and tells how many; a folder that is not there has none. -/
def load (engine : Engine) (disk : Disk) (newId : NewId) (now : Time) (folder : String) :
    Except CommandFailure Nat × Engine :=
  if disk.isFolder folder then
    match RuleFile.readFolder disk newId folder with
    | .error f => (.error (.engine f), engine)
    | .ok rules =>
      let (ids, store) := engine.store.loadBatch now rules
      (.ok ids.length, { engine with store })
  else (.ok 0, engine)

/-- The ids and labels of the stored rules, one rule a line. -/
def listing (store : Store) : String :=
  String.join (store.entries.map fun (id, rule) => id ++ "\t" ++ rule.label ++ "\n")

def review (engine : Engine) (disk : Disk) (rule : String) :
    Except CommandFailure Review × Engine :=
  match find engine.store disk rule with
  | .error f => (.error f, engine)
  | .ok named =>
    let (outcome, engine) := match named with
      | .stored _ => engine.review (.stored rule)
      | .file value _ => engine.reviewJson value
    (outcome.mapError .engine, engine)

/-- Evaluates a named rule on data, with or without a report. -/
def evaluate (engine : Engine) (surroundings : Surroundings) (rule data : String)
    (explained : Bool) : Except CommandFailure Conclusion × Engine :=
  let operands := do
    let named ← find engine.store surroundings.disk rule
    let rule ← named.rule
    let data ← readData surroundings data
    return (rule, data)
  match operands with
  | .error f => (.error f, engine)
  | .ok (rule, data) =>
    if explained then
      let (outcome, engine) := engine.explain (.inline rule) data
      ((outcome.map .report).mapError .engine, engine)
    else
      let (outcome, engine) := engine.evaluateData (.inline rule) data
      ((outcome.map .verdict).mapError .engine, engine)

end Command

end RuleTree

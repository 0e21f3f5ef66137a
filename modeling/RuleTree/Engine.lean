import RuleTree.Evaluation
import RuleTree.Inspection
import RuleTree.Tally

/-!
The rule engine: a store of rules with the settings for evaluating them. A rule is reviewed before
every evaluation. A refused rule is never evaluated; it is complained about, and the caller is told
that it is invalid.
-/

namespace RuleTree

/-- Where complaints about refused rules go: to a program's messages, or into a list. -/
inductive Sink
  | messages
  | recording
deriving DecidableEq, Repr

structure Complaint where
  message : String
  context : Json

/-- The complaint about a rule that was refused for a defect. -/
def Defect.complaint (defect : Defect) (rule : Rule) : Complaint where
  message := "rule '" ++ rule.id ++ "' is not valid: " ++ defect.message
  context := .object [("element", defect.element), ("ruleId", .string rule.id)]

/-- A rule to work on: one that is given, or the stored one with the given id. -/
inductive Source
  | inline (rule : Rule)
  | stored (id : String)

/-- The verdicts on data: one on a single record, or one for each record of an array. -/
inductive Verdict
  | single (verdict : Bool)
  | batch (verdicts : List Bool)

structure Engine.Config where
  maxDepth : Nat
  traceEnabled : Bool
  patternCapacity : Nat

def Engine.Config.standard : Engine.Config := ⟨64, false, 256⟩

/-- An engine. Every complaint that was passed on is listed, in order. -/
structure Engine where
  config : Engine.Config
  isEmpty : Emptiness
  sink : Sink
  store : Store
  cache : PatternCache
  complaints : List Complaint
  tally : Tally

namespace Engine

def new (config : Config) (isEmpty : Emptiness) (sink : Sink) (store : Store) : Engine :=
  ⟨config, isEmpty, sink, store, .empty config.patternCapacity, [], .zero⟩

def counting (engine : Engine) (steps : List Step) : Engine :=
  { engine with tally := engine.tally.countSteps steps }

def complain (engine : Engine) (complaint : Complaint) : Engine :=
  { engine with complaints := engine.complaints ++ [complaint] }

/-- The complaints that can be asked for later. What went to a program's messages cannot. -/
def recorded (engine : Engine) : List Complaint :=
  match engine.sink with
  | .messages => []
  | .recording => engine.complaints

def fetch (engine : Engine) (id : String) : Except Failure Rule × Engine :=
  let ⟨steps, outcome⟩ := engine.store.fetch id
  (outcome, engine.counting steps)

def resolve (engine : Engine) : Source → Except Failure Rule × Engine
  | .inline rule => (.ok rule, engine)
  | .stored id => engine.fetch id

/-- Counts a review that has been made. -/
def reviewed (engine : Engine) (review : Logged Step Review) : Except Failure Review × Engine :=
  let engine := engine.counting review.log
  match review.outcome with
  | .error e => (.error e, engine)
  | .ok r => (.ok r, { engine with tally := engine.tally.countReview r.accepted })

def reviewRule (engine : Engine) (rule : Rule) : Except Failure Review × Engine :=
  engine.reviewed (engine.store.review engine.config.maxDepth rule)

def review (engine : Engine) (source : Source) : Except Failure Review × Engine :=
  match engine.resolve source with
  | (.error e, engine) => (.error e, engine)
  | (.ok rule, engine) => engine.reviewRule rule

def reviewJson (engine : Engine) (rule : Json) : Except Failure Review × Engine :=
  engine.reviewed (engine.store.reviewJson engine.config.maxDepth rule)

/-- Complains about a rule that was refused for a defect, and fails. -/
def refuse {α : Type} (engine : Engine) (rule : Rule) (defect : Defect) :
    Except Failure α × Engine :=
  let engine := engine.complain (defect.complaint rule)
  (.error (.invalidRule rule.id defect.message defect.element),
    { engine with tally := engine.tally.countEvaluation .invalid })

/-- Finds a rule and reviews it; what comes out is fit to be evaluated. -/
def prepare (engine : Engine) (source : Source) : Except Failure Rule × Engine :=
  match engine.resolve source with
  | (.error e, engine) => (.error e, engine)
  | (.ok rule, engine) =>
    match engine.reviewRule rule with
    | (.error e, engine) => (.error e, engine)
    | (.ok review, engine) =>
      match review.defect with
      | some defect => engine.refuse rule defect
      | none => (.ok rule, engine)

def endingOf : Except Failure Report → Ending
  | .ok report => if report.verdict then .matched else .notMatched
  | .error _ => .error

def stepsOf (log : List Event) : List Step :=
  log.filterMap fun
    | .step s => some s
    | _ => none

/-- Evaluates a rule on a record, whether it is fit or not. -/
def run (engine : Engine) (rule : Rule) (record : Json) (traced : Bool) :
    Except Failure Report × Engine :=
  let (⟨log, outcome⟩, cache) :=
    engine.store.evaluate engine.config.maxDepth engine.isEmpty traced rule record engine.cache
  let engine := { engine.counting (stepsOf log) with cache }
  (outcome, { engine with tally := engine.tally.countEvaluation (endingOf outcome) })

def evaluate (engine : Engine) (source : Source) (record : Json) :
    Except Failure Bool × Engine :=
  match engine.prepare source with
  | (.error e, engine) => (.error e, engine)
  | (.ok rule, engine) =>
    let (outcome, engine) := engine.run rule record false
    (outcome.map Report.verdict, engine)

/-- Evaluates a rule on records up to the first failure. -/
def runAll (engine : Engine) (rule : Rule) : List Json → Except Failure (List Bool) × Engine
  | [] => (.ok [], engine)
  | record :: rest =>
    match engine.run rule record false with
    | (.error e, engine) => (.error e, engine)
    | (.ok report, engine) =>
      let (verdicts, engine) := engine.runAll rule rest
      (verdicts.map (report.verdict :: ·), engine)

/-- Evaluates a rule on each of the records; the rule is reviewed once. -/
def evaluateAll (engine : Engine) (source : Source) (records : List Json) :
    Except Failure (List Bool) × Engine :=
  match engine.prepare source with
  | (.error e, engine) => (.error e, engine)
  | (.ok rule, engine) => engine.runAll rule records

/-- Evaluates a rule on the records of an array, or on any other value as a single record. -/
def evaluateData (engine : Engine) (source : Source) (data : Json) :
    Except Failure Verdict × Engine :=
  match data with
  | .array records =>
    let (verdicts, engine) := engine.evaluateAll source records
    (verdicts.map .batch, engine)
  | record =>
    let (verdict, engine) := engine.evaluate source record
    (verdict.map .single, engine)

def explain (engine : Engine) (source : Source) (record : Json) :
    Except Failure Report × Engine :=
  match engine.prepare source with
  | (.error e, engine) => (.error e, engine)
  | (.ok rule, engine) => engine.run rule record engine.config.traceEnabled

end Engine

end RuleTree

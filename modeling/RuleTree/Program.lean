import RuleTree.Arguments
import RuleTree.Command
import RuleTree.Settings

/-!
A run of the program: the arguments are read, the settings loaded, the rules of a folder put into a
new engine, and then the command is carried out. What a run comes to depends on nothing but what it
is started with.
-/

namespace RuleTree

namespace Program

structure Start where
  arguments : List String
  vars : Settings.Variables
  surroundings : Surroundings
  newId : NewId
  now : Time

/-- What a command came to: its output, whether the rule it was about is accepted, and what has been
counted if that is to be told. -/
structure Done where
  output : String
  accepted : Bool
  metrics : List String

inductive Outcome
  | unstarted (usage : Usage)
  | ran (settingsFault : Option Settings.Fault) (result : Except CommandFailure Done)

/-! ## Settings -/

def service : String := "condition-engine"

/-- The settings in which the arguments weigh more. -/
def adjusted (settings : Settings) (arguments : Arguments) : Settings where
  serviceName := settings.serviceName
  environment := settings.environment
  engine := settings.engine
  rulesDirectory := arguments.rulesDirectory.getD settings.rulesDirectory
  observability :=
    { settings.observability with
      logLevel := arguments.logLevel.getD settings.observability.logLevel
      metricsEnabled := arguments.metrics || settings.observability.metricsEnabled }

/-- The settings of a run. Where they cannot be loaded, the standard ones are taken and the fault is
kept. -/
def settings (start : Start) (arguments : Arguments) : Settings × Option Settings.Fault :=
  match Settings.load start.surroundings.disk start.vars service with
  | .ok settings => (adjusted settings arguments, none)
  | .error fault => (adjusted .standard arguments, some fault)

/-! ## Files -/

def settingsPaths (vars : Settings.Variables) : List String :=
  let paths := Settings.paths vars service (Settings.folder vars)
  paths ++ paths.flatMap fun path => Settings.Format.all.map (·.extend path)

def commandPaths : Arguments.Command → List String
  | .list => []
  | .validate rule => [rule]
  | .evaluate rule criteria _ => [rule, criteria]

def readsInput : Arguments.Command → Bool
  | .evaluate _ criteria _ => criteria = "-"
  | _ => false

/-! ## Running -/

/-- Carries out a command: its output and whether the rule is accepted. -/
def perform (engine : Engine) (surroundings : Surroundings) :
    Arguments.Command → Except CommandFailure (String × Bool) × Engine
  | .list => (.ok (Command.listing engine.store, true), engine)
  | .validate rule =>
    let (review, engine) := Command.review engine surroundings.disk rule
    (review.map fun r => (printed r.shown, r.accepted), engine)
  | .evaluate rule criteria explain =>
    let (conclusion, engine) := Command.evaluate engine surroundings rule criteria explain
    (conclusion.map fun c => (printed c.shown, true), engine)

/-- Loads the rules and carries out the command. -/
def runWith (start : Start) (arguments : Arguments) (settings : Settings) :
    Except CommandFailure Done := do
  let engine := Engine.new settings.engine .standard .messages .empty
  let (loaded, engine) :=
    Command.load engine start.surroundings.disk start.newId start.now settings.rulesDirectory
  let _ ← loaded
  let (result, engine) := perform engine start.surroundings arguments.command
  let (output, accepted) ← result
  let metrics := if arguments.metrics then engine.tally.lines settings.serviceName else []
  return { output, accepted, metrics }

def run (start : Start) : Outcome :=
  match Arguments.read start.arguments with
  | .error usage => .unstarted usage
  | .ok arguments =>
    let (settings, fault) := settings start arguments
    .ran fault (runWith start arguments settings)

/-! ## Texts -/

def versionText (command : Option String) : String :=
  service ++ command.elim "" ("-" ++ ·) ++ " 0.1.0\n"

def failureText (failure : CommandFailure) : String :=
  "Error: " ++ failure.message ++ "\n" ++
    (if failure.context?.isSome then "\nCaused by:\n    " ++ failure.cause.message ++ "\n" else "")

namespace Outcome

/-- What is written to the output, help left aside. -/
def output : Outcome → String
  | .unstarted (.version command) => versionText command
  | .unstarted _ => ""
  | .ran _ (.ok done) => done.output
  | .ran _ (.error _) => ""

/-- Success, or failure, which includes a rule that is not accepted, or arguments that make no
sense. -/
def exitCode : Outcome → Nat
  | .unstarted usage => usage.exitCode
  | .ran _ (.ok done) => if done.accepted then 0 else 1
  | .ran _ (.error _) => 1

def failure? : Outcome → Option String
  | .ran _ (.error failure) => some (failureText failure)
  | _ => none

def metrics : Outcome → List String
  | .ran _ (.ok done) => done.metrics
  | _ => []

/-- Whether the standard settings had to be taken. -/
def settingsFailed : Outcome → Bool
  | .ran (some _) _ => true
  | _ => false

/-- What is told beside the output, words on arguments that make no sense left aside. -/
def messages (outcome : Outcome) : String :=
  (if outcome.settingsFailed then "Failed to load config, using defaults\n" else "") ++
    outcome.failure?.getD "" ++ String.join (outcome.metrics.map (· ++ "\n"))

end Outcome

end Program

end RuleTree

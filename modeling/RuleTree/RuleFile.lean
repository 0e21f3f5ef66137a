import RuleTree.Files
import RuleTree.Json.Mismatch
import RuleTree.Rule.Codec

/-!
Rules in files. A file holds a rule or an array of rules. A single rule without an id is known by the
name of its file, and every other rule without one is given a new id. In a folder, a file that cannot
be read holds no rules, and the other files are not affected.
-/

namespace RuleTree

/-- Makes an id for the rule at a position of a file. -/
abbrev NewId := String → Nat → String

namespace RuleFile

/-- The rules written in a JSON value: those of an array, or a single one. -/
def rulesIn (value : Json) : Except Mismatch (List Rule) :=
  match value with
  | .array items => items.mapM Rule.ofJson
  | single => (fun rule => [rule]) <$> Rule.ofJson single

/-- The rule itself if it has an id, or else with the given id. -/
def named (id : String) (rule : Rule) : Rule :=
  if rule.id = "" then { rule with id } else rule

/-- Gives ids to the rules of a file that have none. -/
def complete (newId : NewId) (path : String) (rules : List Rule) : List Rule :=
  match rules with
  | [rule] => [named (FileName.stem (fileName path)) rule]
  | rules => rules.mapIdx fun i rule => named (newId path i) rule

def read (disk : Disk) (newId : NewId) (path : String) : Except Failure (List Rule) :=
  match disk.readText path with
  | .error fault => .error (.unreadable path fault)
  | .ok text =>
    match Json.parse text with
    | .error fault => .error (.badJson (.fault fault))
    | .ok value =>
      match rulesIn value with
      | .error mismatch => .error (.badJson (.data mismatch))
      | .ok rules => .ok (complete newId path rules)

/-- The paths of the files of a folder that hold rules, in ascending order. -/
def pathsIn (disk : Disk) (folder : String) (names : List String) : List String :=
  let paths := (names.mergeSort (· ≤ ·)).filter fun name => FileName.extension? name = some "json"
  (paths.map (joinPath folder)).filter disk.isFile

def readFolder (disk : Disk) (newId : NewId) (folder : String) : Except Failure (List Rule) :=
  match disk.names folder with
  | .error fault => .error (.unreadable folder fault)
  | .ok names =>
    .ok ((pathsIn disk folder names).flatMap fun path =>
      match read disk newId path with
      | .ok rules => rules
      | .error _ => [])

end RuleFile

end RuleTree

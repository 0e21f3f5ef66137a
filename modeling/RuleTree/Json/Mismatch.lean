import RuleTree.Json.Reader
import RuleTree.Operator
import RuleTree.Text.Shown
import RuleTree.Time

/-!
Why a well-formed JSON value is not a value of the wanted type.
-/

namespace RuleTree

/-- What stands where something else is wanted. -/
inductive Found
  | null
  | bool (value : Bool)
  | number (value : Number)
  | string (value : String)
  | array
  | object

inductive Expected
  | string
  | bool
  | array
  | null
  | stringOrObject
  | time
  | rule
  | condition
  | constraint
  | review
  | defect

inductive Mismatch
  | kind (found : Found) (expected : Expected)
  | missingField (name : String)
  | duplicateField (name : String)
  | unknownOperator (name : String)
  | unknownQuantifier (name : String)
  | notSingleMember
  | tooFew (count : Nat) (expected : Expected) (wanted : Nat)
  | tooMany (count : Nat)
  | notNode
  | noBranch
  | severalBranches
  | badTime (fault : Time.Fault)

namespace Found

def ofJson : Json → Found
  | .null => .null
  | .bool b => .bool b
  | .number n => .number n
  | .string s => .string s
  | .array _ => .array
  | .object _ => .object

def text : Found → String
  | .null => "null"
  | .bool true => "boolean `true`"
  | .bool false => "boolean `false`"
  | .number (.int i) => "integer `" ++ toString i ++ "`"
  | .number (.double d) => "floating point `" ++ d.text ++ "`"
  | .string s => "string " ++ Shown.quoted s
  | .array => "sequence"
  | .object => "map"

end Found

def Expected.text : Expected → String
  | .string => "a string"
  | .bool => "a boolean"
  | .array => "a sequence"
  | .null => "unit"
  | .stringOrObject => "string or map"
  | .time => "an RFC 3339 formatted date and time string"
  | .rule => "struct Rule"
  | .condition => "struct ConditionWire"
  | .constraint => "struct Constraint"
  | .review => "struct ValidationResult"
  | .defect => "struct ValidationError"

def operatorChoices : String :=
  ", ".intercalate (Operator.words.map fun (word, _) => "`" ++ word ++ "`")

def Mismatch.message : Mismatch → String
  | .kind found expected => "invalid type: " ++ found.text ++ ", expected " ++ expected.text
  | .missingField name => "missing field `" ++ name ++ "`"
  | .duplicateField name => "duplicate field `" ++ name ++ "`"
  | .unknownOperator name =>
    "unknown variant `" ++ name ++ "`, expected one of " ++ operatorChoices
  | .unknownQuantifier name =>
    "unknown variant `" ++ name ++ "`, expected one of `any`, `all`, `none`"
  | .notSingleMember => "invalid value: map, expected map with a single key"
  | .tooFew count expected wanted =>
    "invalid length " ++ toString count ++ ", expected " ++ expected.text ++ " with " ++
      toString wanted ++ " elements"
  | .tooMany count => "invalid length " ++ toString count ++ ", expected fewer elements in array"
  | .notNode => "data did not match any variant of untagged enum Node"
  | .noBranch => "invalid condition structure"
  | .severalBranches => "cannot have more than one any/all/none"
  | .badTime fault => fault.message

/-- Why a text does not hold a value of the wanted type: it is not JSON, or its value does not fit. -/
inductive ReadError
  | fault (fault : Json.Fault)
  | data (mismatch : Mismatch)

def ReadError.message : ReadError → String
  | .fault .unfinished => "the text ends too early"
  | .fault .malformed => "the text is not JSON"
  | .data mismatch => mismatch.message

namespace Json

/-- The value is of another kind than expected. -/
def mismatch (value : Json) (expected : Expected) : Mismatch :=
  .kind (.ofJson value) expected

def text (value : Json) : Except Mismatch String :=
  match value with
  | .string s => .ok s
  | v => .error (v.mismatch .string)

def truth (value : Json) : Except Mismatch Bool :=
  match value with
  | .bool b => .ok b
  | v => .error (v.mismatch .bool)

def nonNull? : Json → Option Json
  | .null => none
  | v => some v

end Json

end RuleTree

import RuleTree.Engine
import RuleTree.Files
import RuleTree.Text.Digits
import RuleTree.Toml.OfJson
import RuleTree.Toml.Reader

/-!
The settings of the program. They are laid over one another: the built-in ones, those of three files,
and those of the environment, the later ones counting. A value of another type is converted where
that makes sense.
-/

namespace RuleTree

/-- What is said about the program's own running. -/
structure Observability where
  serviceName : String
  logLevel : String
  jsonLogs : Bool
  metricsEnabled : Bool
deriving DecidableEq, Repr

structure Settings where
  serviceName : String
  environment : String
  engine : Engine.Config
  rulesDirectory : String
  observability : Observability

namespace Settings

/-- Why there are no settings: a file is not in its format, or a value cannot be converted. -/
inductive Fault
  | badFile
  | badValue
deriving DecidableEq, Repr

def standard : Settings where
  serviceName := ""
  environment := ""
  engine := .standard
  rulesDirectory := "rules"
  observability := ⟨"unknown-service", "info", false, false⟩

def isProduction (s : Settings) : Bool :=
  s.environment = "production"

/-- What the program says about its running, under the name of the service. -/
def named (s : Settings) : Observability :=
  { s.observability with serviceName := s.serviceName }

/-! ## Values -/

def lower (s : String) : String :=
  String.ofList (s.toList.map Char.toLower)

def trueWords : List String := ["true", "on", "yes"]
def falseWords : List String := ["false", "off", "no"]

/-- A whole number of 64 bits without a sign, or with a plus sign. -/
def unsignedOf? (s : String) : Option Nat :=
  let (negative, ds) := takeSign s.toList
  if !negative ∧ isNumeral ds ∧ numeral ds < UInt64.size then some (numeral ds) else none

def unsigned (value : Toml) : Except Fault Nat :=
  match value with
  | .integer i => if 0 ≤ i then .ok i.toNat else .error .badValue
  | .bool b => .ok (if b then 1 else 0)
  | .float f => .ok f.toUnsigned64
  | .text s =>
    if lower s ∈ trueWords then .ok 1
    else if lower s ∈ falseWords then .ok 0
    else
      match unsignedOf? s with
      | some n => .ok n
      | none => .error .badValue
  | _ => .error .badValue

def truth (value : Toml) : Except Fault Bool :=
  match value with
  | .integer i => .ok (i ≠ 0)
  | .bool b => .ok b
  | .float f => .ok f.isNonzero
  | .text s =>
    if lower s ∈ "1" :: trueWords then .ok true
    else if lower s ∈ "0" :: falseWords then .ok false
    else .error .badValue
  | _ => .error .badValue

def text (value : Toml) : Except Fault String :=
  match value with
  | .integer i => .ok (toString i)
  | .bool b => .ok (if b then "true" else "false")
  | .float f => .ok f.text
  | .text s => .ok s
  | _ => .error .badValue

/-! ## Sections -/

/-- The values of a section under the given keys, or in their order where the section is an array. -/
def fields (value : Toml) (keys : List String) : Except Fault (List (Option Toml)) :=
  match value with
  | .table entries => .ok (keys.map fun k => Entries.get? k entries)
  | .array items => .ok ((List.range keys.length).map fun i => items[i]?)
  | _ => .error .badValue

/-- Converts a value, or takes the standard where there is none. -/
def orElse {α : Type} (standard : α) (convert : Toml → Except Fault α) :
    Option (Option Toml) → Except Fault α
  | some (some value) => convert value
  | _ => .ok standard

def engineSection (value : Toml) : Except Fault Engine.Config := do
  let found ← fields value ["max_depth", "trace_enabled", "pattern_cache_capacity"]
  let base := Engine.Config.standard
  return ⟨← orElse base.maxDepth unsigned found[0]?, ← orElse base.traceEnabled truth found[1]?,
    ← orElse base.patternCapacity unsigned found[2]?⟩

def rulesSection (value : Toml) : Except Fault String := do
  let found ← fields value ["directory"]
  orElse standard.rulesDirectory text found[0]?

def observabilitySection (value : Toml) : Except Fault Observability := do
  let found ← fields value ["service_name", "log_level", "json_logs", "metrics_enabled"]
  let base := standard.observability
  return ⟨← orElse base.serviceName text found[0]?, ← orElse base.logLevel text found[1]?,
    ← orElse base.jsonLogs truth found[2]?, ← orElse base.metricsEnabled truth found[3]?⟩

def ofToml (value : Toml) : Except Fault Settings := do
  let found ← fields value ["service_name", "environment", "engine", "rules", "observability"]
  return ⟨← orElse standard.serviceName text found[0]?, ← orElse standard.environment text found[1]?,
    ← orElse standard.engine engineSection found[2]?,
    ← orElse standard.rulesDirectory rulesSection found[3]?,
    ← orElse standard.observability observabilitySection found[4]?⟩

/-! ## Layers -/

/-- Lays values over others, at the paths that their names stand for. -/
def layer (below : Toml) (named : List (String × Toml)) : Toml :=
  named.foldl (fun below (name, value) => Toml.setAt value (Toml.Selector.path name) below) below

inductive Format
  | toml
  | json
deriving DecidableEq, Repr

namespace Format

def all : List Format := [.toml, .json]

def extension : Format → String
  | .toml => "toml"
  | .json => "json"

def read? (format : Format) (text : String) : Option Toml :=
  match format with
  | .toml => Toml.ofText? text
  | .json => (Json.parse text).toOption.map Toml.ofJson

/-- The format that the name of a file tells. -/
def ofPath? (path : String) : Option Format :=
  all.find? fun format => FileName.extension? (fileName path) = some format.extension

/-- A path with the extension of the format behind it. -/
def extend (format : Format) (path : String) : String :=
  path ++ "." ++ format.extension

end Format

/-- The text in the bytes of a file, without a byte order mark; stray bytes are replaced. -/
def decoded (bytes : List UInt8) : String :=
  match bytes with
  | 0xEF :: 0xBB :: 0xBF :: rest => Utf8.replaced rest
  | bytes => Utf8.replaced bytes

/-- The format and the text of a file of settings. A file that is not there is looked for with one
more extension. -/
def file? (disk : Disk) (path : String) : Option (Format × String) :=
  if disk.isFile path then do
    return (← Format.ofPath? path, decoded (← (disk.read path).toOption))
  else
    Format.all.findSome? fun format => do
      return (format, decoded (← (disk.read (format.extend path)).toOption))

/-- Lays a file over what is below it; a file that is not there leaves that as it is. What is read
must be a table. -/
def layerFile (disk : Disk) (path : String) (below : Toml) : Except Fault Toml :=
  match file? disk path with
  | none => .ok below
  | some (format, text) =>
    match format.read? text with
    | some (.table entries) => .ok (layer below entries)
    | _ => .error .badFile

/-! ## The environment -/

abbrev Variables := List (String × String)

/-- A decimal number as it may stand in a variable: digits before or after the point may be missing,
but not both. -/
def decimalOf? (cs : List Char) : Option Extended :=
  let (negative, rest) := takeSign cs
  let isE (c : Char) : Bool := c = 'e' || c = 'E'
  let mantissa := rest.takeWhile (!isE ·)
  let front := mantissa.takeWhile (· ≠ '.')
  let back := (mantissa.dropWhile (· ≠ '.')).drop 1
  let exponent : Option Int :=
    match rest.dropWhile (!isE ·) with
    | [] => some 0
    | _ :: power =>
      let (below, ds) := takeSign power
      if isNumeral ds then some (withSign below (numeral ds)) else none
  if isNumeral (front ++ back) then
    exponent.map fun (e : Int) =>
      let e : Int := max (-100000) (min 100000 (e - back.length))
      .ofDouble (.ofDecimal negative (numeral (front ++ back)) e)
  else none

/-- A number that is written as a word. -/
def wordNumber? (cs : List Char) : Option Extended :=
  let (negative, rest) := takeSign cs
  let word := lower (String.ofList rest)
  if word = "inf" ∨ word = "infinity" then some (.infinite negative)
  else if word = "nan" then some .undefined
  else none

/-- An integer of 64 bits with a sign. -/
def integerOf? (cs : List Char) : Option Int :=
  let (negative, ds) := takeSign cs
  let i := withSign negative (numeral ds)
  if isNumeral ds ∧ isInt64 i then some i else none

/-- The value of a variable: a truth value, an integer or a decimal number if it can be read as one,
and else a text. -/
def ofVariable (s : String) : Toml :=
  let cs := s.toList
  if lower s = "true" then .bool true
  else if lower s = "false" then .bool false
  else
    match integerOf? cs with
    | some i => .integer i
    | none =>
      match wordNumber? cs <|> decimalOf? cs with
      | some f => .float f
      | none => .text s

/-- Writes a dot for every two underscores. -/
def dotted : List Char → List Char
  | '_' :: '_' :: rest => '.' :: dotted rest
  | c :: rest => c :: dotted rest
  | [] => []

/-- The settings among the variables: those whose names start with `RULES__` in any case. -/
def ofVariables (vars : Variables) : List (String × Toml) :=
  vars.filterMap fun (name, value) =>
    match (lower name).toList with
    | 'r' :: 'u' :: 'l' :: 'e' :: 's' :: '_' :: '_' :: rest =>
      some (String.ofList (dotted rest), ofVariable value)
    | _ => none

/-! ## Loading -/

def environmentIn (vars : Variables) : String :=
  (vars.lookup "RULES_ENV").getD "development"

def folder (vars : Variables) : String :=
  (vars.lookup "CONFIG_DIR").getD "config"

/-- The files of settings, each weighing more than those before it. -/
def paths (vars : Variables) (service folder : String) : List String :=
  ["default", environmentIn vars, service].map fun name => joinPath folder (name ++ ".toml")

/-- Loads the settings of a service from a folder and the environment. -/
def loadFrom (disk : Disk) (vars : Variables) (service folder : String) :
    Except Fault Settings := do
  let base := .table (Entries.ofList
    [("service_name", .text service), ("environment", .text (environmentIn vars))])
  let value ← (paths vars service folder).foldlM
    (fun below path => layerFile disk path below) base
  ofToml (layer value (ofVariables vars))

def load (disk : Disk) (vars : Variables) (service : String) : Except Fault Settings :=
  loadFrom disk vars service (folder vars)

end Settings

end RuleTree

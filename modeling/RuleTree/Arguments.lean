/-!
The arguments of the program. An option may stand anywhere after the command it belongs to, and the
general options also before the command. The value of an option is the rest of its argument or the
next argument, and is looked at only when it is clear that it is complete; the faults that come first
in this order are the ones that are told.
-/

namespace RuleTree

/-- What the program is asked to do. -/
inductive Arguments.Command
  | list
  | validate (rule : String)
  | evaluate (rule criteria : String) (explain : Bool)
deriving DecidableEq, Repr

structure Arguments where
  rulesDirectory : Option String
  logLevel : Option String
  metrics : Bool
  command : Arguments.Command
deriving DecidableEq, Repr

/-- Why the program does not start its work: it shows its help or version, or it cannot make sense of
its arguments. -/
inductive Usage
  | help
  | version (command : Option String)
  | noArguments
  | missingCommand
  | missingArgument
  | missingValue
  | unwantedValue
  | repeated
  | unknownArgument
  | unknownCommand
deriving DecidableEq, Repr

/-- The exit code: showing help or version is no failure. -/
def Usage.exitCode : Usage → Nat
  | .help | .version _ => 0
  | _ => 2

namespace Arguments

/-- The commands, and the program itself before a command is named. -/
inductive Level
  | program
  | list
  | validate
  | evaluate
deriving DecidableEq, Repr

inductive Flag
  | rulesDirectory
  | logLevel
  | metrics
  | criteria
  | explain
  | help
  | version
deriving DecidableEq, Repr

namespace Flag

def all : List Flag :=
  [.rulesDirectory, .logLevel, .metrics, .criteria, .explain, .help, .version]

def long : Flag → String
  | .rulesDirectory => "rules-dir"
  | .logLevel => "log-level"
  | .metrics => "metrics"
  | .criteria => "criteria"
  | .explain => "explain"
  | .help => "help"
  | .version => "version"

def short? : Flag → Option Char
  | .logLevel => some 'l'
  | .criteria => some 'c'
  | .help => some 'h'
  | .version => some 'V'
  | _ => none

def takesValue : Flag → Bool
  | .rulesDirectory | .logLevel | .criteria => true
  | _ => false

def isAt (level : Level) : Flag → Bool
  | .criteria | .explain => level = .evaluate
  | _ => true

def ofLong? (level : Level) (name : String) : Option Flag :=
  all.find? fun f => f.isAt level && f.long == name

def ofShort? (level : Level) (c : Char) : Option Flag :=
  all.find? fun f => f.isAt level && f.short? == some c

end Flag

namespace Level

def all : List Level := [.list, .validate, .evaluate]

def name : Level → String
  | .program => "condition-engine"
  | .list => "list"
  | .validate => "validate"
  | .evaluate => "evaluate"

def ofName? (name : String) : Option Level :=
  all.find? (·.name == name)

/-- Whether an argument that is no option names a rule. -/
def takesRule : Level → Bool
  | .validate | .evaluate => true
  | _ => false

end Level

/-- What an argument looks like: two dashes, a long name, short names, or neither. -/
inductive Word
  | dashes
  | long (name : List Char)
  | short (names : List Char)
  | plain

def Word.ofText (text : String) : Word :=
  match text.toList with
  | ['-', '-'] => .dashes
  | '-' :: '-' :: name => .long name
  | '-' :: c :: rest => .short (c :: rest)
  | _ => .plain

/-- What has been given at one level. An option is `open` from its name until the next argument that
is no part of it, with its value once there is one. -/
structure Given where
  values : List (Flag × String)
  flags : List Flag
  rule : Option String
  openOption : Option (Flag × Option String)

namespace Given

def nothing : Given := ⟨[], [], none, none⟩

def value? (g : Given) (flag : Flag) : Option String :=
  g.values.lookup flag

/-- Gives an option its value. The folder of the rules must have a name. -/
def set (g : Given) (flag : Flag) (value : String) : Except Usage Given :=
  if (g.value? flag).isSome then .error .repeated
  else if flag = .rulesDirectory ∧ value = "" then .error .missingValue
  else .ok { g with values := (flag, value) :: g.values }

def close (g : Given) : Except Usage Given :=
  match g.openOption with
  | none => .ok g
  | some (_, none) => .error .missingValue
  | some (flag, some value) => ({ g with openOption := none }).set flag value

/-- Meets an option that takes no value. -/
def meet (g : Given) (level : Level) (flag : Flag) : Except Usage Given := do
  let g ← g.close
  match flag with
  | .help => throw .help
  | .version => throw (.version (if level = .program then none else some level.name))
  | flag => if flag ∈ g.flags then throw .repeated else return { g with flags := flag :: g.flags }

/-- Meets an option that takes a value, which may be attached to it. -/
def meetValued (g : Given) (flag : Flag) (attached : Option String) : Except Usage Given := do
  let g ← g.close
  match attached with
  | some value => g.set flag value
  | none => return { g with openOption := some (flag, none) }

/-- Whether the next argument is the value of an option. -/
def awaitsValue (g : Given) : Bool :=
  match g.openOption with
  | some (_, none) => true
  | _ => false

/-- Takes an argument as the value that is awaited. -/
def supply (g : Given) (value : String) : Given :=
  { g with openOption := g.openOption.map fun (flag, _) => (flag, some value) }

def long (g : Given) (level : Level) (text : List Char) : Except Usage Given :=
  let name := String.ofList (text.takeWhile (· ≠ '='))
  let attached := match text.dropWhile (· ≠ '=') with
    | _ :: value => some (String.ofList value)
    | [] => none
  match Flag.ofLong? level name with
  | none => .error .unknownArgument
  | some flag =>
    if flag.takesValue then g.meetValued flag attached
    else if attached.isSome then .error .unwantedValue
    else g.meet level flag

/-- Meets options by their short names. An option with a value takes the rest of the argument. -/
def short (g : Given) (level : Level) : List Char → Except Usage Given
  | [] => .ok g
  | c :: rest =>
    match Flag.ofShort? level c with
    | none => .error .unknownArgument
    | some flag =>
      if flag.takesValue then
        g.meetValued flag <| match rest with
          | [] => none
          | '=' :: value => some (String.ofList value)
          | value => some (String.ofList value)
      else do
        let g ← g.meet level flag
        g.short level rest

/-- Meets an argument that names a rule. -/
def meetRule (g : Given) (level : Level) (text : String) : Except Usage Given :=
  if level.takesRule ∧ g.rule.isNone then do
    let g ← g.close
    return { g with rule := some text }
  else .error .unknownArgument

/-- Meets the arguments after the command. Behind two dashes nothing is an option. -/
def meetAll (g : Given) (level : Level) (plain : Bool) : List String → Except Usage Given
  | [] => g.close
  | text :: rest =>
    if plain then do
      let g ← g.meetRule level text
      g.meetAll level plain rest
    else
      match Word.ofText text with
      | .dashes => g.meetAll level true rest
      | .long name => do
        let g ← g.long level name
        g.meetAll level plain rest
      | .short names => do
        let g ← g.short level names
        g.meetAll level plain rest
      | .plain =>
        if g.awaitsValue then (g.supply text).meetAll level plain rest
        else do
          let g ← g.meetRule level text
          g.meetAll level plain rest

def command (g : Given) : Level → Except Usage Arguments.Command
  | .list => .ok .list
  | .validate =>
    match g.rule with
    | some rule => .ok (.validate rule)
    | none => .error .missingArgument
  | .evaluate =>
    match g.rule, g.value? .criteria with
    | some rule, some criteria => .ok (.evaluate rule criteria (.explain ∈ g.flags))
    | _, _ => .error .missingArgument
  | .program => .error .missingCommand

end Given

/-- What the arguments after the word for help ask for: help on a command, if there is such a one. -/
def helpOn : List String → Usage
  | [] => .help
  | [name] => if (Level.ofName? name).isSome ∨ name = "help" then .help else .unknownCommand
  | _ => .unknownCommand

/-- What is said of an argument behind two dashes in the place of a command: where it is the name of
one, the dashes are to blame. -/
def behindDashes (text : String) : Usage :=
  if (Level.ofName? text).isSome ∨ text = "help" then .unknownArgument else .unknownCommand

/-- Puts together what was given before and after the command; after it weighs more. -/
def assemble (before after : Given) (command : Arguments.Command) : Arguments where
  rulesDirectory := after.value? .rulesDirectory <|> before.value? .rulesDirectory
  logLevel := after.value? .logLevel <|> before.value? .logLevel
  metrics := Flag.metrics ∈ before.flags ++ after.flags
  command := command

/-- Reads the arguments after a command, and then makes sure of what stood before it. -/
def readAfter (before : Given) (level : Level) (rest : List String) : Except Usage Arguments := do
  let after ← Given.nothing.meetAll level false rest
  let command ← after.command level
  return assemble (← before.close) after command

/-- Reads arguments up to the command and then those after it. -/
def readFrom (before : Given) (plain : Bool) : List String → Except Usage Arguments
  | [] => do
    let before ← before.close
    throw (if before.values.isEmpty && before.flags.isEmpty then .noArguments else .missingCommand)
  | text :: rest =>
    if plain then throw (behindDashes text)
    else
      match Word.ofText text with
      | .dashes => readFrom before true rest
      | .long name => do
        let before ← before.long .program name
        readFrom before plain rest
      | .short names => do
        let before ← before.short .program names
        readFrom before plain rest
      | .plain =>
        if before.awaitsValue then readFrom (before.supply text) plain rest
        else if text = "help" then throw (helpOn rest)
        else
          match Level.ofName? text with
          | some level => readAfter before level rest
          | none => throw .unknownCommand

def read (arguments : List String) : Except Usage Arguments :=
  readFrom .nothing false arguments

end Arguments

end RuleTree

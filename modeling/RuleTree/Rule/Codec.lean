import RuleTree.Rule

/-!
The JSON form of rules. A rule is an object with the keys `id`, `label`, `conditions` and
`updated_at`, each of which may be missing, or an array of these in order. A rule is read either
from a JSON value or straight from a text; a text may not repeat one of the keys.
-/

namespace RuleTree

def Time.ofJson? (value : Json) : Except Mismatch (Option Time) :=
  match value with
  | .null => .ok none
  | .string s =>
    match Time.ofText s with
    | .ok t => .ok (some t)
    | .error fault => .error (.badTime fault)
  | v => .error (v.mismatch .time)

namespace Rule

def ofJson (value : Json) : Except Mismatch Rule :=
  match value with
  | .object members => do
    let id ← (Entries.get? "id" members).mapM Json.text
    let label ← (Entries.get? "label" members).mapM Json.text
    let updatedAt ← (Entries.get? "updated_at" members).mapM Time.ofJson?
    return ⟨id.getD "", label.getD "", (Entries.get? "conditions" members).getD .null,
      updatedAt.join⟩
  | .array items => do
    let id ← items[0]?.mapM Json.text
    let label ← items[1]?.mapM Json.text
    let updatedAt ← items[3]?.mapM Time.ofJson?
    if 4 < items.length then throw (.tooMany items.length)
    return ⟨id.getD "", label.getD "", items[2]?.getD .null, updatedAt.join⟩
  | v => .error (v.mismatch .rule)

/-- Writes a rule; the time is left out where there is none. -/
def toJson (rule : Rule) : Json :=
  .object ([("conditions", rule.conditions), ("id", .string rule.id),
    ("label", .string rule.label)] ++
    (rule.updatedAt.map fun t => ("updated_at", Json.string t.text)).toList)

end Rule

namespace Json.Outline

/-- What stands in a text where something else is wanted. Of an array or object only the bracket is
looked at. -/
def found : Outline → Except Fault Found
  | .null => .ok .null
  | .bool b => .ok (.bool b)
  | .number n => .number <$> n.number
  | .string q => .string <$> q.text
  | .array _ _ => .ok .array
  | .object _ _ => .ok .object
  | .broken fault => .error fault

def faulty {α : Type} : Except Fault α → Except ReadError α
  | .ok a => .ok a
  | .error fault => .error (.fault fault)

/-- Reports what stands where something else is wanted. -/
def mismatch {α : Type} (outline : Outline) (expected : Expected) : Except ReadError α := do
  let found ← faulty outline.found
  throw (.data (.kind found expected))

def text : Outline → Except ReadError String
  | .string q => faulty q.text
  | outline => outline.mismatch .string

def time? : Outline → Except ReadError (Option Time)
  | .null => .ok none
  | .string q => do
    let s ← faulty q.text
    match Time.ofText s with
    | .ok t => return some t
    | .error fault => throw (.data (.badTime fault))
  | outline => outline.mismatch .time

/-- The fields of a rule that have been read so far. -/
structure Fields where
  id : Option String := none
  label : Option String := none
  conditions : Option Json := none
  updatedAt : Option (Option Time) := none

def Fields.rule (fields : Fields) : Rule :=
  ⟨fields.id.getD "", fields.label.getD "", fields.conditions.getD .null, fields.updatedAt.join⟩

/-- Reads one member of a rule. That a key is repeated is noticed before its value is read. -/
def field (room : Nat) (fields : Fields) (key : String) (outline : Outline) :
    Except ReadError Fields := do
  let fresh (absent : Bool) : Except ReadError Unit :=
    if absent then .ok () else .error (.data (.duplicateField key))
  match key with
  | "id" =>
    fresh fields.id.isNone
    return { fields with id := some (← text outline) }
  | "label" =>
    fresh fields.label.isNone
    return { fields with label := some (← text outline) }
  | "conditions" =>
    fresh fields.conditions.isNone
    return { fields with conditions := some (← faulty (outline.value room)) }
  | "updated_at" =>
    fresh fields.updatedAt.isNone
    return { fields with updatedAt := some (← time? outline) }
  | _ =>
    faulty outline.skip
    return fields

def fieldsOf (room : Nat) (fields : Fields) :
    List (Quoted × Outline) → Except ReadError Fields
  | [] => .ok fields
  | (key, outline) :: rest => do
    let key ← faulty key.text
    let fields ← field room fields key outline
    fieldsOf room fields rest

/-- Reads a rule whose members or items may nest `room` levels deep. An item after the fourth is a
fault of the text. -/
def rule (room : Nat) : Outline → Except ReadError Rule
  | .object members fault => do
    let fields ← fieldsOf room {} members
    match fault with
    | none => return fields.rule
    | some f => throw (.fault f)
  | .array items fault => do
    let id ← items[0]?.mapM text
    let label ← items[1]?.mapM text
    let conditions ← items[2]?.mapM fun x => faulty (x.value room)
    let updatedAt ← items[3]?.mapM time?
    if 4 < items.length then throw (.fault .malformed)
    match fault with
    | none => return (Fields.mk id label conditions updatedAt).rule
    | some f => throw (.fault f)
  | outline => outline.mismatch .rule

end Json.Outline

namespace Rule

/-- Reads a rule from a text that holds nothing else. -/
def ofText (text : String) : Except ReadError Rule := do
  let (outline, trailing) := Json.Outline.ofText text
  let rule ← outline.rule (Json.maxNesting - 1)
  if trailing then throw (.fault .malformed)
  return rule

end Rule

end RuleTree

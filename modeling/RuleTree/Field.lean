import RuleTree.Json.Basic
import RuleTree.Text.Digits
import RuleTree.Text.Split

/-!
Finding a field in the data. A path is a text with dots between its steps; a step is the key of a
member or the index of an item. Looking up along two paths joined by a dot is looking up along the
first and then along the second.
-/

namespace RuleTree

/-- The index that a step names: decimal digits, perhaps after a plus sign, for a number of 64 bits. -/
def indexOf? (step : List Char) : Option Nat :=
  let (negative, digits) := takeSign step
  if !negative ∧ isNumeral digits ∧ numeral digits < UInt64.size then some (numeral digits) else none

namespace Json

def step? (value : Json) (step : List Char) : Option Json :=
  match value with
  | .object members => Entries.get? (String.ofList step) members
  | .array items => (indexOf? step).bind fun i => items[i]?
  | _ => none

def along? (value : Json) : List (List Char) → Option Json
  | [] => some value
  | s :: rest => (value.step? s).bind fun v => v.along? rest

theorem along?_append (value : Json) (p q : List (List Char)) :
    value.along? (p ++ q) = (value.along? p).bind fun v => v.along? q := by
  induction p generalizing value with
  | nil => simp [along?]
  | cons s rest ih =>
    simp only [List.cons_append, along?]
    cases value.step? s with
    | none => rfl
    | some v => simpa using ih v

def atPath? (value : Json) (path : String) : Option Json :=
  value.along? (splitAt '.' path.toList)

/-- The field of a record: a name with a dot is a path, any other name is the key of a member. -/
def field? (record : Json) (name : String) : Option Json :=
  if name.toList.contains '.' then record.atPath? name else record.get? name

end Json

end RuleTree

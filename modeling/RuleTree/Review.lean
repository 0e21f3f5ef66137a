import RuleTree.Json.Mismatch

/-!
The outcome of reviewing a rule: accepted, or refused because of a defect in one of its elements.
-/

namespace RuleTree

/-- What is wrong with an element of a rule. -/
structure Defect where
  message : String
  element : Json

structure Review where
  accepted : Bool
  defect : Option Defect

namespace Review

def ok : Review := ⟨true, none⟩

def refused (message : String) (element : Json) : Review :=
  ⟨false, some ⟨message, element⟩⟩

/-- Joins two reviews: both must accept, and the first defect is kept. -/
def merge (first second : Review) : Review :=
  ⟨first.accepted && second.accepted, first.defect <|> second.defect⟩

def message? (r : Review) : Option String :=
  r.defect.map (·.message)

@[simp] theorem merge_ok (r : Review) : r.merge ok = r := by
  cases r with
  | mk accepted defect => cases defect <;> simp [merge, ok]

@[simp] theorem ok_merge (r : Review) : ok.merge r = r := by
  cases r; simp [merge, ok]

theorem merge_assoc (a b c : Review) : (a.merge b).merge c = a.merge (b.merge c) := by
  simp only [merge, Bool.and_assoc]
  cases a.defect <;> simp

end Review

namespace Defect

def toJson (d : Defect) : Json :=
  .object [("element", d.element), ("message", .string d.message)]

def ofJson (value : Json) : Except Mismatch Defect :=
  match value with
  | .object members => do
    let message ← (Entries.get? "message" members).mapM Json.text
    match message, Entries.get? "element" members with
    | none, _ => throw (.missingField "message")
    | _, none => throw (.missingField "element")
    | some message, some element => return ⟨message, element⟩
  | .array [] => .error (.tooFew 0 .defect 2)
  | .array [message] => do
    let _ ← message.text
    throw (.tooFew 1 .defect 2)
  | .array (message :: element :: rest) => do
    let message ← message.text
    if rest.isEmpty then return ⟨message, element⟩
    throw (.tooMany (rest.length + 2))
  | v => .error (v.mismatch .defect)

def ofJson? (value : Json) : Except Mismatch (Option Defect) :=
  match value with
  | .null => .ok none
  | v => some <$> ofJson v

end Defect

namespace Review

/-- Writes a review; the defect is left out where there is none. -/
def toJson (r : Review) : Json :=
  .object ((r.defect.map fun d => ("error", d.toJson)).toList ++ [("isValid", .bool r.accepted)])

def ofJson (value : Json) : Except Mismatch Review :=
  match value with
  | .object members => do
    let defect ← (Entries.get? "error" members).mapM Defect.ofJson?
    let accepted ← (Entries.get? "isValid" members).mapM Json.truth
    match accepted with
    | none => throw (.missingField "isValid")
    | some accepted => return ⟨accepted, defect.join⟩
  | .array [] => .error (.tooFew 0 .review 2)
  | .array (accepted :: rest) => do
    let accepted ← accepted.truth
    let defect ← rest.head?.mapM Defect.ofJson?
    if 1 < rest.length then throw (.tooMany (rest.length + 1))
    return ⟨accepted, defect.join⟩
  | v => .error (v.mismatch .review)

end Review

end RuleTree

import RuleTree.Entries

/-!
The comparison operators of constraints, their names, and the words for them in the JSON form of a
constraint. Names and words are two tables; `get?_words` says that they agree.
-/

namespace RuleTree

/-- How a constraint compares a field with its expected value. -/
inductive Operator
  | equals
  | doesNotEqual
  | greaterThan
  | lessThan
  | greaterThanOrEqual
  | lessThanOrEqual
  | isPresent
  | isAbsent
  | isIn
  | isNotIn
  | contains
  | doesNotContain
  | containsAny
  | containsNone
  | matches
  | doesNotMatch
deriving DecidableEq, Repr

namespace Operator

/-- All operators, in the order in which they are listed to users. -/
def all : List Operator :=
  [.equals, .doesNotEqual, .greaterThan, .lessThan, .greaterThanOrEqual, .lessThanOrEqual,
    .isPresent, .isAbsent, .isIn, .isNotIn, .contains, .doesNotContain, .containsAny,
    .containsNone, .matches, .doesNotMatch]

def name : Operator → String
  | .equals => "equals"
  | .doesNotEqual => "does not equal"
  | .greaterThan => "greater than"
  | .lessThan => "less than"
  | .greaterThanOrEqual => "greater than or equal"
  | .lessThanOrEqual => "less than or equal"
  | .isPresent => "exists"
  | .isAbsent => "does not exist"
  | .isIn => "in"
  | .isNotIn => "not in"
  | .contains => "contains"
  | .doesNotContain => "not contains"
  | .containsAny => "contains any"
  | .containsNone => "not contains any"
  | .matches => "matches"
  | .doesNotMatch => "does not match"

/-- A second name that is read but never written. -/
def alias? : Operator → Option String
  | .greaterThanOrEqual => some "greater than or equal to"
  | .lessThanOrEqual => some "less than or equal to"
  | _ => none

def ofName? (s : String) : Option Operator :=
  all.find? fun op => op.name == s || op.alias? == some s

/-- The words for operators in the JSON form of a constraint. The first word for an operator is the one
that is written. -/
def words : List (String × Operator) :=
  [("equals", .equals), ("does not equal", .doesNotEqual), ("greater than", .greaterThan),
    ("less than", .lessThan), ("greater than or equal", .greaterThanOrEqual),
    ("greater than or equal to", .greaterThanOrEqual), ("less than or equal", .lessThanOrEqual),
    ("less than or equal to", .lessThanOrEqual), ("exists", .isPresent), ("does not exist", .isAbsent),
    ("in", .isIn), ("not in", .isNotIn), ("contains", .contains), ("not contains", .doesNotContain),
    ("contains any", .containsAny), ("not contains any", .containsNone), ("matches", .matches),
    ("does not match", .doesNotMatch)]

def word (op : Operator) : String :=
  ((words.find? fun (_, other) => other = op).map Prod.fst).getD ""

def needsArray : Operator → Bool
  | .isIn | .isNotIn | .containsAny | .containsNone => true
  | _ => false

def needsPattern : Operator → Bool
  | .matches | .doesNotMatch => true
  | _ => false

/-- The operator asks about the presence of the field and nothing else. -/
def asksPresence : Operator → Bool
  | .isPresent | .isAbsent => true
  | _ => false

theorem ofName?_name (op : Operator) : ofName? op.name = some op := by
  cases op <;> rfl

theorem name_inj {op other : Operator} (h : op.name = other.name) : op = other := by
  rw [← Option.some.injEq, ← ofName?_name op, h, ofName?_name]

/-- A word is read as the operator that has it as its name or second name. -/
theorem get?_words (s : String) : Entries.get? s words = ofName? s := by
  by_cases h : s ∈ words.map Prod.fst
  · simp only [words, List.map_cons, List.map_nil, List.mem_cons, List.not_mem_nil, or_false] at h
    rcases h with rfl | rfl | rfl | rfl | rfl | rfl | rfl | rfl | rfl | rfl | rfl | rfl | rfl | rfl |
      rfl | rfl | rfl | rfl <;> rfl
  · have hnames (op : Operator) : op.name ≠ s ∧ op.alias? ≠ some s := by
      constructor
      · rintro rfl
        exact h (by cases op <;> decide)
      · intro hs
        cases op <;> simp only [alias?, reduceCtorEq, Option.some.injEq] at hs
        all_goals subst hs; exact h (by decide)
    have hget : Entries.get? s words = none := Entries.get?_eq_none h
    have hfind : ofName? s = none := by
      refine List.find?_eq_none.mpr fun op _ => ?_
      simpa using hnames op
    rw [hget, hfind]

theorem word_eq_name (op : Operator) : op.word = op.name := by
  cases op <;> rfl

/-- What is said of a name that no operator has. -/
def unknownMessage (s : String) : String :=
  "unknown operator '" ++ s ++ "'"

end Operator

end RuleTree

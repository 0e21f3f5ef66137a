import RuleTree.Field
import RuleTree.Json.Printer
import RuleTree.Pattern.Cache
import RuleTree.Presence
import RuleTree.Tree

/-!
Whether a constraint holds of a record. Except for the operators about presence, a constraint on a
missing field fails, and so do both operators of a pair where the values cannot be compared.
-/

namespace RuleTree

namespace Json

/-- Equality of values: two numbers are equal if they are the same double, everything else if it is
the same value. -/
def equals (left right : Json) : Bool :=
  match left, right with
  | .number a, .number b => a.toDouble == b.toDouble
  | a, b => a == b

/-- The order of two numbers as doubles, or of two strings by code points. -/
def compare? (left right : Json) : Option Ordering :=
  match left, right with
  | .number a, .number b => some (compare a.toDouble.value b.toDouble.value)
  | .string a, .string b => some (if a < b then .lt else if b < a then .gt else .eq)
  | _, _ => none

/-- Whether a value is among the items of an array; nothing if there is no array. -/
def memberOf? (item list : Json) : Option Bool :=
  list.asArray?.map fun items => items.any item.equals

/-- Whether two arrays have an item in common; nothing if one of them is none. -/
def overlaps? (left right : Json) : Option Bool :=
  left.asArray?.bind fun items =>
    right.asArray?.map fun wanted => wanted.any fun w => items.any fun x => x.equals w

/-- The text of a number: whole numbers below `10 ^ 15` have no fraction. -/
def numberText (n : Number) : String :=
  let d := n.toDouble
  if d.isWhole ∧ d.units < 1000000000000000 * Double.one then toString d.truncate else n.text

mutual

/-- The text that patterns are matched against: strings without quotation marks, the items of an
array with commas between them. -/
def plainText : Json → String
  | .string s => s
  | .null => "null"
  | .bool true => "true"
  | .bool false => "false"
  | .number n => numberText n
  | .array items => plainItems items
  | .object members => compact (.object members)

def plainItems : List Json → String
  | [] => ""
  | [x] => plainText x
  | x :: rest => plainText x ++ "," ++ plainItems rest

end

end Json

/-- Whether the criterion, read as a pattern, occurs in the text of the expected value; nothing if it
is no pattern. -/
def patternOccurs? (cache : PatternCache) (criterion expected : Json) :
    Option Bool × PatternCache :=
  match criterion with
  | .string text =>
    let (pattern, cache) := cache.compile text
    (pattern.map (·.occursIn expected.plainText), cache)
  | _ => (none, cache)

/-- Whether an order comparison comes out in one of the given ways. -/
def ordered (criterion expected : Json) (test : Ordering → Bool) : Bool :=
  (criterion.compare? expected).any test

/-- Whether a criterion that is there passes the operator. The operators about presence have been
answered before. -/
def Operator.passes (op : Operator) (criterion expected : Json) (cache : PatternCache) :
    Bool × PatternCache :=
  let plain (b : Bool) : Bool × PatternCache := (b, cache)
  match op with
  | .equals => plain (criterion.equals expected)
  | .doesNotEqual => plain (!criterion.equals expected)
  | .greaterThan => plain (ordered criterion expected Ordering.isGT)
  | .lessThan => plain (ordered criterion expected Ordering.isLT)
  | .greaterThanOrEqual => plain (ordered criterion expected Ordering.isGE)
  | .lessThanOrEqual => plain (ordered criterion expected Ordering.isLE)
  | .isIn => plain ((criterion.memberOf? expected).any id)
  | .isNotIn => plain ((criterion.memberOf? expected).any not)
  | .contains => plain ((expected.memberOf? criterion).any id)
  | .doesNotContain => plain ((expected.memberOf? criterion).any not)
  | .containsAny => plain ((criterion.overlaps? expected).any id)
  | .containsNone => plain ((criterion.overlaps? expected).any not)
  | .matches =>
    let (found, cache) := patternOccurs? cache criterion expected
    (found.any id, cache)
  | .doesNotMatch =>
    let (found, cache) := patternOccurs? cache criterion expected
    (found.any not, cache)
  | .isPresent | .isAbsent => plain false

/-- Compares a criterion, which may be missing, with the expected value. -/
def Operator.compare (op : Operator) (isEmpty : Emptiness) (criterion : Option Json)
    (expected : Json) (cache : PatternCache) : Bool × PatternCache :=
  match op, criterion with
  | .isPresent, c => (!isEmpty c, cache)
  | .isAbsent, c => (isEmpty c, cache)
  | _, none => (false, cache)
  | op, some c => op.passes c expected cache

def Constraint.check (c : Constraint) (isEmpty : Emptiness) (record : Json)
    (cache : PatternCache) : Bool × PatternCache :=
  c.operator.compare isEmpty (record.field? c.field) c.value cache

end RuleTree

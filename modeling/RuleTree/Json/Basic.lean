import RuleTree.Double.Text
import RuleTree.Entries

/-!
JSON values. A number is an integer or a double, and the two kinds are different values even where
they are numerically equal; the members of an object are kept in ascending order of their keys.
-/

namespace RuleTree

inductive Number
  | int (value : Int)
  | double (value : Double)
deriving DecidableEq

namespace Number

def toDouble : Number → Double
  | .int i => .ofInt i
  | .double d => d

/-- Equality of kind and value. -/
protected def same : Number → Number → Bool
  | .int a, .int b => a == b
  | .double a, .double b => a == b
  | _, _ => false

def text : Number → String
  | .int i => toString i
  | .double d => d.text

end Number

inductive Json
  | null
  | bool (value : Bool)
  | number (value : Number)
  | string (value : String)
  | array (items : List Json)
  | object (members : List (String × Json))
deriving Inhabited

namespace Json

mutual

/-- Equality: numbers by kind and value, everything else member by member. -/
def same : Json → Json → Bool
  | .null, .null => true
  | .bool a, .bool b => a == b
  | .number a, .number b => a.same b
  | .string a, .string b => a == b
  | .array xs, .array ys => sameItems xs ys
  | .object xs, .object ys => sameMembers xs ys
  | _, _ => false

def sameItems : List Json → List Json → Bool
  | [], [] => true
  | x :: xs, y :: ys => same x y && sameItems xs ys
  | _, _ => false

def sameMembers : List (String × Json) → List (String × Json) → Bool
  | [], [] => true
  | (k, x) :: xs, (l, y) :: ys => k == l && same x y && sameMembers xs ys
  | _, _ => false

end

instance : BEq Json := ⟨same⟩

/-- The member of an object; nothing has members but objects. -/
def get? (key : String) : Json → Option Json
  | .object members => Entries.get? key members
  | _ => none

/-- The member of an object, null where there is none. -/
def getD (value : Json) (key : String) : Json :=
  (value.get? key).getD .null

def hasKey (value : Json) (key : String) : Bool :=
  (value.get? key).isSome

def isObject : Json → Bool
  | .object _ => true
  | _ => false

def isArray : Json → Bool
  | .array _ => true
  | _ => false

def isString : Json → Bool
  | .string _ => true
  | _ => false

def asString? : Json → Option String
  | .string s => some s
  | _ => none

def asArray? : Json → Option (List Json)
  | .array items => some items
  | _ => none

/-- The object with the given members; of members with the same key the last one counts. -/
def ofMembers (members : List (String × Json)) : Json :=
  .object (Entries.ofList members)

end Json

end RuleTree

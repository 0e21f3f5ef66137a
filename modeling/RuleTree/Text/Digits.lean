/-!
Decimal numerals and the sign before them.
-/

namespace RuleTree

/-- Whether a text is a decimal numeral: digits and nothing else. -/
def isNumeral (cs : List Char) : Bool :=
  !cs.isEmpty && cs.all Char.isDigit

def numeral (cs : List Char) : Nat :=
  cs.foldl (fun n c => 10 * n + (c.toNat - 48)) 0

/-- Takes a sign off: whether it is a minus, and the rest. -/
def takeSign (cs : List Char) : Bool × List Char :=
  match cs with
  | '-' :: rest => (true, rest)
  | '+' :: rest => (false, rest)
  | cs => (false, cs)

def isInt64 (i : Int) : Bool :=
  -0x8000000000000000 ≤ i && i < 0x8000000000000000

def withSign (negative : Bool) (n : Nat) : Int :=
  if negative then -(n : Int) else n

end RuleTree

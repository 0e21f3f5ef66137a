import RuleTree.Unicode.Category
import RuleTree.Unicode.Property

/-!
A text as messages show it: between quotation marks, with the characters escaped that would not show
by themselves.
-/

namespace RuleTree.Shown

/-- The characters beyond ASCII that do not show by themselves: controls, separators, what belongs to
the character before it, and what has no meaning. -/
def invisible : Unicode.CharSet :=
  .unionAll [Unicode.Category.unionOf ["cc", "cf", "cs", "co", "zl", "zp", "zs"],
    Unicode.Category.assigned.complement, Unicode.Property.graphemeExtend]

def isVisible (c : Char) : Bool :=
  if c.toNat < 128 then 32 ≤ c.toNat && c.toNat ≠ 127 else !invisible.contains c.toNat

def escaped (c : Char) : String :=
  if c = '"' then "\\\""
  else if c = '\\' then "\\\\"
  else if c = '\n' then "\\n"
  else if c = '\r' then "\\r"
  else if c = '\t' then "\\t"
  else if c.toNat = 0 then "\\0"
  else if isVisible c then String.singleton c
  else "\\u\x7b" ++ String.ofList (Nat.toDigits 16 c.toNat) ++ "\x7d"

def quoted (s : String) : String :=
  "\"" ++ String.join (s.toList.map escaped) ++ "\""

end RuleTree.Shown

import RuleTree.Double.Text

/-!
Doubles together with the infinities and with what is no number. Their text is never scientific and
has no fraction where there is none.
-/

namespace RuleTree

inductive Extended
  | finite (value : Double)
  | infinite (negative : Bool)
  | undefined

namespace Extended

/-- A double that is infinite if it is out of range. -/
def ofDouble (d : Double) : Extended :=
  if d.isFinite then .finite d else .infinite d.negative

def isNonzero : Extended → Bool
  | .finite d => d.units ≠ 0
  | _ => true

/-- The nearest number of 64 bits without a sign, a half going up; below zero this is zero. -/
def toUnsigned64 : Extended → Nat
  | .finite d => min d.round.toNat (UInt64.size - 1)
  | .infinite false => UInt64.size - 1
  | _ => 0

/-- The digits of a positive decimal around the point. -/
def plain (d : Decimal) : String :=
  let digits := Nat.repr d.digits
  let point := (digits.length : Int) + d.exponent
  if 0 ≤ d.exponent then digits ++ Double.zeros d.exponent.toNat
  else if 0 < point then
    String.ofList (digits.toList.take point.toNat) ++ "." ++
      String.ofList (digits.toList.drop point.toNat)
  else "0." ++ Double.zeros (-point).toNat ++ digits

def text : Extended → String
  | .finite d =>
    (if d.negative then "-" else "") ++ (if d.units = 0 then "0" else plain d.shortest)
  | .infinite negative => if negative then "-inf" else "inf"
  | .undefined => "NaN"

end Extended

end RuleTree

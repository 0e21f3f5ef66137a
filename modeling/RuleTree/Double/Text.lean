import RuleTree.Double

/-!
The text of a double: the fewest decimal digits that read back as the same number, and of two such
decimals the nearer one.
-/

namespace RuleTree

/-- A positive decimal number, `digits * 10 ^ exponent`. -/
structure Decimal where
  digits : Nat
  exponent : Int
deriving DecidableEq

namespace Double

/-- Decimals are searched on grids that are multiples of `10 ^ -fineness`, which is finer than any
grid of 17 digits below a double. -/
def fineness : Nat := 400

/-- Whether `n` steps of `10 ^ -fineness` are nearest to the given number of units. -/
def readsBack (units n : Nat) : Bool :=
  roundQuotient (n * one) (Nat.pow 10 fineness) = units

/-- Of a number and the next one the one that will do, and the nearer one if both will. -/
def choose? (below : Nat) (nearer : Bool) : Bool → Bool → Option Nat
  | false, false => none
  | true, false => some below
  | false, true => some (below + 1)
  | true, true => some (if nearer then below else below + 1)

/-- The neighbour of the number on the grid of multiples of `step` that reads back as it, the nearer
if both do. -/
def onGrid? (units scaled step : Nat) : Option Nat :=
  let below := scaled / step
  let twice := 2 * units * Nat.pow 10 fineness
  let middle := (below + (below + 1)) * step * one
  choose? below (twice < middle ∨ (twice = middle ∧ below % 2 = 0))
    (readsBack units (below * step)) (readsBack units ((below + 1) * step))

/-- The decimal with the fewest digits that reads back as the number, which must not be zero. -/
def shortest (d : Double) : Decimal :=
  let scaled := d.units * Nat.pow 10 fineness / one
  let width := (Nat.repr scaled).length
  let found := (List.range 17).findSome? fun i =>
    let step := width - (i + 1)
    (onGrid? d.units scaled (Nat.pow 10 step)).map fun n =>
      -- a carry past the first digit leaves a zero behind
      if n % 10 = 0 then ⟨n / 10, (step : Int) + 1 - (fineness : Int)⟩
      else ⟨n, (step : Int) - (fineness : Int)⟩
  found.getD ⟨scaled, -(fineness : Int)⟩

def zeros (n : Nat) : String :=
  String.ofList (List.replicate n '0')

/-- Decimal notation between `10 ^ -5` and `10 ^ 16`, always with a fraction; outside of that,
scientific notation with a signed exponent. -/
def Decimal.text (d : Decimal) : String :=
  let digits := Nat.repr d.digits
  let width := (digits.length : Int)
  let point := width + d.exponent
  if 0 ≤ d.exponent ∧ point ≤ 16 then
    digits ++ zeros d.exponent.toNat ++ ".0"
  else if 0 < point ∧ point ≤ 16 then
    let whole := point.toNat
    String.ofList (digits.toList.take whole) ++ "." ++ String.ofList (digits.toList.drop whole)
  else if -5 < point ∧ point ≤ 0 then
    "0." ++ zeros (-point).toNat ++ digits
  else
    let e := point - 1
    let mantissa := match digits.toList with
      | c :: [] => String.singleton c
      | c :: rest => String.singleton c ++ "." ++ String.ofList rest
      | [] => ""
    mantissa ++ "e" ++ (if e < 0 then "-" else "+") ++ Nat.repr e.natAbs

/-- The text of a double; negative numbers, negative zero among them, carry a minus sign. -/
def text (d : Double) : String :=
  let magnitude := if d.units = 0 then "0.0" else (Decimal.text d.shortest)
  if d.negative then "-" ++ magnitude else magnitude

end Double

end RuleTree

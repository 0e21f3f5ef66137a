import RuleTree.Json.Basic
import RuleTree.Json.Outline

/-!
Reading a JSON value from its text. A decimal is read in double precision: its digits, as many as 64
bits hold, are rounded to a double and then multiplied or divided by a power of ten.
-/

namespace RuleTree.Json

/-- The leading digits that fit 64 bits, and the number of digits left over. -/
def leading : Nat → List Nat → Nat × Nat
  | n, [] => (n, 0)
  | n, d :: ds => if 10 * n + d < UInt64.size then leading (10 * n + d) ds else (n, ds.length + 1)

/-- Divides by `10 ^ 308` until the exponent is in reach of one multiplication or division, or
nothing is left to divide. A product out of range is refused. -/
def scaled (f : Double) (exponent : Int) : Except Fault Double :=
  if exponent.natAbs ≤ 308 then
    let power := Double.ofDecimal false 1 exponent.natAbs
    if 0 ≤ exponent then
      let product := f.mul power
      if product.isFinite then .ok product else .error .malformed
    else .ok (f.div power)
  else if f.units = 0 then .ok f
  else if 0 ≤ exponent then .error .malformed
  else scaled (f.div (.ofDecimal false 1 308)) (exponent + 308)
termination_by exponent.natAbs
decreasing_by omega

namespace Numeral

/-- The number written by a numeral. An integer that fits neither 64 bits without a sign nor 64 bits
with a sign is a double, and so is negative zero. -/
def number (n : Numeral) : Except Fault Number := do
  let (whole, dropped) := leading 0 n.whole
  if n.integral ∧ dropped = 0 ∧ ¬n.negative then
    return .int whole
  else if n.integral ∧ dropped = 0 ∧ 0 < whole ∧ whole ≤ 0x8000000000000000 then
    return .int (-(whole : Int))
  else
    let (digits, unread) := leading whole n.fraction
    let exponent := n.exponent + dropped - (n.fraction.length - unread : Nat)
    let magnitude ← scaled (.ofInt digits) exponent
    return .double ⟨n.negative, magnitude.units, magnitude.precise⟩

end Numeral

namespace Quoted

/-- The text of the pieces. A code unit from the surrogate range counts only as half of a pair. -/
def textOf (fault : Option Fault) : List Piece → Except Fault (List Char)
  | [] => match fault with
    | none => .ok []
    | some f => .error f
  | .char c :: rest => (c :: ·) <$> textOf fault rest
  | .codeUnit n :: rest =>
    if 0xDC00 ≤ n ∧ n ≤ 0xDFFF then .error .malformed
    else if 0xD800 ≤ n ∧ n ≤ 0xDBFF then
      match rest with
      | .codeUnit m :: rest =>
        if 0xDC00 ≤ m ∧ m ≤ 0xDFFF then
          (Char.ofNat (0x10000 + (n - 0xD800) * 0x400 + (m - 0xDC00)) :: ·) <$> textOf fault rest
        else .error .malformed
      | [] => .error (fault.getD .malformed)
      | _ => .error .malformed
    else (Char.ofNat n :: ·) <$> textOf fault rest

def text (q : Quoted) : Except Fault String :=
  String.ofList <$> textOf q.fault q.pieces

/-- Passes over a string without looking at its code units. -/
def skip (q : Quoted) : Except Fault Unit :=
  match q.fault with
  | none => .ok ()
  | some f => .error f

end Quoted

namespace Outline

def close (fault : Option Fault) : Except Fault Unit :=
  match fault with
  | none => .ok ()
  | some f => .error f

mutual

/-- The value an outline stands for, which may hold arrays and objects `room` levels deep. -/
def value (room : Nat) : Outline → Except Fault Json
  | .null => .ok .null
  | .bool b => .ok (.bool b)
  | .number n => .number <$> n.number
  | .string q => .string <$> q.text
  | .array items fault =>
    match room with
    | 0 => .error .malformed
    | room + 1 => do
      let items ← valuesOf room items
      close fault
      return .array items
  | .object members fault =>
    match room with
    | 0 => .error .malformed
    | room + 1 => do
      let members ← membersOf room members
      close fault
      return .ofMembers members
  | .broken fault => .error fault

def valuesOf (room : Nat) : List Outline → Except Fault (List Json)
  | [] => .ok []
  | x :: rest => do
    let x ← value room x
    let rest ← valuesOf room rest
    return x :: rest

def membersOf (room : Nat) :
    List (Quoted × Outline) → Except Fault (List (String × Json))
  | [] => .ok []
  | (k, x) :: rest => do
    let k ← k.text
    let x ← value room x
    let rest ← membersOf room rest
    return (k, x) :: rest

end

mutual

/-- Passes over a value nobody wants: it must be well formed, but it may be nested to any depth, its
numbers may be out of range and its strings may hold halves of pairs. -/
def skip : Outline → Except Fault Unit
  | .array items fault => do
    skipItems items
    close fault
  | .object members fault => do
    skipMembers members
    close fault
  | .string q => q.skip
  | .broken fault => .error fault
  | _ => .ok ()

def skipItems : List Outline → Except Fault Unit
  | [] => .ok ()
  | x :: rest => do
    skip x
    skipItems rest

def skipMembers : List (Quoted × Outline) → Except Fault Unit
  | [] => .ok ()
  | (k, x) :: rest => do
    k.skip
    skip x
    skipMembers rest

end

end Outline

/-- How many levels of arrays and objects a text may hold. -/
def maxNesting : Nat := 127

/-- Reads the value of a text that holds nothing else. -/
def parseWithin (room : Nat) (text : String) : Except Fault Json := do
  let (outline, trailing) := Outline.ofText text
  let value ← outline.value room
  if trailing then throw .malformed
  return value

/-- Reads the value of a text that holds nothing else and nests at most `maxNesting` levels. -/
def parse (text : String) : Except Fault Json :=
  parseWithin maxNesting text

end RuleTree.Json

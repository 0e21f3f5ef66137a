/-!
Sets of code points, as ascending ranges that neither overlap nor touch.
-/

namespace RuleTree.Unicode

structure CharSet where
  ranges : List (Nat × Nat)
deriving DecidableEq, Repr

namespace CharSet

def last : Nat := 0x10FFFF

def empty : CharSet := ⟨[]⟩

def all : CharSet := ⟨[(0, last)]⟩

def range (low high : Nat) : CharSet := ⟨[(low, high)]⟩

def single (n : Nat) : CharSet := range n n

def isEmpty (s : CharSet) : Bool := s.ranges.isEmpty

def contains (s : CharSet) (n : Nat) : Bool :=
  s.ranges.any fun (low, high) => low ≤ n && n ≤ high

/-- Whether some code point of the set is a character. The halves of UTF-16 pairs, from D800 to DFFF,
are none. -/
def hasCharacter (s : CharSet) : Bool :=
  s.ranges.any fun (low, high) => low < 0xD800 || 0xDFFF < high

/-- The set with the given ranges, in any order. -/
def ofRanges (ranges : List (Nat × Nat)) : CharSet :=
  let sorted := ranges.mergeSort fun a b => a.1 ≤ b.1
  -- the last range so far comes first, and takes in what overlaps or touches it
  let merged := sorted.foldl (fun (done : List (Nat × Nat)) r =>
    match done with
    | [] => [r]
    | top :: rest => if r.1 ≤ top.2 + 1 then (top.1, max top.2 r.2) :: rest else r :: done) []
  ⟨merged.reverse⟩

def union (s t : CharSet) : CharSet :=
  ofRanges (s.ranges ++ t.ranges)

def unionAll (sets : List CharSet) : CharSet :=
  ofRanges (sets.flatMap (·.ranges))

def gaps (start : Nat) : List (Nat × Nat) → List (Nat × Nat)
  | [] => if start ≤ last then [(start, last)] else []
  | (low, high) :: rest =>
    if start < low then (start, low - 1) :: gaps (high + 1) rest else gaps (high + 1) rest

def complement (s : CharSet) : CharSet :=
  ⟨gaps 0 s.ranges⟩

def inter (s t : CharSet) : CharSet :=
  (s.complement.union t.complement).complement

def minus (s t : CharSet) : CharSet :=
  s.inter t.complement

/-- The code points in exactly one of two sets. -/
def symmDiff (s t : CharSet) : CharSet :=
  (s.union t).minus (s.inter t)

def isAscii (s : CharSet) : Bool :=
  s.ranges.all fun (_, high) => high < 128

def hexValue (cs : List Char) : Nat :=
  cs.foldl (fun n c => 16 * n + (if c.isDigit then c.toNat - 48 else c.toNat - 55)) 0

/-- Reads a range written in hexadecimal such as `41-5A`, or a single code point. -/
def rangeOfText (token : List Char) : Nat × Nat :=
  let low := token.takeWhile (· ≠ '-')
  let high := token.drop (low.length + 1)
  (hexValue low, hexValue (if high.isEmpty then low else high))

/-- Reads ascending ranges, separated by a space, from some lines. -/
def ofText (lines : List String) : CharSet :=
  ⟨lines.flatMap fun line =>
    ((line.toList.splitOnP (· = ' ')).filter (!·.isEmpty)).map rangeOfText⟩

end CharSet

end RuleTree.Unicode

import RuleTree.Pattern.Basic

/-!
An estimate of the size of the machine that a pattern stands for, in bytes. A pattern whose machine is too
large is refused. The machine reads UTF-8, so a set of characters is a tree of byte ranges. The branches of
a choice are counted as they are written: what they begin with in common is counted in each, and sets among
them are not joined.
-/

namespace RuleTree.Pattern

open Unicode (CharSet)

def utf8Bytes (n : Nat) : List Nat :=
  if n < 0x80 then [n]
  else if n < 0x800 then [0xC0 + n / 0x40, 0x80 + n % 0x40]
  else if n < 0x10000 then [0xE0 + n / 0x1000, 0x80 + n / 0x40 % 0x40, 0x80 + n % 0x40]
  else [0xF0 + n / 0x40000, 0x80 + n / 0x1000 % 0x40, 0x80 + n / 0x40 % 0x40, 0x80 + n % 0x40]

/-- Cuts a range where the length of the UTF-8 form changes and at the surrogates. -/
def sameLength (low high : Nat) : List (Nat × Nat) :=
  let cut := [(0, 0x7F), (0x80, 0x7FF), (0x800, 0xD7FF), (0xE000, 0xFFFF), (0x10000, 0x10FFFF)]
  cut.filterMap fun (a, b) =>
    let l := max low a
    let h := min high b
    if l ≤ h then some (l, h) else none

/-- Cuts a range of code points of one length into ranges that are products of byte ranges; `level`
counts the bytes after the one under consideration. -/
def products : Nat → Nat → Nat → List (Nat × Nat)
  | 0, low, high => [(low, high)]
  | level + 1, low, high =>
    let block := Nat.pow 64 (level + 1)
    if low / block = high / block then products level low high
    else
      let firstFull := if low % block = 0 then low else (low / block + 1) * block
      let lastFull := if high % block = block - 1 then high + 1 else high / block * block
      let head := if low < firstFull then products level low (firstFull - 1) else []
      let body := if firstFull < lastFull then [(firstFull, lastFull - 1)] else []
      let tail := if lastFull ≤ high then products level lastFull high else []
      head ++ body ++ tail

/-- The sequences of byte ranges that make up a set. -/
def byteSequences (set : CharSet) : List (List (Nat × Nat)) :=
  set.ranges.flatMap fun (low, high) =>
    (sameLength low high).flatMap fun (low, high) =>
      (products ((utf8Bytes low).length - 1) low high).map fun (low, high) =>
        (utf8Bytes low).zip (utf8Bytes high)

/-- How many leading elements two lists share. -/
def shared {α : Type} [BEq α] : List α → List α → Nat
  | a :: as, b :: bs => if a == b then shared as bs + 1 else 0
  | _, _ => 0

def treeSize {α : Type} [BEq α] (before : List α) : List (List α) → Nat
  | [] => 0
  | s :: rest => s.length - shared before s + treeSize s rest

def stateSize : Nat := 32

/-- The size of a set: for ASCII one state with all its ranges, else a tree of byte ranges. -/
def setSize (set : CharSet) : Nat :=
  match set.ranges with
  | [] => stateSize
  | [(low, high)] =>
    if low = high then stateSize * (utf8Bytes low).length
    else if high < 128 then 2 * stateSize + 8
    else treeOf set
  | ranges => if set.isAscii then 2 * stateSize + 8 * ranges.length else treeOf set
where
  treeOf (set : CharSet) : Nat :=
    let sequences := byteSequences set
    stateSize * (treeSize [] sequences + 2) + 4 * sequences.length

mutual

/-- Whether the pattern matches the empty text only. -/
def isHollow : Pattern → Bool
  | .empty => true
  | .chars _ => false
  | .look _ => true
  | .group inner => isHollow inner
  | .sequence parts => areHollow parts
  | .choice branches => areHollow branches
  | .repeated _ high inner => high == some 0 || isHollow inner

def areHollow : List Pattern → Bool
  | [] => true
  | p :: rest => isHollow p && areHollow rest

end

mutual

/-- The size of a pattern, a choice being counted branch by branch. -/
def size : Pattern → Nat
  | .empty => stateSize
  | .chars set => setSize set
  | .look _ => stateSize
  | .group inner => size inner + 2 * stateSize
  | .sequence parts => sizes parts
  | .choice branches => sizes branches + 2 * stateSize + 4 * branches.length
  | .repeated low high inner =>
    let inside := size inner
    let branch := stateSize + 8
    if high = some 0 then stateSize
    else if isHollow inner then inside + 2 * branch
    else
      match high with
      | none => max low 1 * inside + 2 * branch
      | some high => low * inside + (high - low) * (inside + branch) + stateSize

def sizes : List Pattern → Nat
  | [] => 0
  | p :: rest => size p + sizes rest

end

def sizeLimit : Nat := 10 * 0x100000

/-- What surrounds the machine of any pattern. -/
def frameSize : Nat := 8 * stateSize

def fits (p : Pattern) : Bool :=
  size p + frameSize ≤ sizeLimit

end RuleTree.Pattern

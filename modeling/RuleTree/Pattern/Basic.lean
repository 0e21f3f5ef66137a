import RuleTree.Unicode.Property

/-!
Patterns over text and where they occur. A pattern is run on sets of positions: it takes the set of
positions where a match may start to the set of those where it may end, so the time is bounded by
the size of the pattern times the length of the text, whatever the pattern.
-/

namespace RuleTree

open Unicode (CharSet)

/-- Which of the two sides of a position must be part of a word. -/
inductive WordLook
  | boundary
  | notBoundary
  | start
  | finish
  | startHalf
  | finishHalf
deriving DecidableEq, Repr

/-- An assertion about a position. Lines end with a line feed, or with a carriage return, a line feed
or both; words are made of Unicode word characters or of ASCII ones. -/
inductive Look
  | start
  | finish
  | lineStart (carriage : Bool)
  | lineFinish (carriage : Bool)
  | word (side : WordLook) (ascii : Bool)
deriving DecidableEq, Repr

inductive Pattern
  | empty
  | chars (set : CharSet)
  | look (assertion : Look)
  | group (inner : Pattern)
  | sequence (parts : List Pattern)
  | choice (branches : List Pattern)
  | repeated (low : Nat) (high : Option Nat) (inner : Pattern)
deriving Inhabited

namespace Pattern

def asciiWord : CharSet := .ofRanges [(0x30, 0x39), (0x41, 0x5A), (0x5F, 0x5F), (0x61, 0x7A)]

/-- Whether an assertion holds between two characters, of which there is none at an end of the
text. -/
def Look.holds (look : Look) (before after : Option Char) : Bool :=
  match look with
  | .start => before.isNone
  | .finish => after.isNone
  | .lineStart false => before.isNone || before == some '\n'
  | .lineStart true =>
    before.isNone || before == some '\n' || (before == some '\r' && after != some '\n')
  | .lineFinish false => after.isNone || after == some '\n'
  | .lineFinish true =>
    after.isNone || after == some '\r' || (after == some '\n' && before != some '\r')
  | .word side ascii =>
    let set := if ascii then asciiWord else Unicode.Property.word
    let inWord (c : Option Char) : Bool := c.any fun c => set.contains c.toNat
    let left := inWord before
    let right := inWord after
    match side with
    | .boundary => left != right
    | .notBoundary => left == right
    | .start => !left && right
    | .finish => left && !right
    | .startHalf => !left
    | .finishHalf => !right

/-- A pattern made ready for one text. A set of positions is a number whose bit `i` says whether the
position before character `i` belongs to it. -/
inductive Plan
  | pass
  | step (positions : Nat)
  | filter (positions : Nat)
  | inOrder (parts : List Plan)
  | oneOf (branches : List Plan)
  | repeated (low : Nat) (high : Option Nat) (inner : Plan)

/-- The positions before characters from a set. -/
def positionsOf (set : CharSet) : List Char → Nat
  | [] => 0
  | c :: rest => 2 * positionsOf set rest + (if set.contains c.toNat then 1 else 0)

def positionsWhere (look : Look) (before : Option Char) : List Char → Nat
  | [] => if Look.holds look before none then 1 else 0
  | c :: rest =>
    2 * positionsWhere look (some c) rest + (if Look.holds look before (some c) then 1 else 0)

mutual

def plan (text : List Char) : Pattern → Plan
  | .empty => .pass
  | .chars set => .step (positionsOf set text)
  | .look assertion => .filter (positionsWhere assertion none text)
  | .group inner => plan text inner
  | .sequence parts => .inOrder (plans text parts)
  | .choice branches => .oneOf (plans text branches)
  | .repeated low high inner => .repeated low high (plan text inner)

def plans (text : List Char) : List Pattern → List Plan
  | [] => []
  | p :: rest => plan text p :: plans text rest

end

/-- Applies a step a number of times, as long as positions are left. -/
def times (step : Nat → Nat) : Nat → Nat → Nat
  | 0, here => here
  | n + 1, here => if here = 0 then 0 else times step n (step here)

/-- Adds what a step reaches, a number of times, as long as this adds anything. -/
def spread (step : Nat → Nat) : Nat → Nat → Nat
  | 0, here => here
  | n + 1, here =>
    let wider := here ||| step here
    if wider = here then here else spread step n wider

mutual

/-- The positions where a match may end that starts at one of the given positions. A repetition
without an upper bound reaches nothing new after as many rounds as there are positions. -/
def Plan.run (positions : Nat) : Plan → Nat → Nat
  | .pass, here => here
  | .step marks, here => (here &&& marks) <<< 1
  | .filter marks, here => here &&& marks
  | .inOrder parts, here => runAll positions parts here
  | .oneOf branches, here => runAny positions branches here
  | .repeated low high inner, here =>
    let step := inner.run positions
    let first := times step low here
    let rounds := match high with
      | none => positions
      | some high => min (high - low) positions
    spread step rounds first

def runAll (positions : Nat) : List Plan → Nat → Nat
  | [], here => here
  | p :: rest, here => runAll positions rest (p.run positions here)

def runAny (positions : Nat) : List Plan → Nat → Nat
  | [], _ => 0
  | p :: rest, here => p.run positions here ||| runAny positions rest here

end

/-- Whether the pattern matches somewhere in the text. -/
def occursIn (p : Pattern) (text : String) : Bool :=
  let cs := text.toList
  let positions := cs.length + 1
  (p.plan cs).run positions (Nat.pow 2 positions - 1) ≠ 0

end Pattern

end RuleTree

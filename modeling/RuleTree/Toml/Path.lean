import RuleTree.Text.Digits
import RuleTree.Toml.Basic

/-!
Paths into TOML values, such as `a.b[0]`, and setting the value at the end of one. Whatever is in the
way of a path gives way.
-/

namespace RuleTree.Toml

/-- A step of a path: to an entry of a table, or to an item of an array. An index below zero counts
from the end. -/
inductive Selector
  | key (name : String)
  | index (i : Int)
deriving DecidableEq, Repr

/-- A character of a key that is written without quotation marks. -/
def isBare (c : Char) : Bool :=
  c.isAlphanum || c = '_' || c = '-'

namespace Selector

/-- Reads a key, which must not be empty. -/
def readKey (cs : List Char) : Option (Selector × List Char) :=
  let name := cs.takeWhile isBare
  if name.isEmpty then none else some (.key (String.ofList name), cs.dropWhile isBare)

def readIndex (cs : List Char) : Option (Selector × List Char) :=
  let cs := cs.dropWhile isBlank
  let (negative, cs) := match cs with
    | '-' :: rest => (true, rest)
    | cs => (false, cs)
  let digits := cs.takeWhile Char.isDigit
  let i := withSign negative (numeral digits)
  match (cs.dropWhile Char.isDigit).dropWhile isBlank with
  | ']' :: rest => if isNumeral digits ∧ isInt64 i then some (.index i, rest) else none
  | _ => none

def readMore : Nat → List Char → Option (List Selector)
  | _, [] => some []
  | 0, _ => none
  | count + 1, c :: cs => do
    let (selector, rest) ← if c = '.' then readKey cs else if c = '[' then readIndex cs else none
    return selector :: (← readMore count rest)

/-- The path that a text stands for; a text that is no path is a key of its own. -/
def path (text : String) : List Selector :=
  let read := do
    let (first, rest) ← readKey text.toList
    return first :: (← readMore rest.length rest)
  read.getD [.key text]

/-- Makes room in an array for an index, and tells its place. -/
def makeRoom (i : Int) (items : List Toml) : Nat × List Toml :=
  let n := i.natAbs
  if 0 ≤ i then (n, items ++ List.replicate (n + 1 - items.length) .nothing)
  else (items.length - n, List.replicate (n - items.length) .nothing ++ items)

end Selector

/-- Lays a value over what is at the end of a path. -/
def setAt (value : Toml) : List Selector → Toml → Toml
  | [], below => below.coveredBy value
  | .key name :: path, below =>
    let inner := (below.get? name).getD .nothing
    .table (Entries.insert name (setAt value path inner) below.entries)
  | .index i :: path, below =>
    let (place, items) := Selector.makeRoom i below.items
    .array (items.set place (setAt value path (items[place]?.getD .nothing)))

end RuleTree.Toml

import RuleTree.Expansion

/-!
Counting what happens to rules: reviews and evaluations by what they came to, and look-ups in the
store by whether a rule was found. Every evaluation that is counted is timed as well.
-/

namespace RuleTree

/-- How an evaluation ended: its verdict, or that the rule was refused, or that it failed. -/
inductive Ending
  | matched
  | notMatched
  | invalid
  | error
deriving DecidableEq, Repr

structure Tally where
  matched : Nat
  notMatched : Nat
  invalid : Nat
  error : Nat
  timed : Nat
  accepted : Nat
  refused : Nat
  found : Nat
  missing : Nat
deriving DecidableEq, Repr

namespace Tally

def zero : Tally := ⟨0, 0, 0, 0, 0, 0, 0, 0, 0⟩

def evaluations (t : Tally) : Ending → Nat
  | .matched => t.matched
  | .notMatched => t.notMatched
  | .invalid => t.invalid
  | .error => t.error

def countEvaluation (t : Tally) (ending : Ending) : Tally :=
  let t := { t with timed := t.timed + 1 }
  match ending with
  | .matched => { t with matched := t.matched + 1 }
  | .notMatched => { t with notMatched := t.notMatched + 1 }
  | .invalid => { t with invalid := t.invalid + 1 }
  | .error => { t with error := t.error + 1 }

def countReview (t : Tally) (accepted : Bool) : Tally :=
  if accepted then { t with accepted := t.accepted + 1 } else { t with refused := t.refused + 1 }

/-- Counts one step of a walk; only look-ups are counted. -/
def countStep (t : Tally) : Step → Tally
  | .lookedUp _ true => { t with found := t.found + 1 }
  | .lookedUp _ false => { t with missing := t.missing + 1 }
  | .reached .. => t

def countSteps (t : Tally) (steps : List Step) : Tally :=
  steps.foldl countStep t

/-- A counter under its name and the value of one label. -/
structure Counter where
  name : String
  label : String
  value : String
  count : Nat

/-- All counters, in ascending order of names and values. -/
def counters (t : Tally) : List Counter :=
  [⟨"rule_evaluations_total", "outcome", "error", t.error⟩,
    ⟨"rule_evaluations_total", "outcome", "invalid", t.invalid⟩,
    ⟨"rule_evaluations_total", "outcome", "matched", t.matched⟩,
    ⟨"rule_evaluations_total", "outcome", "not_matched", t.notMatched⟩,
    ⟨"rule_reference_lookups_total", "outcome", "found", t.found⟩,
    ⟨"rule_reference_lookups_total", "outcome", "not_found", t.missing⟩,
    ⟨"rule_validations_total", "outcome", "invalid", t.refused⟩,
    ⟨"rule_validations_total", "outcome", "valid", t.accepted⟩]

/-- A service that has started once. -/
def start (service : String) : Counter :=
  ⟨"service_starts_total", "service", service, 1⟩

/-- The value of a label between quotes. A line break and a quote are escaped. A backslash is doubled,
but two of them count as one, and one before a quote as none; `held` tells of a backslash before. -/
def quoted (held : Bool) : List Char → List Char
  | [] => if held then ['\\', '\\'] else []
  | '\n' :: rest => '\\' :: 'n' :: quoted held rest
  | '"' :: rest => '\\' :: '"' :: quoted false rest
  | '\\' :: rest => if held then '\\' :: '\\' :: quoted false rest else quoted true rest
  | c :: rest => (if held then ['\\', '\\'] else []) ++ c :: quoted false rest

def Counter.text (c : Counter) : String :=
  c.name ++ "\x7b" ++ c.label ++ "=\"" ++ String.ofList (quoted false c.value.toList) ++ "\"\x7d " ++
    toString c.count

/-- The lines for a service that has started once: all that has been counted at least once, in
ascending order. -/
def lines (t : Tally) (service : String) : List String :=
  ((t.counters ++ [start service]).filter (·.count ≠ 0)).map Counter.text

end Tally

end RuleTree

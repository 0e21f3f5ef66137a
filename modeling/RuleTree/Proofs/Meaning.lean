import RuleTree.Comparison
import RuleTree.Evaluation
import RuleTree.Proofs.Unfolding

/-!
What a rule means, with all references followed: a condition joins what all of its children come to,
none left out. Beside it stands what can go wrong on the way, a reference to a rule that does not hold a
condition (`Stumbles`), which only counts if no child before it decides.
-/

namespace RuleTree

/-! ## Constraints -/

/-- Whether a constraint holds of a record, with nothing kept from before. -/
def Constraint.holds (c : Constraint) (isEmpty : Emptiness) (record : Json) : Bool :=
  (c.check isEmpty record (.empty 0)).1

theorem patternOccurs?_fst (cache : PatternCache) (criterion expected : Json) :
    (patternOccurs? cache criterion expected).1 =
      (patternOccurs? (.empty 0) criterion expected).1 := by
  cases criterion <;> simp [patternOccurs?]

/-- What a cache keeps does not change whether a constraint holds. -/
theorem Constraint.check_fst (c : Constraint) (isEmpty : Emptiness) (record : Json)
    (cache : PatternCache) : (c.check isEmpty record cache).1 = c.holds isEmpty record := by
  unfold holds check
  generalize record.field? c.field = criterion
  cases c.operator <;> cases criterion <;>
    simp [Operator.compare, Operator.passes, patternOccurs?_fst cache]

/-! ## Quantifiers -/

namespace Quantifier

/-- What a condition comes to from what all of its children come to. -/
def join : Quantifier → List Bool → Bool
  | .any, held => held.foldl (fun sofar b => sofar || b) false
  | .all, held => held.foldl (fun sofar b => sofar && b) true
  | .none, held => held.foldl (fun sofar b => sofar && !b) true

theorem foldl_or (held : List Bool) (sofar : Bool) :
    held.foldl (fun sofar b => sofar || b) sofar = (sofar || held.any id) := by
  induction held generalizing sofar with
  | nil => simp
  | cons b rest ih => simp [ih, Bool.or_assoc]

theorem foldl_and (f : Bool → Bool) (held : List Bool) (sofar : Bool) :
    held.foldl (fun sofar b => sofar && f b) sofar = (sofar && held.all f) := by
  induction held generalizing sofar with
  | nil => simp
  | cons b rest ih => simp [ih, Bool.and_assoc]

theorem join_nil (q : Quantifier) : q.join [] = q.undecided := by
  cases q <;> rfl

/-- The first child decides, or the others do. -/
theorem join_cons (q : Quantifier) (b : Bool) (rest : List Bool) :
    q.join (b :: rest) = if q.decidedBy b then !q.undecided else q.join rest := by
  cases q <;> cases b <;> simp [join, decidedBy, undecided, foldl_or, foldl_and (fun b => b),
    foldl_and (fun b => !b)]

end Quantifier

namespace Unfolding

section Record

variable (isEmpty : Emptiness) (record : Json)

/-! ## Meaning -/

mutual

/-- Whether an unfolding holds of a record. A leaf that is no constraint does not. -/
def holds : Unfolding → Bool
  | .reference _ target => target.holds
  | .condition q _ children => q.join (holdsEach children)
  | .leaf node =>
    match Constraint.ofJson node with
    | .ok c => c.holds isEmpty record
    | .error _ => false

def holdsEach : List Unfolding → List Bool
  | [] => []
  | u :: rest => u.holds :: holdsEach rest

end

/-- What the condition an unfolding comes to answers where it holds: its result, unless that is
null. -/
def result? : Unfolding → Option Json
  | .reference _ target => target.result?
  | .condition _ node _ => node.result?
  | .leaf _ => none

/-- Evaluating from left to right comes to a reference whose rule does not hold a condition. -/
inductive Stumbles : Unfolding → Prop
  | unfit {id target} : target.isCondition = false → Stumbles (.reference id target)
  | target {id target} : Stumbles target → Stumbles (.reference id target)
  | child {q node before c after} :
      (∀ v ∈ before, q.decidedBy (v.holds isEmpty record) = false) → Stumbles c →
      Stumbles (.condition q node (before ++ c :: after))

/-- Evaluating children, or the roots of a rule, in order stumbles before one of them decides. -/
def StumblesAmong (q : Quantifier) (us : List Unfolding) : Prop :=
  ∃ before c after, us = before ++ c :: after ∧
    (∀ v ∈ before, q.decidedBy (v.holds isEmpty record) = false) ∧ c.Stumbles isEmpty record

end Record

variable {isEmpty : Emptiness} {record : Json} {q : Quantifier}

theorem not_stumblesAmong_nil : ¬ StumblesAmong isEmpty record q [] := by
  rintro ⟨before, c, after, h, _⟩
  cases before <;> cases h

theorem stumblesAmong_cons_iff {u : Unfolding} {rest : List Unfolding} :
    StumblesAmong isEmpty record q (u :: rest) ↔
      u.Stumbles isEmpty record ∨
        q.decidedBy (u.holds isEmpty record) = false ∧ StumblesAmong isEmpty record q rest := by
  constructor
  · rintro ⟨before, c, after, h, hb, hc⟩
    cases before with
    | nil => cases h; exact .inl hc
    | cons v before =>
      cases h
      exact .inr ⟨hb u List.mem_cons_self, before, c, after, rfl,
        fun v hv => hb v (List.mem_cons_of_mem _ hv), hc⟩
  · rintro (hu | ⟨hd, before, c, after, rfl, hb, hc⟩)
    · exact ⟨[], u, rest, rfl, by simp, hu⟩
    · exact ⟨u :: before, c, after, rfl, by simpa [hd] using hb, hc⟩

theorem stumbles_condition_iff {node : Json} {us : List Unfolding} :
    (Unfolding.condition q node us).Stumbles isEmpty record ↔ StumblesAmong isEmpty record q us := by
  constructor
  · intro h
    cases h with
    | child hb hc => exact ⟨_, _, _, rfl, hb, hc⟩
  · rintro ⟨before, c, after, rfl, hb, hc⟩
    exact .child hb hc

theorem stumbles_reference_iff {id : String} {target : Unfolding} :
    (Unfolding.reference id target).Stumbles isEmpty record ↔
      target.isCondition = false ∨ target.Stumbles isEmpty record := by
  constructor
  · intro h
    cases h with
    | unfit h => exact .inl h
    | target h => exact .inr h
  · rintro (h | h)
    · exact .unfit h
    · exact .target h

theorem not_stumbles_leaf {node : Json} : ¬ (Unfolding.leaf node).Stumbles isEmpty record :=
  nofun

end Unfolding

end RuleTree

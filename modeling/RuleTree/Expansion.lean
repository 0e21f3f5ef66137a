import RuleTree.Logged
import RuleTree.Store

/-!
Following references from rule to rule. The rules being expanded form a chain without repetitions
that is never longer than the limit, so following references ends whatever rules there are: the
main statement `expand_eq` unfolds one reference at a time and needs no further bound.
-/

namespace RuleTree

/-- What a walk over rules does that can be told from outside: it comes to a condition at some depth
inside a chain of expanded rules, or it asks the store for a rule. -/
inductive Step
  | reached (chain : List String) (depth : Nat)
  | lookedUp (id : String) (found : Bool)

def Store.fetch (store : Store) (id : String) : Logged Step Rule :=
  match store.get? id with
  | some rule => ⟨[.lookedUp id true], .ok rule⟩
  | none => ⟨[.lookedUp id false], .error (.notFound id)⟩

namespace Expansion

/-- The chain at the start of a walk over a rule. -/
def start (origin : Option String) : List String :=
  origin.toList

/-- The chain inside a rule referred to. -/
def enter (limit : Nat) (chain : List String) (id : String) : Except Failure (List String) :=
  if id ∈ chain then .error (.referenceCycle (chain ++ [id]))
  else if limit ≤ chain.length then .error (.tooDeep limit)
  else .ok (chain ++ [id])

/-- Comes to a condition, which must not lie too deep. -/
def reach (limit : Nat) (chain : List String) (depth : Nat) : Logged Step Unit :=
  ⟨[.reached chain depth], if limit < depth then .error (.tooDeep limit) else .ok ()⟩

variable {β : Type} (limit : Nat) (refuse : Failure → β)
  (visit : List String → (String → β) → String → β)

/-- Follows a reference where `room` more rules may be entered. -/
def expandWithin : Nat → List String → String → β
  | room, chain, id =>
    if id ∈ chain then refuse (.referenceCycle (chain ++ [id]))
    else
      match room with
      | 0 => refuse (.tooDeep limit)
      | room + 1 => visit (chain ++ [id]) (expandWithin room (chain ++ [id])) id

/-- Follows a reference. What is done with a rule is up to `visit`, which is told the chain, what to
do with a reference in the rule, and the rule's id. -/
def expand (chain : List String) (id : String) : β :=
  expandWithin limit refuse visit (limit - chain.length) chain id

/-- One reference is followed by entering its rule, where references are followed again. -/
theorem expand_eq (chain : List String) (id : String) :
    expand limit refuse visit chain id =
      match enter limit chain id with
      | .error e => refuse e
      | .ok inner => visit inner (expand limit refuse visit inner) id := by
  unfold expand enter
  rw [expandWithin.eq_def]
  by_cases hmem : id ∈ chain
  · simp [hmem]
  · by_cases h : limit ≤ chain.length
    · simp [hmem, h, Nat.sub_eq_zero_of_le h]
    · have hroom : limit - chain.length = (limit - (chain ++ [id]).length) + 1 := by
        simp; omega
      simp only [hmem, h, if_false, hroom]

theorem enter_eq_ok_iff {chain inner : List String} {id : String} :
    enter limit chain id = .ok inner ↔
      id ∉ chain ∧ chain.length < limit ∧ inner = chain ++ [id] := by
  unfold enter
  split
  · simp [*]
  · split
    · simp; omega
    · simp only [Except.ok.injEq]
      constructor
      · rintro rfl; exact ⟨‹_›, by omega, rfl⟩
      · rintro ⟨_, _, rfl⟩; rfl

end Expansion

end RuleTree

import RuleTree.Proofs.Related

/-!
A rule reviewed under its own id and without one. The id stands at the front of every chain, so a
reference back to it is a cycle and one rule less may be entered; nothing else depends on it. So the
review under the id comes to the same, or fails because of a cycle that begins with the id or because
the references go too deep (`Store.tightens_review`).
-/

namespace RuleTree

/-! ## Computations that may fail earlier -/

/-- The first comes to the same as the second, or it fails in one of the given ways. -/
def Logged.Tightens (P : Failure → Prop) {ε α : Type} (x y : Logged ε α) : Prop :=
  x.outcome = y.outcome ∨ ∃ e, x.outcome = .error e ∧ P e

namespace Logged

variable {ε α β : Type} {P : Failure → Prop} {x y : Logged ε α}

theorem tightens_fail {e : Failure} (h : P e) : (fail e : Logged ε α).Tightens P y :=
  .inr ⟨e, rfl, h⟩

theorem Tightens.bind {f g : α → Logged ε β} (h : x.Tightens P y)
    (hf : ∀ a, (f a).Tightens P (g a)) : (x >>= f).Tightens P (y >>= g) := by
  rcases h with hsame | ⟨e, he, hP⟩
  · cases hx : x.outcome with
    | error e =>
      rw [hx] at hsame
      exact .inl ((outcome_bind_of_error hx f).trans (outcome_bind_of_error hsame.symm g).symm)
    | ok a =>
      rw [hx] at hsame
      unfold Tightens
      rw [outcome_bind_of_ok hx, outcome_bind_of_ok hsame.symm]
      exact hf a
  · exact .inr ⟨e, outcome_bind_of_error he f, hP⟩

theorem tightens_congruence : Congruence (@Tightens P Step) where
  refl _ := .inl rfl
  bind := .bind

end Logged

/-! ## One more rule at the front of the chain -/

namespace Inspection

/-- The ways in which a review fails because of the rule at the front of the chain. -/
inductive FailsFor (limit : Nat) (own : String) : Failure → Prop
  | tooDeep : FailsFor limit own (.tooDeep limit)
  | cycle (rest : List String) : FailsFor limit own (.referenceCycle (own :: rest))

variable {store : Store} {limit : Nat} {own : String}

/-- What can be entered below the own rule can be entered without it, and what cannot is a cycle that the
own rule begins, or lies too deep. -/
theorem enter_cons (limit : Nat) (own : String) (chain : List String) (id : String) :
    (∃ e, Expansion.enter limit (own :: chain) id = .error e ∧ FailsFor limit own e) ∨
      Expansion.enter limit (own :: chain) id = .ok (own :: (chain ++ [id])) ∧
        Expansion.enter limit chain id = .ok (chain ++ [id]) := by
  by_cases hmem : id ∈ own :: chain
  · exact .inl ⟨_, if_pos hmem, .cycle (chain ++ [id])⟩
  · by_cases hlimit : limit ≤ (own :: chain).length
    · exact .inl ⟨_, (if_neg hmem).trans (if_pos hlimit), .tooDeep⟩
    · have hinner : id ∉ chain := fun h => hmem (List.mem_cons_of_mem _ h)
      have hroom : ¬ limit ≤ chain.length := by
        rw [List.length_cons] at hlimit
        omega
      exact .inr ⟨(if_neg hmem).trans (if_neg hlimit), (if_neg hinner).trans (if_neg hroom)⟩

/-- How far a condition lies inside its rule does not depend on the chain. -/
theorem tightens_reach (P : Failure → Prop) (chain chain' : List String) (depth : Nat) :
    (Expansion.reach limit chain depth).Tightens P (Expansion.reach limit chain' depth) :=
  .inl rfl

theorem tightens_follow (chain : List String) (id : String) (role : Role) (depth : Nat) :
    (follow store limit (own :: chain) id role depth).Tightens (FailsFor limit own)
      (follow store limit chain id role depth) := by
  induction chain using Expansion.chain_induction limit generalizing id role depth with
  | step chain ih =>
  rw [follow_eq]
  rcases enter_cons limit own chain id with ⟨e, he, hP⟩ | ⟨he, he'⟩
  · rw [he]
    exact Logged.tightens_fail hP
  · rw [follow_eq, he, he']
    exact visit_related Logged.tightens_congruence (tightens_reach _ _ _) (ih id _ he') store id role
      depth

theorem tightens_conditions (store : Store) (limit : Nat) (own : String) (written : Json) :
    (conditions store limit (some own) written).Tightens (FailsFor limit own)
      (conditions store limit none written) := by
  have hroot (node : Json) : (root store limit (some own) node).Tightens (FailsFor limit own)
      (root store limit none node) :=
    (condition_related Logged.tightens_congruence (tightens_reach _ _ _) (tightens_follow []) node).1 0
  exact conditions_related Logged.tightens_congruence fun node _ => hroot node

end Inspection

namespace Store

/-- **A review under an id.** A rule without an id that is given one is reviewed as before, or it cannot
be reviewed because of the id. -/
theorem tightens_review (store : Store) (limit : Nat) {rule : Rule} (h : rule.id = "") {own : String}
    (hown : own ≠ "") :
    (store.review limit { rule with id := own }).Tightens (Inspection.FailsFor limit own)
      (store.review limit rule) := by
  have horigin : rule.origin? = none := if_pos h
  have hnamed : ({ rule with id := own } : Rule).origin? = some own := if_neg hown
  rw [review, review, horigin, hnamed]
  exact Inspection.tightens_conditions store limit own rule.conditions

end Store

end RuleTree

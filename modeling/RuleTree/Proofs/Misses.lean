import RuleTree.Proofs.Closed

/-!
Rules that are asked for in vain. A review or an evaluation asks for a missing rule at most once, namely
where it then fails for want of it, and neither fails because a rule is invalid (`Store.honest_review`,
`Store.honest_evaluate`). So from what they come to it can be told what they have written.
-/

namespace RuleTree

/-! ## Honest logs -/

namespace Failure

def isMissing : Failure → Bool
  | .notFound _ => true
  | _ => false

def isInvalid : Failure → Bool
  | .invalidRule .. => true
  | _ => false

end Failure

/-- The outcome is a failure of some kind. -/
def Failure.within {α : Type} (kind : Failure → Bool) : Except Failure α → Bool
  | .ok _ => false
  | .error e => kind e

theorem Failure.within_map {α β : Type} (kind : Failure → Bool) (f : α → β)
    (outcome : Except Failure α) : within kind (outcome.map f) = within kind outcome := by
  cases outcome <;> rfl

def Step.misses : Step → Bool
  | .lookedUp _ found => !found
  | .reached .. => false

def Event.misses : Event → Bool
  | .step s => s.misses
  | _ => false

theorem Event.misses_of_ne_step {event : Event} (h : ∀ step, event ≠ .step step) :
    event.misses = false := by
  cases event with
  | step s => exact absurd rfl (h s)
  | _ => rfl

/-- A computation asks once for a rule that is not there if it fails because of that, and else never. It
does not fail for an invalid rule. -/
structure Logged.Honest {ε α : Type} (misses : ε → Bool) (x : Logged ε α) : Prop where
  missing : x.log.countP misses = (Failure.within Failure.isMissing x.outcome).toNat
  valid : Failure.within Failure.isInvalid x.outcome = false

namespace Logged

variable {ε α β : Type} {misses : ε → Bool}

theorem honest_pure (a : α) : (pure a : Logged ε α).Honest misses := ⟨rfl, rfl⟩

theorem honest_fail {e : Failure} (hm : e.isMissing = false) (hv : e.isInvalid = false) :
    (fail e : Logged ε α).Honest misses :=
  ⟨by simp [fail, Failure.within, hm], hv⟩

theorem Honest.bind {x : Logged ε α} {f : α → Logged ε β} (hx : x.Honest misses)
    (hf : ∀ a, x.outcome = .ok a → (f a).Honest misses) : (x >>= f).Honest misses := by
  obtain ⟨log, outcome⟩ := x
  cases outcome with
  | error e => exact ⟨hx.missing, hx.valid⟩
  | ok a =>
    have hlog : log.countP misses = 0 := hx.missing
    have ha := hf a rfl
    refine ⟨?_, ha.valid⟩
    show (log ++ (f a).log).countP misses = _
    rw [List.countP_append, hlog, Nat.zero_add]
    exact ha.missing

end Logged

theorem Store.honest_fetch (store : Store) (id : String) : (store.fetch id).Honest Step.misses := by
  rw [fetch]
  cases store.get? id with
  | none => exact ⟨rfl, rfl⟩
  | some rule => exact ⟨rfl, rfl⟩

namespace Expansion

variable {limit : Nat} {chain : List String}

theorem honest_reach (depth : Nat) : (reach limit chain depth).Honest Step.misses := by
  rw [reach]
  split
  · exact ⟨rfl, rfl⟩
  · exact ⟨rfl, rfl⟩

/-- A rule that cannot be entered is neither missing nor invalid. -/
theorem kind_of_enter {id : String} {e : Failure} (h : enter limit chain id = .error e) :
    e.isMissing = false ∧ e.isInvalid = false := by
  rw [enter] at h
  split at h
  · cases h
    exact ⟨rfl, rfl⟩
  · split at h
    · cases h
      exact ⟨rfl, rfl⟩
    · cases h

end Expansion

/-! ### Reviews -/

theorem Inspection.parts_honest (store : Store) (limit : Nat) :
    Parts store limit (fun _ _ => True) (Logged.Honest Step.misses) where
  pure := Logged.honest_pure
  bind := Logged.Honest.bind
  reach _ := Expansion.honest_reach
  fetch := store.honest_fetch
  refuse _ he := Logged.honest_fail (Expansion.kind_of_enter he).1 (Expansion.kind_of_enter he).2
  handOn _ _ _ _ := trivial

theorem Inspection.honest_conditions (store : Store) (limit : Nat) (origin : Option String)
    (written : Json) : (conditions store limit origin written).Honest Step.misses :=
  (parts_honest store limit).of_conditions fun _ _ _ _ => trivial

theorem Store.honest_review (store : Store) (limit : Nat) (rule : Rule) :
    (store.review limit rule).Honest Step.misses :=
  Inspection.honest_conditions store limit rule.origin? rule.conditions

theorem Store.honest_reviewJson (store : Store) (limit : Nat) (rule : Json) :
    (store.reviewJson limit rule).Honest Step.misses := by
  rw [reviewJson]
  split
  · exact Inspection.honest_conditions store limit _ _
  · exact Logged.honest_pure _

/-! ### Evaluations -/

/-- A walk is honest whatever patterns are kept. -/
def Walk.Honest {α : Type} (x : Walk α) : Prop :=
  ∀ cache, (x cache).1.Honest Event.misses

namespace Walk

variable {α β : Type}

theorem honest_pure (a : α) : (pure a : Walk α).Honest := fun _ => Logged.honest_pure a

theorem honest_fail {e : Failure} (hm : e.isMissing = false) (hv : e.isInvalid = false) :
    (fail e : Walk α).Honest := fun _ => Logged.honest_fail hm hv

theorem honest_write {event : Event} (h : event.misses = false) : (write event).Honest :=
  fun _ => ⟨by simp [h, Failure.within], rfl⟩

theorem honest_ofSteps {x : Logged Step α} (h : x.Honest Step.misses) : (ofSteps x).Honest := by
  intro cache
  refine ⟨?_, h.valid⟩
  show (x.log.map Event.step).countP Event.misses = _
  rw [List.countP_map]
  exact h.missing

theorem Honest.bind {x : Walk α} {f : α → Walk β} (hx : x.Honest)
    (hf : ∀ cache a, (x cache).1.outcome = .ok a → (f a).Honest) : (x >>= f).Honest := by
  intro cache
  rw [bind_fst]
  exact (hx cache).bind fun a ha => hf cache a ha _

end Walk

theorem Evaluation.parts_honest (store : Store) (isEmpty : Emptiness) (record : Json) (limit : Nat) :
    Parts store isEmpty record limit (fun _ _ => True) Walk.Honest where
  pure := Walk.honest_pure
  bind := Walk.Honest.bind
  reach _ depth := Walk.honest_ofSteps (Expansion.honest_reach depth)
  fetch id := Walk.honest_ofSteps (store.honest_fetch id)
  write _ h := Walk.honest_write (Event.misses_of_ne_step h)
  constraint _ _ _ := ⟨rfl, rfl⟩
  malformed _ _ := Walk.honest_fail rfl rfl
  refuse _ he := Walk.honest_fail (Expansion.kind_of_enter he).1 (Expansion.kind_of_enter he).2
  handOn _ _ _ _ _ := trivial

theorem Store.honest_evaluate (store : Store) (limit : Nat) (isEmpty : Emptiness) (traced : Bool)
    (rule : Rule) (record : Json) : (store.evaluate limit isEmpty traced rule record).Honest := by
  have hdecide : (store.decide limit isEmpty rule record).Honest :=
    (Evaluation.parts_honest store isEmpty record limit).of_decide fun _ _ _ _ _ _ => trivial
  intro cache
  have h := hdecide cache
  rw [evaluate]
  exact ⟨by rw [Failure.within_map]; exact h.missing, by rw [Failure.within_map]; exact h.valid⟩

end RuleTree

import Mathlib.Data.List.Forall2
import RuleTree.Evaluation

/-!
Computations that write a log, taken apart at a bind: what the first part came to decides whether the
second part runs, and what was written by both is written in order. `Logged` is the plain form;
a `Walk` also hands a cache of patterns on.
-/

namespace RuleTree

/-! ## Results -/

theorem bind_eq_ok_iff {ε α β : Type} (x : Except ε α) (f : α → Except ε β) (b : β) :
    x >>= f = .ok b ↔ ∃ a, x = .ok a ∧ f a = .ok b := by
  cases x <;> simp [bind, Except.bind]

theorem map_eq_ok_iff {ε α β : Type} (f : α → β) (x : Except ε α) (b : β) :
    x.map f = .ok b ↔ ∃ a, x = .ok a ∧ f a = b := by
  cases x <;> simp [Except.map]

theorem mapM_eq_ok_iff {ε α β : Type} (f : α → Except ε β) (xs : List α) (ys : List β) :
    xs.mapM f = .ok ys ↔ List.Forall₂ (fun x y => f x = .ok y) xs ys := by
  induction xs generalizing ys with
  | nil => cases ys <;> simp [pure, Except.pure]
  | cons x xs ih =>
    simp only [List.mapM_cons, bind_eq_ok_iff, ih]
    cases ys <;> simp [pure, Except.pure]

/-- A list is not gone through where some element fails. -/
theorem mapM_eq_error_iff {ε α β : Type} {f : α → Except ε β} {xs : List α} :
    (∃ e, xs.mapM f = .error e) ↔ ∃ x ∈ xs, ∃ e, f x = .error e := by
  induction xs with
  | nil => simp [pure, Except.pure]
  | cons x xs ih =>
    rw [List.exists_mem_cons_iff, ← ih, List.mapM_cons]
    cases hx : f x with
    | error e => simp [bind, Except.bind]
    | ok y => cases xs.mapM f <;> simp [bind, Except.bind, pure, Except.pure]

namespace Logged

variable {ε α β : Type}

/-! ## Logged computations -/

instance : LawfulMonad (Logged ε) :=
  LawfulMonad.mk' _
    (by
      rintro α ⟨log, _ | a⟩
      · rfl
      · show after log ⟨[], .ok a⟩ = _
        simp [after])
    (by intro α β a f; simp)
    (by intro α β γ x f g; exact bind_assoc x f g)

theorem bind_eq_ok_iff (x : Logged ε α) (f : α → Logged ε β) (b : β) :
    (x >>= f).outcome = .ok b ↔ ∃ a, x.outcome = .ok a ∧ (f a).outcome = .ok b := by
  obtain ⟨log, outcome⟩ := x
  cases outcome <;> simp [after]

theorem log_bind_of_ok {x : Logged ε α} {a : α} (h : x.outcome = .ok a) (f : α → Logged ε β) :
    (x >>= f).log = x.log ++ (f a).log := by
  obtain ⟨log, outcome⟩ := x
  subst h
  rfl

theorem outcome_bind (x : Logged ε α) (f : α → Logged ε β) :
    (x >>= f).outcome = x.outcome >>= fun a => (f a).outcome := by
  obtain ⟨log, outcome⟩ := x
  cases outcome <;> rfl

theorem outcome_bind_of_error {x : Logged ε α} {e : Failure} (h : x.outcome = .error e)
    (f : α → Logged ε β) : (x >>= f).outcome = .error e := by
  rw [outcome_bind, h]
  rfl

theorem outcome_bind_of_ok {x : Logged ε α} {a : α} (h : x.outcome = .ok a)
    (f : α → Logged ε β) : (x >>= f).outcome = (f a).outcome := by
  rw [outcome_bind, h]
  rfl

/-- What comes of a list is what comes of its elements, whatever they write. -/
theorem outcome_mapM (f : α → Logged ε β) (xs : List α) :
    (xs.mapM f).outcome = xs.mapM fun x => (f x).outcome := by
  induction xs with
  | nil => rfl
  | cons x xs ih =>
    rw [List.mapM_cons, List.mapM_cons, outcome_bind]
    refine congrArg (bind (f x).outcome) (funext fun y => ?_)
    rw [outcome_bind, ih]
    rfl

/-- A list is gone through with results of some kind exactly when each element is. -/
theorem exists_mapM_ok_iff (f : α → Logged ε β) (P : β → Prop) (xs : List α) :
    (∃ ys, (xs.mapM f).outcome = .ok ys ∧ ∀ y ∈ ys, P y) ↔
      ∀ x ∈ xs, ∃ y, (f x).outcome = .ok y ∧ P y := by
  induction xs with
  | nil => simp
  | cons x xs ih =>
    rw [List.forall_mem_cons, ← ih, List.mapM_cons]
    simp only [bind_eq_ok_iff, pure_def]
    constructor
    · rintro ⟨_, ⟨y, hy, ys, hys, he⟩, hP⟩
      cases he
      exact ⟨⟨y, hy, hP y (by simp)⟩, ys, hys, fun z hz => hP z (by simp [hz])⟩
    · rintro ⟨⟨y, hy, hPy⟩, ys, hys, hPys⟩
      exact ⟨y :: ys, ⟨y, hy, ys, hys, rfl⟩, by simpa using ⟨hPy, hPys⟩⟩

/-- The log of a list that was gone through is that of its elements in order. -/
theorem log_mapM_of_ok {f : α → Logged ε β} {xs : List α} {ys : List β}
    (h : (xs.mapM f).outcome = .ok ys) : (xs.mapM f).log = xs.flatMap fun x => (f x).log := by
  induction xs generalizing ys with
  | nil => rfl
  | cons x xs ih =>
    rw [List.mapM_cons] at h ⊢
    obtain ⟨y, hy, h⟩ := (bind_eq_ok_iff _ _ _).mp h
    obtain ⟨rest, hrest, _⟩ := (bind_eq_ok_iff _ _ _).mp h
    rw [log_bind_of_ok hy, log_bind_of_ok hrest, ih hrest]
    simp

end Logged

namespace Walk

variable {α β : Type} {x : Walk α} {cache : PatternCache}

/-! ## Walks -/

theorem outcome_bind_of_ok {a : α} (h : (x cache).1.outcome = .ok a) (f : α → Walk β) :
    ((x >>= f) cache).1.outcome = (f a (x cache).2).1.outcome := by
  simp only [bind, Walk.bind]
  split
  · simp_all [Logged.after]
  · simp_all

theorem outcome_bind_of_error {e : Failure} (h : (x cache).1.outcome = .error e)
    (f : α → Walk β) : ((x >>= f) cache).1.outcome = .error e := by
  simp only [bind, Walk.bind]
  split <;> simp_all

/-- What a walk writes is what its first part writes, and then what the rest writes if it comes to
that. -/
theorem log_bind (x : Walk α) (f : α → Walk β) (cache : PatternCache) :
    ((x >>= f) cache).1.log = (x cache).1.log ++
      match (x cache).1.outcome with
      | .ok a => (f a (x cache).2).1.log
      | .error _ => [] := by
  simp only [bind, Walk.bind]
  split <;> simp_all [Logged.after]

theorem log_bind_of_ok {a : α} (h : (x cache).1.outcome = .ok a) (f : α → Walk β) :
    ((x >>= f) cache).1.log = (x cache).1.log ++ (f a (x cache).2).1.log := by
  rw [log_bind, h]

theorem exists_of_bind_ok {f : α → Walk β} {b : β} (h : ((x >>= f) cache).1.outcome = .ok b) :
    ∃ a, (x cache).1.outcome = .ok a ∧ (f a (x cache).2).1.outcome = .ok b := by
  cases ha : (x cache).1.outcome with
  | error e => rw [outcome_bind_of_error ha] at h; cases h
  | ok a => rw [outcome_bind_of_ok ha] at h; exact ⟨a, rfl, h⟩

/-- What a walk writes and comes to is what its parts do, where the second starts with the patterns that
the first has kept. -/
theorem bind_fst (x : Walk α) (f : α → Walk β) (cache : PatternCache) :
    ((x >>= f) cache).1 = (x cache).1 >>= fun a => (f a (x cache).2).1 := by
  simp only [Bind.bind, Walk.bind, Logged.bind]
  rcases x cache with ⟨⟨log, _ | a⟩, kept⟩
  · rfl
  · rfl

@[simp] theorem pure_apply (a : α) (cache : PatternCache) :
    (pure a : Walk α) cache = (⟨[], .ok a⟩, cache) := rfl

@[simp] theorem fail_apply (e : Failure) (cache : PatternCache) :
    (fail e : Walk α) cache = (⟨[], .error e⟩, cache) := rfl

@[simp] theorem write_apply (event : Event) (cache : PatternCache) :
    write event cache = (⟨[event], .ok ()⟩, cache) := rfl

@[simp] theorem ofSteps_apply (x : Logged Step α) (cache : PatternCache) :
    ofSteps x cache = (⟨x.log.map .step, x.outcome⟩, cache) := rfl

end Walk

/-! ## Look-ups -/

theorem Store.get?_of_fetch {store : Store} {id : String} {rule : Rule}
    (h : (store.fetch id).outcome = .ok rule) : store.get? id = some rule := by
  unfold fetch at h
  cases hs : store.get? id with
  | none => rw [hs] at h; cases h
  | some stored => rw [hs] at h; cases h; rfl

end RuleTree

import RuleTree.Failure

/-!
Computations that write a log and may fail. What was written before a failure is kept, and the log
of two computations in a row is the log of the first followed by the log of the second.
-/

namespace RuleTree

/-- The log of a computation and what it came to. -/
structure Logged (ε α : Type) where
  log : List ε
  outcome : Except Failure α

namespace Logged

variable {ε α β γ : Type}

protected def pure (a : α) : Logged ε α := ⟨[], .ok a⟩

/-- The same computation after something else was written. -/
def after (log : List ε) (x : Logged ε α) : Logged ε α := ⟨log ++ x.log, x.outcome⟩

protected def bind (x : Logged ε α) (f : α → Logged ε β) : Logged ε β :=
  match x with
  | ⟨log, .ok a⟩ => (f a).after log
  | ⟨log, .error e⟩ => ⟨log, .error e⟩

instance : Monad (Logged ε) where
  pure := Logged.pure
  bind := Logged.bind

def fail (failure : Failure) : Logged ε α := ⟨[], .error failure⟩

def write (entry : ε) : Logged ε Unit := ⟨[entry], .ok ()⟩

@[simp] theorem pure_def (a : α) : (pure a : Logged ε α) = ⟨[], .ok a⟩ := rfl

@[simp] theorem after_nil (x : Logged ε α) : x.after [] = x := rfl

@[simp] theorem ok_bind (log : List ε) (a : α) (f : α → Logged ε β) :
    (⟨log, .ok a⟩ : Logged ε α) >>= f = (f a).after log := rfl

@[simp] theorem error_bind (log : List ε) (e : Failure) (f : α → Logged ε β) :
    (⟨log, .error e⟩ : Logged ε α) >>= f = ⟨log, .error e⟩ := rfl

@[simp] theorem fail_bind (e : Failure) (f : α → Logged ε β) :
    (fail e : Logged ε α) >>= f = fail e := rfl

theorem bind_assoc (x : Logged ε α) (f : α → Logged ε β) (g : β → Logged ε γ) :
    x >>= f >>= g = x >>= fun a => f a >>= g := by
  obtain ⟨log, outcome⟩ := x
  cases outcome with
  | error e => rfl
  | ok a =>
    simp only [ok_bind, after]
    cases h : f a with
    | mk inner result => cases result <;> simp [after]

end Logged

end RuleTree

import RuleTree.Proofs.Grammar

/-!
Walks that keep one chain of expanded rules: a rule is added to it on entering and taken away on leaving.
Nothing bounds the recursion of such a walk beforehand. It is written with fuel, has no value when the
fuel runs out, and returns if it has one and the same value with any fuel from some amount on. `Gives`
says that it returns, what it comes to, which calls it makes and what it does to the chain, with one rule
for each way in which walks are put together.
-/

namespace RuleTree

/-! ## Chains -/

/-- A chain that has grown from another one by entering stored rules. -/
structure Expansion.Grown (store : Store) (limit : Nat) (base chain : List String) : Prop where
  entered : ∃ ids, chain = base ++ ids ∧ ∀ id ∈ ids, store.contains id = true
  nodup : base.Nodup → chain.Nodup
  length_le : chain.length ≤ max base.length limit

namespace Expansion

variable {store : Store} {limit : Nat} {base chain inner : List String} {id : String} {rule : Rule}

theorem Grown.refl (store : Store) (limit : Nat) (base : List String) :
    Grown store limit base base :=
  ⟨⟨[], by simp⟩, id, Nat.le_max_left _ _⟩

theorem Grown.enter (h : Grown store limit base chain)
    (he : Inspection.Entered store limit chain id inner rule) : Grown store limit base inner := by
  have hnodup (hb : base.Nodup) : inner.Nodup := he.nodup (h.nodup hb)
  obtain ⟨_, hlt, rfl⟩ := (enter_eq_ok_iff limit).mp he.enter
  obtain ⟨ids, rfl, hids⟩ := h.entered
  refine ⟨⟨ids ++ [id], by simp, ?_⟩, hnodup, ?_⟩
  · intro other hother
    rcases List.mem_append.mp hother with hold | hnew
    · exact hids other hold
    · rw [List.mem_singleton.mp hnew]
      simp [Store.contains, he.stored]
  · simp only [List.length_append, List.length_singleton] at hlt ⊢
    omega

theorem le_of_reach {depth : Nat} {a : Unit} (h : (reach limit chain depth).outcome = .ok a) :
    depth ≤ limit := by
  rw [reach] at h
  split at h
  · cases h
  · omega

end Expansion

/-! ## Guards -/

/-- What a walk does: the steps that can be told from outside, and the calls for a node and for a
reference with the chain at that moment. -/
inductive Call
  | step (step : Step)
  | node (chain : List String)
  | reference (chain : List String) (id : String)

namespace Call

def step? : Call → Option Step
  | .step s => some s
  | _ => none

/-- The chain at a call. A look-up is no call of a walk. -/
def chain? : Call → Option (List String)
  | .step (.reached chain _) => some chain
  | .step (.lookedUp ..) => none
  | .node chain => some chain
  | .reference chain _ => some chain

def depth? : Call → Option Nat
  | .step (.reached _ depth) => some depth
  | _ => none

/-- The chain has grown from a base, and the depth is bounded. -/
structure Within (store : Store) (limit : Nat) (base : List String) (bound : Nat) (call : Call) :
    Prop where
  chain : ∀ chain, call.chain? = some chain → Expansion.Grown store limit base chain
  depth : ∀ depth, call.depth? = some depth → depth ≤ bound

theorem Within.node {store : Store} {limit : Nat} {base chain : List String} {bound : Nat}
    (hg : Expansion.Grown store limit base chain) : (node chain).Within store limit base bound := by
  refine ⟨?_, nofun⟩
  rintro _ ⟨⟩
  exact hg

theorem Within.reference {store : Store} {limit : Nat} {base chain : List String} {bound : Nat}
    (hg : Expansion.Grown store limit base chain) (id : String) :
    (reference chain id).Within store limit base bound := by
  refine ⟨?_, nofun⟩
  rintro _ ⟨⟩
  exact hg

theorem Within.reached {store : Store} {limit : Nat} {base chain : List String} {bound depth : Nat}
    (hg : Expansion.Grown store limit base chain) (hd : depth ≤ bound) :
    (step (.reached chain depth)).Within store limit base bound := by
  constructor
  · rintro _ ⟨⟩
    exact hg
  · rintro _ ⟨⟩
    exact hd

/-- What holds at every call of a walk over a rule: the chain has no repetitions, it is the rule's own id,
if there is one, and then ids of stored rules, and it is no longer than the limit, or than one. -/
structure Sound (store : Store) (limit : Nat) (origin : Option String) (call : Call) : Prop where
  nodup : ∀ chain, call.chain? = some chain → chain.Nodup
  stored : ∀ chain, call.chain? = some chain →
    ∃ ids, chain = origin.toList ++ ids ∧ ∀ id ∈ ids, store.contains id = true
  length_le : ∀ chain, call.chain? = some chain → chain.length ≤ max 1 limit
  depth_le : ∀ depth, call.depth? = some depth → depth ≤ limit + 1

theorem Within.sound {store : Store} {limit : Nat} {origin : Option String} {call : Call}
    (h : call.Within store limit (Expansion.start origin) (limit + 1)) :
    call.Sound store limit origin where
  nodup chain hc := (h.chain chain hc).nodup (Expansion.start_nodup origin)
  stored chain hc := (h.chain chain hc).entered
  length_le chain hc := by
    have hlength := (h.chain chain hc).length_le
    have hstart : (Expansion.start origin).length ≤ 1 := by cases origin <;> simp [Expansion.start]
    omega
  depth_le := h.depth

end Call

/-- The chain that a walk keeps, and the calls that were made. -/
structure Guard where
  chain : List String
  calls : List Call

/-- The guard at the start of a walk over a rule. -/
def Guard.new (origin : Option String) : Guard :=
  ⟨Expansion.start origin, []⟩

/-- A part of a walk that keeps a guard. Where it runs out of fuel it has no value. -/
abbrev Guarded := StateT Guard Option

namespace Guarded

variable {α β : Type}

/-- Notes a call with the chain at that moment. -/
def call (c : List String → Call) : Guarded Unit := fun guard =>
  some ((), { guard with calls := guard.calls ++ [c guard.chain] })

/-- Takes steps that leave the chain alone. -/
def ofSteps (x : List String → Logged Step α) : Guarded (Except Failure α) := fun guard =>
  some ((x guard.chain).outcome,
    { guard with calls := guard.calls ++ (x guard.chain).log.map .step })

def start (origin : Option String) : Guarded Unit := fun guard =>
  some ((), { guard with chain := Expansion.start origin })

def enter (limit : Nat) (id : String) : Guarded (Except Failure Unit) := fun guard =>
  match Expansion.enter limit guard.chain id with
  | .error e => some (.error e, guard)
  | .ok inner => some (.ok (), { guard with chain := inner })

def leave : Guarded Unit := fun guard =>
  some ((), { guard with chain := guard.chain.dropLast })

/-! ## Returning -/

/-- With enough fuel the walk comes to the result. -/
def Returns (x : Nat → Guarded α) (guard : Guard) (result : α × Guard) : Prop :=
  ∃ enough, ∀ fuel, enough ≤ fuel → x fuel guard = some result

theorem returns_of_forall {x : Nat → Guarded α} {guard : Guard} {result : α × Guard}
    (h : ∀ fuel, x fuel guard = some result) : Returns x guard result :=
  ⟨0, fun fuel _ => h fuel⟩

theorem returns_of_succ {x : Nat → Guarded α} {guard : Guard} {result : α × Guard}
    (h : Returns (fun fuel => x (fuel + 1)) guard result) : Returns x guard result := by
  obtain ⟨enough, h⟩ := h
  refine ⟨enough + 1, fun fuel hfuel => ?_⟩
  cases fuel with
  | zero => omega
  | succ fuel => exact h fuel (by omega)

theorem returns_bind {x : Nat → Guarded α} {f : Nat → α → Guarded β} {guard after : Guard} {a : α}
    {result : β × Guard} (hx : Returns x guard (a, after))
    (hf : Returns (fun fuel => f fuel a) after result) :
    Returns (fun fuel => x fuel >>= f fuel) guard result := by
  obtain ⟨enough, hx⟩ := hx
  obtain ⟨enough', hf⟩ := hf
  refine ⟨max enough enough', fun fuel hfuel => ?_⟩
  have hrun := hx fuel (by omega)
  have hrest := hf fuel (by omega)
  simpa [bind, StateT.bind, hrun] using hrest

/-! ## Total correctness -/

/-- A guard after a walk: it tells of the same steps as the answer and of calls of one kind, and where
the walk succeeds the chain is the given one. -/
structure Ends (P : Call → Prop) (exit : List String) (calls : List Call)
    (answer : Logged Step α) (after : Guard) : Prop where
  calls : ∃ new, after.calls = calls ++ new ∧ new.filterMap Call.step? = answer.log ∧
    ∀ call ∈ new, P call
  chain : ∀ a, answer.outcome = .ok a → after.chain = exit

/-- The walk returns and comes to the answer. -/
def Gives (P : Call → Prop) (entry exit : List String) (x : Nat → Guarded (Except Failure α))
    (answer : Logged Step α) : Prop :=
  ∀ calls, ∃ after, Returns x ⟨entry, calls⟩ (answer.outcome, after) ∧
    Ends P exit calls answer after

/-- The walk gives the answer and leaves the chain as it is. At its calls the chain has grown from a base,
and the depth is bounded. -/
abbrev Keeps (store : Store) (limit : Nat) (base : List String) (bound : Nat) (chain : List String)
    (x : Nat → Guarded (Except Failure α)) (answer : Logged Step α) : Prop :=
  Gives (Call.Within store limit base bound) chain chain x answer

section Rules

variable {P : Call → Prop} {entry middle exit : List String}

theorem gives_of_succ {x : Nat → Guarded (Except Failure α)} {answer : Logged Step α}
    (h : Gives P entry exit (fun fuel => x (fuel + 1)) answer) : Gives P entry exit x answer := by
  intro calls
  obtain ⟨after, hrun, hends⟩ := h calls
  exact ⟨after, returns_of_succ hrun, hends⟩

theorem gives_pure (a : α) (chain : List String) :
    Gives P chain chain (fun _ => pure (.ok a)) (pure a) :=
  fun calls => ⟨⟨chain, calls⟩, returns_of_forall fun _ => rfl, ⟨[], by simp⟩, fun _ _ => rfl⟩

theorem gives_fail (e : Failure) :
    Gives (α := α) P entry exit (fun _ => pure (.error e)) (.fail e) :=
  fun calls =>
    ⟨⟨entry, calls⟩, returns_of_forall fun _ => rfl, ⟨[], by simp [Logged.fail]⟩, nofun⟩

/-- One walk after another, which hands a failure of the first on. -/
theorem gives_bind {x : Nat → Guarded (Except Failure α)}
    {f : Nat → Except Failure α → Guarded (Except Failure β)} {answer : Logged Step α}
    {next : α → Logged Step β} (hx : Gives P entry middle x answer)
    (herror : ∀ fuel e, f fuel (.error e) = pure (.error e))
    (hok : ∀ a, answer.outcome = .ok a →
      Gives P middle exit (fun fuel => f fuel (.ok a)) (next a)) :
    Gives P entry exit (fun fuel => x fuel >>= f fuel) (answer >>= next) := by
  intro calls
  obtain ⟨after, hrun, ⟨new, hcalls, hsteps, hP⟩, hchain⟩ := hx calls
  obtain ⟨log, outcome⟩ := answer
  cases outcome with
  | error e =>
    refine ⟨after, returns_bind hrun (returns_of_forall fun fuel => ?_), ⟨new, hcalls, hsteps, hP⟩,
      nofun⟩
    rw [herror]
    rfl
  | ok a =>
    obtain ⟨last, hrun', ⟨new', hcalls', hsteps', hP'⟩, hchain'⟩ := hok a rfl after.calls
    have hafter : after = ⟨middle, after.calls⟩ := by rw [← hchain a rfl]
    rw [← hafter] at hrun'
    refine ⟨last, returns_bind hrun hrun', ⟨new ++ new', ?_, ?_, ?_⟩, hchain'⟩
    · rw [hcalls', hcalls, List.append_assoc]
    · rw [List.filterMap_append, hsteps, hsteps']; rfl
    · intro call hcall
      rcases List.mem_append.mp hcall with hfirst | hsecond
      · exact hP call hfirst
      · exact hP' call hsecond

/-- What follows a failure is not done. -/
theorem gives_bind_of_fail {x : Nat → Guarded (Except Failure α)}
    {f : Nat → Except Failure α → Guarded (Except Failure β)} {e : Failure}
    (hx : Gives P entry middle x (.fail e))
    (herror : ∀ fuel, f fuel (.error e) = pure (.error e)) :
    Gives P entry exit (fun fuel => x fuel >>= f fuel) (.fail e) := by
  intro calls
  obtain ⟨after, hrun, hends⟩ := hx calls
  refine ⟨after, returns_bind hrun (returns_of_forall fun fuel => ?_), hends.calls, nofun⟩
  show f fuel (.error e) after = _
  rw [herror]
  rfl

theorem gives_ofSteps {x : List String → Logged Step α} {chain : List String}
    (h : ∀ step ∈ (x chain).log, P (.step step)) :
    Gives P chain chain (fun _ => ofSteps x) (x chain) := by
  intro calls
  refine ⟨_, returns_of_forall fun _ => rfl, ⟨_, rfl, ?_, ?_⟩, fun _ _ => rfl⟩
  · rw [List.filterMap_map]
    exact List.filterMap_some
  · intro call hcall
    obtain ⟨step, hstep, rfl⟩ := List.mem_map.mp hcall
    exact h step hstep

/-- Coming to a condition, whether it lies too deep or not. -/
theorem gives_reach {store : Store} {limit : Nat} {base chain : List String} {bound depth : Nat}
    (hg : Expansion.Grown store limit base chain) (hd : depth ≤ bound) :
    Keeps store limit base bound chain
      (fun _ => ofSteps fun chain => Expansion.reach limit chain depth)
      (Expansion.reach limit chain depth) := by
  refine gives_ofSteps fun step hstep => ?_
  rw [Expansion.reach, List.mem_singleton] at hstep
  subst hstep
  exact .reached hg hd

theorem gives_fetch (store : Store) (limit : Nat) (base : List String) (bound : Nat) (id : String)
    (chain : List String) :
    Keeps store limit base bound chain (fun _ => ofSteps fun _ => store.fetch id)
      (store.fetch id) := by
  refine gives_ofSteps fun step hstep => ?_
  unfold Store.fetch at hstep
  cases hs : store.get? id with
  | none => rw [hs, List.mem_singleton] at hstep; subst hstep; exact ⟨nofun, nofun⟩
  | some rule => rw [hs, List.mem_singleton] at hstep; subst hstep; exact ⟨nofun, nofun⟩

theorem gives_call {c : List String → Call} {x : Nat → Guarded (Except Failure α)}
    {answer : Logged Step α} (hc : P (c entry)) (hs : (c entry).step? = none)
    (h : Gives P entry exit x answer) :
    Gives P entry exit (fun fuel => call c >>= fun _ => x fuel) answer := by
  intro calls
  obtain ⟨after, hrun, ⟨new, hcalls, hsteps, hP⟩, hchain⟩ := h (calls ++ [c entry])
  refine ⟨after, returns_bind (returns_of_forall fun _ => rfl) hrun, ⟨c entry :: new, ?_, ?_, ?_⟩,
    hchain⟩
  · rw [hcalls, List.append_assoc, List.singleton_append]
  · rw [List.filterMap_cons_none hs, hsteps]
  · exact List.forall_mem_cons.mpr ⟨hc, hP⟩

/-- A rule that must not be entered. -/
theorem gives_enter_of_error {limit : Nat} {id : String} {e : Failure}
    (he : Expansion.enter limit entry id = .error e) :
    Gives P entry entry (fun _ => enter limit id) (.fail e) := by
  intro calls
  refine ⟨⟨entry, calls⟩, returns_of_forall fun _ => ?_, ⟨[], by simp [Logged.fail]⟩, nofun⟩
  simp only [enter, he, Logged.fail]

/-- Inside a rule that was entered the walk goes on with a longer chain. -/
theorem gives_enter_of_ok {limit : Nat} {id : String} {inner : List String}
    {f : Nat → Except Failure Unit → Guarded (Except Failure α)} {answer : Logged Step α}
    (he : Expansion.enter limit entry id = .ok inner)
    (h : Gives P inner exit (fun fuel => f fuel (.ok ())) answer) :
    Gives P entry exit (fun fuel => enter limit id >>= f fuel) answer := by
  intro calls
  have hrun : Returns (fun _ => enter limit id) ⟨entry, calls⟩ (.ok (), ⟨inner, calls⟩) :=
    returns_of_forall fun _ => by simp only [enter, he]
  obtain ⟨after, hafter, hends⟩ := h calls
  exact ⟨after, returns_bind hrun hafter, hends⟩

/-- A new chain takes the place of the one before. -/
theorem gives_start {origin : Option String} {x : Nat → Guarded (Except Failure α)}
    {answer : Logged Step α} (h : Gives P (Expansion.start origin) exit x answer) :
    Gives P entry exit (fun fuel => start origin >>= fun _ => x fuel) answer :=
  h

theorem gives_leave {x : Nat → Guarded (Except Failure α)} {answer : Logged Step α} (id : String)
    (h : Gives P entry (exit ++ [id]) x answer) :
    Gives P entry exit (fun fuel => x fuel >>= fun outcome => leave >>= fun _ => pure outcome)
      answer := by
  intro calls
  obtain ⟨after, hrun, hcalls, hchain⟩ := h calls
  refine ⟨{ after with chain := after.chain.dropLast },
    returns_bind hrun (returns_of_forall fun _ => rfl), hcalls, fun a ha => ?_⟩
  show after.chain.dropLast = exit
  rw [hchain a ha, List.dropLast_concat]

end Rules

/-- A walk that starts with a new guard and gives an answer returns with sound calls. -/
theorem returns_of_gives {store : Store} {limit : Nat} {origin : Option String}
    {x : Nat → Guarded (Except Failure α)} {answer : Logged Step α} {exit : List String}
    (h : Gives (Call.Within store limit (Expansion.start origin) (limit + 1)) (Expansion.start origin)
      exit x answer) :
    ∃ guard, Returns x (.new origin) (answer.outcome, guard) ∧
      guard.calls.filterMap Call.step? = answer.log ∧
      ∀ call ∈ guard.calls, call.Sound store limit origin := by
  obtain ⟨guard, hrun, ⟨new, hcalls, hsteps, hwithin⟩, _⟩ := h []
  rw [List.nil_append] at hcalls
  subst hcalls
  exact ⟨guard, hrun, hsteps, fun call hcall => (hwithin call hcall).sound⟩

/-- A part of a walk that always returns. Where it succeeds it leaves the chain as it was, and met again on
that chain it comes to the same. -/
def Restores (x : Nat → Guarded (Except Failure α)) : Prop :=
  ∀ guard, ∃ outcome after, Returns x guard (outcome, after) ∧
    ∀ a, outcome = .ok a → after.chain = guard.chain ∧
      ∀ later : Guard, later.chain = after.chain → ∃ last, Returns x later (.ok a, last)

theorem restores_of_gives {P : List String → Call → Prop} {x : Nat → Guarded (Except Failure α)}
    (h : ∀ chain, ∃ answer, Gives (P chain) chain chain x answer) : Restores x := by
  rintro ⟨chain, calls⟩
  obtain ⟨answer, hx⟩ := h chain
  obtain ⟨after, hrun, hends⟩ := hx calls
  refine ⟨answer.outcome, after, hrun, fun a ha => ⟨hends.chain a ha, ?_⟩⟩
  rintro ⟨later, made⟩ hlater
  have hsame : later = chain := hlater.trans (hends.chain a ha)
  obtain ⟨last, hlast, _⟩ := hx made
  rw [ha] at hlast
  exact ⟨last, hsame ▸ hlast⟩

end Guarded

end RuleTree

import RuleTree.Proofs.Balance
import RuleTree.Proofs.Closed

/-!
What a cache keeps over a sequence of calls. A call either leaves the cache as it is (`compile_of_kept`) or
keeps one more pattern, in front of the others or, if the cache is full, in their place (`compile_of_new`). So
whatever has been asked for, the kept texts are distinct, they have been asked for and they are no more than
the capacity (`Orderly`), and the answers are those of compiling each text anew (`compileAll_retains`). An
engine does nothing else with its cache, so this cache is orderly after any run (`Engine.Run.orderly`).
-/

namespace RuleTree.PatternCache

def keys (cache : PatternCache) : List String := cache.entries.map Prod.fst

/-- Asks for the patterns with the given texts, one after the other. -/
def compileAll (cache : PatternCache) : List String → List (Option Pattern) × PatternCache
  | [] => ([], cache)
  | text :: rest =>
    let (answer, cache) := cache.compile text
    let (answers, cache) := cache.compileAll rest
    (answer :: answers, cache)

variable {cache : PatternCache} {capacity : Nat} {asked : List String} {text : String}

/-! ## Keys -/

theorem length_keys (cache : PatternCache) : cache.keys.length = cache.size := List.length_map _

/-- What is kept can be compiled. -/
theorem isSome_compile_of_mem_keys (h : text ∈ cache.keys) : (Pattern.compile text).isSome := by
  obtain ⟨entry, he, rfl⟩ := List.mem_map.mp h
  rw [cache.compiled entry he]
  rfl

theorem find?_eq_none_iff : cache.find? text = none ↔ text ∉ cache.keys := by
  simp only [find?, keys, List.lookup_eq_none_iff, List.mem_map, not_exists, not_and, bne_iff_ne, ne_eq]
  exact ⟨fun h entry he hk => h entry he hk.symm, fun h entry he hk => h entry he hk.symm⟩

/-! ## One call -/

/-- A call leaves the cache as it is if the text is kept already, is no pattern or cannot be kept. -/
theorem compile_of_kept (h : text ∈ cache.keys ∨ Pattern.compile text = none ∨ cache.capacity = 0) :
    (cache.compile text).2 = cache := by
  unfold compile
  split
  next => rfl
  next hmissing =>
    split
    next pattern hpattern =>
      have hzero : cache.capacity = 0 := by
        obtain hkept | hrefused | hzero := h
        · exact absurd hkept (find?_eq_none_iff.mp hmissing)
        · rw [hrefused] at hpattern
          cases hpattern
        · exact hzero
      simp only [insert, if_pos hzero]
    next => rfl

/-- A new pattern is kept in the place of all others if the cache is full, and in front of them otherwise. -/
theorem compile_of_new {pattern : Pattern} (hpattern : Pattern.compile text = some pattern)
    (hnew : text ∉ cache.keys) (hpositive : 0 < cache.capacity) :
    (cache.compile text).2.capacity = cache.capacity ∧
      (cache.compile text).2.entries =
        if cache.capacity ≤ cache.size then [(text, pattern)] else (text, pattern) :: cache.entries := by
  have hmissing : cache.find? text = none := find?_eq_none_iff.mpr hnew
  simp only [compile, hmissing]
  split
  next other hother =>
    obtain rfl : other = pattern := Option.some.inj (hother.symm.trans hpattern)
    simp only [insert, if_neg (Nat.ne_of_gt hpositive)]
    split <;> exact ⟨rfl, rfl⟩
  next hrefused =>
    rw [hrefused] at hpattern
    cases hpattern

/-- What a call for a text makes of a cache: nothing if the text is kept or no pattern, or if nothing can be
kept; otherwise it keeps the pattern too, as long as there is room, and it alone when there is none. -/
structure Keeps (cache : PatternCache) (text : String) (after : PatternCache) : Prop where
  hit : text ∈ cache.keys → after = cache
  refused : Pattern.compile text = none → after = cache
  unkept : cache.capacity = 0 → after = cache
  room : ∀ pattern, Pattern.compile text = some pattern → text ∉ cache.keys →
    cache.size < cache.capacity → after.entries = (text, pattern) :: cache.entries
  full : ∀ pattern, Pattern.compile text = some pattern → text ∉ cache.keys → 0 < cache.capacity →
    cache.size = cache.capacity → after.entries = [(text, pattern)]

theorem compile_keeps (cache : PatternCache) (text : String) :
    cache.Keeps text (cache.compile text).2 where
  hit h := compile_of_kept (.inl h)
  refused h := compile_of_kept (.inr (.inl h))
  unkept h := compile_of_kept (.inr (.inr h))
  room pattern hpattern hnew hroom := by
    rw [(compile_of_new hpattern hnew (Nat.zero_lt_of_lt hroom)).2, if_neg (Nat.not_le.mpr hroom)]
  full pattern hpattern hnew hpositive hfull := by
    rw [(compile_of_new hpattern hnew hpositive).2, if_pos (Nat.le_of_eq hfull.symm)]

/-! ## Sequences of calls -/

/-- How a cache of some capacity stands after the given texts have been asked for. -/
structure Orderly (capacity : Nat) (asked : List String) (cache : PatternCache) : Prop where
  capacity_eq : cache.capacity = capacity
  compiles : ∀ text ∈ cache.keys, (Pattern.compile text).isSome
  mem_asked : ∀ text ∈ cache.keys, text ∈ asked
  nodup : cache.keys.Nodup
  bounded : cache.keys.length ≤ capacity

theorem Orderly.empty (capacity : Nat) : Orderly capacity [] (empty capacity) where
  capacity_eq := rfl
  compiles _ := isSome_compile_of_mem_keys
  mem_asked _ h := h
  nodup := List.nodup_nil
  bounded := Nat.zero_le _

theorem Orderly.compile (h : Orderly capacity asked cache) (text : String) :
    Orderly capacity (asked ++ [text]) (cache.compile text).2 := by
  by_cases hkept : text ∈ cache.keys ∨ Pattern.compile text = none ∨ cache.capacity = 0
  · rw [compile_of_kept hkept]
    exact { h with mem_asked := fun other hk => List.mem_append_left _ (h.mem_asked other hk) }
  obtain ⟨hnew, hpattern, hpositive⟩ :
      text ∉ cache.keys ∧ Pattern.compile text ≠ none ∧ 0 < cache.capacity := by
    simpa only [not_or, ← Nat.pos_iff_ne_zero] using hkept
  obtain ⟨pattern, hpattern⟩ := Option.ne_none_iff_exists'.mp hpattern
  obtain ⟨hcapacity, hentries⟩ := compile_of_new hpattern hnew hpositive
  have hasked (other : String) (hother : other ∈ text :: cache.keys) : other ∈ asked ++ [text] := by
    rcases List.mem_cons.mp hother with rfl | hk
    · exact List.mem_append_right _ List.mem_cons_self
    · exact List.mem_append_left _ (h.mem_asked other hk)
  have hafter : (cache.compile text).2.capacity = capacity := hcapacity.trans h.capacity_eq
  have hlength : cache.keys.length = cache.size := cache.length_keys
  rw [h.capacity_eq] at hpositive hentries
  split at hentries
  next hfull =>
    have hkeys : (cache.compile text).2.keys = [text] := by rw [keys, hentries]; rfl
    refine ⟨hafter, fun _ => isSome_compile_of_mem_keys, ?_, ?_, ?_⟩ <;> rw [hkeys]
    · exact fun other hk => hasked other (List.mem_cons.mpr (.inl (List.mem_singleton.mp hk)))
    · exact List.nodup_cons.mpr ⟨List.not_mem_nil, List.nodup_nil⟩
    · exact hpositive
  next hroom =>
    have hkeys : (cache.compile text).2.keys = text :: cache.keys := by rw [keys, hentries]; rfl
    refine ⟨hafter, fun _ => isSome_compile_of_mem_keys, ?_, ?_, ?_⟩ <;> rw [hkeys]
    · exact hasked
    · exact List.nodup_cons.mpr ⟨hnew, h.nodup⟩
    · rw [List.length_cons]
      omega

theorem Orderly.compileAll (h : Orderly capacity asked cache) (texts : List String) :
    Orderly capacity (asked ++ texts) (cache.compileAll texts).2 := by
  induction texts generalizing asked cache with
  | nil => rwa [List.append_nil]
  | cons text rest ih =>
    rw [← List.singleton_append, ← List.append_assoc]
    exact ih (h.compile text)

theorem compileAll_append (cache : PatternCache) (texts rest : List String) :
    (cache.compileAll (texts ++ rest)).2 = ((cache.compileAll texts).2.compileAll rest).2 := by
  induction texts generalizing cache with
  | nil => rfl
  | cons text texts ih => exact ih (cache.compile text).2

/-- Each text is answered as if it were compiled anew. -/
theorem compileAll_fst (cache : PatternCache) (texts : List String) :
    (cache.compileAll texts).1 = texts.map Pattern.compile := by
  induction texts generalizing cache with
  | nil => rfl
  | cons text rest ih =>
    have hrest := ih (cache.compile text).2
    rw [List.map_cons, ← hrest, ← cache.compile_fst text]
    rfl

/-- **The patterns that are kept.** Ask a new cache of any capacity for any texts. Every answer is what
compiling that text anew gives. The kept texts are then distinct patterns that have been asked for, no more of
them than the capacity, so none at capacity zero. Asking for one more text changes nothing if the text is
kept or no pattern; otherwise, unless the capacity is zero, the cache keeps this pattern beside the others if
there is room, and alone if there is none. -/
theorem compileAll_retains (capacity : Nat) (asked : List String) :
    ((empty capacity).compileAll asked).1 = asked.map Pattern.compile ∧
      Orderly capacity asked ((empty capacity).compileAll asked).2 ∧
      ∀ text, let cache := ((empty capacity).compileAll asked).2
        (cache.compile text).1 = Pattern.compile text ∧ cache.Keeps text (cache.compile text).2 := by
  refine ⟨compileAll_fst _ asked, (Orderly.empty capacity).compileAll asked, fun text => ?_⟩
  exact ⟨compile_fst _ text, compile_keeps _ text⟩

/-- Of four calls two patterns are kept. A call for one of them or for no pattern leaves them, and a new one
takes their place. -/
theorem retains_two :
    let cache := ((empty 2).compileAll ["a+", "a+", "(", "b+"]).2
    cache.keys = ["b+", "a+"] ∧ (cache.compile "a+").2 = cache ∧ (cache.compile "(").2 = cache ∧
      (cache.compile "c+").2.keys = ["c+"] := by
  intro cache
  obtain ⟨_, horderly, hone⟩ := compileAll_retains 2 ["a+", "a+", "(", "b+"]
  have hkeys : cache.keys = ["b+", "a+"] := by decide +kernel
  have hrefused : Pattern.compile "(" = none := Option.isNone_iff_eq_none.mp (by decide +kernel)
  obtain ⟨pattern, hpattern⟩ : ∃ pattern, Pattern.compile "c+" = some pattern :=
    Option.isSome_iff_exists.mp (by decide +kernel)
  have hpositive : 0 < cache.capacity := by rw [horderly.capacity_eq]; decide
  have hfull : cache.size = cache.capacity := by rw [← length_keys, hkeys, horderly.capacity_eq]; rfl
  have hentries := (hone "c+").2.full pattern hpattern (by rw [hkeys]; decide) hpositive hfull
  refine ⟨hkeys, (hone "a+").2.hit (by rw [hkeys]; decide), (hone "(").2.refused hrefused, ?_⟩
  rw [keys, hentries]
  rfl

end RuleTree.PatternCache

namespace RuleTree

/-! ## Evaluations -/

/-- One cache comes from another by asking for the patterns with some texts. -/
def PatternCache.LeadsTo (cache after : PatternCache) : Prop :=
  ∃ texts, (cache.compileAll texts).2 = after

theorem PatternCache.LeadsTo.refl (cache : PatternCache) : cache.LeadsTo cache := ⟨[], rfl⟩

theorem PatternCache.LeadsTo.trans {a b c : PatternCache} (h : a.LeadsTo b) (h' : b.LeadsTo c) :
    a.LeadsTo c := by
  obtain ⟨texts, rfl⟩ := h
  obtain ⟨rest, rfl⟩ := h'
  exact ⟨texts ++ rest, a.compileAll_append texts rest⟩

theorem PatternCache.compile_leadsTo (cache : PatternCache) (text : String) :
    cache.LeadsTo (cache.compile text).2 := ⟨[text], rfl⟩

/-- A walk changes the cache by nothing but asking it for patterns. -/
def Walk.Compiles {α : Type} (x : Walk α) : Prop :=
  ∀ cache : PatternCache, cache.LeadsTo (x cache).2

theorem Walk.compiles_of_kept {α : Type} {x : Walk α} (h : ∀ cache, (x cache).2 = cache) : x.Compiles :=
  fun cache => ⟨[], (h cache).symm⟩

theorem Walk.Compiles.bind {α β : Type} {x : Walk α} {f : α → Walk β} (hx : x.Compiles)
    (hf : ∀ cache a, (x cache).1.outcome = .ok a → (f a).Compiles) : (x >>= f).Compiles := by
  intro cache
  have hfirst := hx cache
  simp only [Bind.bind, Walk.bind]
  rcases h : x cache with ⟨⟨log, e | a⟩, kept⟩
  · rwa [h] at hfirst
  · rw [h] at hfirst
    exact hfirst.trans (hf cache a (by rw [h]) kept)

theorem patternOccurs?_leadsTo (cache : PatternCache) (criterion expected : Json) :
    cache.LeadsTo (patternOccurs? cache criterion expected).2 := by
  cases criterion with
  | string text => exact cache.compile_leadsTo text
  | _ => exact .refl cache

theorem Constraint.check_leadsTo (c : Constraint) (isEmpty : Emptiness) (record : Json)
    (cache : PatternCache) : cache.LeadsTo (c.check isEmpty record cache).2 := by
  rw [check]
  cases record.field? c.field with
  | none => cases c.operator <;> exact .refl cache
  | some criterion =>
    cases c.operator with
    | «matches» => exact patternOccurs?_leadsTo cache criterion c.value
    | doesNotMatch => exact patternOccurs?_leadsTo cache criterion c.value
    | _ => exact .refl cache

theorem Evaluation.compilesParts (store : Store) (isEmpty : Emptiness) (record : Json) (limit : Nat) :
    Evaluation.Parts store isEmpty record limit (fun _ _ => True) Walk.Compiles where
  pure _ := Walk.compiles_of_kept fun _ => rfl
  bind := Walk.Compiles.bind
  reach _ _ := Walk.compiles_of_kept fun _ => rfl
  fetch _ := Walk.compiles_of_kept fun _ => rfl
  write _ _ := Walk.compiles_of_kept fun _ => rfl
  constraint c _ cache := c.check_leadsTo isEmpty record cache
  malformed _ _ := Walk.compiles_of_kept fun _ => rfl
  refuse _ _ := Walk.compiles_of_kept fun _ => rfl
  handOn _ _ _ _ _ := trivial

theorem Store.evaluate_compiles (store : Store) (limit : Nat) (isEmpty : Emptiness) (traced : Bool)
    (rule : Rule) (record : Json) : (store.evaluate limit isEmpty traced rule record).Compiles :=
  (Evaluation.compilesParts store isEmpty record limit).of_decide fun _ _ _ _ _ _ => trivial

namespace Engine

/-! ## Engines -/

/-- The cache of one engine comes from that of another by asking for patterns. -/
def Compiles (engine after : Engine) : Prop := engine.cache.LeadsTo after.cache

variable {engine after : Engine}

theorem Compiles.of_eq (h : after.cache = engine.cache) : engine.Compiles after :=
  ⟨[], h.symm⟩

theorem compiles_resolve (engine : Engine) (source : Source) : engine.Compiles (engine.resolve source).2 := by
  cases source <;> exact .of_eq rfl

theorem compiles_reviewed (engine : Engine) (review : Logged Step Review) :
    engine.Compiles (engine.reviewed review).2 := by
  rw [reviewed]
  cases review.outcome <;> exact .of_eq rfl

theorem compiles_review (engine : Engine) (source : Source) : engine.Compiles (engine.review source).2 := by
  have hfirst := engine.compiles_resolve source
  rw [review]
  rcases h : engine.resolve source with ⟨e | rule, found⟩
  · rwa [h] at hfirst
  · rw [h] at hfirst
    exact hfirst.trans (found.compiles_reviewed _)

theorem compiles_prepare (engine : Engine) (source : Source) :
    engine.Compiles (engine.prepare source).2 := by
  have hreview := engine.compiles_review source
  rcases engine.prepare_cases source with
    ⟨e, after, hr, hp⟩ | ⟨_, _, _, after, hr, _, hp⟩ | ⟨_, _, after, hr, _, hp⟩ <;>
    (rw [hr] at hreview; rw [hp]; exact hreview)

theorem compiles_run (engine : Engine) (rule : Rule) (record : Json) (traced : Bool) :
    engine.Compiles (engine.run rule record traced).2 :=
  engine.store.evaluate_compiles engine.config.maxDepth engine.isEmpty traced rule record engine.cache

theorem compiles_runAll (engine : Engine) (rule : Rule) (records : List Json) :
    engine.Compiles (engine.runAll rule records).2 := by
  induction records generalizing engine with
  | nil => exact .of_eq rfl
  | cons record rest ih =>
    have hfirst := engine.compiles_run rule record false
    rw [runAll]
    rcases h : engine.run rule record false with ⟨e | report, after⟩
    · rwa [h] at hfirst
    · rw [h] at hfirst
      exact hfirst.trans (ih after)

/-- What is done with a prepared rule asks for patterns if it does so once the rule is prepared. -/
theorem compiles_of_prepare (source : Source)
    (herror : ∀ e prepared, engine.prepare source = (.error e, prepared) → after = prepared)
    (hok : ∀ rule prepared, engine.prepare source = (.ok rule, prepared) → prepared.Compiles after) :
    engine.Compiles after := by
  have hfirst := engine.compiles_prepare source
  rcases h : engine.prepare source with ⟨e | rule, prepared⟩
  · rw [h] at hfirst
    rwa [herror e prepared h]
  · rw [h] at hfirst
    exact hfirst.trans (hok rule prepared h)

theorem compiles_evaluate (engine : Engine) (source : Source) (record : Json) :
    engine.Compiles (engine.evaluate source record).2 := by
  refine compiles_of_prepare source (fun e prepared h => ?_) fun rule prepared h => ?_
  · simp only [evaluate, h]
  · simp only [evaluate, h]
    exact prepared.compiles_run rule record false

theorem compiles_evaluateAll (engine : Engine) (source : Source) (records : List Json) :
    engine.Compiles (engine.evaluateAll source records).2 := by
  refine compiles_of_prepare source (fun e prepared h => ?_) fun rule prepared h => ?_
  · simp only [evaluateAll, h]
  · simp only [evaluateAll, h]
    exact prepared.compiles_runAll rule records

theorem compiles_evaluateData (engine : Engine) (source : Source) (data : Json) :
    engine.Compiles (engine.evaluateData source data).2 := by
  cases data with
  | array records => exact engine.compiles_evaluateAll source records
  | _ => exact engine.compiles_evaluate source _

theorem compiles_explain (engine : Engine) (source : Source) (record : Json) :
    engine.Compiles (engine.explain source record).2 := by
  refine compiles_of_prepare source (fun e prepared h => ?_) fun rule prepared h => ?_
  · simp only [explain, h]
  · simp only [explain, h]
    exact prepared.compiles_run rule record _

theorem compiles_storing {α : Type} (engine : Engine) (reply : α → Reply)
    (stored : Except Failure (α × Store)) : engine.Compiles (engine.storing reply stored).2 := by
  cases stored <;> exact .of_eq rfl

/-- Whatever is asked of an engine, its cache is asked for patterns and not changed otherwise. -/
theorem compiles_perform (engine : Engine) (now : Time) (request : Request) :
    engine.Compiles (engine.perform now request).2 := by
  cases request with
  | load | loadText | loadBatch | update | delete => exact engine.compiles_storing _ _
  | fetch id => exact engine.compiles_resolve (.stored id)
  | review source => exact engine.compiles_review source
  | reviewJson written => exact engine.compiles_reviewed _
  | evaluate source record => exact engine.compiles_evaluate source record
  | evaluateAll source records => exact engine.compiles_evaluateAll source records
  | evaluateData source data => exact engine.compiles_evaluateData source data
  | explain source record => exact engine.compiles_explain source record
  | get | contains | list | clear | statistics | config | complaints => exact .of_eq rfl

theorem Run.compiles {history : List (Request × Except Failure Reply)} (h : engine.Run history after) :
    engine.Compiles after := by
  induction h with
  | nil => exact .of_eq rfl
  | @cons engine next last now request answer rest hp _ ih =>
    have hfirst := engine.compiles_perform now request
    rw [hp] at hfirst
    exact hfirst.trans ih

/-- After any run a new engine keeps distinct patterns, no more than its configuration says. -/
theorem Run.orderly {config : Config} {isEmpty : Emptiness} {sink : Sink} {store : Store}
    {history : List (Request × Except Failure Reply)}
    (h : (Engine.new config isEmpty sink store).Run history after) :
    ∃ asked, PatternCache.Orderly config.patternCapacity asked after.cache := by
  obtain ⟨asked, hasked⟩ := h.compiles
  rw [← hasked]
  exact ⟨asked, (PatternCache.Orderly.empty _).compileAll asked⟩

end Engine

end RuleTree

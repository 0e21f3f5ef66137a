import RuleTree.Proofs.Recording

/-!
Roots tried one after the other. Without a trace nothing that is told of a root depends on where it stands
or on the roots before it (`Evaluation.told_root`). So an evaluation is the choice of the first root that
holds among the answers that the roots give by themselves (`Evaluation.told_roots`), and of two lists
joined the second matters only where no root of the first holds (`Store.first_root_wins`).
-/

namespace RuleTree

open Evaluation (Outcome)

/-! ## What is told without places -/

/-- What a computation comes to, with the constraints that held in it, told without their places. -/
def Logged.told {α : Type} (x : Logged Event α) : Except Failure (α × List String) :=
  x.outcome.map fun a => (a, x.log.filterMap (Event.matched? false))

namespace Logged

variable {α β : Type}

theorem told_bind (x : Logged Event α) (f : α → Logged Event β) :
    (x >>= f).told =
      match x.told with
      | .error e => .error e
      | .ok (a, matched) => (f a).told.map fun (b, later) => (b, matched ++ later) := by
  obtain ⟨log, e | a⟩ := x
  · rfl
  · simp only [told, ok_bind, after, Except.map, List.filterMap_append]
    cases (f a).outcome <;> rfl

theorem told_eq_ok_iff {x : Logged Event α} {a : α} {matched : List String} :
    x.told = .ok (a, matched) ↔
      x.outcome = .ok a ∧ x.log.filterMap (Event.matched? false) = matched := by
  obtain ⟨log, e | b⟩ := x <;> simp [told, Except.map]

end Logged

namespace Evaluation

/-! ## The answers of the roots -/

/-- What a root comes to, with the constraints that held in it. -/
abbrev Answer := Except Failure (Outcome × List String)

/-- The first answer that holds, counted from the given index on, with the constraints that held up to it.
An answer that fails counts only where none before it holds. -/
def firstOf (index : Nat) : List Answer → Except Failure (Option (Nat × Option Json) × List String)
  | [] => .ok (none, [])
  | .error e :: _ => .error e
  | .ok (outcome, matched) :: rest =>
    if outcome.held then .ok (some (index, outcome.result), matched)
    else (firstOf (index + 1) rest).map fun (found, later) => (found, matched ++ later)

theorem firstOf_add (count index : Nat) (answers : List Answer) :
    firstOf (count + index) answers = (firstOf index answers).map fun (found, matched) =>
      (found.map fun (i, result) => (count + i, result), matched) := by
  induction answers generalizing index with
  | nil => rfl
  | cons answer rest ih =>
    obtain e | ⟨outcome, matched⟩ := answer
    · rfl
    · have hrest := ih (index + 1)
      rw [← Nat.add_assoc] at hrest
      simp only [firstOf, hrest]
      split
      · rfl
      · cases firstOf (index + 1) rest <;> rfl

theorem firstOf_append (index : Nat) (answers others : List Answer) :
    firstOf index (answers ++ others) =
      match firstOf index answers with
      | .error e => .error e
      | .ok (some found, matched) => .ok (some found, matched)
      | .ok (none, matched) =>
        (firstOf (index + answers.length) others).map fun (found, later) =>
          (found, matched ++ later) := by
  induction answers generalizing index with
  | nil =>
    simp only [List.nil_append, firstOf, List.length_nil, Nat.add_zero]
    cases firstOf index others <;> rfl
  | cons answer rest ih =>
    obtain e | ⟨outcome, matched⟩ := answer
    · rfl
    · have hlength : index + 1 + rest.length = index + (rest.length + 1) := by omega
      simp only [List.cons_append, firstOf, List.length_cons]
      split
      · rfl
      · rw [ih, hlength]
        rcases firstOf (index + 1) rest with e | ⟨_ | found, held⟩
        · rfl
        · cases firstOf (index + (rest.length + 1)) others <;> simp [Except.map]
        · rfl

/-- An answer that is no failure, of a root that holds or does not hold. -/
def Answer.Gives (held : Bool) (answer : Answer) : Prop :=
  ∃ result told, answer = .ok (⟨held, result⟩, told)

/-- None of the answers before the chosen one holds, and where none is chosen they are all of them. -/
theorem exists_of_firstOf_eq_ok {index : Nat} {answers : List Answer}
    {found : Option (Nat × Option Json)} {matched : List String}
    (h : firstOf index answers = .ok (found, matched)) :
    ∃ before rest, answers = before ++ rest ∧ (∀ answer ∈ before, answer.Gives false) ∧
      (found = none ∧ rest = [] ∨ ∃ result answer after,
        found = some (index + before.length, result) ∧ rest = answer :: after ∧
          answer.Gives true) := by
  induction answers generalizing index matched with
  | nil =>
    cases h
    exact ⟨[], [], rfl, by simp, .inl ⟨rfl, rfl⟩⟩
  | cons answer rest ih =>
    obtain e | ⟨⟨held, result⟩, told⟩ := answer
    · cases h
    · cases held with
      | true =>
        cases h
        exact ⟨[], _, rfl, by simp, .inr ⟨result, _, rest, rfl, rfl, result, _, rfl⟩⟩
      | false =>
        obtain ⟨⟨_, later⟩, hrest, he⟩ := (map_eq_ok_iff _ _ _).mp h
        cases he
        obtain ⟨before, after, rfl, hbefore, hfound⟩ := ih hrest
        have hfirst : Answer.Gives false (.ok (⟨false, result⟩, told)) := ⟨result, told, rfl⟩
        refine ⟨_ :: before, after, rfl, List.forall_mem_cons.mpr ⟨hfirst, hbefore⟩, ?_⟩
        have hindex : index + 1 + before.length = index + (before.length + 1) := by omega
        rwa [hindex] at hfound

/-! ## Roots and their answers -/

variable (store : Store) (isEmpty : Emptiness) (record : Json) (limit : Nat)
  (origin : Option String)

def answer (t : Tree) : Answer :=
  (root store isEmpty record limit origin 0 t (.empty 0)).1.told

theorem told_eq_ofWalk {α : Type} (x : Walk α) (cache : PatternCache) :
    (x cache).1.told =
      (Recording.ofWalk false x ⟨cache, [], []⟩).1.map fun a =>
        (a, (Recording.ofWalk false x ⟨cache, [], []⟩).2.matched) := by
  simp [Logged.told, Recording.ofWalk, Recording.add]

/-- A root gives its answer wherever it stands and whatever patterns are kept. -/
theorem told_root (index : Nat) (t : Tree) (cache : PatternCache) :
    (root store isEmpty record limit origin index t cache).1.told =
      answer store isEmpty record limit origin t := by
  -- Places leave the evaluation with notes only in paths, and without a trace all paths are empty.
  have hplace : Recording.root store false isEmpty record limit origin index t =
      Recording.root store false isEmpty record limit origin 0 t := by
    cases t <;> rfl
  rw [answer, root_alike origin index t cache (.empty 0), told_eq_ofWalk, told_eq_ofWalk,
    ← Recording.root_eq, ← Recording.root_eq, hplace]

/-- A root holds, or does not hold, wherever it stands and whatever patterns are kept. -/
def RootHolds (t : Tree) (held : Bool) : Prop :=
  ∃ result, ∀ index cache,
    (root store isEmpty record limit origin index t cache).1.outcome = .ok ⟨held, result⟩

theorem rootHolds_iff (t : Tree) (held : Bool) :
    RootHolds store isEmpty record limit origin t held ↔
      (answer store isEmpty record limit origin t).Gives held := by
  constructor
  · rintro ⟨result, h⟩
    exact ⟨result, _, Logged.told_eq_ok_iff.mpr ⟨h 0 (.empty 0), rfl⟩⟩
  · rintro ⟨result, matched, h⟩
    refine ⟨result, fun index cache => ?_⟩
    rw [← told_root store isEmpty record limit origin index t cache] at h
    exact (Logged.told_eq_ok_iff.mp h).1

theorem RootHolds.unique {t : Tree} {held held' : Bool}
    (h : RootHolds store isEmpty record limit origin t held)
    (h' : RootHolds store isEmpty record limit origin t held') : held = held' := by
  obtain ⟨result, h⟩ := h
  obtain ⟨result', h'⟩ := h'
  have hsame := (h 0 (.empty 0)).symm.trans (h' 0 (.empty 0))
  cases hsame
  rfl

/-- Roots that are tried in order come to the first of their answers that holds. -/
theorem told_roots (index : Nat) (ts : List Tree) (cache : PatternCache) :
    (roots store isEmpty record limit origin index ts cache).1.told =
      firstOf index (ts.map (answer store isEmpty record limit origin)) := by
  induction ts generalizing index cache with
  | nil => rfl
  | cons t rest ih =>
    rw [roots, Walk.bind_fst, Logged.told_bind, told_root, List.map_cons]
    obtain e | ⟨⟨held, result⟩, matched⟩ := answer store isEmpty record limit origin t
    · rfl
    · cases held with
      | true => simp [firstOf, Walk.bind_fst, Logged.told, Logged.after, Except.map, Event.matched?]
      | false => simp [firstOf, ih]

end Evaluation

/-! ## Rules -/

/-- The report without a trace where the given root was found and the given constraints held. -/
def Report.plain (rule : Rule) (found : Option (Nat × Option Json)) (matched : List String) :
    Report :=
  { ofLog rule false [] found with matchedConstraints := matched }

/-- The report on roots that stand behind others, of which there are `count` and none holds. -/
def Report.behind (later first : Report) (count : Nat) : Report :=
  { later with
    matchedRoot := later.matchedRoot.map (count + ·)
    matchedConstraints := first.matchedConstraints ++ later.matchedConstraints }

namespace Store

variable (store : Store) (limit : Nat) (isEmpty : Emptiness) (record : Json)

/-- Where the roots can be read, the rule is decided by their answers. -/
theorem told_decide {rule : Rule} {ts : List Tree} (h : rule.trees = .ok ts)
    (cache : PatternCache) :
    (store.decide limit isEmpty rule record cache).1.told =
      Evaluation.firstOf 0
        (ts.map (Evaluation.answer store isEmpty record limit rule.origin?)) := by
  rw [decide, h]
  exact Evaluation.told_roots store isEmpty record limit rule.origin? 0 ts cache

theorem outcome_evaluate_plain (rule : Rule) (cache : PatternCache) :
    (store.evaluate limit isEmpty false rule record cache).1.outcome =
      (store.decide limit isEmpty rule record cache).1.told.map fun (found, matched) =>
        .plain rule found matched := by
  rw [outcome_evaluate, Logged.told]
  cases (store.decide limit isEmpty rule record cache).1.outcome <;> rfl

/-- The evaluation without a trace of a rule that has the given roots instead of its own. -/
def evaluateRoots (rule : Rule) (nodes : List Json) (cache : PatternCache) :
    Except Failure Report :=
  let given := { rule with conditions := .array nodes }
  (store.evaluate limit isEmpty false given record cache).1.outcome

theorem evaluateRoots_eq (rule : Rule) {nodes : List Json} {ts : List Tree}
    (h : nodes.mapM Tree.ofJson = .ok ts) (cache : PatternCache) :
    store.evaluateRoots limit isEmpty record rule nodes cache =
      (Evaluation.firstOf 0
        (ts.map (Evaluation.answer store isEmpty record limit rule.origin?))).map
          fun (found, matched) => .plain rule found matched := by
  have htrees : ({ rule with conditions := .array nodes } : Rule).trees = .ok ts := h
  rw [evaluateRoots, outcome_evaluate_plain, told_decide _ _ _ _ htrees]
  rfl

theorem evaluateRoots_append (rule : Rule) {xs ys : List Json} {ts us : List Tree}
    (hx : xs.mapM Tree.ofJson = .ok ts) (hy : ys.mapM Tree.ofJson = .ok us)
    (cache cache' cache'' : PatternCache) :
    store.evaluateRoots limit isEmpty record rule (xs ++ ys) cache =
      match store.evaluateRoots limit isEmpty record rule xs cache' with
      | .error e => .error e
      | .ok first =>
        if first.matchedRoot.isSome then .ok first
        else (store.evaluateRoots limit isEmpty record rule ys cache'').map
          (·.behind first xs.length) := by
  have hjoined : (xs ++ ys).mapM Tree.ofJson = .ok (ts ++ us) := by
    rw [List.mapM_append, hx, hy]
    rfl
  have hlength : ts.length = xs.length := ((mapM_eq_ok_iff _ _ _).mp hx).length_eq.symm
  have hlater := Evaluation.firstOf_add xs.length 0
    (us.map (Evaluation.answer store isEmpty record limit rule.origin?))
  rw [Nat.add_zero] at hlater
  rw [evaluateRoots_eq _ _ _ _ _ hjoined, evaluateRoots_eq _ _ _ _ _ hx,
    evaluateRoots_eq _ _ _ _ _ hy, List.map_append, Evaluation.firstOf_append, List.length_map,
    hlength, Nat.zero_add, hlater]
  rcases Evaluation.firstOf 0 (ts.map _) with e | ⟨_ | found, matched⟩
  · rfl
  · cases Evaluation.firstOf 0 (us.map _) with
    | error e => rfl
    | ok chosen =>
      obtain ⟨found, later⟩ := chosen
      cases found <;> rfl
  · rfl

/-- A report names the first root that holds, with none before it that fails, or no root holds. -/
theorem matchedRoot_of_report {traced : Bool} {rule : Rule} {cache : PatternCache} {report : Report}
    (h : (store.evaluate limit isEmpty traced rule record cache).1.outcome = .ok report) :
    ∃ ts, rule.trees = .ok ts ∧
      let Holds := Evaluation.RootHolds store isEmpty record limit rule.origin?
      (∃ before rest, ts = before ++ rest ∧ (∀ t ∈ before, Holds t false) ∧
        (report.matchedRoot = none ∧ rest = [] ∧ report.verdict = false ∧ report.result = none ∨
          ∃ t after, report.matchedRoot = some before.length ∧ rest = t :: after ∧
            Holds t true)) := by
  obtain ⟨ts, found, hts, ho, rfl⟩ := exists_of_report h
  refine ⟨ts, hts, ?_⟩
  have htold := Logged.told_eq_ok_iff.mpr ⟨ho, rfl⟩
  rw [Evaluation.told_roots] at htold
  obtain ⟨before, rest, he, hbefore, hfound⟩ := Evaluation.exists_of_firstOf_eq_ok htold
  obtain ⟨before, rest, rfl, rfl, rfl⟩ := List.map_eq_append_iff.mp he
  refine ⟨before, rest, rfl, fun t ht => ?_, ?_⟩
  · exact (Evaluation.rootHolds_iff ..).mpr (hbefore _ (List.mem_map_of_mem ht))
  · rcases hfound with ⟨rfl, hrest⟩ | ⟨result, answer, after, rfl, hrest, hgives⟩
    · exact .inl ⟨rfl, List.map_eq_nil_iff.mp hrest, rfl, rfl⟩
    · obtain ⟨t, after, rfl, rfl, rfl⟩ := List.map_eq_cons_iff.mp hrest
      refine .inr ⟨t, after, ?_, rfl, (Evaluation.rootHolds_iff ..).mpr hgives⟩
      simp [Report.ofLog]

/-- **The first root that holds decides.** Take a rule with two lists of roots joined. If the evaluation of
the first list alone fails, it fails in the same way; if a root of the first list holds, the report is that
on the first list, whatever the second holds; and else it comes to what the second list comes to, with its
root counted behind those of the first and with the constraints that held in the first told before its own.
Every report, with a trace or without, names no root exactly where each root was tried and none holds, and
then the verdict is negative and there is no result; the root that it names is the first that holds. -/
theorem first_root_wins (store : Store) (limit : Nat) (isEmpty : Emptiness) (record : Json)
    (rule : Rule) :
    (∀ xs ys ts us, xs.mapM Tree.ofJson = .ok ts → ys.mapM Tree.ofJson = .ok us →
      ∀ cache cache' cache'',
        store.evaluateRoots limit isEmpty record rule (xs ++ ys) cache =
          match store.evaluateRoots limit isEmpty record rule xs cache' with
          | .error e => .error e
          | .ok first =>
            if first.matchedRoot.isSome then .ok first
            else (store.evaluateRoots limit isEmpty record rule ys cache'').map
              (·.behind first xs.length)) ∧
    ∀ traced cache report,
      (store.evaluate limit isEmpty traced rule record cache).1.outcome = .ok report →
      ∃ ts, rule.trees = .ok ts ∧
        let Holds := Evaluation.RootHolds store isEmpty record limit rule.origin?
        (report.matchedRoot = none ↔ ∀ t ∈ ts, Holds t false) ∧
        (report.matchedRoot = none → report.verdict = false ∧ report.result = none) ∧
        ∀ index, report.matchedRoot = some index →
          ∃ before t after, ts = before ++ t :: after ∧ before.length = index ∧
            (∀ other ∈ before, Holds other false) ∧ Holds t true := by
  constructor
  · intro xs ys ts us hx hy cache cache' cache''
    exact store.evaluateRoots_append limit isEmpty record rule hx hy cache cache' cache''
  · intro traced cache report h
    obtain ⟨ts, hts, before, rest, rfl, hbefore, hfound⟩ :=
      store.matchedRoot_of_report limit isEmpty record h
    refine ⟨_, hts, ?_⟩
    rcases hfound with ⟨hnone, rfl, hverdict, hresult⟩ | ⟨t, after, hsome, rfl, hholds⟩
    · rw [hnone]
      have hall : ∀ t ∈ before ++ [],
          Evaluation.RootHolds store isEmpty record limit rule.origin? t false := by
        simpa using hbefore
      exact ⟨iff_of_true rfl hall, fun _ => ⟨hverdict, hresult⟩, nofun⟩
    · rw [hsome]
      refine ⟨iff_of_false nofun fun hall => ?_, nofun, ?_⟩
      · have hnot := hall t (List.mem_append_right before List.mem_cons_self)
        exact absurd (Evaluation.RootHolds.unique _ _ _ _ _ hnot hholds) nofun
      · rintro _ ⟨⟩
        exact ⟨before, t, after, rfl, rfl, hbefore, hholds⟩

/-- Two roots that do not hold, though the constraint of `adult` holds in both. -/
def unheldRoots : List Json :=
  [.object [("all", .array [agePresent, .object [("none", .array [.string "adult"])]])],
    .object [("none", .array [.string "adult"])]]

/-- A root that holds, and behind it one that fails wherever it is tried. -/
def heldRoots : List Json := [.string "adult", agePresent]

/-- The third of four roots holds, and the fourth is not tried. -/
theorem unheldRoots_heldRoots :
    let run := sampleStore.evaluateRoots 64 .standard agedRecord leafRule
    ∃ ts us first later,
      unheldRoots.mapM Tree.ofJson = .ok ts ∧ heldRoots.mapM Tree.ofJson = .ok us ∧
      run unheldRoots (.empty 0) = .ok first ∧ first.matchedRoot = none ∧
      first.matchedConstraints.length = 3 ∧ (first.verdict = false ∧ first.result = none) ∧
      run heldRoots (.empty 1) = .ok later ∧ later.matchedRoot = some 0 ∧
      run (unheldRoots ++ heldRoots) (.empty 2) = .ok (later.behind first 2) := by
  intro run
  have hfirst : ∃ first, run unheldRoots (.empty 0) = .ok first ∧ first.matchedRoot = none ∧
      first.matchedConstraints.length = 3 := ⟨_, rfl, rfl, rfl⟩
  have hlater : ∃ later, run heldRoots (.empty 1) = .ok later ∧ later.matchedRoot = some 0 :=
    ⟨_, rfl, rfl⟩
  obtain ⟨first, hrun, hnone, hmatched⟩ := hfirst
  obtain ⟨later, hrun', hsome⟩ := hlater
  obtain ⟨hjoin, _⟩ := first_root_wins sampleStore 64 .standard agedRecord leafRule
  obtain ⟨_, hreport⟩ := first_root_wins sampleStore 64 .standard agedRecord
    { leafRule with conditions := .array unheldRoots }
  obtain ⟨_, _, _, hnegative, _⟩ := hreport false (.empty 0) first hrun
  have hjoined := hjoin unheldRoots heldRoots _ _ rfl rfl (.empty 2) (.empty 0) (.empty 1)
  simp only [run] at hrun hrun'
  simp only [hrun, hrun', hnone, Option.isSome_none] at hjoined
  exact ⟨_, _, first, later, rfl, rfl, hrun, hnone, hmatched, hnegative hnone, hrun', hsome, hjoined⟩

end Store

end RuleTree

import Mathlib.Data.Set.Card
import RuleTree.Proofs.History

/-!
What requests leave in a store. A request changes the stored rules as its answer tells
(`Engine.made_perform`), and of the changes that a run makes the last one about an id decides what is
found under it (`Engine.Run.get?_leaves`). Every rule stays under its own id, and the ids ascend
(`Engine.Run.kept`). So after any run from an empty store the rules are a finite map
(`Engine.Run.refines_map`).
-/

namespace RuleTree

/-! ## Changes -/

inductive Change
  | stored (rule : Rule)
  | deleted (id : String)
  | cleared

namespace Change

/-- Whether a change is about the rule with the given id. -/
def concerns (id : String) : Change → Bool
  | .stored rule => rule.id = id
  | .deleted other => other = id
  | .cleared => true

/-- The rule that a change leaves behind, as it was given. -/
def rule? : Change → Option Rule
  | .stored rule => some rule
  | _ => none

def last? (id : String) (changes : List Change) : Option Change :=
  (changes.filter (·.concerns id)).getLast?

theorem last?_append (id : String) (before after : List Change) :
    last? id (before ++ after) = (last? id after).or (last? id before) := by
  rw [last?, List.filter_append, List.getLast?_append]
  rfl

theorem last?_singleton (id : String) (change : Change) :
    last? id [change] = if change.concerns id then some change else none := by
  cases h : change.concerns id <;> simp [last?, h]

theorem last?_eq_none_iff {id : String} {changes : List Change} :
    last? id changes = none ↔ ∀ change ∈ changes, change.concerns id = false := by
  simp [last?]

/-- What is found under an id after some changes, when the last of them about the id is the given one: the
rule that it stored, with a time, or nothing if it took the rule away. If no change is about the id, it is
what was found before. -/
def Leaves (before found : Option Rule) : Option Change → Prop
  | some (.stored rule) => ∃ now, found = some { rule with updatedAt := some now }
  | some _ => found = none
  | none => found = before

/-- What is left by changes one after the other: later ones about the id count for more. -/
theorem Leaves.trans {a b c : Option Rule} {first second : Option Change} (h : Leaves a b first)
    (h' : Leaves b c second) : Leaves a c (second.or first) := by
  cases second with
  | none =>
    have hsame : c = b := h'
    rw [hsame]
    exact h
  | some change =>
    cases change with
    | stored rule => exact h'
    | deleted id => exact h'
    | cleared => exact h'

end Change

/-- The changes that a request has made, going by its answer. -/
def Request.changes (request : Request) (answer : Except Failure Reply) : List Change :=
  match request, answer with
  | .load rule, .ok _ => [.stored rule]
  | .loadText text, .ok _ => (Rule.ofText text).toOption.toList.map .stored
  | .loadBatch rules, .ok _ => (rules.filter (·.id ≠ "")).map .stored
  | .update rule, .ok _ => [.stored rule]
  | .delete id, .ok _ => [.deleted id]
  | .clear, .ok _ => [.cleared]
  | _, _ => []

/-- The changes of requests with their answers, in order. -/
def changesOf (history : List (Request × Except Failure Reply)) : List Change :=
  history.flatMap fun (request, answer) => request.changes answer

/-! ## Stores -/

namespace Store

def changed (now : Time) (store : Store) : Change → Store
  | .stored rule => ⟨Entries.insert rule.id { rule with updatedAt := some now } store.entries⟩
  | .deleted id => ⟨Entries.erase id store.entries⟩
  | .cleared => empty

/-- A store after changes that are made in order, all at one moment. -/
def changedAll (now : Time) (store : Store) (changes : List Change) : Store :=
  changes.foldl (changed now) store

/-- Every rule stands under its own id, which is not empty, and tells when it was stored. The ids
ascend. -/
structure Kept (store : Store) : Prop where
  keyed : ∀ id rule, (id, rule) ∈ store.entries → id ≠ "" ∧ rule.id = id
  dated : ∀ id rule, (id, rule) ∈ store.entries → rule.updatedAt.isSome = true
  ascending : store.ids.Pairwise (· < ·)

/-- The questions about ids agree with what is found under them. -/
structure Agrees (store : Store) : Prop where
  entries : ∀ id rule, (id, rule) ∈ store.entries ↔ store.get? id = some rule
  contains : ∀ id, store.contains id = true ↔ ∃ rule, store.get? id = some rule
  ids : ∀ id, id ∈ store.ids ↔ ∃ rule, store.get? id = some rule
  size : store.size = {id | ∃ rule, store.get? id = some rule}.ncard
  isEmpty : store.isEmpty = true ↔ ∀ id, store.get? id = none

variable {store : Store} {now : Time}

theorem kept_empty : empty.Kept :=
  ⟨by simp [empty], by simp [empty], .nil⟩

theorem Kept.changed (h : store.Kept) {change : Change}
    (hid : ∀ rule, change = .stored rule → rule.id ≠ "") : (store.changed now change).Kept := by
  cases change with
  | stored rule =>
    refine ⟨fun id other hm => ?_, fun id other hm => ?_, Entries.Ascending.insert h.ascending _ _⟩
    · rcases Entries.mem_insert hm with he | hm
      · cases he
        exact ⟨hid rule rfl, rfl⟩
      · exact h.keyed id other hm
    · rcases Entries.mem_insert hm with he | hm
      · cases he
        rfl
      · exact h.dated id other hm
  | deleted id =>
    have hsub (e : String × Rule) (hm : e ∈ Entries.erase id store.entries) : e ∈ store.entries :=
      (List.mem_filter.mp hm).1
    exact ⟨fun other rule hm => h.keyed other rule (hsub _ hm),
      fun other rule hm => h.dated other rule (hsub _ hm), Entries.Ascending.erase h.ascending id⟩
  | cleared => exact kept_empty

theorem Kept.changedAll {changes : List Change}
    (hid : ∀ rule, .stored rule ∈ changes → rule.id ≠ "") (h : store.Kept) :
    (store.changedAll now changes).Kept := by
  induction changes generalizing store with
  | nil => exact h
  | cons change rest ih =>
    refine ih (fun rule hm => hid rule (List.mem_cons_of_mem _ hm)) (h.changed fun rule hr => ?_)
    exact hid rule (hr ▸ List.mem_cons_self)

theorem isSome_get?_iff {id : String} : (store.get? id).isSome = true ↔ id ∈ store.ids :=
  Entries.isSome_get?_iff

theorem Kept.agrees (h : store.Kept) : store.Agrees where
  entries id rule := (Entries.Ascending.get?_eq_some_iff h.ascending).symm
  contains id := Option.isSome_iff_exists
  ids id := isSome_get?_iff.symm.trans Option.isSome_iff_exists
  size := by
    have hdistinct : store.ids.Pairwise (· ≠ ·) := by
      refine h.ascending.imp fun hlt => ?_
      rintro rfl
      exact String.lt_irrefl _ hlt
    have hset : {id | ∃ rule, store.get? id = some rule} = (store.ids.toFinset : Set String) := by
      ext id
      rw [Set.mem_ofPred_eq, ← Option.isSome_iff_exists, isSome_get?_iff]
      simp
    rw [hset, Set.ncard_coe_finset, List.toFinset_card_of_nodup hdistinct]
    simp [Store.size, Store.ids]
  isEmpty := by
    rw [Store.isEmpty, List.isEmpty_iff]
    constructor
    · intro hnil id
      simp [get?, hnil]
    · intro hnone
      refine List.eq_nil_iff_forall_not_mem.mpr fun e hm => ?_
      have hfound : store.get? e.1 = some e.2 := (Entries.Ascending.get?_eq_some_iff h.ascending).mpr hm
      rw [hnone] at hfound
      cases hfound

theorem get?_changed (change : Change) (id : String) :
    (store.changed now change).get? id =
      if change.concerns id then change.rule?.map ({ · with updatedAt := some now })
      else store.get? id := by
  cases change with
  | stored rule =>
    by_cases h : rule.id = id
    · subst h
      simp [changed, get?, Change.concerns, Change.rule?]
    · simp [changed, get?, Change.concerns, h]
  | deleted other =>
    by_cases h : other = id
    · subst h
      simp [changed, get?, Change.concerns, Change.rule?]
    · simp [changed, get?, Change.concerns, h]
  | cleared => rfl

theorem leaves_changed (change : Change) (id : String) :
    Change.Leaves (store.get? id) ((store.changed now change).get? id) (Change.last? id [change]) := by
  rw [get?_changed, Change.last?_singleton]
  cases change.concerns id with
  | false => rfl
  | true =>
    cases change with
    | stored rule => exact ⟨now, rfl⟩
    | deleted other => rfl
    | cleared => rfl

/-- Of several changes the last one about an id decides what is found under it. -/
theorem leaves_changedAll (changes : List Change) (id : String) :
    Change.Leaves (store.get? id) ((store.changedAll now changes).get? id)
      (Change.last? id changes) := by
  induction changes generalizing store with
  | nil => rfl
  | cons change rest ih =>
    rw [← List.singleton_append, Change.last?_append]
    exact (leaves_changed change id).trans ih

theorem load_eq (store : Store) (now : Time) (rule : Rule) :
    store.load now rule =
      if rule.id = "" then .error (.invalidRule "" "stored rules must have an id" rule.conditions)
      else .ok (store.changed now (.stored rule)) := rfl

theorem delete_eq (store : Store) (now : Time) (id : String) :
    store.delete id =
      if store.contains id then .ok (store.changed now (.deleted id)) else .error (.notFound id) := rfl

/-- A batch stores the rules that have an id, one after the other, and tells their ids. -/
theorem loadBatch_eq (store : Store) (now : Time) (rules : List Rule) :
    store.loadBatch now rules = ((rules.map Rule.id).filter (· ≠ ""),
      store.changedAll now ((rules.filter (·.id ≠ "")).map .stored)) := by
  induction rules generalizing store with
  | nil => rfl
  | cons rule rest ih =>
    rw [loadBatch, load_eq]
    by_cases h : rule.id = ""
    · simp [h, ih]
    · simp [h, ih, changedAll]

end Store

/-! ## Requests -/

theorem Request.changes_of_asks {request : Request} (h : request.asks = true)
    (answer : Except Failure Reply) : request.changes answer = [] := by
  cases request <;> first | rfl | cases h

namespace Engine

/-! What each request on the stored rules answers, and the store that it leaves. -/

section Perform

variable (engine : Engine) (now : Time)

theorem perform_load (rule : Rule) :
    engine.perform now (.load rule) =
      if rule.id = "" then
        (.error (.invalidRule "" "stored rules must have an id" rule.conditions), engine)
      else (.ok .done, { engine with store := engine.store.changed now (.stored rule) }) := by
  rw [perform, Store.load_eq]
  split <;> rfl

theorem perform_loadText (text : String) :
    engine.perform now (.loadText text) =
      match Rule.ofText text with
      | .error e => (.error (.badJson e), engine)
      | .ok rule =>
        if rule.id = "" then
          (.error (.invalidRule "" "stored rules must have an id" rule.conditions), engine)
        else (.ok (.id rule.id), { engine with store := engine.store.changed now (.stored rule) }) := by
  rw [perform, Store.loadText]
  cases Rule.ofText text with
  | error e => rfl
  | ok rule =>
    simp only [Store.load_eq]
    split <;> rfl

theorem perform_loadBatch (rules : List Rule) :
    engine.perform now (.loadBatch rules) =
      (.ok (.loaded ((rules.map Rule.id).filter (· ≠ ""))),
        { engine with
          store := engine.store.changedAll now ((rules.filter (·.id ≠ "")).map .stored) }) := by
  rw [perform, Store.loadBatch_eq]
  rfl

theorem perform_update (rule : Rule) :
    engine.perform now (.update rule) =
      if engine.store.contains rule.id then engine.perform now (.load rule)
      else (.error (.notFound rule.id), engine) := by
  show engine.storing _ ((engine.store.update now rule).map _) = _
  rw [Store.update]
  split <;> rfl

theorem perform_delete (id : String) :
    engine.perform now (.delete id) =
      if engine.store.contains id then
        (.ok .done, { engine with store := engine.store.changed now (.deleted id) })
      else (.error (.notFound id), engine) := by
  rw [perform, Store.delete_eq]
  split <;> rfl

end Perform

variable {engine : Engine} {now : Time}

/-- An engine has made changes to its store, all of them to rules with an id. -/
structure Made (engine : Engine) (now : Time) (changes : List Change) (after : Engine) : Prop where
  store : after.store = engine.store.changedAll now changes
  named : ∀ rule, .stored rule ∈ changes → rule.id ≠ ""

theorem made_nil {after : Engine} (h : after.store = engine.store) : engine.Made now [] after :=
  ⟨h, nofun⟩

theorem made_stored {rule : Rule} (h : rule.id ≠ "") :
    engine.Made now [.stored rule]
      { engine with store := engine.store.changed now (.stored rule) } := by
  refine ⟨rfl, fun other hm => ?_⟩
  cases List.mem_singleton.mp hm
  exact h

theorem made_load (engine : Engine) (now : Time) (rule : Rule) :
    engine.Made now (Request.changes (.load rule) (engine.perform now (.load rule)).1)
      (engine.perform now (.load rule)).2 := by
  rw [perform_load]
  by_cases h : rule.id = ""
  · rw [if_pos h]
    exact made_nil rfl
  · rw [if_neg h]
    exact made_stored h

/-- A request makes the changes that its answer tells. -/
theorem made_perform (engine : Engine) (now : Time) (request : Request) :
    engine.Made now (request.changes (engine.perform now request).1)
      (engine.perform now request).2 := by
  cases ha : request.asks with
  | true =>
    rw [Request.changes_of_asks ha]
    exact made_nil (engine.perform_kept now ha).store.symm
  | false =>
    cases request with
    | load rule => exact made_load engine now rule
    | loadText text =>
      rw [perform_loadText]
      cases ht : Rule.ofText text with
      | error e => exact made_nil rfl
      | ok rule =>
        by_cases h : rule.id = ""
        · simp only [if_pos h]
          exact made_nil rfl
        · simp only [if_neg h, Request.changes, ht]
          exact made_stored h
    | loadBatch rules =>
      rw [perform_loadBatch]
      refine ⟨rfl, fun rule hm => ?_⟩
      obtain ⟨other, hother, he⟩ := List.mem_map.mp hm
      cases he
      simpa using (List.mem_filter.mp hother).2
    | update rule =>
      have hsame (answer : Except Failure Reply) :
          Request.changes (.update rule) answer = Request.changes (.load rule) answer := by
        cases answer <;> rfl
      rw [perform_update]
      split
      · rw [hsame]
        exact made_load engine now rule
      · exact made_nil rfl
    | delete id =>
      rw [perform_delete]
      split
      · exact ⟨rfl, by simp [Request.changes]⟩
      · exact made_nil rfl
    | clear => exact ⟨rfl, by simp [Request.changes, perform]⟩
    | _ => cases ha

/-! ## Runs -/

/-- A run: requests that are answered one after the other, each at its own moment, with the answers that
they get. -/
inductive Run : Engine → List (Request × Except Failure Reply) → Engine → Prop
  | nil {engine : Engine} : Run engine [] engine
  | cons {engine next last : Engine} {now request answer rest} :
      engine.perform now request = (answer, next) → Run next rest last →
      Run engine ((request, answer) :: rest) last

theorem run_performAll (engine : Engine) (now : Time) (requests : List Request) :
    engine.Run (requests.zip (engine.performAll now requests).1)
      (engine.performAll now requests).2 := by
  induction requests generalizing engine with
  | nil => exact .nil
  | cons request rest ih => exact .cons rfl (ih (engine.perform now request).2)

variable {last : Engine} {history : List (Request × Except Failure Reply)}

theorem Run.kept (h : engine.Run history last) (hk : engine.store.Kept) : last.store.Kept := by
  induction h with
  | nil => exact hk
  | @cons engine next last now request answer rest hp _ ih =>
    have hmade := engine.made_perform now request
    rw [hp] at hmade
    exact ih (hmade.store ▸ hk.changedAll hmade.named)

/-- Of the changes in a run the last one about an id decides what is found under it. -/
theorem Run.get?_leaves (h : engine.Run history last) (id : String) :
    Change.Leaves (engine.store.get? id) (last.store.get? id)
      (Change.last? id (changesOf history)) := by
  induction h with
  | nil => rfl
  | @cons engine next last now request answer rest hp _ ih =>
    have hmade := engine.made_perform now request
    rw [hp] at hmade
    have hnext : Change.Leaves (engine.store.get? id) (next.store.get? id)
        (Change.last? id (request.changes answer)) := by
      rw [hmade.store]
      exact Store.leaves_changedAll _ id
    have hchanges : changesOf ((request, answer) :: rest) =
        request.changes answer ++ changesOf rest := rfl
    rw [hchanges, Change.last?_append]
    exact hnext.trans ih

/-! ## A finite map -/

/-- How the requests on stored rules answer, and what a failure leaves. -/
structure Answers (engine : Engine) (now : Time) : Prop where
  load : ∀ rule, (engine.perform now (.load rule)).1 =
    if rule.id = "" then .error (.invalidRule "" "stored rules must have an id" rule.conditions)
    else .ok .done
  loadText : ∀ text, (engine.perform now (.loadText text)).1 =
    match Rule.ofText text with
    | .error e => .error (.badJson e)
    | .ok rule =>
      if rule.id = "" then .error (.invalidRule "" "stored rules must have an id" rule.conditions)
      else .ok (.id rule.id)
  /-- A batch is the same as its rules one by one. -/
  loadBatch : ∀ rules, engine.perform now (.loadBatch rules) =
    (.ok (.loaded ((rules.map Rule.id).filter (· ≠ ""))),
      (engine.performAll now (rules.map .load)).2)
  update : ∀ rule, (engine.perform now (.update rule)).1 =
    if (engine.store.get? rule.id).isSome then .ok .done else .error (.notFound rule.id)
  delete : ∀ id, (engine.perform now (.delete id)).1 =
    if (engine.store.get? id).isSome then .ok .done else .error (.notFound id)
  clear : (engine.perform now .clear).1 = .ok .done
  failed : ∀ request e, (engine.perform now request).1 = .error e →
    (engine.perform now request).2.store = engine.store

theorem performAll_loads (engine : Engine) (now : Time) (rules : List Rule) :
    (engine.performAll now (rules.map .load)).2 =
      { engine with
        store := engine.store.changedAll now ((rules.filter (·.id ≠ "")).map .stored) } := by
  induction rules generalizing engine with
  | nil => rfl
  | cons rule rest ih =>
    rw [List.map_cons, performAll, ih, perform_load]
    by_cases h : rule.id = ""
    · simp [h]
    · simp [h, Store.changedAll]

theorem Request.changes_of_error (request : Request) (e : Failure) :
    request.changes (.error e) = [] := by
  cases request <;> rfl

theorem answers_of_kept (h : engine.store.Kept) (now : Time) : engine.Answers now where
  load rule := by
    rw [perform_load]
    split <;> rfl
  loadText text := by
    rw [perform_loadText]
    cases Rule.ofText text with
    | error e => rfl
    | ok rule =>
      dsimp only
      split <;> rfl
  loadBatch rules := by rw [perform_loadBatch, performAll_loads]
  update rule := by
    rw [perform_update, Store.contains]
    split
    next hfound =>
      obtain ⟨stored, hs⟩ := Option.isSome_iff_exists.mp hfound
      have hid := (h.keyed rule.id stored ((h.agrees.entries rule.id stored).mpr hs)).1
      rw [perform_load, if_neg hid]
    next => rfl
  delete id := by
    rw [perform_delete, Store.contains]
    split <;> rfl
  clear := rfl
  failed request e he := by
    have hmade := engine.made_perform now request
    rw [he, Request.changes_of_error] at hmade
    exact hmade.store

/-- **The store is a finite map.** Take any run from an empty store, of requests on the stored rules and
of others among them. Then every stored rule is kept under its own id, which is not empty, and has a
time; what is found under an id is the rule that was stored under it last, unless it was taken away
afterwards; all questions about ids agree with that; and in the state that the run has come to, the
requests fail exactly for the rules and texts that they must refuse, and then change nothing. -/
theorem Run.refines_map {config : Config} {isEmpty : Emptiness} {sink : Sink}
    (h : (Engine.new config isEmpty sink .empty).Run history engine) :
    engine.store.Kept ∧ engine.store.Agrees ∧
      (∀ id, Change.Leaves none (engine.store.get? id) (Change.last? id (changesOf history))) ∧
      ∀ now, engine.Answers now := by
  have hkept : engine.store.Kept := h.kept Store.kept_empty
  exact ⟨hkept, hkept.agrees, h.get?_leaves, answers_of_kept hkept⟩

/-- Requests by which a rule is stored three times, and another one stored and taken away. Two of them
fail, and a rule of the batch has no id. -/
def shelfRequests : List Request :=
  [.load ⟨"a", "first", .null, none⟩,
    .loadBatch [⟨"b", "", .null, none⟩, ⟨"", "", .null, none⟩, ⟨"a", "second", .null, none⟩],
    .update ⟨"c", "", .null, none⟩, .delete "b", .delete "b", .evaluate (.stored "b") .null,
    .update ⟨"a", "third", .bool true, none⟩]

/-- One rule is left, as it was stored last. -/
theorem shelfRequests_refine_map :
    let start := Engine.new .standard .standard .recording .empty
    let history := shelfRequests.zip (start.performAll ⟨0, 0⟩ shelfRequests).1
    let after := (start.performAll ⟨0, 0⟩ shelfRequests).2
    start.Run history after ∧ after.store.ids = ["a"] ∧
      (∃ now, after.store.get? "a" = some ⟨"a", "third", .bool true, some now⟩) ∧
      after.store.get? "b" = none ∧ after.store.size = 1 := by
  intro start history after
  have hrun : start.Run history after := start.run_performAll ⟨0, 0⟩ shelfRequests
  obtain ⟨_, _, hleaves, _⟩ := hrun.refines_map
  have hids : after.store.ids = ["a"] := rfl
  have hlast : Change.last? "a" (changesOf history) =
      some (.stored ⟨"a", "third", .bool true, none⟩) := rfl
  have hdeleted : Change.last? "b" (changesOf history) = some (.deleted "b") := rfl
  have ha := hleaves "a"
  have hb := hleaves "b"
  rw [hlast] at ha
  rw [hdeleted] at hb
  exact ⟨hrun, hids, ha, hb, rfl⟩

end Engine

end RuleTree

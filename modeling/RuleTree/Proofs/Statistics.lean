import Mathlib.Algebra.BigOperators.Finprod
import RuleTree.Proofs.Changes
import RuleTree.Proofs.Mirrors

/-!
What the statistics of a store count. The count of a rule is taken on the trees that its roots are read as; if
the rule is accepted, it is the number of strings that stand as a root or in a branch of the conditions as they
were written (`Store.encard_strings_of_accepted`). The count of a store is the sum over what is found in it, and
a change shifts it by what the change puts in less what it takes out (`Store.Kept.referenceCount_changed`). So
it is in every state that a run comes to (`Engine.Run.statistics_exact`).
-/

namespace RuleTree

theorem Quantifier.key_injective : Function.Injective key := by
  intro q other h
  cases q <;> cases other <;> simp [key] at h ⊢

/-! ## Strings among written nodes -/

namespace Json

/-- The node that some steps lead to, each of them to an element of a branch. -/
def below? (node : Json) : List (Quantifier × Nat) → Option Json
  | [] => some node
  | (q, index) :: steps =>
    match node.get? q.key with
    | some (.array nodes) => nodes[index]?.bind (·.below? steps)
    | _ => none

/-- Where strings stand in a node: it is one itself, or some steps lead to one. -/
def strings (node : Json) : Set (List (Quantifier × Nat)) :=
  {steps | ∃ id, node.below? steps = some (.string id)}

def stringsAmong (nodes : List Json) : Set Place :=
  {place | ∃ node, nodes[place.root]? = some node ∧ place.steps ∈ node.strings}

theorem stringsAmong_nil : stringsAmong [] = ∅ := by
  ext place
  simp [stringsAmong]

/-- The first node of a list adds its strings to those of the others, which stand one place later. -/
theorem stringsAmong_cons (node : Json) (rest : List Json) :
    stringsAmong (node :: rest) =
      Place.mk 0 '' node.strings ∪ (fun p => ⟨p.root + 1, p.steps⟩) '' stringsAmong rest := by
  ext ⟨root, steps⟩
  cases root with
  | zero => simp [stringsAmong]
  | succ root =>
    have hlater : (∃ p ∈ stringsAmong rest, (⟨p.root + 1, p.steps⟩ : Place) = ⟨root + 1, steps⟩) ↔
        ⟨root, steps⟩ ∈ stringsAmong rest := by
      constructor
      · rintro ⟨p, hp, he⟩
        cases he
        exact hp
      · exact fun h => ⟨_, h, rfl⟩
    rw [Set.mem_union, Set.mem_image, Set.mem_image, hlater]
    simp [stringsAmong]

theorem encard_stringsAmong_cons (node : Json) (rest : List Json) :
    (stringsAmong (node :: rest)).encard = node.strings.encard + (stringsAmong rest).encard := by
  have hfirst : Function.Injective (Place.mk 0) := fun _ _ h => by cases h; rfl
  have hlater : Function.Injective fun p : Place => (⟨p.root + 1, p.steps⟩ : Place) := by
    rintro ⟨root, steps⟩ ⟨root', steps'⟩ h
    cases h
    rfl
  have hdisjoint : Disjoint (Place.mk 0 '' node.strings)
      ((fun p => ⟨p.root + 1, p.steps⟩) '' stringsAmong rest) := by
    rw [Set.disjoint_left]
    rintro _ ⟨steps, _, rfl⟩ ⟨p, _, he⟩
    cases he
  rw [stringsAmong_cons, Set.encard_union_eq hdisjoint, hfirst.encard_image, hlater.encard_image]

/-- Nodes beside trees with as many references have as many strings. -/
theorem encard_stringsAmong {nodes : List Json} {ts : List Tree}
    (h : List.Forall₂ (fun node t => node.strings.encard = t.references.length) nodes ts) :
    (stringsAmong nodes).encard = (Tree.referencesOf ts).length := by
  induction h with
  | nil =>
    rw [stringsAmong_nil, Set.encard_empty]
    rfl
  | cons hfirst _ ih =>
    rw [encard_stringsAmong_cons, hfirst, ih, Tree.referencesOf, List.length_append, Nat.cast_add]

/-! ### Nodes by their shape -/

theorem strings_string (id : String) : (Json.string id).strings = {[]} := by
  ext steps
  cases steps with
  | nil => simp [strings, below?]
  | cons step steps => simp [strings, below?, get?]

theorem strings_of_leaf {node : Json} (ho : node.isObject = true) (hn : node.isCondition = false) :
    node.strings = ∅ := by
  refine Set.eq_empty_of_forall_notMem ?_
  rintro (_ | ⟨⟨q, index⟩, steps⟩) ⟨id, h⟩
  · cases h
    cases ho
  · rw [below?, get?_eq_none_of_not_isCondition hn q] at h
    cases h

/-- The strings of a condition are those in its one branch, whatever else the object holds. -/
theorem strings_of_condition {node : Json} {q : Quantifier} {nodes : List Json}
    (hone : node.branchCount = 1) (hget : node.get? q.key = some (.array nodes)) :
    node.strings = (fun p : Place => (q, p.root) :: p.steps) '' stringsAmong nodes := by
  ext steps
  constructor
  · rintro ⟨id, h⟩
    rcases steps with _ | ⟨⟨other, index⟩, steps⟩
    · cases h
      cases hget
    · obtain rfl : other = q := by
        by_contra hne
        have hnone := get?_eq_none_of_branchCount hone (by simp [hasKey, hget]) other
          (Quantifier.key_injective.ne hne)
        rw [below?, hnone] at h
        cases h
      rw [below?, hget] at h
      obtain ⟨child, hchild, hbelow⟩ := Option.bind_eq_some_iff.mp h
      exact ⟨⟨index, steps⟩, ⟨child, hchild, id, hbelow⟩, rfl⟩
  · rintro ⟨⟨index, steps⟩, ⟨child, hchild, id, hbelow⟩, rfl⟩
    refine ⟨id, ?_⟩
    rw [below?, hget]
    exact Option.bind_eq_some_iff.mpr ⟨child, hchild, hbelow⟩

end Json

/-! ## Accepted rules -/

/-- An approved node has as many strings as the tree that it is read as has references. -/
theorem Inspection.Approved.encard_strings {store : Store} {limit : Nat} {role : Role}
    {chain : List String} {depth : Nat} {node : Json} (h : Approved store limit role chain depth node)
    {t : Tree} (ht : Tree.ofJson node = .ok t) : node.strings.encard = t.references.length := by
  induction h generalizing t with
  | @condition role chain depth node nodes hd hf hc hn ih =>
    obtain ⟨hone, _, _⟩ := Json.conditionFlaw?_eq_none_iff.mp hf
    obtain ⟨q, hq, hget⟩ := Json.children?_eq_some_iff.mp hc
    obtain ⟨ts, hts, _, hread⟩ :=
      exists_condition_of_flawless hf hq hc fun child hm => (hn child hm).exists_tree
    obtain rfl := Except.ok.inj (hread.symm.trans ht)
    have hsteps : Function.Injective fun p : Place => (q, p.root) :: p.steps := by
      rintro ⟨root, steps⟩ ⟨root', steps'⟩ he
      cases he
      rfl
    have hchildren : List.Forall₂
        (fun child t => child.strings.encard = t.references.length) nodes ts := by
      obtain ⟨hl, hpairs⟩ := List.forall₂_iff_zip.mp hts
      refine List.forall₂_iff_zip.mpr ⟨hl, fun {child u} hz => ?_⟩
      exact ih child (List.of_mem_zip hz).1 (hpairs hz)
    rw [Json.strings_of_condition hone hget, hsteps.encard_image, Json.encard_stringsAmong hchildren,
      Tree.references]
  | leaf hn hf =>
    obtain ⟨c, hw, _⟩ := Json.leafFlaw?_eq_none_iff.mp hf
    obtain rfl := Except.ok.inj ((Tree.ofJson_of_writes hn hw).symm.trans ht)
    rw [Json.strings_of_leaf hw.isObject hn, Set.encard_empty]
    rfl
  | rootReference _ _ _ _ =>
    cases ht
    rw [Json.strings_string, Set.encard_singleton]
    rfl
  | childReference _ _ _ _ =>
    cases ht
    rw [Json.strings_string, Set.encard_singleton]
    rfl

namespace Rule

/-- Where strings stand in the conditions of a rule, as they were written. -/
def strings (rule : Rule) : Set Place := Json.stringsAmong rule.roots

theorem references_of_trees {rule : Rule} {ts : List Tree} (h : rule.trees = .ok ts) :
    rule.references = Tree.referencesOf ts := by
  have hread := (Store.trees_eq_ok_iff ts).mp h
  rw [references]
  clear h
  generalize rule.roots = roots at hread
  induction hread with
  | nil => rfl
  | cons hfirst _ ih => rw [List.flatMap_cons, hfirst, ih, Tree.referencesOf]

end Rule

namespace Store

/-- The strings of an accepted rule are as many as the references that are counted for it. -/
theorem encard_strings_of_accepted {store : Store} {limit : Nat} {rule : Rule}
    (h : (store.review limit rule).Accepted) : rule.strings.encard = rule.references.length := by
  obtain ⟨_, _, hroots⟩ := (accepted_review_iff store limit rule).mp h
  obtain ⟨ts, hts⟩ := exists_trees_of_accepted h
  rw [Rule.references_of_trees hts]
  refine Json.encard_stringsAmong ?_
  obtain ⟨hl, hpairs⟩ := List.forall₂_iff_zip.mp ((trees_eq_ok_iff ts).mp hts)
  refine List.forall₂_iff_zip.mpr ⟨hl, fun {root t} hz => ?_⟩
  exact (hroots root (List.of_mem_zip hz).1).encard_strings (hpairs hz)

end Store

/-! ## Sums over entries -/

namespace Entries

section Total

variable {α : Type} (weight : α → Nat)

def total (entries : List (String × α)) : Nat := (entries.map fun e => weight e.2).sum

/-- What the value under a key weighs, zero if there is none. -/
def weightAt (entries : List (String × α)) (key : String) : Nat := (get? key entries).elim 0 weight

variable {entries : List (String × α)}

/-- What is not beyond the first key does not stand behind it. -/
theorem Ascending.get?_eq_none_of_not_lt {k key : String} {v : α} {rest : List (String × α)}
    (h : Ascending ((k, v) :: rest)) (hkey : ¬k < key) : get? key rest = none := by
  refine get?_eq_none fun hm => ?_
  obtain ⟨e, he, rfl⟩ := List.mem_map.mp hm
  exact hkey ((ascending_cons_iff.mp h).1 e he)

theorem total_cons (key : String) (value : α) (entries : List (String × α)) :
    total weight ((key, value) :: entries) = weight value + total weight entries := by
  simp [total]

/-- Putting a value in adds its weight and takes that of the value in its place. -/
theorem Ascending.total_insert (h : Ascending entries) (key : String) (value : α) :
    total weight (Entries.insert key value entries) + weightAt weight entries key =
      total weight entries + weight value := by
  induction entries with
  | nil => simp [Entries.insert, total, weightAt]
  | cons first rest ih =>
    obtain ⟨k, v⟩ := first
    unfold Entries.insert
    split
    next hlt =>
      have hnone := h.get?_eq_none_of_not_lt (String.lt_asymm hlt)
      have hne : k ≠ key := by
        rintro rfl
        exact String.lt_irrefl _ hlt
      simp only [weightAt, get?_cons, if_neg hne, hnone, Option.elim_none, total_cons]
      omega
    next hnot =>
      split
      next hlt =>
        have hrest := ih (ascending_cons_iff.mp h).2
        have hne : k ≠ key := by
          rintro rfl
          exact String.lt_irrefl _ hlt
        simp only [weightAt, get?_cons, if_neg hne, total_cons] at hrest ⊢
        omega
      next hnot' =>
        obtain rfl : k = key := String.le_antisymm (String.not_lt.1 hnot) (String.not_lt.1 hnot')
        simp only [weightAt, get?_cons, if_pos, Option.elim_some, total_cons]
        omega

/-- Taking a value away takes its weight. -/
theorem Ascending.total_erase (h : Ascending entries) (key : String) :
    total weight (Entries.erase key entries) + weightAt weight entries key = total weight entries := by
  induction entries with
  | nil => rfl
  | cons first rest ih =>
    obtain ⟨k, v⟩ := first
    have hrest := ih (ascending_cons_iff.mp h).2
    by_cases hk : k = key
    · subst hk
      have hnone := h.get?_eq_none_of_not_lt (String.lt_irrefl k)
      simp only [weightAt, hnone, Option.elim_none] at hrest
      simp [weightAt, Entries.erase, total_cons] at hrest ⊢
      omega
    · have herase : Entries.erase key ((k, v) :: rest) = (k, v) :: Entries.erase key rest := by
        simp [Entries.erase, hk]
      simp only [weightAt, get?_cons, if_neg hk, herase, total_cons] at hrest ⊢
      omega

/-- The sum may be taken over all keys, as nearly all of them hold nothing. -/
theorem Ascending.total_eq_finsum (h : Ascending entries) :
    total weight entries = ∑ᶠ key, weightAt weight entries key := by
  have hdistinct : (entries.map Prod.fst).Nodup := by
    refine List.Pairwise.imp (fun hlt => ?_) h
    rintro rfl
    exact String.lt_irrefl _ hlt
  have hsupport : (weightAt weight entries).support ⊆ ((entries.map Prod.fst).toFinset : Set String) := by
    intro key hkey
    rw [Finset.mem_coe, List.mem_toFinset]
    by_contra hm
    exact hkey (by rw [weightAt, get?_eq_none hm, Option.elim_none])
  rw [finsum_eq_sum_of_support_subset _ hsupport, List.sum_toFinset _ hdistinct, List.map_map, total]
  refine congrArg List.sum (List.map_congr_left fun e he => ?_)
  rw [Function.comp_apply, weightAt, h.get?_eq_some_iff.mpr he, Option.elim_some]

end Total

end Entries

/-! ## Counts -/

namespace Store

/-- The number of references of the rule under an id, zero if there is none. -/
def referencesAt (store : Store) (id : String) : Nat :=
  (store.get? id).elim 0 fun rule => rule.references.length

theorem referenceCount_eq_total (store : Store) :
    store.referenceCount = Entries.total (fun rule : Rule => rule.references.length) store.entries :=
  List.length_flatMap

/-- The count of a store is the sum over the rules that are found in it. -/
theorem Kept.referenceCount_eq_finsum {store : Store} (h : store.Kept) :
    store.referenceCount = ∑ᶠ id, store.referencesAt id :=
  store.referenceCount_eq_total.trans (Entries.Ascending.total_eq_finsum _ h.ascending)

end Store

/-- What a change puts in less what it takes out, in references. -/
def Change.difference (store : Store) : Change → Int
  | .stored rule => rule.references.length - store.referencesAt rule.id
  | .deleted id => -store.referencesAt id
  | .cleared => -store.referenceCount

namespace Store

/-- The same for changes one after the other, each in the store that the earlier ones leave. -/
def difference (store : Store) (now : Time) : List Change → Int
  | [] => 0
  | change :: rest => change.difference store + (store.changed now change).difference now rest

variable {store : Store} {now : Time}

theorem Kept.referenceCount_changed (h : store.Kept) (now : Time) (change : Change) :
    ((store.changed now change).referenceCount : Int) = store.referenceCount + change.difference store := by
  cases change with
  | stored rule =>
    have hinsert : (store.changed now (.stored rule)).referenceCount + store.referencesAt rule.id =
        store.referenceCount + rule.references.length := by
      rw [referenceCount_eq_total, referenceCount_eq_total]
      exact Entries.Ascending.total_insert _ h.ascending rule.id { rule with updatedAt := some now }
    rw [Change.difference]
    omega
  | deleted id =>
    have herase : (store.changed now (.deleted id)).referenceCount + store.referencesAt id =
        store.referenceCount := by
      rw [referenceCount_eq_total, referenceCount_eq_total]
      exact Entries.Ascending.total_erase _ h.ascending id
    rw [Change.difference]
    omega
  | cleared =>
    rw [Change.difference, Int.add_right_neg]
    rfl

/-- Changes one after the other shift the count by what they put in less what they take out. -/
theorem Kept.referenceCount_changedAll (h : store.Kept) {changes : List Change}
    (hid : ∀ rule, .stored rule ∈ changes → rule.id ≠ "") :
    ((store.changedAll now changes).referenceCount : Int) =
      store.referenceCount + store.difference now changes := by
  induction changes generalizing store with
  | nil => exact (Int.add_zero _).symm
  | cons change rest ih =>
    have hfirst : (store.changed now change).Kept :=
      h.changed fun rule hr => hid rule (hr ▸ List.mem_cons_self)
    have hrest := ih hfirst fun rule hm => hid rule (List.mem_cons_of_mem _ hm)
    have hchange := h.referenceCount_changed now change
    rw [hchange, Int.add_assoc] at hrest
    exact hrest

end Store

namespace Engine

variable {engine : Engine} {history : List (Request × Except Failure Reply)}

/-- **Statistics are exact.** Take any run from an empty store. In the state that it has come to, every rule
that is accepted there, stored or not, has as many references counted for it as there are strings that stand as
a root or in a branch of its written conditions; what else an object holds and what stands in the rules
referred to does not count. The statistics tell the sum of the counts over the stored rules, and each request
shifts it by the references of the rules that it stores less those of the rules that it replaces or takes
away. A request that fails does not shift it. -/
theorem Run.statistics_exact {config : Config} {isEmpty : Emptiness} {sink : Sink}
    (h : (Engine.new config isEmpty sink .empty).Run history engine) :
    (∀ limit rule, (engine.store.review limit rule).Accepted →
      rule.strings.encard = rule.references.length) ∧
    engine.store.referenceCount = ∑ᶠ id, engine.store.referencesAt id ∧
    ∀ now, (engine.perform now .statistics).1 =
        .ok (.statistics engine.store.size engine.store.referenceCount) ∧
      ∀ request, ((engine.perform now request).2.store.referenceCount : Int) =
        engine.store.referenceCount +
          engine.store.difference now (request.changes (engine.perform now request).1) := by
  have hkept : engine.store.Kept := h.kept Store.kept_empty
  refine ⟨fun limit rule => Store.encard_strings_of_accepted, hkept.referenceCount_eq_finsum,
    fun now => ⟨rfl, fun request => ?_⟩⟩
  have hmade := engine.made_perform now request
  rw [hmade.store]
  exact hkept.referenceCount_changedAll hmade.named

/-- A rule with two references, and with the id of the same rule in an expected value, in a result, under an
unknown key and among the keys of a constraint beside the branch. -/
def tangledRule : Rule :=
  ⟨"r", "", .object [("all", .array [.string "adult", .object [("none", .array [.object
      [("field", .string "code"), ("operator", .string "in"), ("value", .array [.string "adult"])],
      .string "adult"]), ("note", .array [.string "adult"])]]),
    ("field", .string "adult"), ("operator", .string "equals"), ("result", .string "adult"),
    ("value", .string "adult")], none⟩

/-- Requests by which the rule is stored, replaced by one without references and stored again. One fails. -/
def tangledRequests : List Request :=
  [.load tangledRule, .load ⟨"adult", "", .object [("all", .array [agePresent])], none⟩,
    .update ⟨"r", "", .null, none⟩, .delete "s", .update tangledRule]

theorem tangledRule_statistics :
    let start := Engine.new .standard .standard .recording .empty
    let history := tangledRequests.zip (start.performAll ⟨0, 0⟩ tangledRequests).1
    let after := (start.performAll ⟨0, 0⟩ tangledRequests).2
    start.Run history after ∧ (after.store.review 64 tangledRule).Accepted ∧
      tangledRule.strings.encard = 2 ∧
      (after.perform ⟨1, 0⟩ .statistics).1 = .ok (.statistics 2 2) ∧
      ((after.perform ⟨1, 0⟩ (.delete "r")).2.store.referenceCount : Int) = 2 - 2 := by
  intro start history after
  have hrun : start.Run history after := start.run_performAll ⟨0, 0⟩ tangledRequests
  obtain ⟨hexact, _, hstatistics⟩ := hrun.statistics_exact
  have haccepted : (after.store.review 64 tangledRule).Accepted := ⟨_, rfl, rfl⟩
  obtain ⟨_, hdeleted⟩ := hstatistics ⟨1, 0⟩
  exact ⟨hrun, haccepted, hexact 64 tangledRule haccepted, rfl, hdeleted (.delete "r")⟩

end Engine

end RuleTree

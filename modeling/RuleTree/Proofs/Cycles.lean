import RuleTree.Proofs.Closed
import RuleTree.Proofs.Influence

/-!
Cycles that are reported. A chain of rules grows along the references that are followed and is cut back
when a rule is left, so a cycle that is reported is a path of references that was really gone, from the
rule itself to an id that is on the path already (`Store.reported_cycle_is_path`). What is known of a
reference where it is followed, that the chain in front of it has no repetitions and leads to it, is handed
on from each rule to the references in it (`Store.Awaited.handOn`).
-/

namespace RuleTree

namespace Store

/-- The conditions that are stored under an id mention another id. -/
def Links (store : Store) (mentions : Json → String → Prop) (id other : String) : Prop :=
  ∃ stored, store.get? id = some stored ∧ mentions stored.conditions other

/-- A path of references from a rule: its own id if it has one, an id that one of its roots mentions, and
from there on each time an id that the conditions stored under the one before mention. -/
def PathFrom (store : Store) (mentions : Json → String → Prop) (rule : Rule) (chain : List String) :
    Prop :=
  ∃ first rest, chain = rule.origin?.toList ++ first :: rest ∧
    (∃ node ∈ rule.roots, mentions node first) ∧ (first :: rest).IsChain (store.Links mentions)

/-- A path of references from a rule that comes back to an id on it, with none twice before. -/
structure CyclicPath (store : Store) (mentions : Json → String → Prop) (rule : Rule)
    (chain : List String) : Prop where
  path : store.PathFrom mentions rule chain
  closed : ∃ ids last, chain = ids ++ [last] ∧ ids ≠ [] ∧ ids.Nodup ∧ last ∈ ids

variable {store : Store} {limit : Nat} {mentions : Json → String → Prop} {rule : Rule}
  {chain inner : List String} {id other : String} {stored : Rule}

theorem pathFrom_start {node : Json} (hm : node ∈ rule.roots) (h : mentions node id) :
    store.PathFrom mentions rule (Expansion.start rule.origin? ++ [id]) :=
  ⟨id, [], rfl, ⟨node, hm, h⟩, .singleton id⟩

/-- A path goes on in the conditions that are stored under its last id. -/
theorem PathFrom.further (h : store.PathFrom mentions rule (chain ++ [id]))
    (hs : store.get? id = some stored) (hm : mentions stored.conditions other) :
    store.PathFrom mentions rule (chain ++ [id] ++ [other]) := by
  obtain ⟨first, rest, he, hfirst, hlinks⟩ := h
  have hlast : (first :: rest).getLast? = some id := by
    have hids : (chain ++ [id]).getLast? = some id := List.getLast?_concat
    rwa [he, List.getLast?_append_of_ne_nil _ (List.cons_ne_nil first rest)] at hids
  refine ⟨first, rest ++ [other], by rw [he, List.append_assoc, List.cons_append], hfirst, ?_⟩
  have hjoined : ((first :: rest) ++ [other]).IsChain (store.Links mentions) := by
    refine List.isChain_append.mpr ⟨hlinks, .singleton other, fun a ha b hb => ?_⟩
    obtain rfl : a = id := Option.some.inj (ha.symm.trans hlast)
    obtain rfl : b = other := (Option.some.inj hb).symm
    exact ⟨stored, hs, hm⟩
  exact hjoined

/-- What is known of a reference where it is followed: the chain has no repetitions and is a path to it. -/
structure Awaited (store : Store) (mentions : Json → String → Prop) (rule : Rule)
    (chain : List String) (id : String) : Prop where
  nodup : chain.Nodup
  path : store.PathFrom mentions rule (chain ++ [id])

theorem awaited_start {node : Json} (hm : node ∈ rule.roots) (h : mentions node id) :
    store.Awaited mentions rule (Expansion.start rule.origin?) id :=
  ⟨Expansion.start_nodup _, pathFrom_start hm h⟩

theorem Awaited.handOn (h : store.Awaited mentions rule chain id)
    (he : Expansion.enter limit chain id = .ok inner) (hs : store.get? id = some stored)
    (hm : mentions stored.conditions other) : store.Awaited mentions rule inner other := by
  have hentered : Inspection.Entered store limit chain id inner stored := ⟨he, hs⟩
  refine ⟨hentered.nodup h.nodup, ?_⟩
  obtain ⟨_, _, rfl⟩ := (Expansion.enter_eq_ok_iff limit).mp he
  exact h.path.further hs hm

/-- A failure tells of a cycle only if there is one. -/
theorem covered_cyclicPath (store : Store) (mentions : Json → String → Prop) (rule : Rule)
    (limit : Nat) :
    Failure.Covered limit (store.Awaited mentions rule) fun e =>
      ∀ chain, e = .referenceCycle chain → store.CyclicPath mentions rule chain where
  notFound _ := nofun
  tooDeep := nofun
  malformedNode _ _ := nofun
  referenceCycle chain id h hmem := by
    rintro _ ⟨⟩
    exact ⟨h.path, chain, id, rfl, List.ne_nil_of_mem hmem, h.nodup, hmem⟩

/-- **A reported cycle is a path.** Where a review or an evaluation fails because of a cycle, the reported
chain is a path of references that begins with the rule's own id, or without one with an id that the rule
refers to, and that ends with the first id that comes a second time. The references of a review stand in
the conditions as they are written, those of an evaluation in the trees that they are read as. -/
theorem reported_cycle_is_path (store : Store) (limit : Nat) (rule : Rule) :
    (∀ chain, (store.review limit rule).outcome = .error (.referenceCycle chain) →
      store.CyclicPath Json.Quotes rule chain) ∧
    ∀ isEmpty traced record cache chain,
      (store.evaluate limit isEmpty traced rule record cache).1.outcome =
        .error (.referenceCycle chain) →
      store.CyclicPath Json.Refers rule chain := by
  constructor
  · intro chain h
    have hreview : (store.review limit rule).FailsAs _ :=
      (store.covered_cyclicPath Json.Quotes rule limit).failsAs_review
        (fun hid he hs hm => hid.handOn he hs hm) fun node hnode id hid => awaited_start hnode hid
    exact hreview _ h chain rfl
  · intro isEmpty traced record cache chain h
    have hevaluate : (store.evaluate limit isEmpty traced rule record).FailsAs _ :=
      (store.covered_cyclicPath Json.Refers rule limit).failsAs_evaluate
        (fun hid he hs hc hm => hid.handOn he hs ⟨_, Tree.ofJson_of_condition hc, hm⟩)
        fun node hnode t ht id hid => awaited_start hnode ⟨t, ht, hid⟩
    exact hevaluate cache _ h chain rfl

/-- The rules `a` and `b` refer to each other, and both refer to `adult` before. -/
def circlingStore : Store :=
  let all (nodes : List Json) : Json := .object [("all", .array nodes)]
  ⟨[("a", ⟨"a", "", all [.string "adult", .string "b"], none⟩),
    ("adult", ⟨"adult", "", all [agePresent], none⟩),
    ("b", ⟨"b", "", all [.string "adult", .string "a"], none⟩)]⟩

/-- A rule that refers to `adult` in its first root and comes into the circle by its second. -/
def circlingRule (id : String) : Rule :=
  ⟨id, "", .array [.object [("none", .array [.string "adult"])], .string "a"], none⟩

/-- `adult` is entered and left three times before the cycle is reported, and does not stand in it. -/
theorem circlingRule_reported :
    (circlingStore.review 64 (circlingRule "r")).outcome =
        .error (.referenceCycle ["r", "a", "b", "a"]) ∧
      circlingStore.CyclicPath Json.Quotes (circlingRule "r") ["r", "a", "b", "a"] ∧
      (circlingStore.evaluate 64 .standard false (circlingRule "") agedRecord (.empty 0)).1.outcome =
        .error (.referenceCycle ["a", "b", "a"]) ∧
      circlingStore.CyclicPath Json.Refers (circlingRule "") ["a", "b", "a"] := by
  have hreview : (circlingStore.review 64 (circlingRule "r")).outcome =
      .error (.referenceCycle ["r", "a", "b", "a"]) := rfl
  have hevaluate : (circlingStore.evaluate 64 .standard false (circlingRule "") agedRecord
      (.empty 0)).1.outcome = .error (.referenceCycle ["a", "b", "a"]) := rfl
  have hnamed := reported_cycle_is_path circlingStore 64 (circlingRule "r")
  have hunnamed := reported_cycle_is_path circlingStore 64 (circlingRule "")
  exact ⟨hreview, hnamed.1 _ hreview, hevaluate, hunnamed.2 _ _ _ _ _ hevaluate⟩

end Store

end RuleTree

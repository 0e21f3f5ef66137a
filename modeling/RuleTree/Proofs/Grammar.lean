import Mathlib.Data.List.Nodup
import RuleTree.Proofs.Approval
import RuleTree.Proofs.Unfolding

/-!
The grammar of rules. A rule is accepted exactly when each of its roots has an unfolding in which every
place is in order (`accepted_review_iff_grammatical`): references do not come back to a rule on their
path and do not go beyond the limit, conditions have one branch with children in it and do not lie too
deep, and results and constraints are where and what they should be.
-/

namespace RuleTree

namespace Unfolding

open Inspection (Role)

/-- What a reference may come to in some role: for a root a condition, after any number of further
references; for a child a condition or a constraint, with no second reference in between. -/
def Suits (u : Unfolding) : Role → Prop
  | .root => u.core.isCondition = true
  | .child => u.hops ≤ 1 ∧ (u.core.isCondition = true ∨ u.core.isConstraint = true)

/-- A place below the references `ids`, at some depth, keeps to the limit and to the structure of
conditions. -/
structure Fits (limit : Nat) (ids : List String) (depth : Nat) (v : Unfolding) : Prop where
  distinct : ids.Nodup
  short : ∀ id target, v = .reference id target → (ids ++ [id]).length ≤ limit
  shallow : v.node.isCondition = true → depth ≤ limit
  branch : v.node.isCondition = true →
    v.node.branchCount = 1 ∧ ∃ nodes, v.node.children? = some nodes ∧ nodes ≠ []
  suits : ∀ q node us, v = .condition q node us → ∀ c ∈ us, c.Suits .child

/-- A place has no result below the root, and a constraint there is well-formed. -/
structure Sound (depth : Nat) (v : Unfolding) : Prop where
  result : v.node.isCondition = true → 0 < depth → v.node.hasKey "result" = false
  constraint : v.node.isCondition = false → v.node.isConstraint = true →
    ∃ c, v.node.Writes c ∧ c.Sound

/-- The places of the unfolding, below the references `ids` and from some depth on, fit and are
sound. -/
abbrev Proper (limit : Nat) (ids : List String) (depth : Nat) (u : Unfolding) : Prop :=
  u.Everywhere (fun ids depth v => v.Fits limit ids depth ∧ v.Sound depth) ids depth

end Unfolding

open Inspection

variable {store : Store} {limit : Nat}

/-! ## From derivations to unfoldings -/

theorem Unfolds.core_eq {node : Json} {u : Unfolding} (h : Unfolds store node u)
    (hs : node.isString = false) : u.core = node ∧ u.hops = 0 := by
  cases h with
  | reference _ _ => cases hs
  | _ => exact ⟨rfl, rfl⟩

theorem Inspection.Entered.nodup {chain inner : List String} {id : String} {rule : Rule}
    (he : Entered store limit chain id inner rule) (hn : chain.Nodup) : inner.Nodup := by
  obtain ⟨hmem, _, rfl⟩ := (Expansion.enter_eq_ok_iff limit).mp he.enter
  exact List.nodup_append.mpr
    ⟨hn, List.nodup_singleton id, fun a ha b hb => by simp at hb; rintro rfl; exact hmem (hb ▸ ha)⟩

/-- A reference that is entered unfolds to what its rule unfolds to. -/
theorem Unfolds.of_entered {chain inner : List String} {id : String} {rule : Rule} {u : Unfolding}
    (h : Unfolds store (.string id) u) (he : Entered store limit chain id inner rule) :
    ∃ target, Unfolds store rule.conditions target ∧ u = .reference id target := by
  obtain ⟨stored, target, hr, ht, rfl⟩ := h.of_string
  obtain rfl := Option.some.inj (he.stored.symm.trans hr)
  exact ⟨target, ht, rfl⟩

theorem Unfolding.proper_reference {chain inner : List String} {id : String} {rule : Rule}
    {depth : Nat} {u : Unfolding} (he : Entered store limit chain id inner rule)
    (hn : chain.Nodup) (hu : u.Proper limit inner depth) :
    (Unfolding.reference id u).Proper limit chain depth := by
  obtain ⟨hmem, hlt, rfl⟩ := (Expansion.enter_eq_ok_iff limit).mp he.enter
  have hshort : ∀ id' target, Unfolding.reference id u = .reference id' target →
      (chain ++ [id']).length ≤ limit := by
    rintro _ _ ⟨⟩
    simpa using Nat.succ_le_of_lt hlt
  exact everywhere_reference.mpr ⟨⟨⟨hn, hshort, nofun, nofun, nofun⟩, nofun, nofun⟩, hu⟩

theorem exists_unfolding_of_approved {role : Role} {chain : List String} {depth : Nat} {node : Json}
    (h : Approved store limit role chain depth node) (hn : chain.Nodup) :
    ∃ u, Unfolds store node u ∧ u.Suits role ∧ u.Proper limit chain depth := by
  induction h with
  | @condition role chain depth node nodes hd hf hc _ ih =>
    obtain ⟨q, hq, _⟩ := Json.children?_eq_some_iff.mp hc
    have hcond := Json.isCondition_of_children? hc
    obtain ⟨hone, hnodes, hres⟩ := Json.conditionFlaw?_eq_none_iff.mp hf
    obtain ⟨us, hl, hus⟩ := exists_zip_of_forall_exists fun child hm => ih child hm hn
    refine ⟨.condition q node us, .condition hq hc hl fun c u hm => (hus c u hm).1, ?_, ?_⟩
    · cases role with
      | root => exact hcond
      | child => exact ⟨Nat.zero_le 1, .inl hcond⟩
    · have hchild (c : Unfolding) (hm : c ∈ us) :
          c.Suits .child ∧ c.Proper limit chain (depth + 1) := by
        obtain ⟨child, hz⟩ := exists_mem_zip_of_mem_right hl hm
        exact (hus child c hz).2
      have hsuits : ∀ q' node' us', Unfolding.condition q node us = .condition q' node' us' →
          ∀ c ∈ us', c.Suits .child := by
        rintro _ _ _ ⟨⟩ c hm
        exact (hchild c hm).1
      have hno : ¬ node.isCondition = false := by simp [hcond]
      exact Unfolding.everywhere_condition.mpr
        ⟨⟨⟨hn, nofun, fun _ => hd, fun _ => ⟨hone, hnodes⟩, hsuits⟩,
          fun _ => hres, fun h => absurd h hno⟩, fun c hm => (hchild c hm).2⟩
  | @leaf chain depth node hcond hf =>
    obtain ⟨c, hw, hs⟩ := Json.leafFlaw?_eq_none_iff.mp hf
    have hstring : node.isString = false := by
      obtain ⟨_, rfl, _⟩ := Json.exists_of_get? hw.field
      rfl
    have hchildren : node.children? = none := by
      cases hc : node.children? with
      | none => rfl
      | some nodes => rw [Json.isCondition_of_children? hc] at hcond; cases hcond
    refine ⟨.leaf node, .leaf hstring hchildren, ⟨Nat.zero_le 1, .inr hw.isConstraint⟩, ?_⟩
    have hno : ¬ (Unfolding.leaf node).node.isCondition = true := by simp [Unfolding.node, hcond]
    exact Unfolding.everywhere_leaf.mpr ⟨⟨hn, by simp, fun h => absurd h hno, fun h => absurd h hno,
      by simp⟩, fun h => absurd h hno, fun _ _ => ⟨c, hw, hs⟩⟩
  | @rootReference chain inner depth id rule hd he _ ih =>
    obtain ⟨u, hu, hsuits, hp⟩ := ih (he.nodup hn)
    exact ⟨.reference id u, .reference he.stored hu, hsuits, Unfolding.proper_reference he hn hp⟩
  | @childReference chain inner depth id rule he ht _ ih =>
    obtain ⟨u, hu, hsuits, hp⟩ := ih (he.nodup hn)
    refine ⟨.reference id u, .reference he.stored hu, ⟨?_, hsuits.2⟩,
      Unfolding.proper_reference he hn hp⟩
    exact Nat.le_of_eq (congrArg (· + 1) (hu.core_eq ht).2)

/-! ## From unfoldings to derivations -/

theorem Inspection.Approved.depth_le {chain : List String} {depth : Nat} {node : Json}
    (h : Approved store limit .root chain depth node) : depth ≤ limit := by
  cases h <;> assumption

theorem Unfolds.isString_of_hops {node : Json} {u : Unfolding} (h : Unfolds store node u)
    (hz : u.hops = 0) : node.isString = false := by
  cases h with
  | reference _ _ => cases hz
  | condition hq _ _ _ =>
    exact Json.isString_eq_false_of_isCondition (Json.isCondition_of_quantifier? hq)
  | leaf hs _ => exact hs

theorem approved_of_unfolding {role : Role} {chain : List String} {depth : Nat} {node : Json}
    {u : Unfolding} (hu : Unfolds store node u) (hs : u.Suits role)
    (hp : u.Proper limit chain depth) : Approved store limit role chain depth node := by
  induction hu generalizing role chain depth with
  | @reference id rule u hr hu ih =>
    obtain ⟨⟨hfits, _⟩, ht⟩ := Unfolding.everywhere_reference.mp hp
    have hn : id ∉ chain := by
      have h := ht.here.1.distinct
      simp only [List.nodup_append, List.mem_singleton, ne_eq, forall_eq] at h
      exact fun hm => h.2.2 id hm rfl
    have hlt : chain.length < limit := by
      have h := hfits.short id u rfl
      rwa [List.length_append] at h
    have he : Entered store limit chain id (chain ++ [id]) rule :=
      ⟨(Expansion.enter_eq_ok_iff limit).mpr ⟨hn, hlt, rfl⟩, hr⟩
    cases role with
    | root =>
      have h : Approved store limit .root (chain ++ [id]) depth rule.conditions := ih hs ht
      exact .rootReference h.depth_le he h
    | child =>
      have hz : u.hops = 0 := Nat.le_zero.mp (Nat.le_of_succ_le_succ hs.1)
      have hsuits : u.Suits .child := ⟨by omega, hs.2⟩
      exact .childReference he (hu.isString_of_hops hz) (ih hsuits ht)
  | @condition q node nodes us hq hc hl hus ih =>
    obtain ⟨⟨hfits, hsound⟩, hchildren⟩ := Unfolding.everywhere_condition.mp hp
    have hcond := Json.isCondition_of_children? hc
    obtain ⟨hone, hnodes⟩ := hfits.branch hcond
    have hf : node.conditionFlaw? depth = none :=
      Json.conditionFlaw?_eq_none_iff.mpr ⟨hone, hnodes, hsound.result hcond⟩
    refine .condition (hfits.shallow hcond) hf hc fun child hm => ?_
    obtain ⟨c, hz⟩ := exists_mem_zip_of_mem_left hl hm
    have hcm : c ∈ us := (List.of_mem_zip hz).2
    exact ih child c hz (hfits.suits q node us rfl c hcm) (hchildren c hcm)
  | @leaf node hstring hc =>
    obtain ⟨hfits, hsound⟩ := Unfolding.everywhere_leaf.mp hp
    have hcond : node.isCondition = false := by
      cases h : node.isCondition with
      | false => rfl
      | true =>
        obtain ⟨_, nodes, hnodes, _⟩ := hfits.branch h
        rw [show (Unfolding.leaf node).node = node from rfl, hc] at hnodes
        cases hnodes
    cases role with
    | root =>
      have h : node.isCondition = true := hs
      rw [hcond] at h
      cases h
    | child =>
      have hcons : node.isConstraint = true := hs.2.resolve_left (Bool.eq_false_iff.mp hcond)
      exact .leaf hcond (Json.leafFlaw?_eq_none_iff.mpr (hsound.constraint hcond hcons))

/-! ## The grammar -/

/-- A root of a rule with the given id: an unfolding that comes to a condition, where every place fits
the limit and the structure of conditions and also what is left out of that, results and constraints,
is sound. -/
structure Grammatical (store : Store) (limit : Nat) (origin : Option String) (root : Json)
    (u : Unfolding) : Prop where
  unfolds : Unfolds store root u
  suits : u.Suits .root
  fits : u.Everywhere (fun ids depth v => v.Fits limit ids depth) (Expansion.start origin) 0
  sound : u.Everywhere (fun _ depth v => v.Sound depth) (Expansion.start origin) 0

theorem Expansion.start_nodup (origin : Option String) : (start origin).Nodup := by
  cases origin <;> simp [start]

/-- **The grammar of rules.** A rule is accepted exactly when it has a root, its first root is not an
object without members, and every root has an unfolding that is grammatical. -/
theorem accepted_review_iff_grammatical (store : Store) (limit : Nat) (rule : Rule) :
    (store.review limit rule).Accepted ↔
      rule.roots ≠ [] ∧ rule.roots.head? ≠ some (.object []) ∧
        ∀ root ∈ rule.roots, ∃ u, Grammatical store limit rule.origin? root u := by
  rw [Store.accepted_review_iff]
  refine and_congr_right fun _ => and_congr_right fun _ => forall₂_congr fun root _ => ?_
  constructor
  · intro h
    obtain ⟨u, hu, hs, hp⟩ := exists_unfolding_of_approved h (Expansion.start_nodup _)
    obtain ⟨hf, hsound⟩ := Unfolding.everywhere_and.mp hp
    exact ⟨u, hu, hs, hf, hsound⟩
  · rintro ⟨u, hu, hs, hf, hsound⟩
    exact approved_of_unfolding hu hs (Unfolding.everywhere_and.mpr ⟨hf, hsound⟩)

/-! ## What the structure alone leaves out -/

def agePresent : Json :=
  .object [("field", .string "age"), ("operator", .string "exists"), ("value", .null)]

def withResult : Json := .object [("any", .array [agePresent]), ("result", .bool true)]

def nestedResultRule : Rule := ⟨"r", "", .object [("all", .array [withResult])], none⟩

def nestedResultUnfolding : Unfolding :=
  .condition .all nestedResultRule.conditions [.condition .any withResult [.leaf agePresent]]

theorem nestedResultUnfolding_unfolds :
    Unfolds Store.empty nestedResultRule.conditions nestedResultUnfolding := by
  refine .condition rfl rfl rfl fun _ _ hm => ?_
  obtain ⟨rfl, rfl⟩ := Prod.mk.inj (List.mem_singleton.mp hm)
  refine .condition rfl rfl rfl fun _ _ hm => ?_
  obtain ⟨rfl, rfl⟩ := Prod.mk.inj (List.mem_singleton.mp hm)
  exact .leaf rfl rfl

theorem nestedResultUnfolding_fits :
    nestedResultUnfolding.Everywhere (fun ids depth v => v.Fits 64 ids depth) ["r"] 0 := by
  have hn : ["r"].Nodup := List.nodup_singleton "r"
  refine Unfolding.everywhere_condition.mpr
    ⟨⟨hn, nofun, by simp, fun _ => ⟨rfl, _, rfl, by simp⟩, ?_⟩, fun c hc => ?_⟩
  · rintro _ _ _ ⟨⟩ c hc
    obtain rfl := List.mem_singleton.mp hc
    exact ⟨Nat.zero_le 1, .inl rfl⟩
  · obtain rfl := List.mem_singleton.mp hc
    refine Unfolding.everywhere_condition.mpr
      ⟨⟨hn, nofun, by simp, fun _ => ⟨rfl, _, rfl, by simp⟩, ?_⟩, fun c hc => ?_⟩
    · rintro _ _ _ ⟨⟩ c hc
      obtain rfl := List.mem_singleton.mp hc
      exact ⟨Nat.zero_le 1, .inr rfl⟩
    · obtain rfl := List.mem_singleton.mp hc
      exact Unfolding.everywhere_leaf.mpr ⟨hn, nofun, nofun, nofun, nofun⟩

/-- Structure and limit alone do not make a rule acceptable: a nested result breaks neither and is
refused. -/
theorem accepted_review_not_iff_fits :
    ¬ ((Store.empty.review 64 nestedResultRule).Accepted ↔
      nestedResultRule.roots ≠ [] ∧ nestedResultRule.roots.head? ≠ some (.object []) ∧
        ∀ root ∈ nestedResultRule.roots, ∃ u, Unfolds Store.empty root u ∧ u.Suits .root ∧
          u.Everywhere (fun ids depth v => v.Fits 64 ids depth)
            (Expansion.start nestedResultRule.origin?) 0) := by
  intro h
  have hrefused : (Store.empty.review 64 nestedResultRule).outcome =
      .ok (.refused "nested conditions cannot have a result property" withResult) := rfl
  have hroots : nestedResultRule.roots = [nestedResultRule.conditions] := rfl
  obtain ⟨review, ho, ha⟩ : (Store.empty.review 64 nestedResultRule).Accepted := by
    refine h.mpr ⟨by simp [hroots], by rw [hroots]; simp [nestedResultRule], fun root hm => ?_⟩
    rw [hroots] at hm
    obtain rfl := List.mem_singleton.mp hm
    exact ⟨_, nestedResultUnfolding_unfolds, rfl, nestedResultUnfolding_fits⟩
  rw [hrefused] at ho
  cases ho
  cases ha

end RuleTree

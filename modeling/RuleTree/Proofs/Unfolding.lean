import Mathlib.Data.List.Forall2
import RuleTree.Proofs.Nodes
import RuleTree.Store

/-!
Written conditions with every reference followed. An `Unfolding` is a finite tree, so a node that
refers to a missing rule or to itself has none; a node has at most one (`Unfolds.unique`). The places
of an unfolding are its nodes together with the ids and the depth at which a path reaches them.
-/

namespace RuleTree

/-- A written node with its references followed: a reference stands above what its rule holds, and a
condition above its children. Anything else is a leaf. -/
inductive Unfolding
  | reference (id : String) (target : Unfolding)
  | condition (quantifier : Quantifier) (node : Json) (children : List Unfolding)
  | leaf (node : Json)

def Unfolding.isCondition : Unfolding → Bool
  | .condition .. => true
  | _ => false

inductive Unfolds (store : Store) : Json → Unfolding → Prop
  | reference {id rule u} :
      store.get? id = some rule → Unfolds store rule.conditions u →
      Unfolds store (.string id) (.reference id u)
  | condition {q node nodes us} :
      node.quantifier? = some q → node.children? = some nodes → nodes.length = us.length →
      (∀ child u, (child, u) ∈ nodes.zip us → Unfolds store child u) →
      Unfolds store node (.condition q node us)
  | leaf {node} :
      node.isString = false → node.children? = none → Unfolds store node (.leaf node)

/-! ## Lists side by side -/

section Zip

variable {α β : Type} {xs : List α} {ys : List β}

theorem exists_mem_zip_of_mem_left (h : xs.length = ys.length) {x : α} (hx : x ∈ xs) :
    ∃ y, (x, y) ∈ xs.zip ys := by
  have hm : (xs.zip ys).map Prod.fst = xs := List.map_fst_zip (Nat.le_of_eq h)
  rw [← hm] at hx
  obtain ⟨⟨_, y⟩, hz, rfl⟩ := List.mem_map.mp hx
  exact ⟨y, hz⟩

theorem exists_mem_zip_of_mem_right (h : xs.length = ys.length) {y : β} (hy : y ∈ ys) :
    ∃ x, (x, y) ∈ xs.zip ys := by
  have hm : (xs.zip ys).map Prod.snd = ys := List.map_snd_zip (Nat.le_of_eq h.symm)
  rw [← hm] at hy
  obtain ⟨⟨x, _⟩, hz, rfl⟩ := List.mem_map.mp hy
  exact ⟨x, hz⟩

theorem forall_mem_zip_cons_iff {P : α → β → Prop} {x : α} {y : β} :
    (∀ a b, (a, b) ∈ (x :: xs).zip (y :: ys) → P a b) ↔
      P x y ∧ ∀ a b, (a, b) ∈ xs.zip ys → P a b := by
  constructor
  · intro h
    exact ⟨h x y List.mem_cons_self, fun a b hm => h a b (List.mem_cons_of_mem _ hm)⟩
  · rintro ⟨hfirst, hrest⟩ a b hm
    rcases List.mem_cons.mp hm with he | hm
    · cases he
      exact hfirst
    · exact hrest a b hm

theorem exists_zip_of_forall_exists {P : α → β → Prop} (h : ∀ x ∈ xs, ∃ y, P x y) :
    ∃ ys, xs.length = ys.length ∧ ∀ x y, (x, y) ∈ xs.zip ys → P x y := by
  induction xs with
  | nil => exact ⟨[], rfl, by simp⟩
  | cons x xs ih =>
    obtain ⟨y, hy⟩ := h x List.mem_cons_self
    obtain ⟨ys, hl, hys⟩ := ih fun z hz => h z (List.mem_cons_of_mem _ hz)
    exact ⟨y :: ys, by simp [hl], forall_mem_zip_cons_iff.mpr ⟨hy, hys⟩⟩

/-- Two lists that both stand beside a third stand beside each other. -/
theorem forall₂_of_forall₂_left {γ : Type} {zs : List γ} {R : α → β → Prop} {S : α → γ → Prop}
    {T : β → γ → Prop} (hr : List.Forall₂ R xs ys) (hs : List.Forall₂ S xs zs)
    (h : ∀ x ∈ xs, ∀ y z, R x y → S x z → T y z) : List.Forall₂ T ys zs := by
  induction hr generalizing zs with
  | nil => cases hs; exact .nil
  | cons hxy _ ih =>
    cases hs with
    | cons hxz hs =>
      exact .cons (h _ List.mem_cons_self _ _ hxy hxz)
        (ih hs fun x hx => h x (List.mem_cons_of_mem _ hx))

/-- Two lists that stand beside a third are the same if each element has but one partner. -/
theorem eq_of_zip_unique {ys' : List β} (hl : xs.length = ys.length) (hl' : xs.length = ys'.length)
    (h : ∀ x y y', (x, y) ∈ xs.zip ys → (x, y') ∈ xs.zip ys' → y = y') : ys = ys' := by
  apply List.ext_getElem (hl.symm.trans hl')
  intro i hy hy'
  have hx : i < xs.length := hl ▸ hy
  refine h xs[i] ys[i] ys'[i] ?_ ?_
  · exact List.mem_iff_getElem.mpr ⟨i, by rw [List.length_zip]; omega, by simp⟩
  · exact List.mem_iff_getElem.mpr ⟨i, by rw [List.length_zip]; omega, by simp⟩

end Zip

namespace Unfolds

variable {store : Store} {node : Json} {u v : Unfolding}

/-- A node has only one unfolding. -/
theorem unique (hu : Unfolds store node u) (hv : Unfolds store node v) : u = v := by
  induction hu generalizing v with
  | @reference id rule u hr _ ih =>
    cases hv with
    | reference hr' hv =>
      obtain rfl : rule = _ := Option.some.inj (hr.symm.trans hr')
      rw [ih hv]
    | condition hq _ _ _ => cases hq
    | leaf hs _ => cases hs
  | @condition q node nodes us hq hc hl _ ih =>
    cases hv with
    | reference _ _ => cases hq
    | @condition q' _ nodes' vs hq' hc' hl' hvs =>
      obtain rfl : q = q' := Option.some.inj (hq.symm.trans hq')
      obtain rfl : nodes = nodes' := Option.some.inj (hc.symm.trans hc')
      have he : us = vs := eq_of_zip_unique hl hl' fun child u v hu hv => ih child u hu (hvs child v hv)
      rw [he]
    | leaf _ hn => rw [hc] at hn; cases hn
  | leaf hs hn =>
    cases hv with
    | reference _ _ => cases hs
    | condition _ hc _ _ => rw [hc] at hn; cases hn
    | leaf _ _ => rfl

theorem of_string {id : String} (h : Unfolds store (.string id) u) :
    ∃ rule target, store.get? id = some rule ∧ Unfolds store rule.conditions target ∧
      u = .reference id target := by
  cases h with
  | reference hr ht => exact ⟨_, _, hr, ht, rfl⟩
  | condition hq _ _ _ => cases hq
  | leaf hs _ => cases hs

theorem of_children? {nodes : List Json} (h : Unfolds store node u)
    (hc : node.children? = some nodes) :
    ∃ q us, node.quantifier? = some q ∧ nodes.length = us.length ∧
      (∀ child u, (child, u) ∈ nodes.zip us → Unfolds store child u) ∧
      u = .condition q node us := by
  cases h with
  | reference _ _ => cases hc
  | condition hq hc' hl hus =>
    obtain rfl := Option.some.inj (hc.symm.trans hc')
    exact ⟨_, _, hq, hl, hus, rfl⟩
  | leaf _ hn => rw [hc] at hn; cases hn

/-- What can stand as a constraint is a leaf. -/
theorem of_leafFlaw? (h : Unfolds store node u) (hn : node.isCondition = false)
    (hf : node.leafFlaw? = none) : u = .leaf node := by
  cases h with
  | reference _ _ => cases hf
  | condition hq _ _ _ => rw [Json.isCondition_of_quantifier? hq] at hn; cases hn
  | leaf _ _ => rfl

theorem isCondition_eq_false (h : Unfolds store node u) (hc : node.children? = none) :
    u.isCondition = false := by
  cases h with
  | condition _ hc' _ _ => rw [hc] at hc'; cases hc'
  | _ => rfl

end Unfolds

namespace Unfolding

/-! ## Places -/

def node : Unfolding → Json
  | .reference id _ => .string id
  | .condition _ node _ => node
  | .leaf node => node

/-- The number of references above the first node that is none. -/
def hops : Unfolding → Nat
  | .reference _ target => target.hops + 1
  | _ => 0

/-- The first node that is no reference. -/
def core : Unfolding → Json
  | .reference _ target => target.core
  | .condition _ node _ => node
  | .leaf node => node

/-- `Visits ids depth u ids' depth' v`: a path from `u`, which lies below the references `ids` at the
given depth, leads to `v` below the references `ids'` at depth `depth'`. Only conditions add to the
depth. -/
inductive Visits : List String → Nat → Unfolding → List String → Nat → Unfolding → Prop
  | here {ids depth u} : Visits ids depth u ids depth u
  | target {ids depth id target ids' depth' v} :
      Visits (ids ++ [id]) depth target ids' depth' v →
      Visits ids depth (.reference id target) ids' depth' v
  | child {ids depth q node us c ids' depth' v} :
      c ∈ us → Visits ids (depth + 1) c ids' depth' v →
      Visits ids depth (.condition q node us) ids' depth' v

/-- Something holds at every place of an unfolding. -/
def Everywhere (P : List String → Nat → Unfolding → Prop) (ids : List String) (depth : Nat)
    (u : Unfolding) : Prop :=
  ∀ ids' depth' v, Visits ids depth u ids' depth' v → P ids' depth' v

variable {P Q : List String → Nat → Unfolding → Prop} {ids : List String} {depth : Nat}

theorem Everywhere.here {u : Unfolding} (h : u.Everywhere P ids depth) : P ids depth u :=
  h _ _ _ .here

theorem everywhere_reference {id : String} {target : Unfolding} :
    (Unfolding.reference id target).Everywhere P ids depth ↔
      P ids depth (.reference id target) ∧ target.Everywhere P (ids ++ [id]) depth := by
  constructor
  · exact fun h => ⟨h.here, fun _ _ _ hv => h _ _ _ (.target hv)⟩
  · rintro ⟨hp, ht⟩ _ _ _ hv
    cases hv with
    | here => exact hp
    | target hv => exact ht _ _ _ hv

theorem everywhere_condition {q : Quantifier} {node : Json} {us : List Unfolding} :
    (Unfolding.condition q node us).Everywhere P ids depth ↔
      P ids depth (.condition q node us) ∧ ∀ c ∈ us, c.Everywhere P ids (depth + 1) := by
  constructor
  · exact fun h => ⟨h.here, fun _ hc _ _ _ hv => h _ _ _ (.child hc hv)⟩
  · rintro ⟨hp, hus⟩ _ _ _ hv
    cases hv with
    | here => exact hp
    | child hc hv => exact hus _ hc _ _ _ hv

theorem everywhere_leaf {node : Json} :
    (Unfolding.leaf node).Everywhere P ids depth ↔ P ids depth (.leaf node) := by
  constructor
  · exact fun h => h.here
  · rintro hp _ _ _ hv
    cases hv
    exact hp

theorem everywhere_and {u : Unfolding} :
    u.Everywhere (fun ids depth v => P ids depth v ∧ Q ids depth v) ids depth ↔
      u.Everywhere P ids depth ∧ u.Everywhere Q ids depth := by
  constructor
  · exact fun h => ⟨fun _ _ _ hv => (h _ _ _ hv).1, fun _ _ _ hv => (h _ _ _ hv).2⟩
  · exact fun h _ _ _ hv => ⟨h.1 _ _ _ hv, h.2 _ _ _ hv⟩

end Unfolding

end RuleTree

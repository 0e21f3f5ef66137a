import RuleTree.Proofs.Execution

/-!
What a tree says of the node it was read from. `Json.Mirrors` goes through both side by side and knows
nothing of how trees are read: a string and the reference to it, an object with a branch and the
condition with as many children, any other object and the constraint it writes. A node has at most one
mirror (`Mirrors.unique`), and the trees of an accepted rule mirror its roots (`trees_mirror_of_accepted`).
-/

namespace RuleTree

open Inspection (Approved)

namespace Json

/-- A tree that says what a written node says, place by place. An object with a branch is a condition
whatever other keys it has. -/
inductive Mirrors : Json → Tree → Prop
  | reference {id} : Mirrors (.string id) (.reference id)
  | condition {node q nodes ts} :
      node.quantifier? = some q → node.get? q.key = some (.array nodes) →
      nodes.length = ts.length → (∀ child t, (child, t) ∈ nodes.zip ts → Mirrors child t) →
      Mirrors node (.condition q ts node.result?)
  | constraint {node c} :
      node.isObject = true → node.isCondition = false → node.Writes c →
      Mirrors node (.constraint c)

theorem Writes.unique {node : Json} {c d : Constraint} (hc : node.Writes c) (hd : node.Writes d) :
    c = d := by
  have hfield : c.field = d.field := by simpa using hc.field.symm.trans hd.field
  have hvalue : c.value = d.value := by simpa using hc.value.symm.trans hd.value
  have hoperator : c.operator = d.operator := by
    obtain ⟨name, hname, hop⟩ := hc.operator
    obtain ⟨name', hname', hop'⟩ := hd.operator
    obtain rfl : name = name' := by simpa using hname.symm.trans hname'
    exact Option.some.inj (hop.symm.trans hop')
  cases c
  cases d
  cases hfield
  cases hvalue
  cases hoperator
  rfl

theorem Writes.isObject {node : Json} {c : Constraint} (h : node.Writes c) : node.isObject = true := by
  obtain ⟨_, rfl, _⟩ := exists_of_get? h.field
  rfl

namespace Mirrors

variable {node : Json} {t u : Tree}

/-- A node is mirrored by one tree only. -/
theorem unique (ht : Mirrors node t) (hu : Mirrors node u) : t = u := by
  induction ht generalizing u with
  | reference =>
    cases hu with
    | reference => rfl
    | condition hq _ _ _ => cases hq
    | constraint ho _ _ => cases ho
  | @condition node q nodes ts hq hget hl _ ih =>
    cases hu with
    | reference => cases hq
    | @condition _ q' nodes' us hq' hget' hl' hus =>
      obtain rfl : q = q' := Option.some.inj (hq.symm.trans hq')
      obtain rfl : nodes = nodes' := by simpa using hget.symm.trans hget'
      have hchildren : ts = us :=
        eq_of_zip_unique hl hl' fun child t u ht hu => ih child t ht (hus child u hu)
      rw [hchildren]
    | constraint _ hn _ => rw [isCondition_of_quantifier? hq] at hn; cases hn
  | @constraint node c ho hn hw =>
    cases hu with
    | reference => cases ho
    | condition hq _ _ _ => rw [isCondition_of_quantifier? hq] at hn; cases hn
    | constraint _ _ hw' => rw [hw.unique hw']

end Mirrors

end Json

/-! ## Accepted rules -/

/-- An approved node is mirrored by the tree it is read as. -/
theorem Inspection.Approved.mirrors {store : Store} {limit : Nat} {role : Role}
    {chain : List String} {depth : Nat} {node : Json} (h : Approved store limit role chain depth node)
    {t : Tree} (ht : Tree.ofJson node = .ok t) : node.Mirrors t := by
  induction h generalizing t with
  | @condition role chain depth node nodes hd hf hc hn ih =>
    obtain ⟨q, hq, hget⟩ := Json.children?_eq_some_iff.mp hc
    obtain ⟨ts, hts, _, hread⟩ :=
      exists_condition_of_flawless hf hq hc fun child hm => (hn child hm).exists_tree
    obtain rfl := Except.ok.inj (hread.symm.trans ht)
    obtain ⟨hl, hpairs⟩ := List.forall₂_iff_zip.mp hts
    refine .condition hq hget hl fun child u hz => ?_
    have hm : child ∈ nodes := (List.of_mem_zip hz).1
    exact ih child hm (hpairs hz)
  | leaf hn hf =>
    obtain ⟨c, hw, _⟩ := Json.leafFlaw?_eq_none_iff.mp hf
    obtain rfl := Except.ok.inj ((Tree.ofJson_of_writes hn hw).symm.trans ht)
    exact .constraint hw.isObject hn hw
  | rootReference _ _ _ _ => cases ht; exact .reference
  | childReference _ _ _ _ => cases ht; exact .reference

namespace Store

/-- **Reading is faithful.** The roots of an accepted rule can be read, and the trees that come out mirror
them, which no other trees do. -/
theorem trees_mirror_of_accepted {store : Store} {limit : Nat} {rule : Rule}
    (h : (store.review limit rule).Accepted) :
    ∃ ts, rule.trees = .ok ts ∧ List.Forall₂ Json.Mirrors rule.roots ts ∧
      ∀ us, List.Forall₂ Json.Mirrors rule.roots us → us = ts := by
  obtain ⟨_, _, hroots⟩ := (accepted_review_iff store limit rule).mp h
  obtain ⟨ts, hts⟩ := exists_trees_of_accepted h
  have hread := (trees_eq_ok_iff ts).mp hts
  have hmirrors : List.Forall₂ Json.Mirrors rule.roots ts := by
    obtain ⟨hl, hpairs⟩ := List.forall₂_iff_zip.mp hread
    refine List.forall₂_iff_zip.mpr ⟨hl, fun {root t} hz => ?_⟩
    have hm : root ∈ rule.roots := (List.of_mem_zip hz).1
    exact (hroots root hm).mirrors (hpairs hz)
  refine ⟨ts, hts, hmirrors, fun us hus => ?_⟩
  have hunique : Relator.RightUnique Json.Mirrors := fun _ _ _ => Json.Mirrors.unique
  exact List.right_unique_forall₂' hunique hus hmirrors

/-- A condition that has the keys of a constraint, an unknown key and a result that is null, above a
reference and a constraint whose operator has its second name. -/
def mixedRule : Rule :=
  ⟨"r", "", .object [("all", .array [.string "adult", .object [("none", .array [.object
      [("field", .string "age"), ("operator", .string "less than or equal to"),
        ("value", .number (.int 17))]]), ("note", .bool true)]]),
    ("field", .string "age"), ("operator", .string "equals"), ("result", .null),
    ("value", .number (.int 1))], none⟩

theorem mixedRule_trees :
    (sampleStore.review 64 mixedRule).Accepted ∧
      ∃ ts, mixedRule.trees = .ok ts ∧ List.Forall₂ Json.Mirrors mixedRule.roots ts ∧
        ts = [.condition .all [.reference "adult", .condition .none [.constraint
          ⟨"age", .lessThanOrEqual, .number (.int 17)⟩] none] none] := by
  have h : (sampleStore.review 64 mixedRule).Accepted := ⟨_, rfl, rfl⟩
  obtain ⟨ts, hts, hmirrors, _⟩ := trees_mirror_of_accepted h
  exact ⟨h, ts, hts, hmirrors, Except.ok.inj (hts.symm.trans rfl)⟩

end Store

end RuleTree

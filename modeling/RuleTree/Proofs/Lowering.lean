import RuleTree.Proofs.Approval

/-!
Reading written nodes as trees. An approved node can always be read (`Approved.exists_tree`): strings
as references, conditions as conditions with their one branch, whatever other keys they have, and
everything else as constraints.
-/

namespace RuleTree

open Inspection

/-! ## Constraints -/

theorem Constraint.ofJson_of_writes {node : Json} {c : Constraint} (h : node.Writes c) :
    Constraint.ofJson node = .ok c := by
  obtain ⟨members, rfl, _⟩ := Json.exists_of_get? h.field
  obtain ⟨name, hname, hop⟩ := h.operator
  have hfield : Entries.get? "field" members = some (.string c.field) := h.field
  have hoperator : Entries.get? "operator" members = some (.string name) := hname
  have hvalue : Entries.get? "value" members = some c.value := h.value
  simp only [ofJson, hfield, hoperator, hvalue, Option.mapM_some, Json.text, Operator.ofJson,
    Operator.get?_words, hop]
  rfl

namespace Tree

/-! ## Branches -/

theorem listOf_eq_ok_iff (nodes : List Json) (ts : List Tree) :
    listOf nodes = .ok ts ↔ List.Forall₂ (fun node t => Tree.ofJson node = .ok t) nodes ts := by
  induction nodes generalizing ts with
  | nil => cases ts <;> simp [listOf]
  | cons node rest ih =>
    rw [listOf]
    simp only [RuleTree.bind_eq_ok_iff, ih]
    cases ts <;> simp [pure, Except.pure]

/-- Where no other quantifier has a key, only the branch of this one is read. -/
theorem branchesOf_of_only {q : Quantifier} {members : List (String × Json)}
    (h : ∀ other ∈ Quantifier.list, other.key ≠ q.key → Entries.get? other.key members = none) :
    branchesOf members =
      ((Entries.get? q.key members).map fun v => (q.key, branchOf v)).toList := by
  induction members with
  | nil => rfl
  | cons e rest ih =>
    obtain ⟨k, v⟩ := e
    simp only [Entries.get?_cons] at h ⊢
    have hrest : ∀ other ∈ Quantifier.list, other.key ≠ q.key →
        Entries.get? other.key rest = none := by
      intro other hm hne
      have ho := h other hm hne
      split at ho
      · cases ho
      · exact ho
    rw [branchesOf, ih hrest]
    split
    next hany =>
      obtain ⟨other, hm, hk⟩ := List.any_eq_true.mp hany
      obtain rfl : other.key = k := by simpa using hk
      have hq : other.key = q.key := by
        by_contra hne
        simpa using h other hm hne
      rw [if_pos hq, hq]
      cases Entries.get? q.key rest <;> simp [Entries.erase]
    next hany =>
      have hne : k ≠ q.key := by
        rintro rfl
        exact hany (List.any_eq_true.mpr ⟨q, by cases q <;> decide, by simp⟩)
      rw [if_neg hne]

theorem ofBranches_singleton (q : Quantifier) (ts : List Tree) (result : Option Json) :
    Condition.ofBranches [(q.key, some ts)] result = .ok ⟨q, ts, result⟩ := by
  cases q <;> rfl

end Tree

/-! ## Conditions -/

namespace Json

/-- A condition with one branch has the key of no other quantifier. -/
theorem get?_eq_none_of_branchCount {node : Json} {q : Quantifier} (h : node.branchCount = 1)
    (hq : node.hasKey q.key = true) (other : Quantifier) (hne : other.key ≠ q.key) :
    node.get? other.key = none := by
  have hm : q ∈ Quantifier.list.filter fun q => node.hasKey q.key :=
    List.mem_filter.mpr ⟨by cases q <;> decide, hq⟩
  obtain ⟨only, honly⟩ := List.length_eq_one_iff.mp h
  cases ho : node.get? other.key with
  | none => rfl
  | some v =>
    have hmo : other ∈ Quantifier.list.filter fun q => node.hasKey q.key :=
      List.mem_filter.mpr ⟨by cases other <;> decide, by simp [hasKey, ho]⟩
    rw [honly, List.mem_singleton] at hm hmo
    rw [hm, hmo] at hne
    exact absurd rfl hne

end Json

/-- A condition with one branch is read with the children that this branch holds. -/
theorem Condition.ofJson_of_children? {node : Json} {q : Quantifier} {nodes : List Json}
    {ts : List Tree} (hone : node.branchCount = 1) (hq : node.quantifier? = some q)
    (hc : node.children? = some nodes) (ht : Tree.listOf nodes = .ok ts) :
    Condition.ofJson node = .ok ⟨q, ts, node.result?⟩ := by
  obtain ⟨q', hq', hget⟩ := Json.children?_eq_some_iff.mp hc
  obtain rfl : q = q' := Option.some.inj (hq.symm.trans hq')
  obtain ⟨members, rfl, _⟩ := Json.exists_of_get? hget
  have honly := Json.get?_eq_none_of_branchCount (q := q) hone (by simp [Json.hasKey, hget])
  have hb : Tree.branchesOf members = [(q.key, .ok (some ts))] := by
    rw [Tree.branchesOf_of_only fun other _ => honly other]
    have hm : Entries.get? q.key members = some (.array nodes) := hget
    rw [hm]
    simp [Tree.branchOf, ht]
  rw [ofJson, ofObject, hb]
  exact Tree.ofBranches_singleton q ts _

/-- What can be read as a condition is read as that condition where any tree may stand. -/
theorem Tree.ofJson_of_condition {node : Json} {c : Condition} (h : Condition.ofJson node = .ok c) :
    Tree.ofJson node = .ok c.tree := by
  cases node with
  | object members =>
    rw [Condition.ofJson] at h
    rw [Tree.ofJson, h]
    rfl
  | array items =>
    rw [Condition.ofJson] at h
    rw [Tree.ofJson, h]
    rfl
  | _ => cases h

theorem Json.get?_eq_none_of_not_isCondition {node : Json} (h : node.isCondition = false)
    (q : Quantifier) : node.get? q.key = none := by
  have hfind : node.quantifier? = none := by simpa [Json.isCondition] using h
  have hq := List.find?_eq_none.mp hfind q (by cases q <;> decide)
  simpa [Json.hasKey] using hq

/-- An object without the key of a quantifier has no branch to read. -/
theorem Condition.ofJson_of_writes {node : Json} {c : Constraint} (hn : node.isCondition = false)
    (hw : node.Writes c) : Condition.ofJson node = .error .noBranch := by
  have hnone := Json.get?_eq_none_of_not_isCondition hn
  obtain ⟨members, rfl, _⟩ := Json.exists_of_get? hw.field
  have hb : Tree.branchesOf members = [] := by
    rw [Tree.branchesOf_of_only (q := .any) fun other _ _ => hnone other]
    have hm : Entries.get? Quantifier.any.key members = none := hnone .any
    rw [hm]
    rfl
  rw [ofJson, ofObject, hb]
  rfl

theorem Tree.ofJson_of_writes {node : Json} {c : Constraint} (hn : node.isCondition = false)
    (hw : node.Writes c) : Tree.ofJson node = .ok (.constraint c) := by
  have hcondition := Condition.ofJson_of_writes hn hw
  have hconstraint := Constraint.ofJson_of_writes hw
  obtain ⟨members, rfl, _⟩ := Json.exists_of_get? hw.field
  rw [Condition.ofJson] at hcondition
  rw [Tree.ofJson, hcondition, hconstraint]
  rfl

/-! ## Approved nodes -/

section Approved

variable {store : Store} {limit : Nat} {role : Role} {chain : List String} {depth : Nat}
  {node : Json} {nodes : List Json}

theorem exists_trees_of_forall_exists (h : ∀ node ∈ nodes, ∃ t, Tree.ofJson node = .ok t) :
    ∃ ts, List.Forall₂ (fun node t => Tree.ofJson node = .ok t) nodes ts := by
  induction nodes with
  | nil => exact ⟨[], .nil⟩
  | cons node rest ih =>
    obtain ⟨t, ht⟩ := h node List.mem_cons_self
    obtain ⟨ts, hts⟩ := ih fun other hm => h other (List.mem_cons_of_mem _ hm)
    exact ⟨t :: ts, .cons ht hts⟩

/-- A condition without a flaw whose children can be read is read as the condition with these
children. -/
theorem exists_condition_of_flawless {q : Quantifier} (hf : node.conditionFlaw? depth = none)
    (hq : node.quantifier? = some q) (hc : node.children? = some nodes)
    (ht : ∀ child ∈ nodes, ∃ t, Tree.ofJson child = .ok t) :
    ∃ ts, List.Forall₂ (fun child t => Tree.ofJson child = .ok t) nodes ts ∧
      Condition.ofJson node = .ok ⟨q, ts, node.result?⟩ ∧
      Tree.ofJson node = .ok (.condition q ts node.result?) := by
  obtain ⟨ts, hts⟩ := exists_trees_of_forall_exists ht
  have hone := (Json.conditionFlaw?_eq_none_iff.mp hf).1
  have hcondition :=
    Condition.ofJson_of_children? hone hq hc ((Tree.listOf_eq_ok_iff nodes ts).mpr hts)
  exact ⟨ts, hts, hcondition, Tree.ofJson_of_condition hcondition⟩

/-- **Approved nodes can be read.** -/
theorem Inspection.Approved.exists_tree (h : Approved store limit role chain depth node) :
    ∃ t, Tree.ofJson node = .ok t := by
  induction h with
  | condition _ hf hc _ ih =>
    obtain ⟨q, hq, _⟩ := Json.children?_eq_some_iff.mp hc
    obtain ⟨_, _, _, ht⟩ := exists_condition_of_flawless hf hq hc ih
    exact ⟨_, ht⟩
  | leaf hn hf =>
    obtain ⟨c, hw, _⟩ := Json.leafFlaw?_eq_none_iff.mp hf
    exact ⟨_, Tree.ofJson_of_writes hn hw⟩
  | rootReference _ _ _ _ => exact ⟨.reference _, rfl⟩
  | childReference _ _ _ _ => exact ⟨.reference _, rfl⟩

end Approved

end RuleTree

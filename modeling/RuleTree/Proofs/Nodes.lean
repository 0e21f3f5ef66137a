import RuleTree.Inspection

/-!
Written nodes by their keys: when a condition or a constraint has no flaw of its own
(`conditionFlaw?_eq_none_iff`, `leafFlaw?_eq_none_iff`), and induction from the children of a condition
to the condition (`children_induction`).
-/

namespace RuleTree

/-! ## Keys -/

namespace Entries

theorem mem_of_get? {α : Type} {key : String} {value : α} {entries : List (String × α)}
    (h : get? key entries = some value) : (key, value) ∈ entries := by
  induction entries with
  | nil => cases h
  | cons e rest ih =>
    obtain ⟨k, v⟩ := e
    rw [get?_cons] at h
    split at h
    · cases h; subst k; exact List.mem_cons_self
    · exact List.mem_cons_of_mem _ (ih h)

end Entries

namespace Json

theorem exists_of_get? {node value : Json} {key : String} (h : node.get? key = some value) :
    ∃ members, node = .object members ∧ (key, value) ∈ members := by
  cases node with
  | object members => exact ⟨members, rfl, Entries.mem_of_get? h⟩
  | _ => cases h

theorem get?_of_hasKey {node : Json} {key : String} (h : node.hasKey key = true) :
    node.get? key = some (node.getD key) := by
  obtain ⟨value, hv⟩ := Option.isSome_iff_exists.mp h
  rw [getD, hv, Option.getD_some]

/-! ## Conditions -/

theorem isCondition_of_quantifier? {node : Json} {q : Quantifier}
    (h : node.quantifier? = some q) : node.isCondition = true := by
  simp [isCondition, h]

theorem get?_of_quantifier? {node : Json} {q : Quantifier} (h : node.quantifier? = some q) :
    node.get? q.key = some (node.getD q.key) := by
  have hk := List.find?_some h
  exact get?_of_hasKey hk

theorem isCondition_iff_branchCount_pos (node : Json) :
    node.isCondition = true ↔ 0 < node.branchCount := by
  simp only [isCondition, quantifier?, branchCount, List.find?_isSome, List.length_pos_iff_exists_mem,
    List.mem_filter]

/-- Only objects are conditions. -/
theorem exists_of_isCondition {node : Json} (h : node.isCondition = true) :
    ∃ members, node = .object members := by
  obtain ⟨q, hq⟩ := Option.isSome_iff_exists.mp h
  obtain ⟨members, rfl, _⟩ := exists_of_get? (get?_of_quantifier? hq)
  exact ⟨members, rfl⟩

theorem isString_eq_false_of_isCondition {node : Json} (h : node.isCondition = true) :
    node.isString = false := by
  obtain ⟨_, rfl⟩ := exists_of_isCondition h
  rfl

theorem exists_of_isString {node : Json} (h : node.isString = true) : ∃ id, node = .string id := by
  cases node with
  | string id => exact ⟨id, rfl⟩
  | _ => cases h

theorem asString?_of_not_isString {node : Json} (h : node.isString = false) :
    node.asString? = none := by
  cases node with
  | string id => cases h
  | _ => rfl

theorem asArray?_eq_some_iff {value : Json} {items : List Json} :
    value.asArray? = some items ↔ value = .array items := by
  cases value <;> simp [asArray?]

theorem children?_eq_some_iff {node : Json} {nodes : List Json} :
    node.children? = some nodes ↔
      ∃ q, node.quantifier? = some q ∧ node.get? q.key = some (.array nodes) := by
  simp only [children?, Option.bind_eq_some_iff, asArray?_eq_some_iff]
  constructor
  · rintro ⟨q, hq, h⟩
    exact ⟨q, hq, by rw [get?_of_quantifier? hq, h]⟩
  · rintro ⟨q, hq, h⟩
    exact ⟨q, hq, by rw [getD, h, Option.getD_some]⟩

theorem isCondition_of_children? {node : Json} {nodes : List Json}
    (h : node.children? = some nodes) : node.isCondition = true := by
  obtain ⟨q, hq, _⟩ := children?_eq_some_iff.mp h
  exact isCondition_of_quantifier? hq

/-- A condition has no flaw of its own if it has one branch, children in it, and below the root no
result. -/
theorem conditionFlaw?_eq_none_iff {node : Json} {depth : Nat} :
    node.conditionFlaw? depth = none ↔
      node.branchCount = 1 ∧ (∃ nodes, node.children? = some nodes ∧ nodes ≠ []) ∧
        (0 < depth → node.hasKey "result" = false) := by
  have hpos := isCondition_iff_branchCount_pos node
  unfold conditionFlaw?
  split
  · simp_all
  · split
    · simp; omega
    · have hone : node.branchCount = 1 := by simp_all; omega
      cases hc : node.children? with
      | none => simp
      | some nodes =>
        by_cases hd : 0 < depth
        · cases hr : node.hasKey "result" <;> simp [hone, hd]
        · simp [hone, hd]

/-- What a condition answers where it holds: its result, unless that is null. -/
def result? (node : Json) : Option Json :=
  (node.get? "result").bind nonNull?

theorem sizeOf_lt_of_mem_children {node child : Json} {nodes : List Json}
    (h : node.children? = some nodes) (hc : child ∈ nodes) : sizeOf child < sizeOf node := by
  obtain ⟨q, _, hget⟩ := children?_eq_some_iff.mp h
  obtain ⟨members, rfl, hmem⟩ := exists_of_get? hget
  have h1 := List.sizeOf_lt_of_mem hc
  have h2 := List.sizeOf_lt_of_mem hmem
  simp only [Prod.mk.sizeOf_spec, array.sizeOf_spec] at h2
  simp only [object.sizeOf_spec]
  omega

/-- Induction over a written node with a hypothesis for every child of a condition. -/
theorem children_induction {P : Json → Prop}
    (step : ∀ node, (∀ nodes, node.children? = some nodes → ∀ child ∈ nodes, P child) → P node)
    (node : Json) : P node :=
  step node fun _ _h child _hc => children_induction step child
termination_by sizeOf node
decreasing_by exact sizeOf_lt_of_mem_children _h _hc

/-- The written nodes in a node: itself, and those in what stands in the lists of its branches. -/
inductive HasNode : Json → Json → Prop
  | self {node} : HasNode node node
  | inside {node q nodes child other} :
      node.get? (Quantifier.key q) = some (.array nodes) → child ∈ nodes → HasNode child other →
      HasNode node other

theorem HasNode.of_children? {node child other : Json} {nodes : List Json}
    (hc : node.children? = some nodes) (hm : child ∈ nodes) (h : child.HasNode other) :
    node.HasNode other := by
  obtain ⟨_, _, hget⟩ := children?_eq_some_iff.mp hc
  exact .inside hget hm h

/-! ## Constraints -/

/-- A node holds the field, an operator by one of its names, and the value of a constraint. -/
structure Writes (node : Json) (c : Constraint) : Prop where
  field : node.get? "field" = some (.string c.field)
  operator : ∃ name, node.get? "operator" = some (.string name) ∧
    Operator.ofName? name = some c.operator
  value : node.get? "value" = some c.value

end Json

/-- The value of a constraint fits its operator: an array or a pattern where one is asked for. -/
structure Constraint.Sound (c : Constraint) : Prop where
  isArray : c.operator.needsArray = true → c.value.isArray = true
  isPattern : c.operator.needsPattern = true → (Pattern.compile c.value.plainText).isSome = true

theorem Constraint.valueFlaw_eq_none_iff (c : Constraint) :
    (if c.operator.needsArray && !c.value.isArray then some (Flaw.valueNotArray c.operator)
      else if c.operator.needsPattern && (Pattern.compile c.value.plainText).isNone then
        some (Flaw.badPattern c.operator)
      else none) = none ↔ c.Sound := by
  constructor
  · intro h
    split at h
    · cases h
    next ha =>
      split at h
      · cases h
      next hp =>
        exact ⟨fun h => by simpa [h] using ha, fun h => by simpa [h, Option.isSome_iff_ne_none] using hp⟩
  · intro hs
    rw [if_neg, if_neg]
    · cases hp : c.operator.needsPattern
      · simp
      · simpa [Option.isSome_iff_ne_none] using hs.isPattern hp
    · cases ha : c.operator.needsArray
      · simp
      · simpa using hs.isArray ha

namespace Json

theorem Writes.isConstraint {node : Json} {c : Constraint} (h : node.Writes c) :
    node.isConstraint = true := by
  obtain ⟨name, hname, _⟩ := h.operator
  simp [Json.isConstraint, hasKey, h.field, hname, h.value]

theorem get?_of_isConstraint {node : Json} (h : node.isConstraint = true) :
    node.get? "field" = some (node.getD "field") ∧
      node.get? "operator" = some (node.getD "operator") ∧
      node.get? "value" = some (node.getD "value") := by
  simp only [Json.isConstraint, Bool.and_eq_true] at h
  exact ⟨get?_of_hasKey h.1.1, get?_of_hasKey h.1.2, get?_of_hasKey h.2⟩

theorem exists_of_constraintFlaw? {node : Json} (h : node.constraintFlaw? = none) :
    ∃ field name operator, node.getD "field" = .string field ∧
      node.getD "operator" = .string name ∧ Operator.ofName? name = some operator ∧
      (Constraint.mk field operator (node.getD "value")).Sound := by
  unfold constraintFlaw? at h
  split at h
  · cases h
  next hfield =>
    split at h
    next name hname =>
      split at h
      · cases h
      next operator hop =>
        obtain ⟨field, hf⟩ := exists_of_isString (by simpa using hfield)
        have hs := (Constraint.valueFlaw_eq_none_iff ⟨field, operator, node.getD "value"⟩).mp h
        exact ⟨field, name, operator, hf, hname, hop, hs⟩
    · cases h

/-- A leaf has no flaw if it is a constraint whose value fits its operator. -/
theorem leafFlaw?_eq_none_iff {node : Json} :
    node.leafFlaw? = none ↔ ∃ c, node.Writes c ∧ c.Sound := by
  constructor
  · intro h
    unfold leafFlaw? at h
    split at h
    next hc =>
      obtain ⟨hfield, hoperator, hvalue⟩ := get?_of_isConstraint hc
      obtain ⟨field, name, operator, hf, hn, hop, hs⟩ := exists_of_constraintFlaw? h
      rw [hf] at hfield
      rw [hn] at hoperator
      exact ⟨_, ⟨hfield, ⟨name, hoperator, hop⟩, hvalue⟩, hs⟩
    · cases h
  · rintro ⟨c, hw, hs⟩
    obtain ⟨name, hname, hop⟩ := hw.operator
    simp only [leafFlaw?, hw.isConstraint, if_true, constraintFlaw?, getD, hw.field, hname, hw.value,
      Option.getD_some, isString, hop]
    exact c.valueFlaw_eq_none_iff.mpr hs

end Json

end RuleTree

import RuleTree.Proofs.Influence
import RuleTree.Proofs.RootLists

/-!
Which fault a review reports. The walk over a root, with references followed, makes a list of stops: the
depths of conditions, the references, the conditions and the leaves, in the order in which they are come
to (`Inspection.tour`). The list goes on behind a fault, and says nothing about faults. What is amiss at a
stop is said by `Stop.Fails` and `Stop.Breaks`, one constructor for each way. The review then comes to
whatever is amiss at the first stop where something is (`Inspection.outcome_root`), and of the rules that a
node breaks it names the first (`Store.review_names_first_fault`).
-/

namespace RuleTree

/-! ## The walk -/

namespace Json

/-- The nodes in the list of a condition's branch; none where there is no such list. -/
def parts (node : Json) : List Json :=
  node.children?.getD []

theorem parts_of_children? {node : Json} {nodes : List Json} (h : node.children? = some nodes) :
    node.parts = nodes := by
  rw [parts, h, Option.getD_some]

theorem children?_of_mem_parts {node child : Json} (h : child ∈ node.parts) :
    node.children? = some node.parts := by
  cases hc : node.children? with
  | none =>
    rw [parts, hc] at h
    cases h
  | some nodes => rw [parts_of_children? hc]

theorem sizeOf_lt_of_mem_parts {node child : Json} (h : child ∈ node.parts) :
    sizeOf child < sizeOf node :=
  sizeOf_lt_of_mem_children (children?_of_mem_parts h) h

end Json

namespace Inspection

/-- A point of a walk where something has to be in order. -/
inductive Stop
  /-- A condition, or a reference in its place, lies at the depth. -/
  | level (depth : Nat)
  /-- The id is referred to inside the chain of rules. -/
  | reference (chain : List String) (id : String)
  /-- The node stands where a condition has to be, at the depth. -/
  | condition (depth : Nat) (node : Json)
  /-- The node stands among children and is no condition. -/
  | leaf (node : Json)

/-- The stops in the rule that a reference stands for, in some role at some depth. -/
abbrev Detour := String → Role → Nat → List Stop

section Tour

variable (chain : List String) (detour : Detour)

/-- The stops at a node that stands among children and is no reference. Those of the walk from it as a
condition are given. -/
def childStops (node : Json) (inside : List Stop) : List Stop :=
  if node.isCondition then inside else [.leaf node]

/-- The stops at a node that stands among children. -/
def itemStops (depth : Nat) (node : Json) (inside : List Stop) : List Stop :=
  match node with
  | .string id => .reference chain id :: detour id .child depth
  | other => childStops other inside

/-- The stops of the walk from a condition at some depth, or from a reference in its place: first the
depth, then what stands there, then its children from left to right. -/
def tour (depth : Nat) (node : Json) : List Stop :=
  .level depth :: match node.asString? with
    | some id => .reference chain id :: detour id .root depth
    | none => .condition depth node :: node.parts.attach.flatMap fun child =>
      itemStops chain detour depth child.1 (tour (depth + 1) child.1)
termination_by sizeOf node
decreasing_by exact Json.sizeOf_lt_of_mem_parts child.2

/-- The stops at a node that stands among children of a condition at the depth. -/
def itemTour (depth : Nat) (node : Json) : List Stop :=
  itemStops chain detour depth node (tour chain detour (depth + 1) node)

theorem tour_string (depth : Nat) (id : String) :
    tour chain detour depth (.string id) =
      .level depth :: .reference chain id :: detour id .root depth := by
  rw [tour]
  rfl

theorem tour_of_not_string {depth : Nat} {node : Json} (h : node.isString = false) :
    tour chain detour depth node =
      .level depth :: .condition depth node :: node.parts.flatMap (itemTour chain detour depth) := by
  rw [tour, Json.asString?_of_not_isString h,
    List.flatMap_subtype (g := itemTour chain detour depth) fun _ _ => rfl, List.unattach_attach]

theorem itemTour_of_not_string {depth : Nat} {node : Json} (h : node.isString = false) :
    itemTour chain detour depth node = childStops node (tour chain detour (depth + 1) node) := by
  cases node with
  | string id => cases h
  | _ => rfl

end Tour

def visitStops (store : Store) (chain : List String) (detour : Detour) (id : String) (role : Role)
    (depth : Nat) : List Stop :=
  match store.get? id with
  | none => []
  | some rule =>
    match role with
    | .root => tour chain detour depth rule.conditions
    | .child => childStops rule.conditions (tour chain detour (depth + 1) rule.conditions)

/-- The stops in the rule that a reference inside a chain stands for; none where it cannot be
followed. -/
def detour (store : Store) (limit : Nat) (chain : List String) : Detour :=
  Expansion.expand limit (fun _ _ _ => []) (visitStops store) chain

def rootTour (store : Store) (limit : Nat) (origin : Option String) (node : Json) : List Stop :=
  let chain := Expansion.start origin
  tour chain (detour store limit chain) 0 node

theorem detour_eq (store : Store) (limit : Nat) (chain : List String) (id : String) (role : Role)
    (depth : Nat) :
    detour store limit chain id role depth =
      match Expansion.enter limit chain id with
      | .error _ => []
      | .ok inner => visitStops store inner (detour store limit inner) id role depth := by
  rw [detour, Expansion.expand_eq]
  cases Expansion.enter limit chain id <;> rfl

/-! ## What may be amiss -/

namespace Stop

def node? : Stop → Option Json
  | .condition _ node | .leaf node => some node
  | .level _ | .reference .. => none

inductive Fails (store : Store) (limit : Nat) : Stop → Failure → Prop
  | tooDeep {depth} : limit < depth → Fails store limit (.level depth) (.tooDeep limit)
  | cycle {chain id} :
      id ∈ chain → Fails store limit (.reference chain id) (.referenceCycle (chain ++ [id]))
  | chainTooLong {chain id} :
      id ∉ chain → limit ≤ chain.length → Fails store limit (.reference chain id) (.tooDeep limit)
  | missing {chain id} :
      id ∉ chain → chain.length < limit → store.get? id = none →
      Fails store limit (.reference chain id) (.notFound id)

/-- The node at a stop breaks a rule for nodes. Each rule is stated without regard to the others. -/
inductive Breaks : Stop → Flaw → Prop
  | notCondition {depth node} :
      node.isCondition = false → Breaks (.condition depth node) .notCondition
  | severalBranches {depth node} :
      1 < node.branchCount → Breaks (.condition depth node) .severalBranches
  | branchNotArray {depth node} :
      node.children? = none → Breaks (.condition depth node) .branchNotArray
  | nestedResult {depth node} :
      0 < depth → node.hasKey "result" = true → Breaks (.condition depth node) .nestedResult
  | emptyBranch {depth node} :
      node.children? = some [] → Breaks (.condition depth node) .emptyBranch
  | notNode {node} : node.isConstraint = false → Breaks (.leaf node) .notNode
  | fieldNotString {node} :
      (node.getD "field").isString = false → Breaks (.leaf node) .fieldNotString
  | operatorNotString {node} :
      (node.getD "operator").isString = false → Breaks (.leaf node) .operatorNotString
  | unknownOperator {node name} :
      node.getD "operator" = .string name → Operator.ofName? name = none →
      Breaks (.leaf node) (.unknownOperator name)
  | valueNotArray {node name operator} :
      node.getD "operator" = .string name → Operator.ofName? name = some operator →
      operator.needsArray = true → (node.getD "value").isArray = false →
      Breaks (.leaf node) (.valueNotArray operator)
  | badPattern {node name operator} :
      node.getD "operator" = .string name → Operator.ofName? name = some operator →
      operator.needsPattern = true → Pattern.compile (node.getD "value").plainText = none →
      Breaks (.leaf node) (.badPattern operator)

/-- Nothing is amiss at a stop. -/
structure Clear (store : Store) (limit : Nat) (stop : Stop) : Prop where
  follows : ∀ e, ¬ stop.Fails store limit e
  keeps : ∀ flaw, ¬ stop.Breaks flaw

end Stop

end Inspection

/-- Where a rule for nodes stands in the order of the rules. -/
def Flaw.rank : Flaw → Nat
  | .notRule => 0
  | .noConditions => 1
  | .notCondition => 2
  | .severalBranches => 3
  | .branchNotArray => 4
  | .nestedResult => 5
  | .emptyBranch => 6
  | .notNode => 7
  | .fieldNotString => 8
  | .operatorNotString | .unknownOperator _ => 9
  | .valueNotArray _ => 10
  | .badPattern _ => 11

namespace Inspection

/-- The first of the rules that the node at a stop breaks. -/
structure Stop.FirstBroken (stop : Stop) (flaw : Flaw) : Prop where
  broken : stop.Breaks flaw
  first : ∀ other, stop.Breaks other → flaw.rank ≤ other.rank

end Inspection

/-! ## What is said of a flaw -/

namespace Operator

theorem quote_notMem_name (op : Operator) : '\'' ∉ op.name.toList := by
  cases op <;> decide

/-- A name ends at the quote behind it. -/
theorem quoted_name_inj {op other : Operator} {s t : List Char}
    (h : op.name.toList ++ '\'' :: s = other.name.toList ++ '\'' :: t) : op = other ∧ s = t := by
  have hcut (o : Operator) (r : List Char) :
      (o.name.toList ++ '\'' :: r).takeWhile (· ≠ '\'') = o.name.toList := by
    have hname : ∀ c ∈ o.name.toList, decide (c ≠ '\'') = true := fun c hc =>
      decide_eq_true (ne_of_mem_of_not_mem hc o.quote_notMem_name)
    rw [List.takeWhile_append_of_pos hname, List.takeWhile_cons_of_neg (by decide), List.append_nil]
  obtain rfl : op = other := by
    apply name_inj
    rw [← String.toList_inj, ← hcut op s, h, hcut]
  exact ⟨rfl, List.tail_eq_of_cons_eq (List.append_cancel_left h)⟩

end Operator

/-- The text says of an element that it has the flaw. What is wrong with a pattern is left open. -/
inductive Flaw.Says : Flaw → String → Prop
  | notRule : Says .notRule "rule must be a valid object"
  | noConditions : Says .noConditions "conditions must contain at least one condition"
  | notCondition : Says .notCondition "invalid condition structure"
  | severalBranches : Says .severalBranches "cannot have more than one any/all/none"
  | branchNotArray : Says .branchNotArray "condition branch must be iterable"
  | nestedResult : Says .nestedResult "nested conditions cannot have a result property"
  | emptyBranch : Says .emptyBranch "condition branch must contain at least one node"
  | notNode : Says .notNode "each node must be a condition or constraint"
  | fieldNotString : Says .fieldNotString "constraint field must be a string"
  | operatorNotString : Says .operatorNotString "constraint operator must be a string"
  | unknownOperator {name} : Says (.unknownOperator name) ("unknown operator '" ++ name ++ "'")
  | valueNotArray {operator} :
      Says (.valueNotArray operator) ("operator '" ++ operator.name ++ "' requires a sequence value")
  | badPattern {operator} (words : String) :
      Says (.badPattern operator)
        ("operator '" ++ operator.name ++ "' requires a valid pattern: " ++ words)

namespace Flaw

theorem says_message (flaw : Flaw) : flaw.Says flaw.message := by
  cases flaw with
  | badPattern operator =>
    have hend : "' requires a valid pattern: <regex error>" =
        "' requires a valid pattern: " ++ "<regex error>" := rfl
    rw [message, hend, ← String.append_assoc]
    exact .badPattern _
  | _ => constructor

/-- A text says one flaw of an element, and no other. -/
theorem Says.unique {flaw other : Flaw} {m : String} (h : flaw.Says m) (h' : other.Says m) :
    flaw = other := by
  generalize hm : m = text at h'
  cases h <;> cases h'
  case unknownOperator.unknownOperator => simpa using hm
  case valueNotArray.valueNotArray => exact congrArg _ (Operator.name_inj (by simpa using hm))
  case badPattern.badPattern | valueNotArray.badPattern | badPattern.valueNotArray =>
    simp only [← String.toList_inj, String.toList_append, String.reduceToList, List.cons_append,
      List.nil_append, List.append_assoc, List.cons.injEq, true_and] at hm
    obtain ⟨rfl, hrest⟩ := Operator.quoted_name_inj hm
    -- The names agree, so what is left are two texts of one kind, or two that differ behind the name.
    first | rfl | cases hrest
  -- Of any others, the texts differ before a name comes, unless the flaws are the same.
  all_goals first | rfl | simp [← String.toList_inj] at hm

end Flaw

namespace Inspection

/-! ## What is found amiss -/

namespace Stop

variable {store : Store} {limit : Nat} {stop : Stop} {flaw : Flaw}

def flaw? : Stop → Option Flaw
  | .condition depth node => node.conditionFlaw? depth
  | .leaf node => node.leafFlaw?
  | .level _ | .reference .. => none

def failure? (store : Store) (limit : Nat) : Stop → Option Failure
  | .level depth => if limit < depth then some (.tooDeep limit) else none
  | .reference chain id =>
    match Expansion.enter limit chain id, store.get? id with
    | .error e, _ => some e
    | .ok _, none => some (.notFound id)
    | .ok _, some _ => none
  | .condition .. | .leaf _ => none

theorem failure?_eq_some_iff {e : Failure} :
    stop.failure? store limit = some e ↔ stop.Fails store limit e := by
  constructor
  · intro h
    cases stop with
    | level depth =>
      simp only [failure?] at h
      split at h
      next hd => cases h; exact .tooDeep hd
      next => cases h
    | reference chain id =>
      simp only [failure?, Expansion.enter] at h
      by_cases hmem : id ∈ chain
      · simp only [hmem, if_true, Option.some.injEq] at h
        subst h
        exact .cycle hmem
      · by_cases hfull : limit ≤ chain.length
        · simp only [hmem, hfull, if_true, if_false, Option.some.injEq] at h
          subst h
          exact .chainTooLong hmem hfull
        · simp only [hmem, hfull, if_false] at h
          cases hget : store.get? id with
          | none =>
            simp only [hget, Option.some.injEq] at h
            subst h
            exact .missing hmem (Nat.lt_of_not_le hfull) hget
          | some rule => simp [hget] at h
    | condition depth node => cases h
    | leaf node => cases h
  · intro h
    cases h with
    | tooDeep hd => simp [failure?, hd]
    | cycle hmem => simp [failure?, Expansion.enter, hmem]
    | chainTooLong hmem hfull => simp [failure?, Expansion.enter, hmem, hfull]
    | missing hmem hroom hget =>
      simp [failure?, Expansion.enter, hmem, Nat.not_le.mpr hroom, hget]

/-- A node breaks no two rules of the same place in the order. -/
theorem Breaks.eq_of_rank {other : Flaw} (h : stop.Breaks flaw) (ho : stop.Breaks other)
    (hr : flaw.rank = other.rank) : flaw = other := by
  cases h <;> cases ho <;> simp_all [Flaw.rank, Json.isString]

theorem firstBroken_of_conditionFlaw? {depth : Nat} {node : Json}
    (h : node.conditionFlaw? depth = some flaw) : (condition depth node).FirstBroken flaw := by
  unfold Json.conditionFlaw? at h
  split at h
  next hc =>
    cases h
    refine ⟨.notCondition (by simpa using hc), fun other ho => ?_⟩
    cases ho <;> simp [Flaw.rank]
  next hc =>
    split at h
    next hb =>
      cases h
      refine ⟨.severalBranches hb, fun other ho => ?_⟩
      cases ho <;> simp_all [Flaw.rank]
    next hb =>
      split at h
      next hn =>
        cases h
        refine ⟨.branchNotArray hn, fun other ho => ?_⟩
        cases ho <;> simp_all [Flaw.rank]
      next nodes hn =>
        split at h
        next hr =>
          cases h
          refine ⟨.nestedResult hr.1 hr.2, fun other ho => ?_⟩
          cases ho <;> simp_all [Flaw.rank]
        next hr =>
          split at h
          next he =>
            cases h
            obtain rfl : nodes = [] := by simpa using he
            refine ⟨.emptyBranch hn, fun other ho => ?_⟩
            cases ho <;> simp_all [Flaw.rank]
          next => cases h

theorem firstBroken_of_leafFlaw? {node : Json} (h : node.leafFlaw? = some flaw) :
    (leaf node).FirstBroken flaw := by
  rw [Json.leafFlaw?] at h
  split at h
  next hn =>
    rw [Json.constraintFlaw?] at h
    split at h
    next hf =>
      cases h
      refine ⟨.fieldNotString (by simpa using hf), fun other ho => ?_⟩
      cases ho <;> simp_all [Flaw.rank]
    next hf =>
      split at h
      next name hname =>
        split at h
        next hop =>
          cases h
          refine ⟨.unknownOperator hname hop, fun other ho => ?_⟩
          cases ho <;> simp_all [Flaw.rank]
        next operator hop =>
          simp only at h
          split at h
          next ha =>
            cases h
            simp only [Bool.and_eq_true, Bool.not_eq_true'] at ha
            refine ⟨.valueNotArray hname hop ha.1 ha.2, fun other ho => ?_⟩
            cases ho <;> simp_all [Flaw.rank, Json.isString]
          next ha =>
            split at h
            next hp =>
              cases h
              simp only [Bool.and_eq_true, Option.isNone_iff_eq_none] at hp
              refine ⟨.badPattern hname hop hp.1 hp.2, fun other ho => ?_⟩
              cases ho <;> simp_all [Flaw.rank, Json.isString]
            next => cases h
      next hname =>
        cases h
        refine ⟨.operatorNotString ?_, fun other ho => ?_⟩
        · cases hv : node.getD "operator" with
          | string name => exact absurd hv (hname name)
          | _ => rfl
        · cases ho <;> simp_all [Flaw.rank]
  next hn =>
    cases h
    refine ⟨.notNode (by simpa using hn), fun other ho => ?_⟩
    cases ho <;> simp [Flaw.rank]

theorem firstBroken_of_flaw? (h : stop.flaw? = some flaw) : stop.FirstBroken flaw := by
  cases stop with
  | level depth => cases h
  | reference chain id => cases h
  | condition depth node => exact firstBroken_of_conditionFlaw? h
  | leaf node => exact firstBroken_of_leafFlaw? h

theorem not_breaks_of_flaw? (h : stop.flaw? = none) (flaw : Flaw) : ¬ stop.Breaks flaw := by
  intro hb
  cases stop with
  | level depth => cases hb
  | reference chain id => cases hb
  | condition depth node =>
    obtain ⟨hcount, ⟨nodes, hnodes, hne⟩, hresult⟩ := Json.conditionFlaw?_eq_none_iff.mp h
    have hc := Json.isCondition_of_children? hnodes
    cases hb with
    | notCondition hn => simp [hc] at hn
    | severalBranches hn => omega
    | branchNotArray hn => simp [hnodes] at hn
    | nestedResult hd hr => simp [hresult hd] at hr
    | emptyBranch hn => simp_all
  | leaf node =>
    obtain ⟨c, hw, hs⟩ := Json.leafFlaw?_eq_none_iff.mp h
    obtain ⟨name, hname, hop⟩ := hw.operator
    have hfield : node.getD "field" = .string c.field := by rw [Json.getD, hw.field, Option.getD_some]
    have hnamed : node.getD "operator" = .string name := by rw [Json.getD, hname, Option.getD_some]
    have hvalue : node.getD "value" = c.value := by rw [Json.getD, hw.value, Option.getD_some]
    cases hb with
    | notNode hn => simp [hw.isConstraint] at hn
    | fieldNotString hn => simp [hfield, Json.isString] at hn
    | operatorNotString hn => simp [hnamed, Json.isString] at hn
    | unknownOperator hn hnone => simp_all
    | valueNotArray hn ho hneeds ha =>
      have := hs.isArray
      simp_all
    | badPattern hn ho hneeds hp =>
      have := hs.isPattern
      simp_all

theorem flaw?_eq_some_iff : stop.flaw? = some flaw ↔ stop.FirstBroken flaw := by
  refine ⟨firstBroken_of_flaw?, fun h => ?_⟩
  cases hf : stop.flaw? with
  | none => exact absurd h.broken (not_breaks_of_flaw? hf flaw)
  | some other =>
    have ho := firstBroken_of_flaw? hf
    have hrank : other.rank = flaw.rank :=
      Nat.le_antisymm (ho.first flaw h.broken) (h.first other ho.broken)
    rw [ho.broken.eq_of_rank h.broken hrank]

/-- What is reported at a stop where something is amiss. -/
def trouble? (store : Store) (limit : Nat) (stop : Stop) : Option (Except Failure Defect) :=
  match stop.failure? store limit, stop.flaw?, stop.node? with
  | some e, _, _ => some (.error e)
  | none, some flaw, some node => some (.ok ⟨flaw.message, node⟩)
  | none, _, _ => none

theorem trouble?_of_no_flaw (hf : stop.failure? store limit = none) (h : stop.flaw? = none) :
    stop.trouble? store limit = none := by
  rw [trouble?, hf, h]

/-- Where there is a flaw stands a node, and there the walk does not fail. -/
theorem trouble?_of_flaw? (store : Store) (limit : Nat) (h : stop.flaw? = some flaw) :
    ∃ node, stop.node? = some node ∧ stop.trouble? store limit = some (.ok ⟨flaw.message, node⟩) := by
  cases stop with
  | level depth => cases h
  | reference chain id => cases h
  | condition depth node => exact ⟨node, rfl, by simp only [trouble?, failure?, h, node?]⟩
  | leaf node => exact ⟨node, rfl, by simp only [trouble?, failure?, h, node?]⟩

theorem trouble?_eq_error_iff {e : Failure} :
    stop.trouble? store limit = some (.error e) ↔ stop.Fails store limit e := by
  rw [← failure?_eq_some_iff, trouble?]
  cases stop.failure? store limit with
  | some e => simp
  | none => cases stop.flaw? <;> cases stop.node? <;> simp

theorem trouble?_eq_ok_iff {d : Defect} :
    stop.trouble? store limit = some (.ok d) ↔
      ∃ flaw, stop.FirstBroken flaw ∧ stop.node? = some d.element ∧ d.message = flaw.message := by
  simp only [← flaw?_eq_some_iff]
  constructor
  · intro h
    cases hf : stop.flaw? with
    | none => cases hfail : stop.failure? store limit <;> simp [trouble?, hf, hfail] at h
    | some flaw =>
      obtain ⟨node, hnode, ht⟩ := trouble?_of_flaw? store limit hf
      rw [ht] at h
      cases h
      exact ⟨flaw, rfl, hnode, rfl⟩
  · rintro ⟨flaw, hf, hnode, hm⟩
    obtain ⟨node, hother, ht⟩ := trouble?_of_flaw? store limit hf
    rw [hnode] at hother
    cases hother
    rw [ht, ← hm]

theorem trouble?_eq_none_iff : stop.trouble? store limit = none ↔ stop.Clear store limit := by
  constructor
  · intro h
    refine ⟨fun e he => ?_, fun flaw => not_breaks_of_flaw? ?_ flaw⟩
    · rw [trouble?_eq_error_iff.mpr he] at h
      cases h
    · cases hf : stop.flaw? with
      | none => rfl
      | some flaw =>
        obtain ⟨_, _, ht⟩ := trouble?_of_flaw? store limit hf
        rw [ht] at h
        cases h
  · intro h
    cases ht : stop.trouble? store limit with
    | none => rfl
    | some trouble =>
      cases trouble with
      | error e => exact absurd (trouble?_eq_error_iff.mp ht) (h.follows e)
      | ok d =>
        obtain ⟨flaw, hf, _⟩ := trouble?_eq_ok_iff.mp ht
        exact absurd hf.broken (h.keeps flaw)

end Stop

/-! ## The review as a walk -/

section Judge

variable (store : Store) (limit : Nat)

/-- What a walk comes to that ends at the first stop where something is amiss. -/
def judge (stops : List Stop) : Except Failure Review :=
  match stops.findSome? (Stop.trouble? store limit) with
  | none => .ok .ok
  | some trouble => trouble.map fun d => .refused d.message d.element

theorem judge_append (stops others : List Stop) :
    judge store limit (stops ++ others) = (judge store limit stops >>= fun review =>
      if review.accepted then judge store limit others else .ok review) := by
  simp only [judge, List.findSome?_append]
  cases stops.findSome? (Stop.trouble? store limit) with
  | none => rfl
  | some trouble => cases trouble <;> rfl

variable {store limit}

theorem judge_cons_of_no_flaw (stop : Stop) (hf : stop.failure? store limit = none)
    (h : stop.flaw? = none) (stops : List Stop) :
    judge store limit (stop :: stops) = judge store limit stops := by
  rw [judge, List.findSome?_cons, Stop.trouble?_of_no_flaw hf h]
  rfl

theorem judge_cons_of_failure (stop : Stop) {e : Failure} (h : stop.failure? store limit = some e)
    (stops : List Stop) : judge store limit (stop :: stops) = .error e := by
  have ht := Stop.trouble?_eq_error_iff.mpr (Stop.failure?_eq_some_iff.mp h)
  rw [judge, List.findSome?_cons, ht]
  rfl

theorem judge_cons_of_flaw (stop : Stop) {flaw : Flaw} {node : Json} (h : stop.flaw? = some flaw)
    (hn : stop.node? = some node) (stops : List Stop) :
    judge store limit (stop :: stops) = .ok (Flaw.review node (some flaw)) := by
  obtain ⟨other, ho, ht⟩ := stop.trouble?_of_flaw? store limit h
  rw [hn] at ho
  cases ho
  rw [judge, List.findSome?_cons, ht]
  rfl

variable {chain : List String} {follow : Follow} {detour : Detour}

theorem outcome_reach_bind {depth : Nat} {f : Unit → Logged Step Review} {stops : List Stop}
    (h : (f ()).outcome = judge store limit stops) :
    (Expansion.reach limit chain depth >>= f).outcome =
      judge store limit (.level depth :: stops) := by
  rw [Logged.outcome_bind, Expansion.reach]
  by_cases hd : limit < depth
  · rw [judge_cons_of_failure (.level depth) (if_pos hd), if_pos hd]
    rfl
  · rw [judge_cons_of_no_flaw (.level depth) (if_neg hd) rfl, if_neg hd]
    exact h

theorem outcome_review_leafFlaw? (node : Json) :
    (pure (Flaw.review node node.leafFlaw?) : Logged Step Review).outcome =
      judge store limit [.leaf node] := by
  cases hf : node.leafFlaw? with
  | none =>
    rw [judge_cons_of_no_flaw (.leaf node) rfl hf]
    rfl
  | some flaw => rw [judge_cons_of_flaw (.leaf node) hf rfl, Logged.pure_def]

theorem outcome_children {depth : Nat} {nodes : List Json}
    (h : ∀ node ∈ nodes, (item limit chain follow depth node).outcome =
      judge store limit (itemTour chain detour depth node)) :
    (children limit chain follow depth nodes).outcome =
      judge store limit (nodes.flatMap (itemTour chain detour depth)) := by
  induction nodes with
  | nil => rw [children]; rfl
  | cons node rest ih =>
    rw [children_cons, List.flatMap_cons, judge_append, Logged.outcome_bind,
      h node List.mem_cons_self]
    cases judge store limit (itemTour chain detour depth node) with
    | error e => rfl
    | ok review =>
      have hrest := ih fun other hm => h other (List.mem_cons_of_mem _ hm)
      show (if review.accepted then _ else _ : Logged Step Review).outcome =
        if review.accepted then _ else _
      split
      · exact hrest
      · rfl

/-- Where references come to what their stops say, so do conditions and children. -/
theorem outcome_condition_of_follow
    (hfollow : ∀ id role depth, (follow id role depth).outcome =
      judge store limit (.reference chain id :: detour id role depth)) :
    ∀ node, (∀ depth, (condition limit chain follow depth node).outcome =
        judge store limit (tour chain detour depth node)) ∧
      ∀ depth, (item limit chain follow depth node).outcome =
        judge store limit (itemTour chain detour depth node) := by
  refine walk_induction ?root ?flawed ?flawless ?reference ?inner ?leaf
  case root =>
    intro depth id
    rw [condition_string, tour_string]
    exact outcome_reach_bind (hfollow id .root depth)
  case flawed =>
    intro depth node flaw hs hf
    rw [condition_of_flaw hs hf, tour_of_not_string chain detour hs]
    refine outcome_reach_bind ?_
    rw [judge_cons_of_flaw (.condition depth node) hf rfl, Logged.pure_def]
  case flawless =>
    intro depth node nodes hs hf hc ih
    rw [condition_of_flawless hf hc, tour_of_not_string chain detour hs, Json.parts_of_children? hc]
    refine outcome_reach_bind ?_
    rw [outcome_children ih, judge_cons_of_no_flaw (.condition depth node) rfl hf]
  case reference =>
    intro depth id
    exact hfollow id .child depth
  case inner =>
    intro depth node hc ih
    rw [item_of_isCondition hc,
      itemTour_of_not_string chain detour (Json.isString_eq_false_of_isCondition hc), childStops,
      if_pos hc]
    exact ih
  case leaf =>
    intro depth node hs hc
    rw [item_of_leaf hs hc, itemTour_of_not_string chain detour hs, childStops, hc]
    exact outcome_review_leafFlaw? node

theorem outcome_follow (chain : List String) (id : String) (role : Role) (depth : Nat) :
    (Inspection.follow store limit chain id role depth).outcome =
      judge store limit (.reference chain id :: Inspection.detour store limit chain id role depth) := by
  induction chain using Expansion.chain_induction limit generalizing id role depth with
  | step chain ih =>
  rw [follow_eq, detour_eq]
  cases he : Expansion.enter limit chain id with
  | error e =>
    have hfails : (Stop.reference chain id).failure? store limit = some e := by
      simp only [Stop.failure?, he]
    rw [judge_cons_of_failure _ hfails]
    rfl
  | ok inner =>
    have hinner (node : Json) := outcome_condition_of_follow (ih id inner he) node
    show (store.fetch id >>= _).outcome = _
    rw [Logged.outcome_bind, Store.fetch]
    simp only [visitStops]
    cases hget : store.get? id with
    | none =>
      have hfails : (Stop.reference chain id).failure? store limit = some (.notFound id) := by
        simp only [Stop.failure?, he, hget]
      rw [judge_cons_of_failure _ hfails]
      rfl
    | some rule =>
      have hf : (Stop.reference chain id).failure? store limit = none := by
        simp only [Stop.failure?, he, hget]
      rw [judge_cons_of_no_flaw _ hf rfl]
      cases role with
      | root => exact (hinner rule.conditions).1 depth
      | child =>
        show (child limit inner _ depth rule.conditions).outcome =
          judge store limit (childStops rule.conditions _)
        rw [child, childStops]
        split
        · exact (hinner rule.conditions).1 (depth + 1)
        · exact outcome_review_leafFlaw? rule.conditions

/-- The review of a root comes to what the walk over it comes to. -/
theorem outcome_root (origin : Option String) (node : Json) :
    (root store limit origin node).outcome =
      judge store limit (rootTour store limit origin node) :=
  (outcome_condition_of_follow (outcome_follow _) node).1 0

end Judge

end Inspection

/-! ## Where a fault stands -/

/-- The node stands in a root of the rule, or in the conditions of a stored rule that it leads to. -/
inductive Store.Includes (store : Store) (rule : Rule) (node : Json) : Prop
  | own {root} : root ∈ rule.roots → root.HasNode node → Includes store rule node
  | led {id stored} :
      store.Leads Json.Quotes rule id → store.get? id = some stored →
      stored.conditions.HasNode node → Includes store rule node

namespace Inspection

variable {store : Store} {limit : Nat} {rule : Rule}

/-- A node that a walk comes to stands in the node that the walk is from, or in a rule that this node
refers to. -/
theorem hasNode_of_mem_tour {chain : List String} {detour : Detour} {stop : Stop} {e : Json}
    (he : stop.node? = some e) (node : Json) :
    (∀ depth, stop ∈ tour chain detour depth node →
      node.HasNode e ∨ ∃ id role depth, node.Quotes id ∧ stop ∈ detour id role depth) ∧
    ∀ depth, stop ∈ itemTour chain detour depth node →
      node.HasNode e ∨ ∃ id role depth, node.Quotes id ∧ stop ∈ detour id role depth := by
  induction node using Json.children_induction with
  | step node ih =>
  have hcondition (depth : Nat) (h : stop ∈ tour chain detour depth node) :
      node.HasNode e ∨ ∃ id role depth, node.Quotes id ∧ stop ∈ detour id role depth := by
    cases hs : node.isString with
    | true =>
      obtain ⟨id, rfl⟩ := Json.exists_of_isString hs
      rw [tour_string, List.mem_cons, List.mem_cons] at h
      rcases h with rfl | rfl | h
      · cases he
      · cases he
      · exact .inr ⟨id, .root, depth, .self, h⟩
    | false =>
      rw [tour_of_not_string chain detour hs, List.mem_cons, List.mem_cons, List.mem_flatMap] at h
      rcases h with rfl | rfl | ⟨child, hm, h⟩
      · cases he
      · cases he
        exact .inl .self
      · have hc := Json.children?_of_mem_parts hm
        rcases (ih _ hc child hm).2 depth h with hin | ⟨id, role, d, hq, hd⟩
        · exact .inl (.of_children? hc hm hin)
        · exact .inr ⟨id, role, d, .of_children? hc hm hq, hd⟩
  refine ⟨hcondition, fun depth h => ?_⟩
  cases hs : node.isString with
  | true =>
    obtain ⟨id, rfl⟩ := Json.exists_of_isString hs
    rcases List.mem_cons.mp h with rfl | h
    · cases he
    · exact .inr ⟨id, .child, depth, .self, h⟩
  | false =>
    rw [itemTour_of_not_string chain detour hs, childStops] at h
    split at h
    · exact hcondition (depth + 1) h
    · obtain rfl := List.mem_singleton.mp h
      cases he
      exact .inl .self

theorem includes_of_mem_detour {stop : Stop} {e : Json} (he : stop.node? = some e) {id : String}
    (hid : store.Leads Json.Quotes rule id) {chain : List String} {role : Role} {depth : Nat}
    (h : stop ∈ detour store limit chain id role depth) : store.Includes rule e := by
  induction chain using Expansion.chain_induction limit generalizing id role depth with
  | step chain ih =>
  rw [detour_eq] at h
  cases hinner : Expansion.enter limit chain id with
  | error failure =>
    rw [hinner] at h
    cases h
  | ok inner =>
    simp only [hinner, visitStops] at h
    cases hs : store.get? id with
    | none =>
      rw [hs] at h
      cases h
    | some stored =>
      have hwalk (d : Nat) (h : stop ∈ tour inner (detour store limit inner) d stored.conditions) :
          store.Includes rule e := by
        rcases (hasNode_of_mem_tour he stored.conditions).1 d h with hin | ⟨other, r, d', hq, hd⟩
        · exact .led hid hs hin
        · exact ih id inner hinner (.further hid hs hq) hd
      simp only [hs] at h
      cases role with
      | root => exact hwalk depth h
      | child =>
        simp only [childStops] at h
        split at h
        · exact hwalk (depth + 1) h
        · obtain rfl := List.mem_singleton.mp h
          cases he
          exact .led hid hs .self

theorem includes_of_mem_rootTour {root : Json} (hroot : root ∈ rule.roots) {stop : Stop}
    (h : stop ∈ rootTour store limit rule.origin? root) {e : Json} (he : stop.node? = some e) :
    store.Includes rule e := by
  rcases (hasNode_of_mem_tour he root).1 0 h with hin | ⟨id, role, depth, hq, hd⟩
  · exact .own hroot hin
  · exact includes_of_mem_detour he (.direct hroot hq) hd

/-! ## The first fault -/

theorem Stop.clear_reference_iff {chain : List String} {id : String} :
    (Stop.reference chain id).Clear store limit ↔
      ∃ inner stored, Entered store limit chain id inner stored := by
  rw [← trouble?_eq_none_iff]
  simp only [trouble?, failure?, flaw?]
  cases he : Expansion.enter limit chain id with
  | error e =>
    refine iff_of_false nofun ?_
    rintro ⟨inner, stored, hr⟩
    simp [hr.enter] at he
  | ok inner =>
    cases hs : store.get? id with
    | none =>
      refine iff_of_false nofun ?_
      rintro ⟨_, stored, hr⟩
      simp [hr.stored] at hs
    | some stored => exact iff_of_true rfl ⟨inner, stored, he, hs⟩

theorem Stop.clear_level_iff {depth : Nat} :
    (Stop.level depth).Clear store limit ↔ depth ≤ limit := by
  rw [← trouble?_eq_none_iff, ← Nat.not_lt]
  by_cases hd : limit < depth
  · simp [trouble?, failure?, hd]
  · simp [trouble?, failure?, flaw?, hd]

/-- A walk comes to what is reported at a stop if all is in order before. -/
theorem judge_of_first {stops before after : List Stop} {stop : Stop}
    {trouble : Except Failure Defect} (h : stops = before ++ stop :: after)
    (hb : ∀ s ∈ before, s.Clear store limit) (ht : stop.trouble? store limit = some trouble) :
    judge store limit stops = trouble.map fun d => .refused d.message d.element := by
  have hfirst : stops.findSome? (Stop.trouble? store limit) = some trouble :=
    List.findSome?_eq_some_iff.mpr
      ⟨before, stop, after, h, ht, fun s hm => Stop.trouble?_eq_none_iff.mpr (hb s hm)⟩
  rw [judge, hfirst]

/-- What is refused is refused at the first stop where something is amiss. -/
theorem exists_first_of_judge_refused {stops : List Stop} {m : String} {e : Json}
    (h : judge store limit stops = .ok (.refused m e)) :
    ∃ before stop after, stops = before ++ stop :: after ∧ (∀ s ∈ before, s.Clear store limit) ∧
      stop.trouble? store limit = some (.ok ⟨m, e⟩) := by
  rw [judge] at h
  cases hfirst : stops.findSome? (Stop.trouble? store limit) with
  | none =>
    rw [hfirst] at h
    cases h
  | some trouble =>
    obtain ⟨before, stop, after, hstops, ht, hb⟩ := List.findSome?_eq_some_iff.mp hfirst
    refine ⟨before, stop, after, hstops, fun s hm => Stop.trouble?_eq_none_iff.mp (hb s hm), ?_⟩
    rw [hfirst] at h
    cases trouble with
    | error failure => cases h
    | ok d =>
      cases h
      exact ht

theorem judge_of_clear {stops : List Stop} (h : ∀ s ∈ stops, s.Clear store limit) :
    judge store limit stops = .ok .ok := by
  have hnone : stops.findSome? (Stop.trouble? store limit) = none :=
    List.findSome?_eq_none_iff.mpr fun s hm => Stop.trouble?_eq_none_iff.mpr (h s hm)
  rw [judge, hnone]

end Inspection

namespace Store

open Inspection (Entered Stop rootTour)

/-- A rule with one root is reviewed as the root is. -/
theorem review_of_one_root (store : Store) (limit : Nat) {rule : Rule} {root : Json}
    (h : rule.roots = [root]) (hne : root ≠ .object []) :
    store.review limit rule = Inspection.root store limit rule.origin? root := by
  have hroots : rootsOf rule.conditions = [root] := h
  have hflaw : rule.conditions.conditionsFlaw? = none := by
    rw [Inspection.conditionsFlaw?_eq_none_iff, hroots]
    exact ⟨List.cons_ne_nil root [], by simpa using hne⟩
  rw [review, Inspection.conditions, hflaw, hroots, Inspection.roots_singleton]

/-- **The first fault is reported.** Let a rule have one root, and take the walk over it. What is refused is
the node at the first stop where something is amiss, and the message says the first of the rules that it
breaks and none but that; the node stands in the rule or in a stored rule that the rule leads to, and before
it every reference could be followed and nothing lay too deep. Conversely, where the first thing amiss is a
failure, the review fails with it; where it is a node, the review refuses the node and says the first rule
that it breaks; and where nothing is, the review accepts. -/
theorem review_names_first_fault (store : Store) (limit : Nat) {rule : Rule} {root : Json}
    (h : rule.roots = [root]) (hne : root ≠ .object []) :
    (∀ m e, (store.review limit rule).outcome = .ok (.refused m e) →
      ∃ before stop after flaw, rootTour store limit rule.origin? root = before ++ stop :: after ∧
        (∀ s ∈ before, s.Clear store limit) ∧ stop.node? = some e ∧ stop.FirstBroken flaw ∧
        flaw.Says m ∧ (∀ other : Flaw, other.Says m → other = flaw) ∧ store.Includes rule e ∧
        (∀ chain id, .reference chain id ∈ before →
          ∃ inner stored, Entered store limit chain id inner stored) ∧
        ∀ depth, .level depth ∈ before → depth ≤ limit) ∧
    (∀ before stop after, rootTour store limit rule.origin? root = before ++ stop :: after →
      (∀ s ∈ before, s.Clear store limit) →
      (∀ failure, stop.Fails store limit failure →
        (store.review limit rule).outcome = .error failure) ∧
      ∀ flaw e, stop.FirstBroken flaw → stop.node? = some e →
        ∃ m, flaw.Says m ∧ (store.review limit rule).outcome = .ok (.refused m e)) ∧
    ((∀ s ∈ rootTour store limit rule.origin? root, s.Clear store limit) →
      (store.review limit rule).outcome = .ok .ok) := by
  have hreview : (store.review limit rule).outcome =
      Inspection.judge store limit (rootTour store limit rule.origin? root) := by
    rw [store.review_of_one_root limit h hne, Inspection.outcome_root]
  rw [hreview]
  refine ⟨fun m e hr => ?_, fun before stop after hstops hb => ⟨fun failure hf => ?_, ?_⟩,
    Inspection.judge_of_clear⟩
  · obtain ⟨before, stop, after, hstops, hb, ht⟩ := Inspection.exists_first_of_judge_refused hr
    obtain ⟨flaw, hfirst, hnode, hm⟩ := Stop.trouble?_eq_ok_iff.mp ht
    obtain rfl : m = flaw.message := hm
    have hin : stop ∈ rootTour store limit rule.origin? root := by
      rw [hstops]
      exact List.mem_append_right before List.mem_cons_self
    have hroot : root ∈ rule.roots := h ▸ List.mem_singleton_self root
    exact ⟨before, stop, after, flaw, hstops, hb, hnode, hfirst, flaw.says_message,
      fun other ho => ho.unique flaw.says_message, Inspection.includes_of_mem_rootTour hroot hin hnode,
      fun chain id hmem => Stop.clear_reference_iff.mp (hb _ hmem),
      fun depth hmem => Stop.clear_level_iff.mp (hb _ hmem)⟩
  · exact Inspection.judge_of_first hstops hb (Stop.trouble?_eq_error_iff.mpr hf)
  · intro flaw e hfirst hnode
    have ht : stop.trouble? store limit = some (.ok ⟨flaw.message, e⟩) :=
      Stop.trouble?_eq_ok_iff.mpr ⟨flaw, hfirst, hnode, rfl⟩
    exact ⟨flaw.message, flaw.says_message, Inspection.judge_of_first hstops hb ht⟩

def adultConstraint : Json :=
  .object [("field", .string "age"), ("operator", .string "equals"), ("value", .number (.int 18))]

/-- A condition that below a root breaks two rules: it has a result and no child. -/
def hollowCondition : Json := .object [("all", .array []), ("result", .bool true)]

/-- A constraint with a field that is no name and an operator that there is not. -/
def oddConstraint : Json :=
  .object [("field", .number (.int 1)), ("operator", .string "likes"), ("value", .null)]

/-- One rule ends in the hollow condition, the other in the odd constraint. -/
def hollowStore : Store :=
  ⟨[("hollow", ⟨"hollow", "", .object [("any", .array [adultConstraint, hollowCondition])], none⟩),
    ("odd", ⟨"odd", "", .object [("all", .array [oddConstraint])], none⟩)]⟩

def bothOf (first second : String) : Rule :=
  ⟨"r", "", .object [("all", .array [.string first, .string second])], none⟩

/-- Whichever of two references comes first decides. The hollow condition is refused for its result though
it has no child either, the odd constraint for its field though its operator is unknown, and the missing
rule fails the review. -/
theorem hollow_named_before_missing :
    ((hollowStore.review 64 (bothOf "hollow" "missing")).outcome =
        .ok (.refused "nested conditions cannot have a result property" hollowCondition) ∧
      ∃ before stop after,
        rootTour hollowStore 64 (some "r") (bothOf "hollow" "missing").conditions =
            before ++ stop :: after ∧
          stop.node? = some hollowCondition ∧ stop.FirstBroken .nestedResult ∧
          stop.Breaks .emptyBranch) ∧
    ((hollowStore.review 64 (bothOf "odd" "hollow")).outcome =
        .ok (.refused "constraint field must be a string" oddConstraint) ∧
      ∃ before stop after,
        rootTour hollowStore 64 (some "r") (bothOf "odd" "hollow").conditions =
            before ++ stop :: after ∧
          stop.node? = some oddConstraint ∧ stop.FirstBroken .fieldNotString ∧
          stop.Breaks (.unknownOperator "likes")) ∧
    (hollowStore.review 64 (bothOf "missing" "hollow")).outcome = .error (.notFound "missing") := by
  have hroots (first second : String) :
      (bothOf first second).roots = [(bothOf first second).conditions] := rfl
  refine ⟨?hollow, ?odd, ?missing⟩
  case hollow =>
    have hrefused : (hollowStore.review 64 (bothOf "hollow" "missing")).outcome =
        .ok (.refused "nested conditions cannot have a result property" hollowCondition) := rfl
    obtain ⟨before, stop, after, flaw, hstops, _, hnode, hfirst, _, honly, _⟩ :=
      (hollowStore.review_names_first_fault 64 (hroots "hollow" "missing") nofun).1 _ _ hrefused
    obtain rfl := honly .nestedResult .nestedResult
    refine ⟨hrefused, before, stop, after, hstops, hnode, hfirst, ?_⟩
    cases hfirst.broken with
    | nestedResult hd hresult =>
      cases hnode
      exact .emptyBranch rfl
  case odd =>
    have hrefused : (hollowStore.review 64 (bothOf "odd" "hollow")).outcome =
        .ok (.refused "constraint field must be a string" oddConstraint) := rfl
    obtain ⟨before, stop, after, flaw, hstops, _, hnode, hfirst, _, honly, _⟩ :=
      (hollowStore.review_names_first_fault 64 (hroots "odd" "hollow") nofun).1 _ _ hrefused
    obtain rfl := honly .fieldNotString .fieldNotString
    refine ⟨hrefused, before, stop, after, hstops, hnode, hfirst, ?_⟩
    cases hfirst.broken with
    | fieldNotString hfield =>
      cases hnode
      exact .unknownOperator rfl rfl
  case missing =>
    obtain ⟨_, hfirst, _⟩ :=
      hollowStore.review_names_first_fault 64 (hroots "missing" "hollow") nofun
    have hstops : ∃ after,
        rootTour hollowStore 64 (some "r") (bothOf "missing" "hollow").conditions =
          [.level 0, .condition 0 (bothOf "missing" "hollow").conditions] ++
            .reference ["r"] "missing" :: after := by
      rw [rootTour, Inspection.tour_of_not_string _ _ rfl]
      exact ⟨_, rfl⟩
    obtain ⟨after, hstops⟩ := hstops
    have hclear : ∀ s ∈ [Stop.level 0, .condition 0 (bothOf "missing" "hollow").conditions],
        s.Clear hollowStore 64 := by
      intro s hm
      rcases List.mem_pair.mp hm with rfl | rfl
      · exact Stop.clear_level_iff.mpr (Nat.zero_le 64)
      · exact Stop.trouble?_eq_none_iff.mp rfl
    have hmissing : (Stop.reference ["r"] "missing").Fails hollowStore 64 (.notFound "missing") :=
      .missing (by decide) (by decide) rfl
    exact (hfirst _ _ _ hstops hclear).1 _ hmissing

end Store

end RuleTree

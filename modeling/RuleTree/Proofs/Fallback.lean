import RuleTree.Proofs.RoundTrip

/-!
Objects with the key of a quantifier, as they are read. Such an object is meant for a condition, and it is
read as one if one branch is a list that can be read and the others are null or missing
(`Condition.ofJson_object_eq_ok_iff`). Where that fails in one of the ways of `Json.Unbranched`, it is read
as a constraint if it holds one beside its branches (`Tree.ofJson_of_isCondition`). The review takes every
such object for a condition, and what it approves is read as one.
-/

namespace RuleTree

/-! ## Quantifiers -/

theorem Quantifier.mem_list (q : Quantifier) : q ∈ list := by
  cases q <;> decide

theorem Quantifier.forall_iff {P : Quantifier → Prop} : (∀ q, P q) ↔ P .any ∧ P .all ∧ P .none := by
  constructor
  · intro h
    exact ⟨h .any, h .all, h .none⟩
  · rintro ⟨hany, hall, hnone⟩ q
    cases q with
    | any => exact hany
    | all => exact hall
    | none => exact hnone

/-! ## Branches -/

namespace Tree

variable {members : List (String × Json)}

theorem get?_branchesOf (q : Quantifier) (members : List (String × Json)) :
    Entries.get? q.key (branchesOf members) = (Entries.get? q.key members).map branchOf := by
  induction members with
  | nil => rfl
  | cons e rest ih =>
    obtain ⟨k, v⟩ := e
    rw [branchesOf, Entries.get?_cons]
    by_cases hk : k = q.key
    · subst hk
      have hany : (Quantifier.list.any fun other => other.key == q.key) = true :=
        List.any_eq_true.mpr ⟨q, q.mem_list, by simp⟩
      simp [hany]
    · rw [if_neg hk]
      split
      · rw [Entries.get?_cons, if_neg hk, Entries.get?_erase_of_ne hk, ih]
      · exact ih

/-- What is read are branches that stand under the keys of quantifiers. -/
theorem exists_of_mem_branchesOf {e : String × Except Mismatch Condition.Branch}
    (h : e ∈ branchesOf members) :
    ∃ q v, Entries.get? (Quantifier.key q) members = some v ∧ e = (q.key, branchOf v) := by
  induction members with
  | nil => cases h
  | cons first rest ih =>
    obtain ⟨k, v⟩ := first
    have hlater (he : e ∈ branchesOf rest) (hne : e.1 ≠ k) :
        ∃ q w, Entries.get? (Quantifier.key q) ((k, v) :: rest) = some w ∧
          e = (q.key, branchOf w) := by
      obtain ⟨q, w, hget, rfl⟩ := ih he
      exact ⟨q, w, by rw [Entries.get?_cons, if_neg (Ne.symm hne), hget], rfl⟩
    rw [branchesOf] at h
    split at h
    next hany =>
      obtain ⟨q, _, hq⟩ := List.any_eq_true.mp hany
      obtain rfl : q.key = k := by simpa using hq
      rcases List.mem_cons.mp h with rfl | hm
      · exact ⟨q, v, by simp, rfl⟩
      · obtain ⟨hin, hne⟩ := List.mem_filter.mp hm
        exact hlater hin (by simpa using hne)
    next hany =>
      refine hlater h fun hk => hany ?_
      obtain ⟨q, _, _, rfl⟩ := ih h
      exact List.any_eq_true.mpr ⟨q, q.mem_list, by simpa using hk⟩

theorem branchOf_eq_ok_iff {value : Json} {b : Condition.Branch} :
    branchOf value = .ok b ↔ (value = .null ∧ b = none) ∨
      ∃ nodes ts, value = .array nodes ∧
        List.Forall₂ (fun child t => Tree.ofJson child = .ok t) nodes ts ∧ b = some ts := by
  cases value with
  | null => simp [branchOf, eq_comm]
  | array nodes =>
    rw [branchOf]
    cases hl : listOf nodes with
    | error e =>
      refine iff_of_false nofun ?_
      rintro (⟨h, _⟩ | ⟨_, ts, h, hts, _⟩)
      · cases h
      · cases h
        rw [(listOf_eq_ok_iff nodes ts).mpr hts] at hl
        cases hl
    | ok us =>
      have hus := (listOf_eq_ok_iff nodes us).mp hl
      constructor
      · rintro ⟨⟩
        exact .inr ⟨nodes, us, rfl, hus, rfl⟩
      · rintro (⟨h, _⟩ | ⟨_, ts, h, hts, rfl⟩)
        · cases h
        · cases h
          obtain rfl : us = ts := Except.ok.inj (hl.symm.trans ((listOf_eq_ok_iff nodes ts).mpr hts))
          rfl
  | _ => simp [branchOf]

end Tree

namespace Condition

theorem exists_settled_iff (read : List (String × Except Mismatch Branch)) :
    (∃ branches, settled read = .ok branches) ↔ ∀ e ∈ read, ∃ b, e.2 = .ok b := by
  induction read with
  | nil => simp [settled]
  | cons e rest ih =>
    obtain ⟨k, b⟩ := e
    rw [List.forall_mem_cons, ← ih]
    simp only [settled, bind_eq_ok_iff]
    constructor
    · rintro ⟨_, b, hb, branches, hrest, _⟩
      exact ⟨⟨b, hb⟩, branches, hrest⟩
    · rintro ⟨⟨b, hb⟩, branches, hrest⟩
      exact ⟨_, b, hb, branches, hrest, rfl⟩

theorem branchAt_of_settled {read : List (String × Except Mismatch Branch)}
    {branches : List (String × Branch)} (h : settled read = .ok branches) (key : String) :
    (Entries.get? key read).getD (.ok none) = .ok (branchAt key branches) := by
  induction read generalizing branches with
  | nil => cases h; rfl
  | cons e rest ih =>
    obtain ⟨k, b⟩ := e
    simp only [settled, bind_eq_ok_iff] at h
    obtain ⟨branch, rfl, others, hothers, h⟩ := h
    cases h
    rw [Entries.get?_cons, branchAt]
    split
    · rfl
    · exact ih hothers

/-- The one branch there is makes the condition. -/
theorem ofBranches_eq_ok_iff {branches : List (String × Branch)} {result : Option Json}
    {c : Condition} :
    ofBranches branches result = .ok c ↔
      branchAt c.quantifier.key branches = some c.children ∧
        (∀ other, other ≠ c.quantifier → branchAt other.key branches = none) ∧
        c.result = result := by
  obtain ⟨q, ts, r⟩ := c
  simp only [ofBranches, Quantifier.list, List.filterMap_cons, List.filterMap_nil,
    Quantifier.forall_iff]
  -- Which of the three branches are there decides.
  cases q
  all_goals
    generalize branchAt Quantifier.any.key branches = anyBranch
    generalize branchAt Quantifier.all.key branches = allBranch
    generalize branchAt Quantifier.none.key branches = noneBranch
    cases anyBranch <;> cases allBranch <;> cases noneBranch <;> simp [eq_comm]

end Condition

/-! ## Conditions -/

/-- The branch of one quantifier is a list that is read as the given trees, and no other branch is there,
unless it is null. -/
structure Json.OnlyBranch (node : Json) (q : Quantifier) (ts : List Tree) : Prop where
  children : ∃ nodes, node.getD q.key = .array nodes ∧
    List.Forall₂ (fun child t => Tree.ofJson child = .ok t) nodes ts
  others : ∀ other, other ≠ q → node.getD other.key = .null

/-- The ways in which an object fails to have one branch that can be read. -/
inductive Json.Unbranched (node : Json) : Prop
  | empty : (∀ q, node.getD (Quantifier.key q) = .null) → Unbranched node
  | several {q other} : q ≠ other → node.getD (Quantifier.key q) ≠ .null →
      node.getD other.key ≠ .null → Unbranched node
  | noList {q} : node.getD (Quantifier.key q) ≠ .null →
      (node.getD q.key).isArray = false → Unbranched node
  | unreadable {q nodes child} : node.getD (Quantifier.key q) = .array nodes → child ∈ nodes →
      (∀ t, Tree.ofJson child ≠ .ok t) → Unbranched node

namespace Json

variable {node : Json} {q : Quantifier} {ts : List Tree}

/-- A branch that is not null is the only one. -/
theorem OnlyBranch.eq_of_ne_null (h : node.OnlyBranch q ts) {other : Quantifier}
    (hne : node.getD other.key ≠ .null) : other = q := by
  by_contra hother
  exact hne (h.others other hother)

theorem Unbranched.not_onlyBranch (h : node.Unbranched) : ¬ node.OnlyBranch q ts := by
  intro honly
  obtain ⟨nodes, hnodes, hread⟩ := honly.children
  cases h with
  | empty hnull =>
    rw [hnull q] at hnodes
    cases hnodes
  | several hne hfirst hsecond =>
    exact hne ((honly.eq_of_ne_null hfirst).trans (honly.eq_of_ne_null hsecond).symm)
  | noList hne harray =>
    obtain rfl := honly.eq_of_ne_null hne
    rw [hnodes] at harray
    cases harray
  | @unreadable other items child hitems hm hbad =>
    have hne : node.getD other.key ≠ .null := by
      rw [hitems]
      exact nofun
    obtain rfl := honly.eq_of_ne_null hne
    obtain rfl : nodes = items := Json.array.inj (hnodes.symm.trans hitems)
    obtain ⟨hl, hpairs⟩ := List.forall₂_iff_zip.mp hread
    obtain ⟨t, ht⟩ := exists_mem_zip_of_mem_left hl hm
    exact hbad t (hpairs ht)

theorem unbranched_iff : node.Unbranched ↔ ∀ q ts, ¬ node.OnlyBranch q ts := by
  refine ⟨fun h q ts => h.not_onlyBranch, fun h => ?_⟩
  by_cases hnull : ∀ q, node.getD (Quantifier.key q) = .null
  · exact .empty hnull
  · obtain ⟨q, hq⟩ := not_forall.mp hnull
    by_cases hothers : ∀ other, other ≠ q → node.getD (Quantifier.key other) = .null
    · cases ha : (node.getD q.key).isArray with
      | false => exact .noList hq ha
      | true =>
        obtain ⟨nodes, hnodes⟩ : ∃ nodes, node.getD q.key = .array nodes := by
          cases hv : node.getD q.key with
          | array nodes => exact ⟨nodes, rfl⟩
          | _ => rw [hv] at ha; cases ha
        by_cases hread : ∀ child ∈ nodes, ∃ t, Tree.ofJson child = .ok t
        · obtain ⟨ts, hts⟩ := exists_trees_of_forall_exists hread
          exact absurd ⟨⟨nodes, hnodes, hts⟩, hothers⟩ (h q ts)
        · push Not at hread
          obtain ⟨child, hm, hbad⟩ := hread
          exact .unreadable hnodes hm hbad
    · push Not at hothers
      obtain ⟨other, hne, hother⟩ := hothers
      exact .several hne hother hq

end Json

/-- An object is read as a condition exactly where it has one branch that can be read. -/
theorem Condition.ofJson_object_eq_ok_iff {members : List (String × Json)} {c : Condition} :
    Condition.ofJson (.object members) = .ok c ↔
      (Json.object members).OnlyBranch c.quantifier c.children ∧
        c.result = (Json.object members).result? := by
  have hbranch (q : Quantifier) : (Entries.get? q.key (Tree.branchesOf members)).getD (.ok none) =
      Tree.branchOf ((Json.object members).getD q.key) := by
    rw [Tree.get?_branchesOf, Json.getD, Json.get?]
    cases Entries.get? q.key members <;> rfl
  rw [Condition.ofJson, Condition.ofObject, bind_eq_ok_iff]
  constructor
  · rintro ⟨branches, hs, hb⟩
    obtain ⟨hown, hothers, hresult⟩ := ofBranches_eq_ok_iff.mp hb
    have hat (q : Quantifier) : Tree.branchOf ((Json.object members).getD q.key) =
        .ok (branchAt q.key branches) := (hbranch q).symm.trans (branchAt_of_settled hs q.key)
    refine ⟨⟨?_, fun other hne => ?_⟩, hresult⟩
    · rcases Tree.branchOf_eq_ok_iff.mp (hat c.quantifier) with ⟨_, h⟩ | ⟨nodes, ts, hv, hts, h⟩
      · rw [hown] at h
        cases h
      · obtain rfl : c.children = ts := Option.some.inj (hown.symm.trans h)
        exact ⟨nodes, hv, hts⟩
    · rcases Tree.branchOf_eq_ok_iff.mp (hat other) with ⟨hv, _⟩ | ⟨_, _, _, _, h⟩
      · exact hv
      · rw [hothers other hne] at h
        cases h
  · rintro ⟨honly, hresult⟩
    obtain ⟨nodes, hnodes, hread⟩ := honly.children
    have hown : Tree.branchOf ((Json.object members).getD c.quantifier.key) = .ok (some c.children) :=
      Tree.branchOf_eq_ok_iff.mpr (.inr ⟨nodes, c.children, hnodes, hread, rfl⟩)
    have hothers (other : Quantifier) (hne : other ≠ c.quantifier) :
        Tree.branchOf ((Json.object members).getD other.key) = .ok none :=
      Tree.branchOf_eq_ok_iff.mpr (.inl ⟨honly.others other hne, rfl⟩)
    have hsettled : ∃ branches, settled (Tree.branchesOf members) = .ok branches := by
      refine (exists_settled_iff _).mpr fun e he => ?_
      obtain ⟨q, v, hget, rfl⟩ := Tree.exists_of_mem_branchesOf he
      have hv : (Json.object members).getD q.key = v := by
        rw [Json.getD, Json.get?, hget, Option.getD_some]
      by_cases hq : q = c.quantifier
      · subst hq
        exact ⟨some c.children, hv ▸ hown⟩
      · exact ⟨none, hv ▸ hothers q hq⟩
    obtain ⟨branches, hs⟩ := hsettled
    have hat (q : Quantifier) : Tree.branchOf ((Json.object members).getD q.key) =
        .ok (branchAt q.key branches) := (hbranch q).symm.trans (branchAt_of_settled hs q.key)
    refine ⟨branches, hs, ofBranches_eq_ok_iff.mpr ⟨?_, fun other hne => ?_, hresult⟩⟩
    · exact Except.ok.inj ((hat c.quantifier).symm.trans hown)
    · exact Except.ok.inj ((hat other).symm.trans (hothers other hne))

/-! ## Constraints -/

/-- An operator is written as one of its names, or as an object that maps one to null. -/
inductive Json.NamesOperator : Json → Operator → Prop
  | name {s op} : Operator.ofName? s = some op → NamesOperator (.string s) op
  | member {s op} : Operator.ofName? s = some op → NamesOperator (.object [(s, .null)]) op

/-- The object holds a field, an operator and a value that can be read as a constraint, whatever stands
beside them. -/
structure Json.Holds (node : Json) (c : Constraint) : Prop where
  field : node.get? "field" = some (.string c.field)
  operator : ∃ written, node.get? "operator" = some written ∧ written.NamesOperator c.operator
  value : node.get? "value" = some c.value

theorem Operator.ofJson_eq_ok_iff {value : Json} {op : Operator} :
    Operator.ofJson value = .ok op ↔ value.NamesOperator op := by
  constructor
  · intro h
    unfold ofJson at h
    split at h
    next s =>
      cases hget : Entries.get? s words with
      | none => simp only [hget] at h; cases h
      | some op' =>
        simp only [hget, Except.ok.injEq] at h
        exact .name (by rw [← get?_words, hget, h])
    next s argument =>
      cases hget : Entries.get? s words with
      | none => simp only [hget] at h; cases h
      | some op' =>
        simp only [hget, bind, Except.bind] at h
        cases argument with
        | null => cases h; exact .member (by rw [← get?_words, hget])
        | _ => cases h
    · cases h
    · cases h
  · intro h
    cases h with
    | name hs => simp only [ofJson, get?_words, hs]
    | member hs => simp only [ofJson, get?_words, hs]; rfl

theorem Json.text_eq_ok_iff {value : Json} {s : String} : value.text = .ok s ↔ value = .string s := by
  cases value <;> simp [text]

/-- A field that is there was read from a member of the object. -/
theorem Constraint.exists_of_required {α : Type} {f : Json → Except Mismatch α} {name : String}
    {x : Option Json} {y : Option α} {a : α} (hx : x.mapM f = .ok y)
    (hy : required name y = .ok a) : ∃ v, x = some v ∧ f v = .ok a := by
  cases x with
  | none => cases hx; cases hy
  | some v =>
    rw [Option.mapM_some] at hx
    cases hv : f v with
    | error e => rw [hv] at hx; cases hx
    | ok b => rw [hv] at hx; cases hx; cases hy; exact ⟨v, rfl, hv⟩

theorem Constraint.ofJson_object_eq_ok_iff {members : List (String × Json)} {c : Constraint} :
    Constraint.ofJson (.object members) = .ok c ↔ (Json.object members).Holds c := by
  constructor
  · intro h
    simp only [ofJson, bind_eq_ok_iff] at h
    obtain ⟨field, hfield, operator, hoperator, f, hf, op, hop, value, hvalue, h⟩ := h
    cases h
    obtain ⟨written, hw, htext⟩ := exists_of_required hfield hf
    obtain ⟨name, hn, hname⟩ := exists_of_required hoperator hop
    obtain ⟨v, hv, hval⟩ := exists_of_required (f := fun v => .ok v) (x := Entries.get? "value" members)
      (y := Entries.get? "value" members) (by cases Entries.get? "value" members <;> rfl) hvalue
    cases hval
    exact ⟨Json.text_eq_ok_iff.mp htext ▸ hw, ⟨name, hn, Operator.ofJson_eq_ok_iff.mp hname⟩, hv⟩
  · rintro ⟨hfield, ⟨name, hn, hname⟩, hvalue⟩
    rw [Json.get?] at hfield hn hvalue
    simp only [ofJson, hfield, hn, hvalue, Option.mapM_some, Json.text,
      Operator.ofJson_eq_ok_iff.mpr hname]
    rfl

/-! ## Objects with the key of a quantifier -/

/-- Where an object is no condition it may still be a constraint. -/
theorem Tree.ofJson_object_eq_ok_iff {members : List (String × Json)} {t : Tree} :
    Tree.ofJson (.object members) = .ok t ↔
      (∃ c, Condition.ofJson (.object members) = .ok c ∧ t = c.tree) ∨
        (∀ c, Condition.ofJson (.object members) ≠ .ok c) ∧
          ∃ c, Constraint.ofJson (.object members) = .ok c ∧ t = .constraint c := by
  rw [Tree.ofJson, Condition.ofJson]
  cases Condition.ofObject (branchesOf members) (Entries.get? "result" members) with
  | ok c => simp [eitherOf, eq_comm]
  | error e => cases Constraint.ofJson (.object members) <;> simp [eitherOf, eq_comm]

/-- **What an object with the key of a quantifier is read as.** Never as a reference. As a condition
exactly where one branch is a list that can be read and the others are null or missing; then whatever
stands beside does not count. As a constraint exactly where there is no such branch, in one of four ways,
and the object holds a constraint. And what the review approves is read as a condition. -/
theorem Tree.ofJson_of_isCondition {node : Json} (h : node.isCondition = true) :
    (∀ id, Tree.ofJson node ≠ .ok (.reference id)) ∧
      (∀ q ts result, Tree.ofJson node = .ok (.condition q ts result) ↔
        node.OnlyBranch q ts ∧ result = node.result?) ∧
      (∀ c, Tree.ofJson node = .ok (.constraint c) ↔ node.Unbranched ∧ node.Holds c) ∧
      ∀ store limit role chain depth, Inspection.Approved store limit role chain depth node →
        ∃ q ts, node.OnlyBranch q ts ∧ Tree.ofJson node = .ok (.condition q ts node.result?) := by
  obtain ⟨members, rfl⟩ := Json.exists_of_isCondition h
  have hcondition (q : Quantifier) (ts : List Tree) (result : Option Json) :
      Tree.ofJson (.object members) = .ok (.condition q ts result) ↔
        (Json.object members).OnlyBranch q ts ∧ result = (Json.object members).result? := by
    rw [ofJson_object_eq_ok_iff]
    constructor
    · rintro (⟨⟨q', ts', result'⟩, hread, hc⟩ | ⟨_, c, _, hc⟩)
      · cases hc
        exact Condition.ofJson_object_eq_ok_iff.mp hread
      · cases hc
    · intro honly
      have hread := (Condition.ofJson_object_eq_ok_iff (c := ⟨q, ts, result⟩)).mpr honly
      exact .inl ⟨⟨q, ts, result⟩, hread, rfl⟩
  have hunbranched : (∀ c, Condition.ofJson (.object members) ≠ .ok c) ↔
      (Json.object members).Unbranched := by
    rw [Json.unbranched_iff]
    constructor
    · intro hno q ts honly
      have hread := (Condition.ofJson_object_eq_ok_iff (c := ⟨q, ts, _⟩)).mpr ⟨honly, rfl⟩
      exact hno ⟨q, ts, _⟩ hread
    · intro hno c hread
      exact hno c.quantifier c.children (Condition.ofJson_object_eq_ok_iff.mp hread).1
  refine ⟨fun id hid => ?_, hcondition, fun c => ?_, fun store limit role chain depth ha => ?_⟩
  · rcases ofJson_object_eq_ok_iff.mp hid with ⟨c, _, hc⟩ | ⟨_, c, _, hc⟩
    · cases hc
    · cases hc
  · rw [ofJson_object_eq_ok_iff, hunbranched, ← Constraint.ofJson_object_eq_ok_iff]
    constructor
    · rintro (⟨c', _, hc⟩ | ⟨hno, c', hread, hc⟩)
      · cases hc
      · cases hc
        exact ⟨hno, hread⟩
    · rintro ⟨hno, hread⟩
      exact .inr ⟨hno, c, hread, rfl⟩
  · cases ha with
    | condition hd hf hc hn =>
      obtain ⟨q, hq, _⟩ := Json.children?_eq_some_iff.mp hc
      obtain ⟨ts, _, _, hread⟩ :=
        exists_condition_of_flawless hf hq hc fun child hm => (hn child hm).exists_tree
      exact ⟨q, ts, ((hcondition q ts _).mp hread).1, hread⟩
    | leaf hn _ =>
      rw [h] at hn
      cases hn

/-- A condition whose only child can stand nowhere, with the keys of a constraint beside it. -/
def spoiledNode : Json :=
  .object [("all", .array [.number (.int 1)]), ("field", .string "age"),
    ("operator", .string "equals"), ("value", .number (.int 1))]

/-- It is read as a constraint although it has the key of a quantifier and, its child apart, no flaw of a
condition. -/
theorem spoiledNode_condition_read_as_constraint :
    spoiledNode.isCondition = true ∧ spoiledNode.conditionFlaw? 0 = none ∧
      Tree.ofJson spoiledNode = .ok (.constraint ⟨"age", .equals, .number (.int 1)⟩) :=
  ⟨rfl, rfl, rfl⟩

/-- The child is what makes it a constraint, and so the review refuses it wherever it stands. -/
theorem spoiledNode_unbranched :
    spoiledNode.isCondition = true ∧
      Tree.ofJson spoiledNode = .ok (.constraint ⟨"age", .equals, .number (.int 1)⟩) ∧
      ∀ store limit role chain depth,
        ¬ Inspection.Approved store limit role chain depth spoiledNode := by
  have hc : spoiledNode.isCondition = true := rfl
  obtain ⟨_, _, hconstraint, happroved⟩ := Tree.ofJson_of_isCondition hc
  have hchild (t : Tree) : Tree.ofJson (.number (.int 1)) ≠ .ok t := by
    intro h
    simp [Tree.ofJson] at h
  have hbad : spoiledNode.Unbranched :=
    .unreadable (q := .all) rfl (List.mem_singleton_self _) hchild
  have hholds : spoiledNode.Holds ⟨"age", .equals, .number (.int 1)⟩ :=
    ⟨rfl, ⟨_, rfl, .name rfl⟩, rfl⟩
  refine ⟨hc, (hconstraint _).mpr ⟨hbad, hholds⟩, fun store limit role chain depth ha => ?_⟩
  obtain ⟨q, ts, honly, _⟩ := happroved store limit role chain depth ha
  exact hbad.not_onlyBranch honly

end RuleTree

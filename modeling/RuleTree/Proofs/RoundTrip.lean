import RuleTree.Proofs.Execution

/-!
Writing a tree and reading it back. A result that is null is written as null, which is read as no result;
trees without such a result are `Writable`, and they are the ones that come back as they were
(`Tree.ofJson_toJson_iff`). Reading never gives any other tree, in whatever form a node is written, so what
has been read once can be written and read again (`Tree.writable_of_ofJson`). The trees of a rule made from
conditions are these conditions (`Rule.trees_ofConditions`).
-/

namespace RuleTree

namespace Tree

/-- No condition in the tree has null as its result. -/
inductive Writable : Tree → Prop
  | reference {id} : Writable (.reference id)
  | constraint {c} : Writable (.constraint c)
  | condition {q ts result} : result ≠ some .null → (∀ t ∈ ts, Writable t) →
      Writable (.condition q ts result)

end Tree

/-! ## Written nodes -/

theorem Constraint.writes_toJson (c : Constraint) : c.toJson.Writes c where
  field := rfl
  operator := ⟨c.operator.word, rfl, by rw [Operator.word_eq_name, Operator.ofName?_name]⟩
  value := rfl

theorem Constraint.isCondition_toJson (c : Constraint) : c.toJson.isCondition = false := rfl

namespace Tree

theorem listToJson_eq_map (ts : List Tree) : listToJson ts = ts.map toJson := by
  induction ts with
  | nil => rfl
  | cons t ts ih => rw [listToJson, ih, List.map_cons]

section Condition

variable (q : Quantifier) (ts : List Tree) (result : Option Json)

theorem quantifier?_toJson : (Tree.condition q ts result).toJson.quantifier? = some q := by
  cases q <;> cases result <;> rfl

theorem branchCount_toJson : (Tree.condition q ts result).toJson.branchCount = 1 := by
  cases q <;> cases result <;> rfl

theorem get?_key_toJson :
    (Tree.condition q ts result).toJson.get? q.key = some (.array (ts.map toJson)) := by
  rw [toJson, Json.get?, Entries.get?_cons, if_pos rfl, listToJson_eq_map]

theorem children?_toJson : (Tree.condition q ts result).toJson.children? = some (ts.map toJson) :=
  Json.children?_eq_some_iff.mpr ⟨q, quantifier?_toJson q ts result, get?_key_toJson q ts result⟩

theorem result?_toJson :
    (Tree.condition q ts result).toJson.result? = result.bind Json.nonNull? := by
  cases q <;> cases result <;> rfl

end Condition

end Tree

theorem Json.nonNull?_eq_some {value : Json} (h : value ≠ .null) : value.nonNull? = some value := by
  cases value with
  | null => exact absurd rfl h
  | _ => rfl

theorem Json.nonNull?_ne_null (value : Json) : value.nonNull? ≠ some .null := by
  cases value <;> simp [nonNull?]

/-! ## Reading back -/

namespace Tree

/-- A condition whose children come back comes back but for a result that is null. -/
theorem ofJson_toJson_condition (q : Quantifier) {ts us : List Tree} (result : Option Json)
    (h : List.Forall₂ (fun node u => Tree.ofJson node = .ok u) (ts.map toJson) us) :
    Tree.ofJson (Tree.condition q ts result).toJson =
      .ok (.condition q us (result.bind Json.nonNull?)) := by
  have hq := quantifier?_toJson q ts result
  have hread : Condition.ofJson (Tree.condition q ts result).toJson = .ok ⟨q, us, _⟩ :=
    Condition.ofJson_of_children? (branchCount_toJson q ts result) hq (children?_toJson q ts result)
      ((listOf_eq_ok_iff _ us).mpr h)
  rw [result?_toJson] at hread
  exact ofJson_of_condition hread

theorem ofJson_toJson {t : Tree} (h : t.Writable) : Tree.ofJson t.toJson = .ok t := by
  induction h with
  | reference => rw [toJson, Tree.ofJson]
  | @constraint c => exact ofJson_of_writes c.isCondition_toJson c.writes_toJson
  | @condition q ts result hr _ ih =>
    have hchildren : List.Forall₂ (fun node u => Tree.ofJson node = .ok u) (ts.map toJson) ts :=
      List.forall₂_map_left_iff.mpr (List.forall₂_same.mpr ih)
    rw [ofJson_toJson_condition q result hchildren]
    cases result with
    | none => rfl
    | some r => rw [Option.bind_some, Json.nonNull?_eq_some fun hnull => hr (congrArg some hnull)]

/-! ## What reading gives -/

/-- The children of a branch are writable, where there are any. -/
def BranchWritable (b : Condition.Branch) : Prop :=
  ∀ ts, b = some ts → ∀ t ∈ ts, Writable t

end Tree

namespace Condition

theorem mem_of_branchAt {key : String} {branches : List (String × Branch)} {ts : List Tree}
    (h : branchAt key branches = some ts) : (key, some ts) ∈ branches := by
  induction branches with
  | nil => cases h
  | cons e rest ih =>
    obtain ⟨k, b⟩ := e
    rw [branchAt] at h
    split at h
    next hk => rw [hk, h]; exact List.mem_cons_self
    next => exact List.mem_cons_of_mem _ (ih h)

/-- A condition has the children of one of the branches, and the result beside them. -/
theorem mem_of_ofBranches {branches : List (String × Branch)} {result : Option Json} {c : Condition}
    (h : ofBranches branches result = .ok c) :
    (c.quantifier.key, some c.children) ∈ branches ∧ c.result = result := by
  rw [ofBranches] at h
  split at h
  · cases h
  next q children hpresent =>
    obtain rfl := Except.ok.inj h
    have hm : (q, children) ∈ Quantifier.list.filterMap fun q =>
        (branchAt q.key branches).map (q, ·) := by
      rw [hpresent]
      exact List.mem_singleton_self _
    obtain ⟨other, _, hother⟩ := List.mem_filterMap.mp hm
    obtain ⟨ts, hts, hpair⟩ := Option.map_eq_some_iff.mp hother
    cases hpair
    exact ⟨mem_of_branchAt hts, rfl⟩
  · cases h

theorem mem_of_settled {read : List (String × Except Mismatch Branch)}
    {branches : List (String × Branch)} (h : settled read = .ok branches) {e : String × Branch}
    (he : e ∈ branches) : (e.1, .ok e.2) ∈ read := by
  induction read generalizing branches with
  | nil => cases h; cases he
  | cons r rest ih =>
    obtain ⟨k, b⟩ := r
    rw [settled] at h
    simp only [bind_eq_ok_iff] at h
    obtain ⟨branch, rfl, others, hothers, h⟩ := h
    cases h
    rcases List.mem_cons.mp he with rfl | he
    · exact List.mem_cons_self
    · exact List.mem_cons_of_mem _ (ih hothers he)

/-- Branches that are writable make a writable condition. -/
theorem writable_of_settled {read : List (String × Except Mismatch Branch)}
    {branches : List (String × Branch)} {value : Option Json} {c : Condition}
    (hread : ∀ e ∈ read, ∀ b, e.2 = .ok b → Tree.BranchWritable b) (hs : settled read = .ok branches)
    (h : ofBranches branches (value.bind Json.nonNull?) = .ok c) : c.tree.Writable := by
  obtain ⟨hm, hr⟩ := mem_of_ofBranches h
  have hchildren := hread _ (mem_of_settled hs hm) _ rfl
  refine .condition ?_ (hchildren _ rfl)
  rw [hr]
  cases value with
  | none => simp
  | some v => exact v.nonNull?_ne_null

end Condition

namespace Tree

theorem eitherOf_eq_ok {condition : Except Mismatch Condition} {constraint : Except Mismatch Constraint}
    {t : Tree} (h : eitherOf condition constraint = .ok t) :
    (∃ c, condition = .ok c ∧ t = c.tree) ∨ ∃ c, t = .constraint c := by
  cases condition with
  | ok c => exact .inl ⟨c, rfl, (Except.ok.inj h).symm⟩
  | error e =>
    cases constraint with
    | ok c => exact .inr ⟨c, (Except.ok.inj h).symm⟩
    | error e => cases h

/-! The induction goes through a value as reading does: nodes, the branches of an object, the branches of
an array, one branch, and the nodes of a list. -/

mutual

/-- Reading gives writable trees only. -/
theorem writable_of_ofJson : ∀ (value : Json) {t : Tree}, Tree.ofJson value = .ok t → t.Writable
  | .string id, t, h => by
    rw [Tree.ofJson] at h
    obtain rfl := Except.ok.inj h
    exact .reference
  | .object members, t, h => by
    rw [Tree.ofJson] at h
    rcases eitherOf_eq_ok h with ⟨c, hc, rfl⟩ | ⟨c, rfl⟩
    · obtain ⟨branches, hs, hb⟩ := (bind_eq_ok_iff _ _ _).mp hc
      exact Condition.writable_of_settled (branchesOf_writable members) hs hb
    · exact .constraint
  | .array items, t, h => by
    rw [Tree.ofJson] at h
    rcases eitherOf_eq_ok h with ⟨c, hc, rfl⟩ | ⟨c, rfl⟩
    · obtain ⟨branches, hs, hb⟩ := (bind_eq_ok_iff _ _ _).mp hc
      have hread : ∀ e ∈ (Quantifier.list.map Quantifier.key).zip (branchOfEach items),
          ∀ b, e.2 = .ok b → BranchWritable b := fun e he =>
        branchOfEach_writable items e.2 (List.of_mem_zip he).2
      by_cases hlen : 4 < items.length
      · rw [if_pos hlen] at hb
        cases hb
      · rw [if_neg hlen] at hb
        exact Condition.writable_of_settled hread hs hb
    · exact .constraint
  | .null, _, h => by simp [Tree.ofJson] at h
  | .bool _, _, h => by simp [Tree.ofJson] at h
  | .number _, _, h => by simp [Tree.ofJson] at h

theorem branchesOf_writable : ∀ (members : List (String × Json)),
    ∀ e ∈ branchesOf members, ∀ b, e.2 = .ok b → BranchWritable b
  | [], e, he => by simp [branchesOf] at he
  | (k, v) :: rest, e, he => by
    have hrest := branchesOf_writable rest
    rw [branchesOf] at he
    split at he
    · rcases List.mem_cons.mp he with rfl | he
      · exact fun b => branchOf_writable v
      · exact hrest e (List.mem_filter.mp he).1
    · exact hrest e he

theorem branchOfEach_writable : ∀ (items : List Json),
    ∀ r ∈ branchOfEach items, ∀ b, r = .ok b → BranchWritable b
  | [], r, hr => by simp [branchOfEach] at hr
  | v :: rest, r, hr => by
    rw [branchOfEach] at hr
    rcases List.mem_cons.mp hr with rfl | hr
    · exact fun b => branchOf_writable v
    · exact branchOfEach_writable rest r hr

theorem branchOf_writable : ∀ (value : Json) {b : Condition.Branch}, branchOf value = .ok b →
    BranchWritable b
  | .null, b, h => by
    rw [branchOf] at h
    obtain rfl := Except.ok.inj h
    intro ts hts
    cases hts
  | .array items, b, h => by
    rw [branchOf] at h
    cases hl : listOf items with
    | error e => rw [hl] at h; cases h
    | ok ts =>
      rw [hl] at h
      obtain rfl := Except.ok.inj h
      intro us hus
      obtain rfl := Option.some.inj hus
      exact listOf_writable items hl
  | .bool _, _, h => by simp [branchOf] at h
  | .number _, _, h => by simp [branchOf] at h
  | .string _, _, h => by simp [branchOf] at h
  | .object _, _, h => by simp [branchOf] at h

theorem listOf_writable : ∀ (values : List Json) {ts : List Tree}, listOf values = .ok ts →
    ∀ t ∈ ts, t.Writable
  | [], ts, h => by
    rw [listOf] at h
    obtain rfl := Except.ok.inj h
    intro t ht
    cases ht
  | v :: rest, ts, h => by
    rw [listOf] at h
    obtain ⟨t, ht, h⟩ := (bind_eq_ok_iff _ _ _).mp h
    obtain ⟨us, hus, h⟩ := (bind_eq_ok_iff _ _ _).mp h
    obtain rfl := Except.ok.inj h
    exact List.forall_mem_cons.mpr ⟨writable_of_ofJson v ht, listOf_writable rest hus⟩

end

/-- The trees that come back as they were are the writable ones. -/
theorem ofJson_toJson_iff (t : Tree) : Tree.ofJson t.toJson = .ok t ↔ t.Writable :=
  ⟨writable_of_ofJson t.toJson, ofJson_toJson⟩

end Tree

/-! ## Rules -/

/-- A single condition is written alone, and as an object it is the one root. -/
theorem Rule.roots_ofConditions (id label : String) (cs : List Condition) :
    (Rule.ofConditions id label cs).roots = cs.map Condition.toJson := by
  match cs with
  | [] => rfl
  | [c] => rfl
  | _ :: _ :: _ => rfl

theorem Rule.trees_ofConditions (id label : String) {cs : List Condition}
    (h : ∀ c ∈ cs, c.tree.Writable) :
    (Rule.ofConditions id label cs).trees = .ok (cs.map Condition.tree) := by
  refine (Store.trees_eq_ok_iff _).mpr ?_
  rw [Rule.roots_ofConditions, List.forall₂_map_left_iff, List.forall₂_map_right_iff]
  exact List.forall₂_same.mpr fun c hm => Tree.ofJson_toJson (h c hm)

namespace Tree

/-- **Trees survive writing and reading.** The writable ones come back as they were and no others do; what
reading gives is writable, in whatever form it was written; and a rule made from writable conditions has
these conditions as its trees, in order and however many. -/
theorem round_trips :
    (∀ t : Tree, Tree.ofJson t.toJson = .ok t ↔ t.Writable) ∧
      (∀ (value : Json) (t : Tree), Tree.ofJson value = .ok t →
        t.Writable ∧ Tree.ofJson t.toJson = .ok t) ∧
      ∀ (id label : String) (cs : List Condition), (∀ c ∈ cs, c.tree.Writable) →
        (Rule.ofConditions id label cs).trees = .ok (cs.map Condition.tree) := by
  refine ⟨ofJson_toJson_iff, fun value t h => ?_, fun id label cs => Rule.trees_ofConditions id label⟩
  have hw := writable_of_ofJson value h
  exact ⟨hw, ofJson_toJson hw⟩

/-- A condition written as an array, with an operator as an object and by its second name. -/
def arrayForm : Json :=
  .array [.null, .array [.string "adult", .array [.string "age",
    .object [("less than or equal to", .null)], .null]], .null, .number (.int 1)]

def fromArrayForm : Condition :=
  ⟨.all, [.reference "adult", .constraint ⟨"age", .lessThanOrEqual, .null⟩], some (.number (.int 1))⟩

theorem arrayForm_round_trips :
    Tree.ofJson arrayForm = .ok fromArrayForm.tree ∧
      Tree.ofJson fromArrayForm.tree.toJson = .ok fromArrayForm.tree ∧
      (Rule.ofConditions "r" "" [fromArrayForm, fromArrayForm]).trees =
        .ok [fromArrayForm.tree, fromArrayForm.tree] := by
  have hread : Tree.ofJson arrayForm = .ok fromArrayForm.tree := rfl
  obtain ⟨hw, hback⟩ := round_trips.2.1 _ _ hread
  have hboth : ∀ c ∈ [fromArrayForm, fromArrayForm], c.tree.Writable := by
    intro c hm
    obtain rfl : c = fromArrayForm := by simpa using hm
    exact hw
  exact ⟨hread, hback, round_trips.2.2 "r" "" _ hboth⟩

end Tree

end RuleTree

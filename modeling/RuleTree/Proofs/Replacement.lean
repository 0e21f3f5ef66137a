import RuleTree.Proofs.Lowering

/-!
One reference among written conditions gives way to what its rule holds. The written conditions before
and after are read alike (`Json.Inlined.alongside`): either both fail, or the tree of the second is that
of the first with the same one reference replaced.
-/

namespace RuleTree

/-! ## Trees and written nodes -/

/-- The second tree is the first with at most one reference to the given id replaced by a tree. -/
inductive Tree.Inlined (id : String) (target : Tree) : Tree → Tree → Prop
  | same {t} : Inlined id target t t
  | here : Inlined id target (.reference id) target
  | child {q left t u right result} : Inlined id target t u →
      Inlined id target (.condition q (left ++ t :: right) result)
        (.condition q (left ++ u :: right) result)

/-- The second node is the first with one string, which stands among the children of a condition at any
depth or is the node itself, replaced by a node. An array is a condition only where it is read as one; its
children are in the first three items. -/
inductive Json.Inlined (id : String) (target : Json) : Json → Json → Prop
  | here : Inlined id target (.string id) target
  | member {q : Quantifier} {before after left right node other} : Inlined id target node other →
      Inlined id target (.object (before ++ (q.key, .array (left ++ node :: right)) :: after))
        (.object (before ++ (q.key, .array (left ++ other :: right)) :: after))
  | item {c before after left right node other} : before.length < 3 →
      Condition.ofJson (.array (before ++ .array (left ++ node :: right) :: after)) = .ok c →
      Inlined id target node other →
      Inlined id target (.array (before ++ .array (left ++ node :: right) :: after))
        (.array (before ++ .array (left ++ other :: right) :: after))

/-- The second conditions are the first with one string replaced, as a root or below one. -/
inductive Json.RootInlined (id : String) (target : Json) : Json → Json → Prop
  | bare {node other} : node.isArray = false → Inlined id target node other →
      RootInlined id target node other
  | among {left right node other} : Inlined id target node other →
      RootInlined id target (.array (left ++ node :: right)) (.array (left ++ other :: right))

/-! ## Readings side by side -/

/-- Two readings that both fail, or both succeed with results that are related. -/
inductive Alongside {ε α β : Type} (R : α → β → Prop) : Except ε α → Except ε β → Prop
  | ok {a b} : R a b → Alongside R (.ok a) (.ok b)
  | error {e e'} : Alongside R (.error e) (.error e')

namespace Alongside

variable {ε α β γ δ : Type} {R : α → β → Prop} {S : γ → δ → Prop}

theorem refl {R : α → α → Prop} (h : ∀ a, R a a) (x : Except ε α) : Alongside R x x := by
  cases x with
  | ok a => exact .ok (h a)
  | error e => exact .error

theorem bind {x : Except ε α} {y : Except ε β} {f : α → Except ε γ} {g : β → Except ε δ}
    (h : Alongside R x y) (hf : ∀ a b, R a b → Alongside S (f a) (g b)) :
    Alongside S (x >>= f) (y >>= g) := by
  cases h with
  | ok hab => exact hf _ _ hab
  | error => exact .error

theorem map {x : Except ε α} {y : Except ε β} {f : α → γ} {g : β → δ} (h : Alongside R x y)
    (hf : ∀ a b, R a b → S (f a) (g b)) : Alongside S (f <$> x) (g <$> y) := by
  cases h with
  | ok hab => exact .ok (hf _ _ hab)
  | error => exact .error

theorem exists_of_ok {a : α} {y : Except ε β} (h : Alongside R (.ok a) y) :
    ∃ b, y = .ok b ∧ R a b := by
  cases h with
  | ok hab => exact ⟨_, rfl, hab⟩

end Alongside

section Reading

variable {id : String} {target : Tree}

/-! ## Children and branches -/

/-- At most one reference is replaced in a list of trees. -/
def Tree.InlinedAmong (id : String) (target : Tree) (ts us : List Tree) : Prop :=
  ts = us ∨ ∃ left t u right, ts = left ++ t :: right ∧ us = left ++ u :: right ∧
    Tree.Inlined id target t u

/-- At most one reference is replaced in a branch. -/
def Condition.Branch.Inlined (id : String) (target : Tree) (b c : Branch) : Prop :=
  b = c ∨ ∃ ts us, b = some ts ∧ c = some us ∧ Tree.InlinedAmong id target ts us

/-- Branches side by side, under the same keys. -/
def Condition.BranchesInlined (id : String) (target : Tree) :
    List (String × Branch) → List (String × Branch) → Prop :=
  List.Forall₂ fun b c => b.1 = c.1 ∧ b.2.Inlined id target c.2

/-- The second condition is the first with at most one reference replaced. -/
structure Condition.Inlined (id : String) (target : Tree) (c d : Condition) : Prop where
  quantifier : c.quantifier = d.quantifier
  children : Tree.InlinedAmong id target c.children d.children
  result : c.result = d.result

theorem Condition.Inlined.tree {c d : Condition} (h : c.Inlined id target d) :
    Tree.Inlined id target c.tree d.tree := by
  obtain ⟨q, ts, result⟩ := c
  obtain ⟨q', us, result'⟩ := d
  obtain ⟨hq, hc, hr⟩ := h
  cases hq
  cases hr
  rcases hc with hsame | ⟨left, t, u, right, ht, hu, h⟩
  · cases hsame
    exact .same
  · cases ht
    cases hu
    exact .child h

namespace Tree

theorem listOf_alongside {node other : Json}
    (h : Alongside (Tree.Inlined id target) (Tree.ofJson node) (Tree.ofJson other))
    (left right : List Json) :
    Alongside (InlinedAmong id target) (listOf (left ++ node :: right))
      (listOf (left ++ other :: right)) := by
  induction left with
  | nil =>
    rw [List.nil_append, List.nil_append, listOf, listOf]
    refine h.bind fun t u htu => ?_
    cases listOf right with
    | error e => exact .error
    | ok ts => exact .ok (.inr ⟨[], t, u, ts, rfl, rfl, htu⟩)
  | cons v left ih =>
    rw [List.cons_append, List.cons_append, listOf, listOf]
    cases Tree.ofJson v with
    | error e => exact .error
    | ok w =>
      refine ih.bind fun ts us hts => .ok ?_
      rcases hts with rfl | ⟨before, t, u, after, rfl, rfl, htu⟩
      · exact .inl rfl
      · exact .inr ⟨w :: before, t, u, after, rfl, rfl, htu⟩

theorem branchOf_alongside {node other : Json}
    (h : Alongside (Tree.Inlined id target) (Tree.ofJson node) (Tree.ofJson other))
    (left right : List Json) :
    Alongside (Condition.Branch.Inlined id target) (branchOf (.array (left ++ node :: right)))
      (branchOf (.array (left ++ other :: right))) := by
  rw [branchOf, branchOf]
  exact (listOf_alongside h left right).map fun ts us hts => .inr ⟨ts, us, rfl, rfl, hts⟩

/-- Readings of branches side by side, under the same keys. -/
def ReadAlongside (id : String) (target : Tree) :
    List (String × Except Mismatch Condition.Branch) →
      List (String × Except Mismatch Condition.Branch) → Prop :=
  List.Forall₂ fun b c => b.1 = c.1 ∧ Alongside (Condition.Branch.Inlined id target) b.2 c.2

theorem readAlongside_refl (branches : List (String × Except Mismatch Condition.Branch)) :
    ReadAlongside id target branches branches :=
  List.forall₂_same.mpr fun b _ => ⟨rfl, .refl (fun _ => .inl rfl) b.2⟩

theorem ReadAlongside.erase {xs ys : List (String × Except Mismatch Condition.Branch)}
    (h : ReadAlongside id target xs ys) (key : String) :
    ReadAlongside id target (Entries.erase key xs) (Entries.erase key ys) := by
  induction h with
  | nil => exact .nil
  | @cons b c xs ys hbc _ ih =>
    obtain ⟨k, b⟩ := b
    obtain ⟨k', c⟩ := c
    obtain rfl : k = k' := hbc.1
    by_cases hk : k = key
    · simpa [Entries.erase, hk] using ih
    · have hcons : ReadAlongside id target ((k, b) :: Entries.erase key xs)
          ((k, c) :: Entries.erase key ys) := .cons hbc ih
      simpa [Entries.erase, hk] using hcons

theorem branchesOf_alongside {v w : Json}
    (h : Alongside (Condition.Branch.Inlined id target) (branchOf v) (branchOf w)) (key : String)
    (before after : List (String × Json)) :
    ReadAlongside id target (branchesOf (before ++ (key, v) :: after))
      (branchesOf (before ++ (key, w) :: after)) := by
  induction before with
  | nil =>
    rw [List.nil_append, List.nil_append, branchesOf, branchesOf]
    split
    · exact .cons ⟨rfl, h⟩ (readAlongside_refl _)
    · exact readAlongside_refl _
  | cons e before ih =>
    obtain ⟨k, x⟩ := e
    rw [List.cons_append, List.cons_append, branchesOf, branchesOf]
    split
    · exact .cons ⟨rfl, .refl (fun _ => .inl rfl) _⟩ (ih.erase k)
    · exact ih

theorem branchOfEach_eq_map (items : List Json) : branchOfEach items = items.map branchOf := by
  induction items with
  | nil => rfl
  | cons v rest ih => rw [branchOfEach, ih, List.map_cons]

/-- Branches by position, each under the key of its position. -/
theorem zip_alongside {v w : Json}
    (h : Alongside (Condition.Branch.Inlined id target) (branchOf v) (branchOf w))
    (keys : List String) (before after : List Json) :
    ReadAlongside id target (keys.zip (branchOfEach (before ++ v :: after)))
      (keys.zip (branchOfEach (before ++ w :: after))) := by
  simp only [branchOfEach_eq_map, List.map_append, List.map_cons]
  induction before generalizing keys with
  | nil =>
    cases keys with
    | nil => exact .nil
    | cons key keys => exact .cons ⟨rfl, h⟩ (readAlongside_refl _)
  | cons x before ih =>
    cases keys with
    | nil => exact .nil
    | cons key keys => exact .cons ⟨rfl, .refl (fun _ => .inl rfl) _⟩ (ih keys)

end Tree

/-! ## Conditions -/

namespace Condition

theorem settled_alongside {xs ys : List (String × Except Mismatch Branch)}
    (h : Tree.ReadAlongside id target xs ys) :
    Alongside (BranchesInlined id target) (settled xs) (settled ys) := by
  induction h with
  | nil => exact .ok .nil
  | @cons b c xs ys hbc _ ih =>
    obtain ⟨k, b⟩ := b
    obtain ⟨k', c⟩ := c
    obtain rfl : k = k' := hbc.1
    rw [settled, settled]
    exact hbc.2.bind fun _ _ hbranch => ih.bind fun _ _ hrest => .ok (.cons ⟨rfl, hbranch⟩ hrest)

theorem BranchesInlined.branchAt {xs ys : List (String × Branch)}
    (h : BranchesInlined id target xs ys) (key : String) :
    (branchAt key xs).Inlined id target (branchAt key ys) := by
  induction h with
  | nil => exact .inl rfl
  | @cons b c xs ys hbc _ ih =>
    obtain ⟨k, b⟩ := b
    obtain ⟨k', c⟩ := c
    obtain rfl : k = k' := hbc.1
    rw [Condition.branchAt, Condition.branchAt]
    split
    · exact hbc.2
    · exact ih

/-- A branch that is there on one side is there on the other. -/
theorem Branch.Inlined.cases {b c : Branch} (h : b.Inlined id target c) :
    b = none ∧ c = none ∨ ∃ ts us, b = some ts ∧ c = some us ∧ Tree.InlinedAmong id target ts us := by
  rcases h with rfl | h
  · cases b with
    | none => exact .inl ⟨rfl, rfl⟩
    | some ts => exact .inr ⟨ts, ts, rfl, rfl, .inl rfl⟩
  · exact .inr h

/-- The branches that are there, side by side. -/
theorem BranchesInlined.present {xs ys : List (String × Branch)} (h : BranchesInlined id target xs ys)
    (qs : List Quantifier) :
    List.Forall₂ (fun b c => b.1 = c.1 ∧ Tree.InlinedAmong id target b.2 c.2)
      (qs.filterMap fun q => (Condition.branchAt q.key xs).map (q, ·))
      (qs.filterMap fun q => (Condition.branchAt q.key ys).map (q, ·)) := by
  induction qs with
  | nil => exact .nil
  | cons q qs ih =>
    rcases (h.branchAt q.key).cases with ⟨hx, hy⟩ | ⟨ts, us, hx, hy, hts⟩
    · simpa only [List.filterMap_cons, hx, hy, Option.map_none] using ih
    · simp only [List.filterMap_cons, hx, hy, Option.map_some]
      exact .cons ⟨rfl, hts⟩ ih

theorem ofBranches_alongside {xs ys : List (String × Branch)} (h : BranchesInlined id target xs ys)
    (result : Option Json) :
    Alongside (Condition.Inlined id target) (ofBranches xs result) (ofBranches ys result) := by
  have hpresent := h.present Quantifier.list
  unfold ofBranches
  generalize Quantifier.list.filterMap (fun q => (Condition.branchAt q.key xs).map (q, ·)) = bs at *
  generalize Quantifier.list.filterMap (fun q => (Condition.branchAt q.key ys).map (q, ·)) = cs at *
  cases hpresent with
  | nil => exact .error
  | cons hbc hrest =>
    cases hrest with
    | nil => exact .ok ⟨hbc.1, hbc.2, rfl⟩
    | cons _ _ => exact .error

theorem ofObject_alongside {xs ys : List (String × Except Mismatch Branch)}
    (h : Tree.ReadAlongside id target xs ys) (result : Option Json) :
    Alongside (Condition.Inlined id target) (ofObject xs result) (ofObject ys result) :=
  (settled_alongside h).bind fun _ _ hbranches => ofBranches_alongside hbranches _

end Condition

/-! ## Nodes -/

theorem Entries.get?_append_cons {α : Type} {key other : String} (h : other ≠ key) (v w : α)
    (before after : List (String × α)) :
    get? key (before ++ (other, v) :: after) = get? key (before ++ (other, w) :: after) := by
  simp [get?_append, h]

/-- No quantifier has the key of another field of a condition or of a constraint. -/
theorem Quantifier.key_ne {q : Quantifier} {key : String}
    (h : key ∈ ["field", "operator", "value", "result"]) : q.key ≠ key := by
  rintro rfl
  cases q <;> simp [Quantifier.key] at h

theorem Constraint.ofJson_member (q : Quantifier) (v w : Json) (before after : List (String × Json)) :
    Constraint.ofJson (.object (before ++ (q.key, v) :: after)) =
      Constraint.ofJson (.object (before ++ (q.key, w) :: after)) := by
  have hget (key : String) (hk : key ∈ ["field", "operator", "value", "result"]) :=
    Entries.get?_append_cons (Quantifier.key_ne (q := q) hk) v w before after
  simp only [ofJson, hget "field" (by simp), hget "operator" (by simp), hget "value" (by simp)]

namespace Json.Inlined

variable {written node other : Json}

theorem ofJson_member
    (h : Alongside (Tree.Inlined id target) (Tree.ofJson node) (Tree.ofJson other)) (q : Quantifier)
    (before after : List (String × Json)) (left right : List Json) :
    Alongside (Condition.Inlined id target)
      (Condition.ofJson (.object (before ++ (q.key, .array (left ++ node :: right)) :: after)))
      (Condition.ofJson (.object (before ++ (q.key, .array (left ++ other :: right)) :: after))) := by
  have hbranches := Tree.branchesOf_alongside (Tree.branchOf_alongside h left right) q.key before after
  have hne : q.key ≠ "result" := Quantifier.key_ne (by simp)
  have hresult := Entries.get?_append_cons hne (Json.array (left ++ node :: right))
    (.array (left ++ other :: right)) before after
  rw [Condition.ofJson, Condition.ofJson, hresult]
  exact Condition.ofObject_alongside hbranches _

theorem ofJson_item
    (h : Alongside (Tree.Inlined id target) (Tree.ofJson node) (Tree.ofJson other))
    {before : List Json} (hlt : before.length < 3) (after left right : List Json) :
    Alongside (Condition.Inlined id target)
      (Condition.ofJson (.array (before ++ .array (left ++ node :: right) :: after)))
      (Condition.ofJson (.array (before ++ .array (left ++ other :: right) :: after))) := by
  have hbranches := Tree.zip_alongside (Tree.branchOf_alongside h left right)
    (Quantifier.list.map Quantifier.key) before after
  rw [Condition.ofJson, Condition.ofJson, Condition.ofArray, Condition.ofArray]
  refine (Condition.settled_alongside hbranches).bind fun bs cs hbc => ?_
  -- The result stands behind the branches, and the two arrays are equally long.
  have hthird : (before ++ Json.array (left ++ node :: right) :: after)[3]? =
      (before ++ .array (left ++ other :: right) :: after)[3]? := by
    obtain ⟨k, hk⟩ : ∃ k, 3 - before.length = k + 1 := ⟨2 - before.length, by omega⟩
    simp only [List.getElem?_append_right (Nat.le_of_lt hlt), hk, List.getElem?_cons_succ]
  simp only [List.length_append, List.length_cons, hthird]
  split
  · exact .error
  · exact Condition.ofBranches_alongside hbc _

theorem eitherOf_alongside {x y : Except Mismatch Condition}
    (h : Alongside (Condition.Inlined id target) x y) (constraint : Except Mismatch Constraint) :
    Alongside (Tree.Inlined id target) (Tree.eitherOf x constraint) (Tree.eitherOf y constraint) := by
  cases h with
  | ok hcd => exact .ok hcd.tree
  | error =>
    cases constraint with
    | ok c => exact .ok .same
    | error e => exact .error

/-- **Reading after a replacement.** If the replacing node is read as a tree, the two nodes are read
alike. -/
theorem alongside {written : Json} (hnew : Tree.ofJson written = .ok target)
    (h : Json.Inlined id written node other) :
    Alongside (Tree.Inlined id target) (Tree.ofJson node) (Tree.ofJson other) := by
  induction h with
  | here =>
    rw [hnew]
    exact .ok .here
  | @member q before after left right node other _ ih =>
    rw [Tree.ofJson, Tree.ofJson,
      Constraint.ofJson_member q (.array (left ++ node :: right)) (.array (left ++ other :: right))]
    exact eitherOf_alongside (ofJson_member ih q before after left right) _
  | @item c before after left right node other hlt hread _ ih =>
    have hcondition := ofJson_item ih hlt after left right
    rw [hread] at hcondition
    obtain ⟨d, hd, hcd⟩ := hcondition.exists_of_ok
    rw [Condition.ofJson] at hread hd
    rw [Tree.ofJson, Tree.ofJson, hread, hd]
    exact .ok hcd.tree

end Json.Inlined

end Reading

end RuleTree

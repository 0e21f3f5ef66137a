import RuleTree.Comparison

/-!
When values are equal, and what cannot tell equal values apart. Numbers that stand alone are compared as
doubles and all others by kind and value, but both come down to comparing what equality sees of a value
(`equals_iff`). So it is an equivalence, and the operators that compare, order and look up values respect it
(`equals_is_congruence`).
-/

namespace RuleTree

/-! ## Zeros without a sign -/

namespace Double

/-- The number without the sign of a zero. -/
def unsigned (d : Double) : Double :=
  { d with negative := d.negative && decide (d.units ≠ 0) }

theorem value_eq_iff {a b : Double} : a.value = b.value ↔ a.unsigned = b.unsigned := by
  obtain ⟨s, m, hm⟩ := a
  obtain ⟨t, n, hn⟩ := b
  simp only [value, unsigned, mk.injEq]
  by_cases hzero : m = 0 <;> by_cases hzero' : n = 0 <;> cases s <;> cases t <;>
    simp [hzero, hzero'] <;> omega

end Double

def Number.unsigned : Number → Number
  | .int i => .int i
  | .double d => .double d.unsigned

theorem Number.same_iff {a b : Number} : a.same b = true ↔ a.unsigned = b.unsigned := by
  cases a <;> cases b <;> simp [Number.same, unsigned, Double.beq_iff, Double.value_eq_iff]

namespace Json

mutual

/-- The value without the signs of the zeros in it. -/
def unsigned : Json → Json
  | .number n => .number n.unsigned
  | .array items => .array (unsignedItems items)
  | .object members => .object (unsignedMembers members)
  | value => value

def unsignedItems : List Json → List Json
  | [] => []
  | x :: rest => unsigned x :: unsignedItems rest

def unsignedMembers : List (String × Json) → List (String × Json)
  | [] => []
  | (k, x) :: rest => (k, unsigned x) :: unsignedMembers rest

end

mutual

/-- Values are the same if nothing but signs of zeros tells them apart. -/
theorem same_iff : ∀ x y : Json, x.same y = true ↔ x.unsigned = y.unsigned
  | .null, y => by cases y <;> simp [same, unsigned]
  | .bool _, y => by cases y <;> simp [same, unsigned]
  | .number _, y => by cases y <;> simp [same, unsigned, Number.same_iff]
  | .string _, y => by cases y <;> simp [same, unsigned]
  | .array xs, y => by cases y <;> simp [same, unsigned, sameItems_iff xs]
  | .object xs, y => by cases y <;> simp [same, unsigned, sameMembers_iff xs]

theorem sameItems_iff : ∀ xs ys : List Json,
    sameItems xs ys = true ↔ unsignedItems xs = unsignedItems ys
  | [], ys => by cases ys <;> simp [sameItems, unsignedItems]
  | x :: xs, ys => by
    cases ys <;> simp [sameItems, unsignedItems, same_iff x, sameItems_iff xs]

theorem sameMembers_iff : ∀ xs ys : List (String × Json),
    sameMembers xs ys = true ↔ unsignedMembers xs = unsignedMembers ys
  | [], ys => by cases ys <;> simp [sameMembers, unsignedMembers]
  | (_, x) :: xs, ys => by
    cases ys <;>
      simp [sameMembers, unsignedMembers, same_iff x, sameMembers_iff xs, and_assoc]

end

/-! ## Equality -/

/-- What equality sees of a value: of a number its double, and of anything else all but the signs of
zeros. -/
def seen : Json → Int ⊕ Json
  | .number n => .inl n.toDouble.value
  | value => .inr value.unsigned

theorem beq_eq_same (x y : Json) : (x == y) = x.same y := rfl

theorem equals_iff {x y : Json} : x.equals y = true ↔ x.seen = y.seen := by
  cases x <;> cases y <;> simp [seen, equals, beq_eq_same, same_iff, Double.beq_iff, unsigned]

theorem equals_equivalence : Equivalence fun x y : Json => x.equals y = true where
  refl _ := equals_iff.mpr rfl
  symm h := equals_iff.mpr (equals_iff.mp h).symm
  trans h h' := equals_iff.mpr ((equals_iff.mp h).trans (equals_iff.mp h'))

theorem equals_comm (x y : Json) : x.equals y = y.equals x :=
  Bool.eq_iff_iff.mpr ⟨equals_equivalence.symm, equals_equivalence.symm⟩

section Equal

variable {x y : Json} (h : x.equals y = true)
include h

/-! ## Equal values -/

/-- Equal values are equal to the same values. -/
theorem equals_congr : x.equals = y.equals := by
  funext z
  rw [Bool.eq_iff_iff, equals_iff, equals_iff, equals_iff.mp h]

theorem equals_congr_right (z : Json) : z.equals x = z.equals y := by
  rw [equals_comm z x, equals_comm z y, equals_congr h]

/-- Only numbers and strings have an order, and those that are equal have the same. -/
theorem compare?_congr (z : Json) : x.compare? z = y.compare? z := by
  have hseen := equals_iff.mp h
  cases x <;> cases y <;> simp only [seen, unsigned, reduceCtorEq, Sum.inl.injEq, Sum.inr.injEq,
    string.injEq] at hseen
  case number.number => cases z <;> simp only [compare?, hseen]
  case string.string => rw [hseen]
  all_goals rfl

theorem memberOf?_congr (list : Json) : x.memberOf? list = y.memberOf? list := by
  rw [memberOf?, memberOf?, equals_congr h]

/-- An item may stand for an equal one in the array that is searched. -/
theorem memberOf?_array_congr (item : Json) (before after : List Json) :
    item.memberOf? (.array (before ++ x :: after)) =
      item.memberOf? (.array (before ++ y :: after)) := by
  simp only [memberOf?, asArray?, Option.map_some, List.any_append, List.any_cons,
    equals_congr_right h]

theorem overlaps?_array_congr (other : Json) (before after : List Json) :
    (array (before ++ x :: after)).overlaps? other =
      (array (before ++ y :: after)).overlaps? other := by
  simp only [overlaps?, asArray?, Option.bind_some, List.any_append, List.any_cons, equals_congr h]

end Equal

/-! ## Arrays with something in common -/

theorem overlaps?_comm (left right : Json) : left.overlaps? right = right.overlaps? left := by
  have hany (items wanted : List Json) :
      (wanted.any fun w => items.any fun x => x.equals w) =
        items.any fun x => wanted.any fun w => w.equals x := by
    rw [Bool.eq_iff_iff]
    simp only [List.any_eq_true]
    constructor
    · rintro ⟨w, hw, x, hx, h⟩
      exact ⟨x, hx, w, hw, equals_equivalence.symm h⟩
    · rintro ⟨x, hx, w, hw, h⟩
      exact ⟨w, hw, x, hx, equals_equivalence.symm h⟩
  cases left <;> cases right <;> simp [overlaps?, asArray?, hany]

/-- An array has something in common with others if one of them is a member of it. -/
theorem overlaps?_array_eq_true_iff {list : Json} {wanted : List Json} :
    list.overlaps? (.array wanted) = some true ↔ ∃ w ∈ wanted, w.memberOf? list = some true := by
  cases list <;> simp [overlaps?, memberOf?, asArray?, equals_comm]

end Json

/-! ## Operators -/

/-- An operator answers alike for two criteria with what is expected of them, whatever patterns are kept. -/
def Operator.Agrees (op : Operator) (left right : Json × Json) : Prop :=
  ∀ (isEmpty : Emptiness) (cache cache' : PatternCache),
    (op.compare isEmpty (some left.1) left.2 cache).1 =
      (op.compare isEmpty (some right.1) right.2 cache').1

/-- Values of which one may stand for the other. -/
structure Json.Interchangeable (x y : Json) : Prop where
  /-- As a criterion that is compared or looked up. -/
  criterion : ∀ op ∈ [Operator.equals, .doesNotEqual, .isIn, .isNotIn, .greaterThan, .lessThan,
    .greaterThanOrEqual, .lessThanOrEqual], ∀ v, op.Agrees (x, v) (y, v)
  /-- As the value that a criterion is searched for. -/
  expected : ∀ op ∈ [Operator.contains, .doesNotContain], ∀ v, op.Agrees (v, x) (v, y)
  /-- As an item of an expected array. -/
  inExpected : ∀ op ∈ [Operator.isIn, .isNotIn, .containsAny, .containsNone], ∀ v before after,
    op.Agrees (v, .array (before ++ x :: after)) (v, .array (before ++ y :: after))
  /-- As an item of an array that is the criterion. -/
  inCriterion : ∀ op ∈ [Operator.contains, .doesNotContain, .containsAny, .containsNone],
    ∀ v before after, op.Agrees (.array (before ++ x :: after), v) (.array (before ++ y :: after), v)

theorem Json.interchangeable_of_equals {x y : Json} (h : x.equals y = true) : x.Interchangeable y where
  criterion op hop v isEmpty cache cache' := by
    have hsame := compare?_congr h v
    have hmember := memberOf?_congr h v
    simp only [List.mem_cons, List.not_mem_nil, or_false] at hop
    rcases hop with rfl | rfl | rfl | rfl | rfl | rfl | rfl | rfl <;>
      simp only [Operator.compare, Operator.passes, ordered, equals_congr h, hsame, hmember]
  expected op hop v isEmpty cache cache' := by
    have hmember := memberOf?_congr h v
    simp only [List.mem_cons, List.not_mem_nil, or_false] at hop
    rcases hop with rfl | rfl <;> simp only [Operator.compare, Operator.passes, hmember]
  inExpected op hop v before after isEmpty cache cache' := by
    have hmember := memberOf?_array_congr h v before after
    have hcommon := overlaps?_array_congr h v before after
    simp only [overlaps?_comm _ v] at hcommon
    simp only [List.mem_cons, List.not_mem_nil, or_false] at hop
    rcases hop with rfl | rfl | rfl | rfl <;> simp only [Operator.compare, Operator.passes, hmember, hcommon]
  inCriterion op hop v before after isEmpty cache cache' := by
    have hmember := memberOf?_array_congr h v before after
    have hcommon := overlaps?_array_congr h v before after
    simp only [List.mem_cons, List.not_mem_nil, or_false] at hop
    rcases hop with rfl | rfl | rfl | rfl <;> simp only [Operator.compare, Operator.passes, hmember, hcommon]

/-- **Equality is respected.** Equality is an equivalence, and equal values are interchangeable for all
operators that compare, order or look up values. An array has an item in common with a second one
if the second has one in common with it, and it does if it contains some item of the second. -/
theorem equals_is_congruence :
    Equivalence (fun x y : Json => x.equals y = true) ∧
    (∀ x y : Json, x.equals y = true → x.Interchangeable y) ∧
    (∀ x y : Json, Operator.containsAny.Agrees (x, y) (y, x)) ∧
    ∀ (isEmpty : Emptiness) (criterion : Json) (wanted : List Json) (cache cache' : PatternCache),
      (Operator.containsAny.compare isEmpty (some criterion) (.array wanted) cache).1 = true ↔
        ∃ w ∈ wanted, (Operator.contains.compare isEmpty (some criterion) w cache').1 = true := by
  have hany (found : Option Bool) : found.any id = true ↔ found = some true := by
    simp [Option.any_eq_true]
  refine ⟨Json.equals_equivalence, fun x y => Json.interchangeable_of_equals, ?_, ?_⟩
  · intro x y isEmpty cache cache'
    simp only [Operator.compare, Operator.passes, Json.overlaps?_comm x y]
  · intro isEmpty criterion wanted cache cache'
    simp only [Operator.compare, Operator.passes, hany]
    exact Json.overlaps?_array_eq_true_iff

/-- The integer two and the double two may stand for each other, but arrays of them are not equal. -/
theorem two_and_double_two_interchangeable :
    let two := Json.number (.int 2)
    let double := Json.number (.double (.ofInt 2))
    two.equals double = true ∧ two.Interchangeable double ∧
      (Json.array [two]).equals (.array [double]) = false := by
  intro two double
  have hequals : two.equals double = true := Double.beq_iff.mpr rfl
  exact ⟨hequals, equals_is_congruence.2.1 two double hequals, rfl⟩

end RuleTree

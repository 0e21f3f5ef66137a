import RuleTree.Proofs.Opposites
import RuleTree.Proofs.Rounding

/-!
Integers in comparisons. Numbers are compared as doubles, so what the operators say of two integers is what
is true of their nearest doubles (`integers_compared_as_doubles`). That never turns the order of integers
round, but integers that have their nearest double in common are equal.
-/

namespace RuleTree

open Double

/-! ## The order of the doubles -/

namespace Double

/-- The doubles of two integers have the order of the integers, unless they are the same. -/
theorem compare_value_ofInt (a b : Int) :
    compare (ofInt a).value (ofInt b).value = if Merges a b then .eq else compare a b := by
  split
  next h => exact Int.compare_eq_eq.mpr (merges_iff.mp h)
  next h =>
    rw [merges_iff] at h
    rcases Int.lt_trichotomy a b with hlt | rfl | hgt
    · have hle := value_ofInt_le (Int.le_of_lt hlt)
      rw [Int.compare_eq_lt.mpr hlt, Int.compare_eq_lt]
      omega
    · exact absurd rfl h
    · have hle := value_ofInt_le (Int.le_of_lt hgt)
      rw [Int.compare_eq_gt.mpr hgt, Int.compare_eq_gt]
      omega

end Double

/-! ## Comparisons with an integer -/

namespace Json

theorem compare?_ints (a b : Int) : (Json.number (.int a)).compare? (.number (.int b)) =
    some (if Merges a b then .eq else compare a b) :=
  congrArg some (compare_value_ofInt a b)

/-- The numbers that are compared as the nearest double of an integer is. -/
inductive MergesWith (a : Int) : Json → Prop
  | int {c : Int} (h : Merges a c) : MergesWith a (.number (.int c))
  | double {d : Double} (h : d.Nearest a) : MergesWith a (.number (.double d))

theorem int_equals_iff {a : Int} {item : Json} :
    (Json.number (.int a)).equals item = true ↔ item.MergesWith a := by
  constructor
  · intro h
    match item with
    | .number (.int c) => exact .int (merges_iff.mpr (beq_iff.mp h))
    | .number (.double d) => exact .double (nearest_iff.mpr (beq_iff.mp h).symm)
  · intro h
    cases h with
    | int h => exact beq_iff.mpr (merges_iff.mp h)
    | double h => exact beq_iff.mpr h.value_eq.symm

theorem int_memberOf?_iff {a : Int} {items : List Json} :
    ((Json.number (.int a)).memberOf? (.array items)).any id = true ↔
      ∃ item ∈ items, item.MergesWith a := by
  simp [memberOf?, asArray?, int_equals_iff]

end Json

/-! ## Integers as doubles -/

/-- **Integers as doubles.** Two integers are equal if they have their nearest double in common. If they
have not, they are ordered as integers. An array has an integer if it has an integer with the same nearest
double or that double itself. Different integers with the same nearest double are `2 ^ 53` or more in
magnitude, and they are no farther apart than one in `2 ^ 53` of both together. -/
theorem integers_compared_as_doubles (a b : Int) (isEmpty : Emptiness) (kept : Operator → PatternCache) :
    let int (i : Int) := Json.number (.int i)
    let holds (op : Operator) (criterion expected : Json) :=
      (op.compare isEmpty (some criterion) expected (kept op)).1 = true
    ((holds .equals (int a) (int b) ↔ Merges a b) ∧
      (holds .greaterThan (int a) (int b) ↔ b < a ∧ ¬Merges a b) ∧
      (holds .lessThan (int a) (int b) ↔ a < b ∧ ¬Merges a b) ∧
      (holds .greaterThanOrEqual (int a) (int b) ↔ b ≤ a ∨ Merges a b) ∧
      (holds .lessThanOrEqual (int a) (int b) ↔ a ≤ b ∨ Merges a b)) ∧
    (∀ items : List Json,
      (holds .isIn (int a) (.array items) ↔ ∃ item ∈ items, item.MergesWith a) ∧
      (holds .contains (.array items) (int a) ↔ ∃ item ∈ items, item.MergesWith a)) ∧
    Merges a a ∧
    (Merges a b → a ≠ b →
      2 ^ 53 ≤ a.natAbs ∧ 2 ^ 53 ≤ b.natAbs ∧ 2 ^ 53 * (a - b).natAbs ≤ a.natAbs + b.natAbs) := by
  intro int holds
  refine ⟨?_, fun items => ⟨Json.int_memberOf?_iff, Json.int_memberOf?_iff⟩, Merges.refl a, Merges.bounds⟩
  obtain ⟨heq, hgt, hlt, hge, hle⟩ :=
    Operator.compare_fst_of_compare? (Json.compare?_ints a b) isEmpty kept
  simp only [holds, int, heq, hgt, hlt, hge, hle]
  by_cases h : Merges a b
  · simp [h]
  · have hne : a ≠ b := by
      rintro rfl
      exact h (Merges.refl a)
    simp [h, hne, Int.compare_eq_lt, Int.compare_eq_gt, Int.isGE_compare, Int.isLE_compare]

/-- Neighbours above `2 ^ 53` may have the same double. Then they are equal, none is greater, and each is
found where only the other one is. -/
theorem neighbours_not_told_apart :
    let a : Int := 9007199254740993
    let b : Int := 9007199254740992
    let int (i : Int) := Json.number (.int i)
    let holds (op : Operator) (criterion expected : Json) :=
      (op.compare .standard (some criterion) expected (.empty 0)).1
    b < a ∧ holds .equals (int a) (int b) = true ∧ holds .greaterThan (int a) (int b) = false ∧
      holds .lessThanOrEqual (int a) (int b) = true ∧ holds .isIn (int a) (.array [int b]) = true ∧
      holds .contains (.array [int a]) (int b) = true := by
  decide +kernel

/-- Neighbours above `2 ^ 53` with the same double are equal and large, and the next double is greater. -/
theorem neighbours_compared_as_doubles :
    let a : Int := 9007199254740993
    let b : Int := 9007199254740992
    let holds (op : Operator) (i j : Int) :=
      (op.compare .standard (some (.number (.int i))) (.number (.int j)) (.empty 0)).1 = true
    Merges a b ∧ a ≠ b ∧ holds .equals a b ∧ 2 ^ 53 ≤ a.natAbs ∧ 2 ^ 53 ≤ b.natAbs ∧
      holds .greaterThan (a + 1) a := by
  intro a b holds
  have hmerges : Merges a b := by decide +kernel
  have hapart : ¬Merges (a + 1) a := by decide +kernel
  have hne : a ≠ b := by decide
  obtain ⟨⟨hequals, _⟩, _, _, hbounds⟩ :=
    integers_compared_as_doubles a b .standard fun _ => .empty 0
  obtain ⟨⟨_, hgreater, _⟩, _⟩ :=
    integers_compared_as_doubles (a + 1) a .standard fun _ => .empty 0
  obtain ⟨ha, hb, _⟩ := hbounds hmerges hne
  exact ⟨hmerges, hne, hequals.mpr hmerges, ha, hb, hgreater.mpr ⟨by decide, hapart⟩⟩

end RuleTree

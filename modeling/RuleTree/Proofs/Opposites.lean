import RuleTree.Proofs.Meaning

/-!
Operators come in pairs. Both operators of a pair ask the same of the values (`Operator.answer?`), and one
says yes where the other says no. So never do both hold, and where the values allow for no answer neither
does: `opposites_and_order` says of each pair when that is, and how the order of numbers and strings goes
with their equality.
-/

namespace RuleTree

namespace Json

/-! ## Values that can be compared -/

inductive Ordered : Json → Json → Prop
  | numbers (a b : Number) : Ordered (.number a) (.number b)
  | strings (s t : String) : Ordered (.string s) (.string t)

theorem isSome_compare?_iff {a b : Json} : (a.compare? b).isSome = true ↔ a.Ordered b := by
  constructor
  · intro h
    unfold compare? at h
    split at h
    · exact .numbers _ _
    · exact .strings _ _
    · cases h
  · intro h
    cases h <;> rfl

theorem isSome_memberOf?_iff {item list : Json} :
    (item.memberOf? list).isSome = true ↔ ∃ items, list = .array items := by
  cases list <;> simp [memberOf?, asArray?]

theorem isSome_overlaps?_iff {left right : Json} :
    (left.overlaps? right).isSome = true ↔
      ∃ items wanted, left = .array items ∧ right = .array wanted := by
  cases left <;> cases right <;> simp [overlaps?, asArray?]

/-- Two values that have an order are equal if the order says so. -/
theorem equals_of_compare? {a b : Json} {o : Ordering} (h : a.compare? b = some o) :
    a.equals b = o.isEq := by
  have hordered : a.Ordered b := isSome_compare?_iff.mp (by rw [h]; rfl)
  cases hordered with
  | numbers a b =>
    obtain rfl := Option.some.inj h
    rw [Bool.eq_iff_iff, Ordering.isEq_iff_eq_eq, Int.compare_eq_eq]
    exact Double.beq_iff
  | strings s t =>
    obtain rfl := Option.some.inj h
    show (s == t) = _
    by_cases hlt : s < t
    · have hne : s ≠ t := by rintro rfl; exact String.lt_irrefl s hlt
      simp [hlt, hne]
    · by_cases hgt : t < s
      · have hne : s ≠ t := by rintro rfl; exact String.lt_irrefl s hgt
        simp [hlt, hgt, hne]
      · have heq : s = t := String.le_antisymm (String.not_lt.mp hgt) (String.not_lt.mp hlt)
        simp [heq]

end Json

namespace Operator

/-! ## Questions -/

/-- The operator that denies what another one says. -/
def opposite : Operator → Operator
  | .equals => .doesNotEqual
  | .doesNotEqual => .equals
  | .greaterThan => .lessThanOrEqual
  | .lessThanOrEqual => .greaterThan
  | .lessThan => .greaterThanOrEqual
  | .greaterThanOrEqual => .lessThan
  | .isPresent => .isAbsent
  | .isAbsent => .isPresent
  | .isIn => .isNotIn
  | .isNotIn => .isIn
  | .contains => .doesNotContain
  | .doesNotContain => .contains
  | .containsAny => .containsNone
  | .containsNone => .containsAny
  | .matches => .doesNotMatch
  | .doesNotMatch => .matches

/-- Whether an operator holds where the answer is yes. The others hold where it is no. -/
def affirms : Operator → Bool
  | .equals | .greaterThan | .lessThan | .isPresent | .isIn | .contains | .containsAny | .matches => true
  | _ => false

/-- The answer to what an operator and its opposite ask, if the values allow for one. -/
def answer? (isEmpty : Emptiness) (criterion : Option Json) (expected : Json) :
    Operator → Option Bool
  | .isPresent | .isAbsent => some (!isEmpty criterion)
  | .equals | .doesNotEqual => criterion.map (·.equals expected)
  | .greaterThan | .lessThanOrEqual =>
    criterion.bind fun c => (c.compare? expected).map Ordering.isGT
  | .lessThan | .greaterThanOrEqual =>
    criterion.bind fun c => (c.compare? expected).map Ordering.isLT
  | .isIn | .isNotIn => criterion.bind (·.memberOf? expected)
  | .contains | .doesNotContain => criterion.bind expected.memberOf?
  | .containsAny | .containsNone => criterion.bind (·.overlaps? expected)
  | .matches | .doesNotMatch =>
    criterion.bind fun c => (patternOccurs? (.empty 0) c expected).1

/-- Values that allow for an answer. -/
def Applies (criterion : Option Json) (expected : Json) : Operator → Prop
  | .isPresent | .isAbsent => True
  | .equals | .doesNotEqual => ∃ c, criterion = some c
  | .greaterThan | .lessThanOrEqual | .lessThan | .greaterThanOrEqual =>
    ∃ c, criterion = some c ∧ c.Ordered expected
  | .isIn | .isNotIn => ∃ c items, criterion = some c ∧ expected = .array items
  | .contains | .doesNotContain => ∃ items, criterion = some (.array items)
  | .containsAny | .containsNone =>
    ∃ items wanted, criterion = some (.array items) ∧ expected = .array wanted
  | .matches | .doesNotMatch =>
    ∃ text pattern, criterion = some (.string text) ∧ Pattern.compile text = some pattern

section Answer

variable {isEmpty : Emptiness} {criterion : Option Json} {expected : Json}

theorem affirms_opposite (op : Operator) : op.opposite.affirms = !op.affirms := by
  cases op <;> rfl

theorem answer?_opposite (op : Operator) :
    op.opposite.answer? isEmpty criterion expected = op.answer? isEmpty criterion expected := by
  cases op <;> rfl

/-- An operator holds if there is an answer and it is the one it waits for, whatever patterns are kept. -/
theorem compare_fst (op : Operator) (isEmpty : Emptiness) (criterion : Option Json) (expected : Json)
    (cache : PatternCache) :
    (op.compare isEmpty criterion expected cache).1 =
      (op.answer? isEmpty criterion expected).any (if op.affirms then id else not) := by
  have hmap (o : Option Ordering) (f : Ordering → Bool) (g : Bool → Bool) :
      (o.map f).any g = o.any fun x => g (f x) := by cases o <;> rfl
  cases op <;> cases criterion <;>
    simp [compare, passes, answer?, affirms, ordered, patternOccurs?_fst cache, hmap]

theorem isSome_answer?_iff (op : Operator) :
    (op.answer? isEmpty criterion expected).isSome = true ↔ op.Applies criterion expected := by
  have hpattern (c : Json) : (patternOccurs? (.empty 0) c expected).1.isSome = true ↔
      ∃ text pattern, c = .string text ∧ Pattern.compile text = some pattern := by
    cases c <;> simp [patternOccurs?, Option.isSome_iff_exists]
  cases criterion with
  | none => cases op <;> simp [answer?, Applies]
  | some c =>
    cases op <;> simp [answer?, Applies, Json.isSome_compare?_iff, Json.isSome_memberOf?_iff,
      Json.isSome_overlaps?_iff, hpattern]

end Answer

/-! ## Pairs -/

/-- Of the two operators that wait for either answer exactly one holds, unless there is no answer. -/
theorem any_xor_any_not (answer : Option Bool) (affirms : Bool) :
    let holds (affirms : Bool) := answer.any (if affirms then id else not)
    (holds affirms && holds !affirms) = false ∧ (holds affirms ^^ holds !affirms) = answer.isSome := by
  cases answer with
  | none => exact ⟨rfl, rfl⟩
  | some b => cases affirms <;> cases b <;> exact ⟨rfl, rfl⟩

/-- Where values have an order the operators about it read it off, and equality goes with it. -/
theorem compare_fst_of_compare? {c expected : Json} {o : Ordering} (h : c.compare? expected = some o)
    (isEmpty : Emptiness) (kept : Operator → PatternCache) :
    let holds (op : Operator) := (op.compare isEmpty (some c) expected (kept op)).1
    holds .equals = o.isEq ∧ holds .greaterThan = o.isGT ∧ holds .lessThan = o.isLT ∧
      holds .greaterThanOrEqual = o.isGE ∧ holds .lessThanOrEqual = o.isLE := by
  simp only [compare, passes, ordered, h, Option.any_some, Json.equals_of_compare? h, and_self]

/-- **Opposites.** Ask any operators about the same values, whatever patterns are kept for each of them. An
operator and its opposite never both hold, and exactly one of them does where the values allow for an
answer. Of two numbers and of two strings exactly one is greater, less or equal, and to be greater or equal,
or less or equal, is to be one of the two. -/
theorem opposites_and_order (isEmpty : Emptiness) (criterion : Option Json) (expected : Json)
    (kept : Operator → PatternCache) :
    let holds (op : Operator) := (op.compare isEmpty criterion expected (kept op)).1
    (∀ op : Operator, (holds op && holds op.opposite) = false ∧
      ((holds op ^^ holds op.opposite) = true ↔ op.Applies criterion expected)) ∧
    ((∃ c, criterion = some c ∧ c.Ordered expected) →
      [holds .greaterThan, holds .lessThan, holds .equals].count true = 1 ∧
      holds .greaterThanOrEqual = (holds .greaterThan || holds .equals) ∧
      holds .lessThanOrEqual = (holds .lessThan || holds .equals)) := by
  intro holds
  constructor
  · intro op
    have hpair := any_xor_any_not (op.answer? isEmpty criterion expected) op.affirms
    simp only [holds, compare_fst, affirms_opposite, answer?_opposite]
    rw [← isSome_answer?_iff, hpair.2]
    exact ⟨hpair.1, Iff.rfl⟩
  · rintro ⟨c, rfl, hordered⟩
    obtain ⟨o, ho⟩ := Option.isSome_iff_exists.mp (Json.isSome_compare?_iff.mpr hordered)
    obtain ⟨heq, hgt, hlt, hge, hle⟩ := compare_fst_of_compare? ho isEmpty kept
    simp only [holds, heq, hgt, hlt, hge, hle]
    cases o <;> exact ⟨rfl, rfl, rfl⟩

/-- The integer two and the double two have an order, and none is an array to look in. -/
theorem two_and_double_two_compared :
    let two := Json.number (.int 2)
    let double := Json.number (.double (.ofInt 2))
    let holds (op : Operator) := (op.compare .standard (some two) double (.empty 0)).1
    two.Ordered double ∧ holds .equals = true ∧ holds .greaterThan = false ∧
      holds .lessThanOrEqual = true ∧ (holds .isIn ^^ holds .isNotIn) = false := by
  intro two double holds
  obtain ⟨hpairs, horder⟩ := opposites_and_order .standard (some two) double fun _ => .empty 0
  have hordered : two.Ordered double := .numbers _ _
  have hequals : holds .equals = true := Double.beq_iff.mpr rfl
  obtain ⟨hone, _, hle⟩ := horder ⟨two, rfl, hordered⟩
  have hgreater : holds .greaterThan = false := by
    have hcount : [holds .greaterThan, holds .lessThan, holds .equals].count true = 1 := hone
    have hfirst : ∀ g l : Bool, [g, l, true].count true = 1 → g = false := by decide
    rw [hequals] at hcount
    exact hfirst _ _ hcount
  have hle : holds .lessThanOrEqual = true := by
    rw [show holds .lessThanOrEqual = (holds .lessThan || holds .equals) from hle, hequals,
      Bool.or_true]
  have hin : (holds .isIn ^^ holds .isNotIn) = false := by
    refine Bool.eq_false_iff.mpr fun h => ?_
    obtain ⟨_, items, _, hitems⟩ := (hpairs .isIn).2.mp h
    have harray : Json.number (.double (.ofInt 2)) = .array items := hitems
    cases harray
  exact ⟨hordered, hequals, hgreater, hle, hin⟩

end Operator

end RuleTree

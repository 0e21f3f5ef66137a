/-!
Numbers of double precision, held exactly as whole multiples of the smallest positive one.
Rounding keeps 53 significant bits and sends a tie to the even neighbour; whatever is rounded
satisfies `precise`, so a `Double` never holds a value that double precision cannot.
-/

namespace RuleTree

/-- A number of double precision: `units` times `2 ^ -1074`, negated if `negative`. Zero keeps its
sign. Values from `2 ^ 1024` on are not finite doubles; readers refuse them. -/
structure Double where
  negative : Bool
  units : Nat
  precise : Nat.pow 2 (units.log2 - 52) ∣ units
deriving DecidableEq

namespace Double

/-- The scale: one is `2 ^ 1074` units. -/
def one : Nat := Nat.pow 2 1074

/-- The quotient rounded to 53 significant bits, a tie to the even neighbour. -/
def roundQuotient (num den : Nat) : Nat :=
  let spare := (num / den).log2 - 52
  let place := den * Nat.pow 2 spare
  let kept := num / place
  let rest := num % place
  let up := place < 2 * rest ∨ (2 * rest = place ∧ kept % 2 = 1)
  (if up then kept + 1 else kept) * Nat.pow 2 spare

private theorem log2_mul_pow_le {m s : Nat} (h : m < Nat.pow 2 53) :
    (m * Nat.pow 2 s).log2 - 52 ≤ s := by
  simp only [Nat.pow_eq] at h ⊢
  have bound : m * 2 ^ s < 2 ^ (53 + s) := by
    rw [Nat.pow_add]
    exact Nat.mul_lt_mul_of_pos_right h (Nat.two_pow_pos s)
  by_cases zero : m * 2 ^ s = 0
  · simp [zero]
  · have := (Nat.log2_lt zero).2 bound
    omega

/-- A significand of at most `2 ^ 53` times a power of two is precise. -/
theorem precise_mul_pow {m s : Nat} (h : m ≤ Nat.pow 2 53) :
    Nat.pow 2 ((m * Nat.pow 2 s).log2 - 52) ∣ m * Nat.pow 2 s := by
  rcases Nat.lt_or_eq_of_le h with below | full
  · exact Nat.dvd_trans (Nat.pow_dvd_pow 2 (log2_mul_pow_le below)) (Nat.dvd_mul_left _ _)
  · subst full
    simp only [Nat.pow_eq]
    rw [← Nat.pow_add]
    exact Nat.pow_dvd_pow 2 (by rw [Nat.log2_two_pow]; omega)

private theorem kept_lt (num den : Nat) :
    num / (den * Nat.pow 2 ((num / den).log2 - 52)) < Nat.pow 2 53 := by
  simp only [Nat.pow_eq]
  rw [← Nat.div_div_eq_div_mul]
  generalize num / den = q
  rw [Nat.div_lt_iff_lt_mul (Nat.two_pow_pos _), ← Nat.pow_add]
  by_cases zero : q = 0
  · subst zero
    exact Nat.two_pow_pos _
  · exact (Nat.log2_lt zero).1 (by omega)

theorem precise_roundQuotient (num den : Nat) :
    Nat.pow 2 ((roundQuotient num den).log2 - 52) ∣ roundQuotient num den := by
  have := kept_lt num den
  unfold roundQuotient
  dsimp only
  split <;> exact precise_mul_pow (by omega)

/-- The double nearest to `num / den` ones. -/
def ofQuotient (negative : Bool) (num den : Nat) : Double :=
  ⟨negative, roundQuotient (num * one) den, precise_roundQuotient _ _⟩

def ofInt (i : Int) : Double :=
  ofQuotient (decide (i < 0)) i.natAbs 1

/-- The double nearest to `digits * 10 ^ exponent`. -/
def ofDecimal (negative : Bool) (digits : Nat) (exponent : Int) : Double :=
  match exponent with
  | .ofNat e => ofQuotient negative (digits * Nat.pow 10 e) 1
  | .negSucc e => ofQuotient negative digits (Nat.pow 10 (e + 1))

def mul (a b : Double) : Double :=
  ⟨a.negative != b.negative, roundQuotient (a.units * b.units) one, precise_roundQuotient _ _⟩

def div (a b : Double) : Double :=
  ⟨a.negative != b.negative, roundQuotient (a.units * one) b.units, precise_roundQuotient _ _⟩

/-- The exact value, counted in units. -/
def value (d : Double) : Int :=
  if d.negative then -(d.units : Int) else d.units

/-- Whether the number lies in the range of finite doubles. -/
def isFinite (d : Double) : Bool :=
  decide (d.units < Nat.pow 2 1024 * one)

def isWhole (d : Double) : Bool :=
  decide (d.units % one = 0)

def truncate (d : Double) : Int :=
  if d.negative then -((d.units / one : Nat) : Int) else (d.units / one : Nat)

/-- The nearest integer, a half going away from zero. -/
def round (d : Double) : Int :=
  let n := (2 * d.units + one) / (2 * one)
  if d.negative then -(n : Int) else n

/-- Equality of values: the two zeros are equal. -/
instance : BEq Double := ⟨fun a b => decide (a.value = b.value)⟩

theorem beq_iff {a b : Double} : (a == b) = true ↔ a.value = b.value := by
  simp [BEq.beq]

end Double

end RuleTree

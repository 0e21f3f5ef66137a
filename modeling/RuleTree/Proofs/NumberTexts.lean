import RuleTree.Comparison
import RuleTree.Proofs.Equality
import RuleTree.Proofs.Numerals

/-!
The texts of numbers against their equality. The shortest decimal of a double reads back as this double, so
its text belongs to no other one (`Double.text_injective`). Whole numbers below `10 ^ 15` lose
their kind in the text, as they do in a comparison, and all numbers below this bound have the same text if and
only if they are equal (`number_texts_agree`).
-/

namespace RuleTree

open Json Json.Outline Double

namespace Double

/-! ## The shortest decimal -/

theorem choose?_cases {below n : Nat} {nearer left right : Bool}
    (h : choose? below nearer left right = some n) :
    (n = below ∧ left = true) ∨ (n = below + 1 ∧ right = true) := by
  cases left <;> cases right <;> cases nearer <;> simp_all [choose?]

/-- What is found on a grid reads back. -/
theorem readsBack_of_onGrid? {units scaled step n : Nat} (h : onGrid? units scaled step = some n) :
    readsBack units (n * step) = true := by
  rcases choose?_cases h with ⟨rfl, hreads⟩ | ⟨rfl, hreads⟩
  · exact hreads
  · exact hreads

theorem readsBack_iff {units n : Nat} :
    readsBack units n = true ↔ roundQuotient (n * one) (10 ^ fineness) = units := by
  rw [readsBack, decide_eq_true_iff, Nat.pow_eq]

/-- A decimal on the finest grid is nearest to the number that it stands for. -/
theorem units_ofDecimal_of_readsBack {units digits s : Nat} (negative : Bool)
    (h : readsBack units (digits * 10 ^ s) = true) :
    (ofDecimal negative digits ((s : Int) - fineness)).units = units := by
  rw [units_ofDecimal]
  exact readsBack_iff.mp h

/-- The place of the number before is no greater than that of the number itself. -/
theorem place_dvd_succ {m : Nat} (h : Precise (m + 1)) : place m ∣ m + 1 := by
  have hlog : m.log2 ≤ (m + 1).log2 := by
    rcases Nat.eq_zero_or_pos m with rfl | hm
    · exact Nat.zero_le _
    · exact (Nat.le_log2 (by omega)).mpr (Nat.le_trans (Nat.log2_self_le (by omega)) (by omega))
  exact Nat.dvd_trans (Nat.pow_dvd_pow 2 (by omega)) h

/-- A quotient less than half a unit below a precise number is rounded up to it. -/
theorem roundQuotient_of_gap_succ {m num den gap : Nat} (hprecise : Precise (m + 1))
    (hgap : num + gap = (m + 1) * den) (hpos : 0 < gap) (hsmall : 2 * gap < den) :
    roundQuotient num den = m + 1 := by
  rw [Nat.add_one_mul] at hgap
  have hquotient : num / den = m :=
    Nat.div_eq_of_lt_le (by omega) (by rw [Nat.add_one_mul]; omega)
  obtain ⟨c, hc⟩ := place_dvd_succ hprecise
  obtain ⟨k, rfl⟩ : ∃ k, c = k + 1 := Nat.exists_eq_add_one_of_ne_zero (by rintro rfl; cases hc)
  generalize hs : place m = s at hc
  have hplace : den ≤ den * s := Nat.le_mul_of_pos_right den (hs ▸ place_pos m)
  -- On the grid of this place the quotient lies just below the next multiple.
  have hnum : num = den * s * k + (den * s - gap) := by
    have hproduct : m * den + den = den * s * k + den * s := by
      rw [← Nat.add_one_mul, hc, ← Nat.mul_add_one, Nat.mul_comm _ den, Nat.mul_assoc]
    omega
  have hkept : num / (den * s) = k := by
    rw [hnum, Nat.mul_add_div (by omega), Nat.div_eq_of_lt (by omega), Nat.add_zero]
  have hrest : num % (den * s) = den * s - gap := by
    rw [hnum, Nat.mul_add_mod, Nat.mod_eq_of_lt (by omega)]
  have hpow : 2 ^ (m.log2 - 52) = s := hs
  simp only [roundQuotient, hquotient, Nat.pow_eq, hpow, hkept, hrest]
  rw [if_pos (Or.inl (by omega)), hc, Nat.mul_comm]

/-- Rounding goes up to a number that is less than half a unit away. -/
theorem roundQuotient_of_gap {units num den gap : Nat} (hprecise : Precise units)
    (hgap : num + gap = units * den) (hsmall : 2 * gap < den) : roundQuotient num den = units := by
  rcases Nat.eq_zero_or_pos gap with rfl | hpos
  · calc roundQuotient num den = roundQuotient (den * units) (den * 1) := by
          rw [Nat.mul_one, Nat.mul_comm den units, ← hgap, Nat.add_zero]
      _ = roundQuotient units 1 := roundQuotient_mul_mul (by omega) units 1
      _ = units := roundQuotient_one_of_precise hprecise
  · cases units with
    | zero => omega
    | succ m => exact roundQuotient_of_gap_succ hprecise hgap hpos hsmall

/-- Cut off at the finest grid a number still reads back. -/
theorem readsBack_cut {units : Nat} (h : Precise units) :
    readsBack units (units * 10 ^ fineness / one) = true := by
  have hfine : 2 * one < 10 ^ fineness := by decide +kernel
  have hcut := Nat.div_add_mod' (units * 10 ^ fineness) one
  have hlt := Nat.mod_lt (units * 10 ^ fineness) one_pos
  exact readsBack_iff.mpr (roundQuotient_of_gap h hcut (by omega))

/-- A decimal on the grid of multiples of `10 ^ s`, with or without a zero at its end. -/
theorem units_ofDecimal_onGrid {units scaled s n : Nat} (negative : Bool)
    (h : onGrid? units scaled (10 ^ s) = some n) {d : Decimal}
    (hd : (if n % 10 = 0 then ⟨n / 10, (s : Int) + 1 - fineness⟩ else ⟨n, (s : Int) - fineness⟩) = d) :
    (ofDecimal negative d.digits d.exponent).units = units := by
  have hreads := readsBack_of_onGrid? h
  split at hd
  next hzero =>
    obtain ⟨m, rfl⟩ := Nat.dvd_of_mod_eq_zero hzero
    rw [Nat.mul_comm 10 m, Nat.mul_assoc, Nat.mul_comm 10, ← Nat.pow_succ] at hreads
    rw [← hd, Nat.mul_div_cancel_left m (by decide)]
    exact units_ofDecimal_of_readsBack negative hreads
  next =>
    rw [← hd]
    exact units_ofDecimal_of_readsBack negative hreads

theorem units_ofDecimal_shortest {d : Double} {decimal : Decimal} (h : d.shortest = decimal) :
    (ofDecimal d.negative decimal.digits decimal.exponent).units = d.units := by
  unfold shortest at h
  dsimp only at h
  generalize hfound : List.findSome? _ (List.range 17) = found at h
  cases found with
  | some first =>
    obtain ⟨i, _, hi⟩ := List.exists_of_findSome?_eq_some hfound
    obtain ⟨n, hn, hdecimal⟩ := Option.map_eq_some_iff.mp hi
    exact units_ofDecimal_onGrid d.negative hn (hdecimal.trans h)
  | none =>
    have hcut := readsBack_cut d.precise
    rw [Option.getD_none, Nat.pow_eq] at h
    generalize d.units * 10 ^ fineness / one = cut at h hcut
    have hgrid : readsBack d.units (cut * 10 ^ 0) = true := by rwa [Nat.pow_zero, Nat.mul_one]
    have hunits := units_ofDecimal_of_readsBack d.negative hgrid
    rw [Int.natCast_zero, Int.zero_sub] at hunits
    rw [← h]
    exact hunits

/-- The shortest decimal of a number is nearest to it. -/
theorem ofDecimal_shortest (d : Double) :
    ofDecimal d.negative d.shortest.digits d.shortest.exponent = d :=
  eq_of_units (negative_ofDecimal _ _ _) (units_ofDecimal_shortest rfl)

theorem units_ofQuotient_zero (negative : Bool) (den : Nat) : (ofQuotient negative 0 den).units = 0 := by
  have hunits : (ofQuotient negative 0 den).units = roundQuotient (0 * one) den := rfl
  rw [hunits, Nat.zero_mul]
  simp [roundQuotient]

theorem units_ofDecimal_zero (negative : Bool) (exponent : Int) :
    (ofDecimal negative 0 exponent).units = 0 := by
  cases exponent with
  | ofNat e =>
    rw [ofDecimal, Nat.zero_mul]
    exact units_ofQuotient_zero negative 1
  | negSucc e => exact units_ofQuotient_zero negative _

theorem digits_shortest_ne_zero {d : Double} (h : d.units ≠ 0) : d.shortest.digits ≠ 0 := by
  intro hzero
  have hunits := units_ofDecimal_shortest (d := d) rfl
  rw [hzero, units_ofDecimal_zero] at hunits
  exact h hunits.symm

/-! ## Texts of doubles -/

theorem written_zero (negative : Bool) :
    Decimal.Written (signed negative "0.0".toList) (ofDecimal negative 0 (-1)) := by
  have hzero : Digits ['0'] := ⟨by simp, by simp⟩
  exact Decimal.written_point negative ⟨hzero, fun _ => rfl⟩ hzero

/-- **Doubles read back.** The text of a double is that of a numeral to which this double is the nearest, and
never that of an integer. -/
theorem written_text (d : Double) : Decimal.Written d.text.toList d := by
  have hsigned (magnitude : String) :
      (if d.negative then "-" ++ magnitude else magnitude).toList =
        signed d.negative magnitude.toList := by
    cases d.negative <;> simp [signed]
  rw [text, hsigned]
  split
  next hzero =>
    have hd : ofDecimal d.negative 0 (-1) = d :=
      eq_of_units (negative_ofDecimal _ _ _) ((units_ofDecimal_zero _ _).trans hzero.symm)
    rw [← hd, negative_ofDecimal]
    exact written_zero d.negative
  next hnonzero =>
    have hwritten := Decimal.written_text (digits_shortest_ne_zero hnonzero) d.negative
    rwa [ofDecimal_shortest] at hwritten

/-- No two doubles have the same text. -/
theorem text_injective : Function.Injective text := by
  intro a b h
  obtain ⟨m, hm, _, hma⟩ := written_text a
  obtain ⟨n, hn, _, hnb⟩ := written_text b
  rw [h, hn] at hm
  cases hm
  exact hma.symm.trans hnb

/-! ## Whole numbers -/

theorem truncate_mul_one {d : Double} (h : d.isWhole = true) : d.truncate * one = d.value := by
  have hunits : d.units / one * one = d.units :=
    Nat.div_mul_cancel (Nat.dvd_of_mod_eq_zero (of_decide_eq_true h))
  rw [truncate, value]
  split
  · rw [Int.neg_mul, ← Int.natCast_mul, hunits]
  · rw [← Int.natCast_mul, hunits]

/-- Whole numbers are the multiples of one. -/
theorem isWhole_iff {d : Double} : d.isWhole = true ↔ (one : Int) ∣ d.value := by
  rw [isWhole, decide_eq_true_iff, ← Nat.dvd_iff_mod_eq_zero, ← Int.natCast_dvd_natCast, ← natAbs_value,
    Int.dvd_natAbs]

theorem units_ne_zero_of_fraction {d : Double} (h : d.isWhole = false) : d.units ≠ 0 := by
  intro hzero
  have hrest : ¬d.units % one = 0 := of_decide_eq_false h
  rw [hzero, Nat.zero_mod] at hrest
  exact hrest rfl

/-- Below `10 ^ 15` a double that is nearest to an integer is this integer. -/
theorem value_ofInt_of_units_lt {i : Int} (h : (ofInt i).units < 10 ^ 15 * one) :
    (ofInt i).value = i * one := by
  refine value_ofInt_of_small (Nat.le_of_not_lt fun hlarge => ?_)
  have herror := value_ofInt_error i
  have hunits := natAbs_value (ofInt i)
  have hscaled : 2 ^ 53 * one ≤ i.natAbs * one := Nat.mul_le_mul_right _ (by omega)
  have hone := one_pos
  rw [← natAbs_mul_one] at herror hscaled
  omega

/-- Only the zeros have the same value and different signs. -/
theorem eq_of_value_eq {d e : Double} (hne : d.units ≠ 0) (h : d.value = e.value) : d = e := by
  have hunits : d.units = e.units := by rw [← natAbs_value, h, natAbs_value]
  refine eq_of_units ?_ hunits
  rw [value, value] at h
  cases hd : d.negative <;> cases he : e.negative <;> simp only [hd, he] at h ⊢ <;> simp at h <;> omega

end Double

/-- An integer is written as its digits, with a minus in front of them if it is negative. -/
theorem numeral_toString (i : Int) :
    Outline.numeral (toString i).toList =
      .ok (⟨decide (i < 0), digitValues (Nat.toDigits 10 i.natAbs), [], 0, true⟩, []) := by
  have hsigned : (toString i).toList = signed (i < 0) (Nat.toDigits 10 i.natAbs ++ []) := by
    rw [Int.toString_eq_repr, Int.repr_eq_if]
    by_cases h : 0 ≤ i
    · have hnat : i.toNat = i.natAbs := by omega
      simp [signed, h, hnat]
    · have hnat : (-i).toNat = i.natAbs := by omega
      simp [signed, h, hnat, Int.not_le.mp h]
  have hfraction : fractionPart [] = .ok (none, []) := rfl
  have hexponent : exponentPart [] = .ok (none, []) := rfl
  rw [hsigned]
  exact numeral_append (Nat.toList_repr ▸ leading_repr i.natAbs) rfl hfraction hexponent

theorem toString_int_injective {i j : Int} (h : toString i = toString j) : i = j := by
  have hi := numeral_toString i
  rw [h, numeral_toString j] at hi
  simp only [Except.ok.injEq, Prod.mk.injEq, Numeral.mk.injEq, and_true] at hi
  obtain ⟨hsign, hdigits⟩ := hi
  have habs := congrArg value10 hdigits
  rw [value10_digitValues, value10_digitValues, Nat.ofDigitChars_ten_toDigits,
    Nat.ofDigitChars_ten_toDigits] at habs
  have : j < 0 ↔ i < 0 := by simpa using hsign
  omega

/-- No double is written like an integer. -/
theorem toString_int_ne_text (i : Int) (d : Double) : toString i ≠ d.text := by
  intro h
  obtain ⟨n, hn, hintegral, _⟩ := d.written_text
  rw [← h, numeral_toString] at hn
  cases hn
  cases hintegral

namespace Number

def magnitude : Number → Nat
  | .int i => i.natAbs * Double.one
  | .double d => d.units

variable {n : Number}

/-- Below `10 ^ 15` a number has the same magnitude as its double. -/
theorem units_toDouble (h : n.magnitude < 10 ^ 15 * Double.one) : n.toDouble.units = n.magnitude := by
  cases n with
  | double d => rfl
  | int i =>
    have hsmall : i.natAbs < 10 ^ 15 := Nat.lt_of_mul_lt_mul_right h
    have hvalue := value_ofInt_of_small (i := i) (by omega)
    rw [toDouble, magnitude, ← natAbs_value, hvalue, natAbs_mul_one]

end Number

namespace Json

/-! ## Texts of numbers -/

theorem isWhole_ofInt {i : Int} (h : (ofInt i).units < 10 ^ 15 * one) : (ofInt i).isWhole = true :=
  isWhole_iff.mpr (value_ofInt_of_units_lt h ▸ Int.dvd_mul_left i one)

theorem numberText_eq (n : Number) : numberText n =
    if n.toDouble.isWhole = true ∧ n.toDouble.units < 10 ^ 15 * one then toString n.toDouble.truncate
    else n.text := by
  have hbound : 10 ^ 15 = 1000000000000000 := rfl
  simp only [numberText, hbound]

/-- An integer is written as its digits, however large it is. -/
theorem numberText_int (i : Int) : numberText (.int i) = toString i := by
  rw [numberText_eq]
  split
  next hsmall =>
    have hvalue := truncate_mul_one hsmall.1
    rw [Number.toDouble, value_ofInt_of_units_lt hsmall.2] at hvalue
    have htruncate : (ofInt i).truncate = i :=
      Int.eq_of_mul_eq_mul_right (Int.natCast_ne_zero.mpr (Nat.ne_of_gt Double.one_pos)) hvalue
    exact congrArg toString htruncate
  next => rfl

section Small

variable {a b : Number} (ha : a.magnitude < 10 ^ 15 * one) (hb : b.magnitude < 10 ^ 15 * one)
include ha

theorem numberText_of_whole (h : a.toDouble.isWhole = true) :
    numberText a = toString a.toDouble.truncate := by
  rw [numberText_eq, if_pos ⟨h, Number.units_toDouble ha ▸ ha⟩]

/-- A number with a fraction is a double, and it is written as that double. -/
theorem exists_double_of_fraction (h : a.toDouble.isWhole = false) :
    ∃ d, a = .double d ∧ numberText a = d.text := by
  cases a with
  | int i =>
    have hunits : (ofInt i).units = (Number.int i).magnitude := Number.units_toDouble ha
    have hwhole : (ofInt i).isWhole = true := isWhole_ofInt (by rw [hunits]; exact ha)
    rw [Number.toDouble, hwhole] at h
    cases h
  | double d =>
    refine ⟨d, rfl, ?_⟩
    rw [numberText_eq, if_neg fun hcut => Bool.false_ne_true (h.symm.trans hcut.1), Number.text]

include hb

/-- Small numbers have the same text if their values are the same. -/
theorem numberText_eq_iff : numberText a = numberText b ↔ a.toDouble.value = b.toDouble.value := by
  cases hwa : a.toDouble.isWhole <;> cases hwb : b.toDouble.isWhole
  case true.true =>
    rw [numberText_of_whole ha hwa, numberText_of_whole hb hwb, ← truncate_mul_one hwa,
      ← truncate_mul_one hwb]
    refine ⟨fun h => by rw [toString_int_injective h], fun h => ?_⟩
    have hone : (one : Int) ≠ 0 := Int.natCast_ne_zero.mpr (Nat.ne_of_gt Double.one_pos)
    rw [Int.eq_of_mul_eq_mul_right hone h]
  case true.false =>
    obtain ⟨d, rfl, htext⟩ := exists_double_of_fraction hb hwb
    rw [numberText_of_whole ha hwa, htext]
    refine ⟨fun h => absurd h (toString_int_ne_text _ d), fun h => ?_⟩
    rw [isWhole_iff, h, ← isWhole_iff, hwb] at hwa
    cases hwa
  case false.true =>
    obtain ⟨d, rfl, htext⟩ := exists_double_of_fraction ha hwa
    rw [numberText_of_whole hb hwb, htext]
    refine ⟨fun h => absurd h.symm (toString_int_ne_text _ d), fun h => ?_⟩
    rw [isWhole_iff, ← h, ← isWhole_iff, hwa] at hwb
    cases hwb
  case false.false =>
    obtain ⟨d, rfl, hd⟩ := exists_double_of_fraction ha hwa
    obtain ⟨e, rfl, he⟩ := exists_double_of_fraction hb hwb
    rw [hd, he]
    refine ⟨fun h => by rw [text_injective h], fun h => ?_⟩
    have hde : d = e := eq_of_value_eq (units_ne_zero_of_fraction hwa) h
    rw [hde]

end Small

end Json

/-- **Texts agree with equality.** Two numbers below `10 ^ 15` in magnitude, integers or doubles, have the same
text if and only if they are equal. Integers of any magnitude are written as their digits. -/
theorem number_texts_agree :
    (∀ a b : Number, a.magnitude < 10 ^ 15 * Double.one → b.magnitude < 10 ^ 15 * Double.one →
      ((Json.number a).plainText = (Json.number b).plainText ↔
        (Json.number a).equals (.number b) = true)) ∧
    ∀ i : Int, (Json.number (.int i)).plainText = toString i := by
  refine ⟨fun a b ha hb => ?_, numberText_int⟩
  rw [plainText, plainText, equals, beq_iff]
  exact numberText_eq_iff ha hb

/-- The zeros have one text, and so have the last integer below the bound and its double. A number with a
fraction has a text of its own. -/
theorem zeros_and_last_number_texts :
    let last : Int := 999999999999999
    let negativeZero := Number.double (.ofDecimal true 0 0)
    let fraction := Number.double (.ofDecimal false 9999999999999985 (-1))
    (Json.number negativeZero).plainText = (Json.number (.int 0)).plainText ∧
      (Json.number (.double (.ofInt last))).plainText = (Json.number (.int last)).plainText ∧
      (Json.number fraction).plainText ≠ (Json.number (.int last)).plainText ∧
      (Json.number (.int 18446744073709551615)).plainText = "18446744073709551615" := by
  intro last negativeZero fraction
  obtain ⟨hsmall, hint⟩ := number_texts_agree
  refine ⟨(hsmall _ _ (by decide +kernel) (by decide +kernel)).mpr (by decide +kernel),
    (hsmall _ _ (by decide +kernel) (by decide +kernel)).mpr (by decide +kernel), fun h => ?_, ?_⟩
  · have hequal := (hsmall _ _ (by decide +kernel) (by decide +kernel)).mp h
    revert hequal
    decide +kernel
  · exact (hint _).trans (by decide +kernel)

end RuleTree

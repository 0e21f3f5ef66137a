import RuleTree.Double.Text
import RuleTree.Json.Outline
import RuleTree.Proofs.Rounding

/-!
Numbers as numerals. A numeral is read part by part: a sign, the digits in front of the point, a fraction and
an exponent (`Outline.numeral_append`). The text of a positive decimal is a numeral in each of its
notations, and the double that is nearest to the numeral is the one nearest to the decimal
(`Decimal.written_text`).
-/

namespace RuleTree

/-! ## Equal quotients -/

namespace Double

/-- Rounding looks at the quotient only. -/
theorem roundQuotient_mul_mul {k : Nat} (hk : 0 < k) (num den : Nat) :
    roundQuotient (k * num) (k * den) = roundQuotient num den := by
  have hplace (s : Nat) : k * den * s = k * (den * s) := Nat.mul_assoc k den s
  have hup (place rest kept : Nat) :
      (k * place < 2 * (k * rest) ∨ 2 * (k * rest) = k * place ∧ kept % 2 = 1) =
        (place < 2 * rest ∨ 2 * rest = place ∧ kept % 2 = 1) := by
    rw [Nat.mul_left_comm 2 k rest, Nat.mul_lt_mul_left hk, Nat.mul_right_inj (Nat.ne_of_gt hk)]
  simp only [roundQuotient, Nat.mul_div_mul_left num den hk, hplace, Nat.mul_div_mul_left _ _ hk,
    Nat.mul_mod_mul_left, hup]

/-- A decimal whose exponent is written as a difference is nearest to a quotient of powers. -/
theorem units_ofDecimal (negative : Bool) (digits s f : Nat) :
    (ofDecimal negative digits ((s : Int) - f)).units =
      roundQuotient (digits * 10 ^ s * one) (10 ^ f) := by
  rcases Nat.lt_or_ge s f with h | h
  · obtain ⟨e, rfl⟩ : ∃ e, f = s + (e + 1) := ⟨f - s - 1, by omega⟩
    have hexponent : (s : Int) - (s + (e + 1) : Nat) = .negSucc e := by omega
    rw [hexponent]
    calc roundQuotient (digits * one) (10 ^ (e + 1))
        = roundQuotient (10 ^ s * (digits * one)) (10 ^ s * 10 ^ (e + 1)) :=
          (roundQuotient_mul_mul (Nat.pow_pos (by decide)) _ _).symm
      _ = roundQuotient (digits * 10 ^ s * one) (10 ^ (s + (e + 1))) := by
          rw [← Nat.pow_add, ← Nat.mul_assoc, Nat.mul_comm (10 ^ s) digits]
  · obtain ⟨e, rfl⟩ : ∃ e, s = f + e := ⟨s - f, by omega⟩
    have hexponent : ((f + e : Nat) : Int) - f = e := by omega
    rw [hexponent]
    calc roundQuotient (digits * 10 ^ e * one) 1
        = roundQuotient (10 ^ f * (digits * 10 ^ e * one)) (10 ^ f * 1) :=
          (roundQuotient_mul_mul (Nat.pow_pos (by decide)) _ _).symm
      _ = roundQuotient (digits * 10 ^ (f + e) * one) (10 ^ f) := by
          rw [Nat.mul_one, Nat.pow_add, ← Nat.mul_assoc, Nat.mul_left_comm (10 ^ f) digits]

end Double

namespace Json

/-- The double that is nearest to what a numeral writes. -/
def Numeral.double (n : Numeral) : Double :=
  .ofDecimal n.negative (Outline.value10 (n.whole ++ n.fraction)) (n.exponent - n.fraction.length)

namespace Outline

/-! ## Digits -/

/-- Digits and nothing else, and at least one of them. -/
structure Digits (cs : List Char) : Prop where
  ne_nil : cs ≠ []
  isDigit : ∀ c ∈ cs, c.isDigit = true

def digitValues (cs : List Char) : List Nat := cs.map (·.toNat - 48)

/-- Digits are read up to the first character that is none. -/
theorem someDigits_append {cs rest : List Char} (h : Digits cs)
    (hrest : rest.head?.all (!·.isDigit) = true) :
    someDigits (cs ++ rest) = .ok (digitValues cs, rest) := by
  obtain ⟨c, more, rfl⟩ := List.exists_cons_of_ne_nil h.ne_nil
  have hend : rest.takeWhile Char.isDigit = [] ∧ rest.dropWhile Char.isDigit = rest := by
    cases rest <;> simp_all
  have htake : (c :: more ++ rest).takeWhile Char.isDigit = _ :=
    List.takeWhile_append_of_pos h.isDigit
  have hdrop : (c :: more ++ rest).dropWhile Char.isDigit = _ :=
    List.dropWhile_append_of_pos h.isDigit
  have hc : c.isDigit = true := h.isDigit c List.mem_cons_self
  rw [hend.1, List.append_nil] at htake
  rw [hend.2] at hdrop
  simp only [List.cons_append] at htake hdrop ⊢
  rw [someDigits, if_pos hc, digitsOf, htake, hdrop]
  rfl

theorem value10_digitValues (cs : List Char) : value10 (digitValues cs) = Nat.ofDigitChars 10 cs 0 := by
  rw [value10, digitValues, List.foldl_map]
  rfl

theorem digits_repr (n : Nat) : Digits (Nat.repr n).toList := by
  rw [Nat.toList_repr]
  exact ⟨Nat.toDigits_ne_nil, fun _ => Nat.isDigit_of_mem_toDigits (by decide) (by decide)⟩

/-! ## Parts of a numeral -/

/-- Digits that may stand in front of the point. -/
structure Leading (cs : List Char) : Prop extends Digits cs where
  /-- A zero stands alone. -/
  zero : (digitValues cs).head? = some 0 → cs.length = 1

theorem eq_zero_of_head_toDigits (n : Nat) (h : (digitValues (Nat.toDigits 10 n)).head? = some 0) :
    n = 0 := by
  induction n using Nat.strongRecOn with
  | _ n ih =>
    rcases Nat.lt_or_ge n 10 with hlt | hge
    · rw [Nat.toDigits_of_lt_base hlt] at h
      simpa [digitValues, Nat.toNat_digitChar_sub_48_of_lt_ten hlt] using h
    · obtain ⟨d, more, hd⟩ := List.exists_cons_of_ne_nil (Nat.toDigits_ne_nil (n := n / 10) (b := 10))
      have hhead : (digitValues (Nat.toDigits 10 (n / 10))).head? = some 0 := by
        rw [Nat.toDigits_of_base_le (by decide) hge, hd] at h
        rw [hd]
        exact h
      have := ih (n / 10) (by omega) hhead
      omega

/-- A number is written without a zero in front. -/
theorem leading_repr (n : Nat) : Leading (Nat.repr n).toList where
  toDigits := digits_repr n
  zero h := by
    rw [Nat.toList_repr] at h ⊢
    rw [eq_zero_of_head_toDigits n h]
    rfl

theorem fractionPart_point {cs rest : List Char} (h : Digits cs)
    (hrest : rest.head?.all (!·.isDigit) = true) :
    fractionPart ('.' :: (cs ++ rest)) = .ok (some (digitValues cs), rest) := by
  rw [fractionPart, someDigits_append h hrest]
  rfl

theorem exponentPart_mark {cs : List Char} (h : Digits cs) (below : Bool) :
    exponentPart ('e' :: (if below then '-' else '+') :: cs) =
      .ok (some (if below then -(value10 (digitValues cs) : Int) else value10 (digitValues cs)), []) := by
  have hread : someDigits (cs ++ []) = _ := someDigits_append h rfl
  rw [List.append_nil] at hread
  cases below <;> simp [exponentPart, hread, bind, Except.bind, pure, Except.pure]

/-- A text with a minus in front where the number is negative. -/
def signed (negative : Bool) (cs : List Char) : List Char :=
  if negative then '-' :: cs else cs

/-- A numeral is put together from its parts. -/
theorem numeral_append {negative : Bool} {whole after rest : List Char} {fraction : Option (List Nat)}
    {exponent : Option Int} (hw : Leading whole) (ha : after.head?.all (!·.isDigit) = true)
    (hf : fractionPart after = .ok (fraction, rest)) (he : exponentPart rest = .ok (exponent, [])) :
    numeral (signed negative (whole ++ after)) =
      .ok (⟨negative, digitValues whole, fraction.getD [], exponent.getD 0,
        fraction.isNone && exponent.isNone⟩, []) := by
  have hread := someDigits_append hw.toDigits ha
  have hzero : ¬((digitValues whole).head? = some 0 ∧ (digitValues whole).length > 1) := by
    rintro ⟨hhead, hlength⟩
    have := hw.zero hhead
    simp [digitValues, this] at hlength
  cases negative with
  | true => simp [numeral, signed, hread, hf, he, hzero, bind, Except.bind, pure, Except.pure]
  | false =>
    obtain ⟨c, more, rfl⟩ := List.exists_cons_of_ne_nil hw.ne_nil
    have hc : c.isDigit = true := hw.isDigit c List.mem_cons_self
    have hminus : c ≠ '-' := by
      rintro rfl
      cases hc
    rw [List.cons_append] at hread
    simp [numeral, signed, hminus, hread, hf, he, hzero, bind, Except.bind, pure, Except.pure]

theorem numeral_point {negative : Bool} {whole fraction : List Char} (hw : Leading whole)
    (hf : Digits fraction) :
    numeral (signed negative (whole ++ '.' :: fraction)) =
      .ok (⟨negative, digitValues whole, digitValues fraction, 0, false⟩, []) := by
  have hread : fractionPart ('.' :: (fraction ++ [])) = _ := fractionPart_point hf rfl
  rw [List.append_nil] at hread
  exact numeral_append hw rfl hread rfl

end Outline

end Json

/-! ## Decimals -/

open Json Json.Outline

namespace Double

theorem eq_of_units {a b : Double} (hnegative : a.negative = b.negative) (hunits : a.units = b.units) :
    a = b := by
  cases a
  cases b
  cases hnegative
  cases hunits
  rfl

theorem negative_ofDecimal (negative : Bool) (digits : Nat) (exponent : Int) :
    (ofDecimal negative digits exponent).negative = negative := by
  cases exponent <;> rfl

/-- Zeros behind the digits make up for a smaller exponent. -/
theorem ofDecimal_mul_pow (negative : Bool) (digits k : Nat) (exponent : Int) :
    ofDecimal negative (digits * 10 ^ k) (exponent - k) = ofDecimal negative digits exponent := by
  refine eq_of_units (by rw [negative_ofDecimal, negative_ofDecimal]) ?_
  obtain ⟨s, f, rfl⟩ : ∃ s f : Nat, exponent = (s : Int) - f :=
    ⟨exponent.toNat, (-exponent).toNat, by omega⟩
  have hexponent : (s : Int) - f - k = (s : Int) - (f + k : Nat) := by omega
  rw [hexponent, units_ofDecimal, units_ofDecimal]
  calc roundQuotient (digits * 10 ^ k * 10 ^ s * one) (10 ^ (f + k))
      = roundQuotient (10 ^ k * (digits * 10 ^ s * one)) (10 ^ k * 10 ^ f) := by
        rw [← Nat.pow_add, Nat.add_comm k f, Nat.mul_comm digits, Nat.mul_assoc (10 ^ k),
          Nat.mul_assoc (10 ^ k)]
    _ = roundQuotient (digits * 10 ^ s * one) (10 ^ f) :=
        roundQuotient_mul_mul (Nat.pow_pos (by decide)) _ _

end Double

/-! ### Notations -/

namespace Decimal

/-- A text is that of a numeral with a fraction or an exponent, and its double is the given one. -/
def Written (cs : List Char) (d : Double) : Prop :=
  ∃ n : Numeral, Outline.numeral cs = .ok (n, []) ∧ n.integral = false ∧ n.double = d

section Notations

variable (negative : Bool)

theorem written_point {whole fraction : List Char} (hw : Leading whole) (hf : Digits fraction) :
    Written (signed negative (whole ++ '.' :: fraction))
      (.ofDecimal negative (Nat.ofDigitChars 10 (whole ++ fraction) 0) (0 - fraction.length)) := by
  refine ⟨_, numeral_point hw hf, rfl, ?_⟩
  simp only [Numeral.double, ← value10_digitValues]
  simp [digitValues]

/-- What begins like a positive number may stand in front of a point. -/
theorem leading_of_head {n : Nat} (hn : n ≠ 0) {cs : List Char} (hcs : Digits cs)
    (hhead : cs.head? = (Nat.toDigits 10 n).head?) : Leading cs where
  toDigits := hcs
  zero h := by
    rw [digitValues, List.head?_map, hhead, ← List.head?_map] at h
    exact absurd (eq_zero_of_head_toDigits n h) hn

theorem isDigit_of_mem_toDigits {n : Nat} {c : Char} (h : c ∈ Nat.toDigits 10 n) : c.isDigit = true :=
  Nat.isDigit_of_mem_toDigits (by decide) (by decide) h

/-- Zeros behind the digits. -/
theorem written_whole {n : Nat} (hn : n ≠ 0) (e : Nat) :
    Written (signed negative (Nat.toDigits 10 n ++ List.replicate e '0' ++ ['.', '0']))
      (.ofDecimal negative n e) := by
  have hdigits : Digits (Nat.toDigits 10 n ++ List.replicate e '0') := by
    refine ⟨by simp, fun c hc => ?_⟩
    rcases List.mem_append.mp hc with h | h
    · exact isDigit_of_mem_toDigits h
    · rw [List.eq_of_mem_replicate h]
      rfl
  have hhead : (Nat.toDigits 10 n ++ List.replicate e '0').head? = (Nat.toDigits 10 n).head? := by
    obtain ⟨c, more, hc⟩ := List.exists_cons_of_ne_nil (Nat.toDigits_ne_nil (n := n) (b := 10))
    simp [hc]
  have hpoint : Digits ['0'] := ⟨by simp, by simp⟩
  have hwritten := written_point negative (leading_of_head hn hdigits hhead) hpoint
  have hvalue : Nat.ofDigitChars 10 (Nat.toDigits 10 n ++ List.replicate e '0' ++ ['0']) 0 =
      n * 10 ^ (e + 1) := by
    have hzeros : ['0'] = List.replicate 1 '0' := rfl
    rw [hzeros, List.append_assoc, List.replicate_append_replicate, Nat.ofDigitChars_append,
      Nat.ofDigitChars_ten_toDigits, Nat.ofDigitChars_replicate_zero, Nat.mul_comm]
  have hexponent : (0 : Int) - ['0'].length = (e : Int) - (e + 1 : Nat) := by
    simp only [List.length_singleton]
    omega
  rw [hvalue, hexponent, Double.ofDecimal_mul_pow] at hwritten
  exact hwritten

/-- A point among the digits. -/
theorem written_within {n k : Nat} (hn : n ≠ 0) (hk : 0 < k) (hlength : k < (Nat.toDigits 10 n).length) :
    Written (signed negative ((Nat.toDigits 10 n).take k ++ '.' :: (Nat.toDigits 10 n).drop k))
      (.ofDecimal negative n (k - (Nat.toDigits 10 n).length)) := by
  have hwhole : Digits ((Nat.toDigits 10 n).take k) :=
    ⟨by simp; omega, fun c hc => isDigit_of_mem_toDigits (List.mem_of_mem_take hc)⟩
  have hfraction : Digits ((Nat.toDigits 10 n).drop k) :=
    ⟨by simpa using hlength, fun c hc => isDigit_of_mem_toDigits (List.mem_of_mem_drop hc)⟩
  have hhead : ((Nat.toDigits 10 n).take k).head? = (Nat.toDigits 10 n).head? := by
    rw [List.head?_take, if_neg (by omega)]
  have hwritten := written_point negative (leading_of_head hn hwhole hhead) hfraction
  have hexponent : (0 : Int) - ((Nat.toDigits 10 n).drop k).length = k - (Nat.toDigits 10 n).length := by
    rw [List.length_drop]
    omega
  rw [List.take_append_drop, Nat.ofDigitChars_ten_toDigits, hexponent] at hwritten
  exact hwritten

/-- Zeros between the point and the digits. -/
theorem written_below (n k : Nat) :
    Written (signed negative ('0' :: '.' :: (List.replicate k '0' ++ Nat.toDigits 10 n)))
      (.ofDecimal negative n (0 - (k + (Nat.toDigits 10 n).length : Nat))) := by
  have hfraction : Digits (List.replicate k '0' ++ Nat.toDigits 10 n) := by
    refine ⟨by simp, fun c hc => ?_⟩
    rcases List.mem_append.mp hc with h | h
    · rw [List.eq_of_mem_replicate h]
      rfl
    · exact isDigit_of_mem_toDigits h
  have hzero : Leading ['0'] := ⟨⟨by simp, by simp⟩, fun _ => rfl⟩
  have hwritten := written_point negative hzero hfraction
  have hvalue : Nat.ofDigitChars 10 (['0'] ++ (List.replicate k '0' ++ Nat.toDigits 10 n)) 0 = n := by
    have hzeros : ['0'] = List.replicate 1 '0' := rfl
    rw [hzeros, Nat.ofDigitChars_append, Nat.ofDigitChars_append, Nat.ofDigitChars_replicate_zero,
      Nat.ofDigitChars_replicate_zero, Nat.mul_zero, Nat.ofDigitChars_ten_toDigits]
  rw [hvalue, List.length_append, List.length_replicate] at hwritten
  exact hwritten

/-- One digit, the others as its fraction, and an exponent. -/
theorem written_scientific {n : Nat} {c : Char} {more : List Char}
    (hdigits : Nat.toDigits 10 n = c :: more) (below : Bool) (e : Nat) :
    Written (signed negative ([c] ++ ((if more = [] then [] else '.' :: more) ++
        'e' :: (if below then '-' else '+') :: Nat.toDigits 10 e)))
      (.ofDecimal negative n ((if below then -(e : Int) else e) - more.length)) := by
  have hall (d : Char) (hd : d ∈ c :: more) : d.isDigit = true := isDigit_of_mem_toDigits (hdigits ▸ hd)
  have hwhole : Leading [c] := ⟨⟨by simp, fun d hd => hall d (by simp_all)⟩, fun _ => rfl⟩
  have hmark := exponentPart_mark (Nat.toList_repr ▸ digits_repr e) below
  rw [value10_digitValues, Nat.ofDigitChars_ten_toDigits] at hmark
  have hvalue : value10 (digitValues [c] ++ digitValues more) = n := by
    rw [← Nat.ofDigitChars_ten_toDigits (n := n), hdigits, ← value10_digitValues]
    rfl
  have hlength : (digitValues more).length = more.length := List.length_map _
  cases more with
  | nil =>
    refine ⟨_, numeral_append hwhole rfl rfl hmark, by simp, ?_⟩
    rw [← hvalue]
    rfl
  | cons d rest =>
    have hfraction : Digits (d :: rest) := ⟨by simp, fun x hx => hall x (List.mem_cons_of_mem c hx)⟩
    refine ⟨_, numeral_append hwhole rfl (fractionPart_point hfraction rfl) hmark, by simp, ?_⟩
    rw [← hvalue, ← hlength]
    rfl

end Notations

theorem toList_zeros (n : Nat) : (Double.zeros n).toList = List.replicate n '0' := by
  rw [Double.zeros, String.toList_ofList]

/-- **Decimals as numerals.** The text of a positive decimal, with or without a minus in front, is that of a
numeral which writes the same number. -/
theorem written_text {d : Decimal} (hd : d.digits ≠ 0) (negative : Bool) :
    Written (signed negative (Double.Decimal.text d).toList)
      (.ofDecimal negative d.digits d.exponent) := by
  obtain ⟨n, exponent⟩ := d
  have hn : n ≠ 0 := hd
  have hwidth : ((Nat.repr n).length : Int) = (Nat.toDigits 10 n).length := by
    rw [← String.length_toList, Nat.toList_repr]
  unfold Double.Decimal.text
  dsimp only
  rw [hwidth]
  split
  next hlarge =>
    have hexponent : ((exponent.toNat : Nat) : Int) = exponent := by omega
    have hwritten := written_whole negative hn exponent.toNat
    rw [hexponent] at hwritten
    simpa [toList_zeros] using hwritten
  next hlarge =>
    split
    next hwithin =>
      have hwritten := written_within negative hn (k := ((Nat.toDigits 10 n).length + exponent).toNat)
        (by omega) (by omega)
      have hexponent : (((Nat.toDigits 10 n).length + exponent).toNat : Int) - (Nat.toDigits 10 n).length =
          exponent := by omega
      rw [hexponent] at hwritten
      simpa using hwritten
    next hwithin =>
      split
      next hbelow =>
        have hwritten := written_below negative n (-((Nat.toDigits 10 n).length + exponent)).toNat
        have hexponent : (0 : Int) - ((-((Nat.toDigits 10 n).length + exponent)).toNat +
            (Nat.toDigits 10 n).length : Nat) = exponent := by omega
        rw [hexponent] at hwritten
        simpa [toList_zeros] using hwritten
      next hbelow =>
        obtain ⟨c, more, hdigits⟩ :=
          List.exists_cons_of_ne_nil (Nat.toDigits_ne_nil (n := n) (b := 10))
        rw [Nat.toList_repr, hdigits]
        generalize he : ((c :: more).length : Int) + exponent - 1 = e
        rw [List.length_cons] at he
        have hwritten := written_scientific negative hdigits (e < 0) e.natAbs
        have hexponent : (if decide (e < 0) = true then -(e.natAbs : Int) else e.natAbs) - more.length =
            exponent := by
          simp only [decide_eq_true_eq]
          split <;> omega
        rw [hexponent] at hwritten
        cases more <;> by_cases h : e < 0 <;> simpa [h] using hwritten

end Decimal

end RuleTree

import Mathlib.Algebra.Group.Int.Defs
import Mathlib.Algebra.Group.Nat.Defs
import RuleTree.Double

/-!
Integers as doubles. The double of an integer is the nearest one, and of two that are equally near the one
with an even significand (`nearest_iff`). Rounding keeps the order of integers and is exact up to `2 ^ 53`, so
two integers can only have the same double if both are large and little apart (`Merges.bounds`).
-/

namespace RuleTree

namespace Double

/-! ## Significant bits -/

def place (n : Nat) : Nat := 2 ^ (n.log2 - 52)

/-- A number of units with at most 53 significant bits. -/
def Precise (n : Nat) : Prop := place n ∣ n

def significand (n : Nat) : Nat := n / place n

theorem place_pos (n : Nat) : 0 < place n := Nat.two_pow_pos _

/-- Beyond the first 53 bits the significand has as many as it can. -/
theorem le_significand {n : Nat} (h : place n ≠ 1) : 2 ^ 52 ≤ significand n := by
  have hspare : n.log2 - 52 ≠ 0 := by
    intro h0
    exact h (by rw [place, h0, Nat.pow_zero])
  have hne : n ≠ 0 := by
    rintro rfl
    exact hspare (by simp)
  have hlog : 52 + (n.log2 - 52) = n.log2 := by omega
  rw [significand, Nat.le_div_iff_mul_le (place_pos n), place, ← Nat.pow_add, hlog]
  exact Nat.log2_self_le hne

theorem significand_lt (n : Nat) : significand n < 2 ^ 53 := by
  rw [significand, Nat.div_lt_iff_lt_mul (place_pos n), place, ← Nat.pow_add]
  exact Nat.lt_of_lt_of_le Nat.lt_log2_self (Nat.pow_le_pow_right (by decide) (by omega))

/-- The last significant bit of a number that is written with 53 bits, or that has just outgrown them. -/
theorem significand_mul_mod_two {k : Nat} (hk : 2 ^ 52 ≤ k) (hk' : k ≤ 2 ^ 53) (s : Nat) :
    significand (k * 2 ^ s) % 2 = k % 2 := by
  rcases Nat.lt_or_eq_of_le hk' with hlt | rfl
  · have hne : k * 2 ^ s ≠ 0 := Nat.mul_ne_zero (by omega) (Nat.ne_of_gt (Nat.two_pow_pos s))
    have hlog : (k * 2 ^ s).log2 = 52 + s := by
      rw [Nat.log2_eq_iff hne, Nat.add_right_comm, Nat.pow_add, Nat.pow_add]
      exact ⟨Nat.mul_le_mul_right _ hk, Nat.mul_lt_mul_of_pos_right hlt (Nat.two_pow_pos s)⟩
    rw [significand, place, hlog, Nat.add_sub_cancel_left, Nat.mul_div_cancel _ (Nat.two_pow_pos s)]
  · have hcarry : 2 ^ 53 * 2 ^ s = 2 ^ 52 * 2 ^ (s + 1) := by
      rw [← Nat.pow_add, ← Nat.pow_add]
      congr 1
      omega
    have hlog : (2 ^ 52 * 2 ^ (s + 1)).log2 = 52 + (s + 1) := by rw [← Nat.pow_add, Nat.log2_two_pow]
    have hsignificand : significand (2 ^ 52 * 2 ^ (s + 1)) = 2 ^ 52 := by
      rw [significand, place, hlog, Nat.add_sub_cancel_left, Nat.mul_div_cancel _ (Nat.two_pow_pos _)]
    calc significand (2 ^ 53 * 2 ^ s) % 2 = 2 ^ 52 % 2 := by rw [hcarry, hsignificand]
      _ = 2 ^ 53 % 2 := rfl

/-! ## Neighbours -/

theorem place_dvd_of_precise {m n : Nat} (hm : Precise m) (hle : 2 ^ 52 * place n ≤ m) : place n ∣ m := by
  have hpos := Nat.mul_pos (Nat.two_pow_pos 52) (place_pos n)
  have hlog : 52 + (n.log2 - 52) ≤ m.log2 := by
    rw [Nat.le_log2 (by omega), Nat.pow_add]
    exact hle
  exact Nat.dvd_trans (Nat.pow_dvd_pow 2 (by omega)) hm

/-- There is no precise number between the two neighbours of a number on its own grid. -/
theorem le_or_le_of_precise {m : Nat} (hm : Precise m) (n : Nat) :
    m ≤ significand n * place n ∨ (significand n + 1) * place n ≤ m := by
  by_cases hdvd : place n ∣ m
  · obtain ⟨c, rfl⟩ := hdvd
    rw [Nat.mul_comm (place n) c]
    rcases Nat.lt_or_ge (significand n) c with h | h
    · exact .inr (Nat.mul_le_mul_right _ h)
    · exact .inl (Nat.mul_le_mul_right _ h)
  · -- A number off the grid is below all numbers with this place.
    have hlt : m < 2 ^ 52 * place n := Nat.lt_of_not_le fun hle => hdvd (place_dvd_of_precise hm hle)
    have hone : place n ≠ 1 := by
      intro h1
      exact hdvd (h1 ▸ Nat.one_dvd m)
    have hkept := Nat.mul_le_mul_right (place n) (le_significand hone)
    exact .inl (Nat.le_of_lt (Nat.lt_of_lt_of_le hlt hkept))

/-- Rounding goes to a neighbour that is not the farther one, and of two equally far to the even one. -/
theorem roundQuotient_one_cases (n : Nat) :
    ∃ k, roundQuotient n 1 = k * place n ∧ (2 * (n % place n) = place n → k % 2 = 0) ∧
      (k = significand n ∧ 2 * (n % place n) ≤ place n ∨
        k = significand n + 1 ∧ place n ≤ 2 * (n % place n)) := by
  have hround : roundQuotient n 1 =
      (if place n < 2 * (n % place n) ∨ 2 * (n % place n) = place n ∧ significand n % 2 = 1 then
        significand n + 1 else significand n) * place n := by
    simp only [roundQuotient, Nat.div_one, Nat.one_mul, Nat.pow_eq]
    rfl
  rw [hround]
  split
  next hup => exact ⟨_, rfl, by omega, .inr ⟨rfl, by omega⟩⟩
  next hdown => exact ⟨_, rfl, by omega, .inl ⟨rfl, by omega⟩⟩

/-! ## The nearest number -/

theorem roundQuotient_one_near {m : Nat} (hm : Precise m) (n : Nat) :
    ((roundQuotient n 1 : Int) - n).natAbs ≤ ((m : Int) - n).natAbs := by
  obtain ⟨k, hround, _, hk⟩ := roundQuotient_one_cases n
  have hgrid := le_or_le_of_precise hm n
  have hn : significand n * place n + n % place n = n := Nat.div_add_mod' n (place n)
  have hlt := Nat.mod_lt n (place_pos n)
  rw [Nat.add_one_mul] at hgrid
  rw [hround]
  rcases hk with ⟨rfl, hrest⟩ | ⟨rfl, hrest⟩
  · omega
  · rw [Nat.add_one_mul]
    omega

theorem roundQuotient_one_of_precise {n : Nat} (h : Precise n) : roundQuotient n 1 = n := by
  have := roundQuotient_one_near h n
  omega

/-- A number that is as near as the rounded one is the other neighbour. -/
theorem exists_neighbours_of_tie {m n : Nat} (hm : Precise m) (hne : m ≠ roundQuotient n 1)
    (htie : ((m : Int) - n).natAbs = ((roundQuotient n 1 : Int) - n).natAbs) :
    ∃ j k, m = j * place n ∧ roundQuotient n 1 = k * place n ∧ j % 2 = 1 ∧ k % 2 = 0 ∧
      (2 ^ 52 ≤ j ∧ j ≤ 2 ^ 53) ∧ 2 ^ 52 ≤ k ∧ k ≤ 2 ^ 53 := by
  obtain ⟨k, hround, heven, hk⟩ := roundQuotient_one_cases n
  have hgrid := le_or_le_of_precise hm n
  have hn : significand n * place n + n % place n = n := Nat.div_add_mod' n (place n)
  have hlt := Nat.mod_lt n (place_pos n)
  have hsignificand := significand_lt n
  rw [Nat.add_one_mul] at hgrid
  rw [hround] at hne htie ⊢
  -- The number stands in the middle between the two, so the place is not one.
  rcases hk with ⟨rfl, hrest⟩ | ⟨rfl, hrest⟩
  · have hmiddle : 2 * (n % place n) = place n ∧ m = significand n * place n + place n := by omega
    have hle := le_significand (n := n) (by omega)
    exact ⟨significand n + 1, significand n, by rw [Nat.add_one_mul]; exact hmiddle.2, rfl, by omega,
      heven hmiddle.1, by omega, by omega⟩
  · rw [Nat.add_one_mul] at hne htie
    have hmiddle : 2 * (n % place n) = place n ∧ m = significand n * place n := by omega
    have hle := le_significand (n := n) (by omega)
    exact ⟨significand n, significand n + 1, hmiddle.2, rfl, by omega, heven hmiddle.1, by omega,
      by omega⟩

/-- The error is at most one in `2 ^ 53`. -/
theorem roundQuotient_one_error (n : Nat) : 2 ^ 53 * ((roundQuotient n 1 : Int) - n).natAbs ≤ n := by
  obtain ⟨k, hround, _, hk⟩ := roundQuotient_one_cases n
  have hn : significand n * place n + n % place n = n := Nat.div_add_mod' n (place n)
  have hlt := Nat.mod_lt n (place_pos n)
  by_cases hone : place n = 1
  · have hprecise : Precise n := by
      rw [Precise, hone]
      exact Nat.one_dvd n
    rw [roundQuotient_one_of_precise hprecise]
    omega
  · have hkept := Nat.mul_le_mul_right (place n) (le_significand hone)
    rw [hround]
    rcases hk with ⟨rfl, hrest⟩ | ⟨rfl, hrest⟩
    · omega
    · rw [Nat.add_one_mul (significand n)]
      omega

/-! ## Integers -/

theorem natAbs_value (d : Double) : d.value.natAbs = d.units := by
  rw [value]
  split <;> omega

/-- A double is the nearest to an integer if none is nearer and if it is even where another one is as
near. -/
structure Nearest (d : Double) (i : Int) : Prop where
  near : ∀ e : Double, (d.value - i * one).natAbs ≤ (e.value - i * one).natAbs
  even : ∀ e : Double, e.value ≠ d.value →
    (e.value - i * one).natAbs = (d.value - i * one).natAbs → significand d.units % 2 = 0

theorem one_pos : 0 < one := by decide +kernel

theorem natAbs_mul_one (i : Int) : (i * one).natAbs = i.natAbs * one := by
  rw [Int.natAbs_mul, Int.natAbs_natCast]

theorem units_ofInt (i : Int) : (ofInt i).units = roundQuotient (i * one).natAbs 1 := by
  rw [natAbs_mul_one]
  rfl

/-- An integer and its double are on the same side of zero. -/
theorem value_ofInt_sub (i : Int) : ((ofInt i).value - i * one).natAbs =
    (((ofInt i).units : Int) - (i * one).natAbs).natAbs := by
  have hone : 0 < (one : Int) := Int.natCast_pos.mpr one_pos
  have hnegative : (ofInt i).negative = decide (i < 0) := rfl
  rw [value, hnegative]
  by_cases hneg : i < 0
  · have := Int.mul_neg_of_neg_of_pos hneg hone
    simp only [hneg, decide_true, if_true]
    omega
  · have := Int.mul_nonneg (Int.not_lt.mp hneg) (Int.le_of_lt hone)
    simp only [hneg, decide_false, Bool.false_eq_true, if_false]
    omega

/-- Whatever the signs are, units are no farther from those of an integer than the values. -/
theorem units_sub_le (e : Double) (x : Int) :
    ((e.units : Int) - x.natAbs).natAbs ≤ (e.value - x).natAbs := by
  have := natAbs_value e
  omega

theorem value_eq_of_units_eq {d e : Double} {x : Int} (hunits : e.units = d.units)
    (hdist : (e.value - x).natAbs = (d.value - x).natAbs) (hzero : x = 0 → d.units = 0) :
    e.value = d.value := by
  have hd := natAbs_value d
  have he := natAbs_value e
  omega

theorem units_ofInt_of_zero {i : Int} (h : i * one = 0) : (ofInt i).units = 0 := by
  have herror := roundQuotient_one_error (i * one).natAbs
  rw [← units_ofInt, h] at herror
  omega

/-- Rounded units are as near as any. -/
theorem units_ofInt_near (i : Int) (e : Double) :
    (((ofInt i).units : Int) - (i * one).natAbs).natAbs ≤
      ((e.units : Int) - (i * one).natAbs).natAbs := by
  rw [units_ofInt]
  exact roundQuotient_one_near e.precise _

/-- Other units that are as near have an odd significand, and the rounded ones an even one. -/
theorem significand_of_tie {i : Int} {e : Double} (hne : e.units ≠ (ofInt i).units)
    (htie : ((e.units : Int) - (i * one).natAbs).natAbs =
      (((ofInt i).units : Int) - (i * one).natAbs).natAbs) :
    significand e.units % 2 = 1 ∧ significand (ofInt i).units % 2 = 0 := by
  rw [units_ofInt] at hne htie ⊢
  obtain ⟨j, k, hj, hk, hodd, heven, hjbounds, hkbounds⟩ :=
    exists_neighbours_of_tie e.precise hne htie
  rw [hj, hk, place, significand_mul_mod_two hjbounds.1 hjbounds.2,
    significand_mul_mod_two hkbounds.1 hkbounds.2]
  exact ⟨hodd, heven⟩

theorem nearest_ofInt (i : Int) : (ofInt i).Nearest i where
  near e := by
    rw [value_ofInt_sub]
    exact Nat.le_trans (units_ofInt_near i e) (units_sub_le e (i * one))
  even e hne htie := by
    have hunits : e.units ≠ (ofInt i).units := fun h =>
      hne (value_eq_of_units_eq h htie units_ofInt_of_zero)
    rw [value_ofInt_sub] at htie
    have hle := units_sub_le e (i * one)
    have hnear := units_ofInt_near i e
    exact (significand_of_tie hunits (by omega)).2

theorem Nearest.value_eq {d : Double} {i : Int} (h : d.Nearest i) : d.value = (ofInt i).value := by
  have hle := h.near (ofInt i)
  have hle' := (nearest_ofInt i).near d
  have hdist : (d.value - i * one).natAbs = ((ofInt i).value - i * one).natAbs := by omega
  by_cases hunits : d.units = (ofInt i).units
  · exact value_eq_of_units_eq hunits hdist units_ofInt_of_zero
  · have hne : (ofInt i).value ≠ d.value := by
      intro hvalue
      rw [← natAbs_value d, ← natAbs_value (ofInt i), hvalue] at hunits
      exact hunits rfl
    have heven := h.even (ofInt i) hne hdist.symm
    have hsub := units_sub_le d (i * one)
    have hnear := units_ofInt_near i d
    rw [value_ofInt_sub] at hdist
    have hodd := (significand_of_tie hunits (by omega)).1
    omega

/-- The double of an integer is the one that is nearest to it. -/
theorem nearest_iff {d : Double} {i : Int} : d.Nearest i ↔ d.value = (ofInt i).value := by
  refine ⟨Nearest.value_eq, fun h => ⟨fun e => ?_, fun e hne htie => ?_⟩⟩
  · rw [h]
    exact (nearest_ofInt i).near e
  · rw [h] at hne htie
    rw [← natAbs_value d, h, natAbs_value]
    exact (nearest_ofInt i).even e hne htie

/-! ## Order -/

theorem value_ofInt_le {a b : Int} (h : a ≤ b) : (ofInt a).value ≤ (ofInt b).value := by
  rcases Int.lt_or_eq_of_le h with hlt | rfl
  · have ha := (nearest_ofInt a).near (ofInt b)
    have hb := (nearest_ofInt b).near (ofInt a)
    have hscaled : a * one < b * one := Int.mul_lt_mul_of_pos_right hlt (Int.natCast_pos.mpr one_pos)
    omega
  · exact Int.le_refl _

theorem value_ofInt_of_small {i : Int} (h : i.natAbs ≤ 2 ^ 53) : (ofInt i).value = i * one := by
  have hprecise : Precise (i * one).natAbs := by
    obtain ⟨s, hs⟩ : ∃ s, one = Nat.pow 2 s := ⟨1074, by decide +kernel⟩
    rw [natAbs_mul_one, hs]
    exact precise_mul_pow h
  have hdist := value_ofInt_sub i
  rw [units_ofInt, roundQuotient_one_of_precise hprecise] at hdist
  omega

/-! ## Integers with the same double -/

/-- Integers that have their nearest double in common. -/
def Merges (a b : Int) : Prop := ∃ d : Double, d.Nearest a ∧ d.Nearest b

theorem merges_iff {a b : Int} : Merges a b ↔ (ofInt a).value = (ofInt b).value := by
  constructor
  · rintro ⟨d, ha, hb⟩
    exact ha.value_eq.symm.trans hb.value_eq
  · exact fun h => ⟨ofInt a, nearest_ofInt a, nearest_iff.mpr h⟩

instance (a b : Int) : Decidable (Merges a b) := decidable_of_iff _ merges_iff.symm

theorem Merges.refl (a : Int) : Merges a a := merges_iff.mpr rfl

theorem Merges.symm {a b : Int} (h : Merges a b) : Merges b a := merges_iff.mpr (merges_iff.mp h).symm

/-- A double of at most `2 ^ 53` in magnitude that is not the bound itself belongs to one integer. -/
theorem Merges.eq_of_small {a b : Int} (h : Merges a b) (ha : a.natAbs < 2 ^ 53) : a = b := by
  have hvalue := merges_iff.mp h
  rw [value_ofInt_of_small (Nat.le_of_lt ha)] at hvalue
  have hone : 0 < (one : Int) := Int.natCast_pos.mpr one_pos
  by_cases hb : b.natAbs ≤ 2 ^ 53
  · rw [value_ofInt_of_small hb] at hvalue
    exact Int.eq_of_mul_eq_mul_right (Int.ne_of_gt hone) hvalue
  · -- Beyond the bound rounding does not come back below it.
    exfalso
    rcases Int.lt_or_le b 0 with hneg | hpos
    · have hle : (ofInt b).value ≤ (ofInt (-2 ^ 53)).value := value_ofInt_le (by omega)
      rw [← hvalue, value_ofInt_of_small (by decide)] at hle
      have := Int.le_of_mul_le_mul_right hle hone
      omega
    · have hle : (ofInt (2 ^ 53)).value ≤ (ofInt b).value := value_ofInt_le (by omega)
      rw [← hvalue, value_ofInt_of_small (by decide)] at hle
      have := Int.le_of_mul_le_mul_right hle hone
      omega

theorem value_ofInt_error (i : Int) :
    2 ^ 53 * ((ofInt i).value - i * one).natAbs ≤ i.natAbs * one := by
  rw [value_ofInt_sub, units_ofInt, ← natAbs_mul_one]
  exact roundQuotient_one_error _

/-- Different integers with the same double are large, and their distance is small beside them. -/
theorem Merges.bounds {a b : Int} (h : Merges a b) (hne : a ≠ b) :
    2 ^ 53 ≤ a.natAbs ∧ 2 ^ 53 ≤ b.natAbs ∧ 2 ^ 53 * (a - b).natAbs ≤ a.natAbs + b.natAbs := by
  refine ⟨?_, ?_, ?_⟩
  · exact Nat.le_of_not_lt fun hlt => hne (h.eq_of_small hlt)
  · exact Nat.le_of_not_lt fun hlt => hne (h.symm.eq_of_small hlt).symm
  · have hvalue := merges_iff.mp h
    have ha := value_ofInt_error a
    have hb := value_ofInt_error b
    have hdist : (a - b).natAbs * one = (a * one - b * one).natAbs := by
      rw [← Int.sub_mul, natAbs_mul_one]
    refine Nat.le_of_mul_le_mul_right ?_ one_pos
    rw [Nat.mul_assoc, hdist, Nat.add_mul]
    omega

end Double

end RuleTree

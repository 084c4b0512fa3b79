import Mathlib.Algebra.Order.Ring.Nat
import OutlineQuery.Number.Numeral

/-!
Which numbers are finite. Rounding never passes the greatest finite number from below, so a quotient
by a number of at least one stays finite, and with it every double that a numeral stands for.
-/
namespace OutlineQuery

namespace Binary64

def topScale : Nat := 2045

/-- How many units the greatest finite number is. -/
def largest : Nat := (2 ^ 53 - 1) * 2 ^ topScale

theorem infinity_lt_signBit : infinity < signBit := by
  decide

/-- The sign is one bit of its own: whatever it is, the other bits are as given. -/
theorem magnitude_ofMagnitude (negative : Bool) {m : Nat} (h : m < signBit) :
    (ofMagnitude negative m).magnitude = m := by
  have hword : signBit + m < 2 ^ 64 := by
    simp only [signBit] at h ⊢
    omega
  cases negative with
  | false =>
    have hbits : (ofMagnitude false m).bits.toNat = m :=
      UInt64.toNat_ofNat_of_lt' (lt_of_le_of_lt (Nat.le_add_left m signBit) hword)
    rw [magnitude, hbits, Nat.mod_eq_of_lt h]
  | true =>
    have hbits : (ofMagnitude true m).bits.toNat = signBit + m := UInt64.toNat_ofNat_of_lt' hword
    rw [magnitude, hbits, Nat.add_mod_left, Nat.mod_eq_of_lt h]

theorem isFinite_withSign (negative : Bool) (x : Binary64) :
    (x.withSign negative).isFinite = x.isFinite := by
  have hlt : x.magnitude < signBit := Nat.mod_lt _ (by decide)
  simp only [isFinite, withSign, magnitude_ofMagnitude negative hlt]

/-! ## Rounded quotients -/

/-- Rounding does not pass a whole number from below. -/
theorem roundDiv_le {num den k : Nat} (h : num ≤ den * k) : roundDiv num den ≤ k := by
  rcases Nat.eq_zero_or_pos den with rfl | hden
  · have hnum : num = 0 := by omega
    simp [roundDiv, hnum]
  have hdecomposed := Nat.div_add_mod num den
  rcases Nat.lt_or_ge (num / den) k with hq | hq
  · unfold roundDiv
    dsimp only
    split <;> omega
  · -- the quotient is `k` itself, so there is no rest to round
    have hmul : den * k ≤ den * (num / den) := Nat.mul_le_mul_left den hq
    have hmod : num % den = 0 := by omega
    have hk : num / den = k := Nat.eq_of_mul_eq_mul_left hden (by omega)
    unfold roundDiv
    dsimp only
    rw [hmod, hk, if_neg (by omega)]

/-- Rounding does not pass a whole number from above. -/
theorem le_roundDiv {num den k : Nat} (hden : 0 < den) (h : den * k ≤ num) :
    k ≤ roundDiv num den := by
  have hk : k ≤ num / den := (Nat.le_div_iff_mul_le hden).2 (by rwa [Nat.mul_comm])
  unfold roundDiv
  dsimp only
  split <;> omega

/-- The power of two by which the significand of the nearest number counts. -/
def nearestScale (num den : Nat) : Nat :=
  (num / den).log2 - 52

/-- The significand of the nearest number, or twice the least one if rounding carries. -/
def nearestSignificand (num den : Nat) : Nat :=
  roundDiv num (den * 2 ^ nearestScale num den)

/-- The exponent field and the fraction of the nearest number are one number, which stops at
infinity. -/
theorem magnitude_nearest (num den : Nat) :
    (nearest num den).magnitude =
      min infinity (nearestScale num den * fractionSize + nearestSignificand num den) := by
  have hlt := infinity_lt_signBit
  exact magnitude_ofMagnitude false (by omega)

/-- The scale is large enough: the quotient has at most fifty-three bits above it. -/
theorem lt_nearestScale (num : Nat) {den : Nat} (hden : 0 < den) :
    num < den * 2 ^ (nearestScale num den + 53) := by
  have hpower : num / den < 2 ^ (nearestScale num den + 53) := by
    calc num / den < 2 ^ ((num / den).log2 + 1) := Nat.lt_log2_self
      _ ≤ 2 ^ (nearestScale num den + 53) :=
        Nat.pow_le_pow_right (by decide) (by unfold nearestScale; omega)
  exact (Nat.div_lt_iff_lt_mul hden).1 hpower |>.trans_eq (Nat.mul_comm _ _)

/-- The scale is no larger than it must be: unless it is zero, the quotient has fifty-three bits
above it. -/
theorem nearestScale_le {num den : Nat} (hden : 0 < den) (hscale : nearestScale num den ≠ 0) :
    den * 2 ^ (nearestScale num den + 52) ≤ num := by
  have hlog : nearestScale num den + 52 = (num / den).log2 := by
    unfold nearestScale at hscale ⊢
    omega
  have hquotient : num / den ≠ 0 := by
    intro hzero
    simp [hzero] at hlog
  have hpower : 2 ^ (nearestScale num den + 52) ≤ num / den := hlog ▸ Nat.log2_self_le hquotient
  exact (Nat.mul_comm _ _).trans_le ((Nat.le_div_iff_mul_le hden).1 hpower)

/-- A significand is below twice the number of fractions unless rounding carries, and then it is
just that. -/
theorem nearestSignificand_le (num : Nat) {den : Nat} (hden : 0 < den) :
    nearestSignificand num den ≤ 2 * fractionSize := by
  apply roundDiv_le
  have hlt := lt_nearestScale num hden
  rw [Nat.pow_add, ← Nat.mul_assoc] at hlt
  exact hlt.le

/-- Above the least scale a significand has its leading bit. -/
theorem le_nearestSignificand {num den : Nat} (hden : 0 < den) (hscale : nearestScale num den ≠ 0) :
    fractionSize ≤ nearestSignificand num den := by
  apply le_roundDiv (Nat.mul_pos hden (Nat.two_pow_pos _))
  have hle := nearestScale_le hden hscale
  rwa [Nat.pow_add, ← Nat.mul_assoc] at hle

/-! ## The range of finite numbers -/

theorem units_le_largest {x : Binary64} (h : x.isFinite = true) : x.units ≤ largest := by
  have hmagnitude : x.magnitude < 2047 * fractionSize := of_decide_eq_true h
  have hsignificand : x.significand ≤ 2 ^ 53 - 1 := by
    unfold significand
    split <;> simp only [fractionSize] at * <;> omega
  have hscale : x.scale ≤ topScale := by
    simp only [scale, topScale, fractionSize] at hmagnitude ⊢
    omega
  have hpower : 2 ^ x.scale ≤ 2 ^ topScale := Nat.pow_le_pow_right (by decide) hscale
  exact Nat.mul_le_mul hsignificand hpower

/-- A quotient up to the greatest finite number has a scale up to that of this number. -/
theorem nearestScale_le_topScale {num den : Nat} (hden : 0 < den) (h : num ≤ den * largest) :
    nearestScale num den ≤ topScale := by
  by_contra hgreater
  have hle : den * 2 ^ (nearestScale num den + 52) ≤ num := nearestScale_le hden (by omega)
  have hpower : 2 ^ (nearestScale num den + 52) ≤ largest :=
    Nat.le_of_mul_le_mul_left (hle.trans h) hden
  have hsplit : nearestScale num den + 52 = 53 + (nearestScale num den - 1) := by omega
  have hbinade : 2 ^ topScale ≤ 2 ^ (nearestScale num den - 1) :=
    Nat.pow_le_pow_right (by decide) (by omega)
  have hpos : 0 < 2 ^ (nearestScale num den - 1) := Nat.two_pow_pos _
  rw [hsplit, Nat.pow_add, largest] at hpower
  omega

/-- A quotient that is not above the greatest finite number is rounded to a finite one. -/
theorem isFinite_nearest {num den : Nat} (hden : 0 < den) (h : num ≤ den * largest) :
    (nearest num den).isFinite = true := by
  have hscale := nearestScale_le_topScale hden h
  have hsignificand := nearestSignificand_le num hden
  have hmagnitude := magnitude_nearest num den
  apply decide_eq_true
  rcases Nat.lt_or_ge (nearestScale num den) topScale with hlt | hge
  · simp only [infinity, topScale, fractionSize] at hmagnitude hsignificand hlt ⊢
    omega
  · -- in the highest binade the bound itself is what keeps rounding from carrying
    have heq : nearestScale num den = topScale := by omega
    have hbound : nearestSignificand num den ≤ 2 ^ 53 - 1 := by
      apply roundDiv_le
      rw [heq, Nat.mul_assoc, Nat.mul_comm (2 ^ topScale)]
      exact h
    simp only [infinity, topScale, fractionSize] at hmagnitude heq ⊢
    omega

/-- As long as it is finite, the number nearest to a quotient is its significand times its power of
two, also where rounding carries into the exponent. -/
theorem units_nearest {num den : Nat} (hden : 0 < den) (h : (nearest num den).isFinite = true) :
    (nearest num den).units = nearestSignificand num den * 2 ^ nearestScale num den := by
  have hfinite : (nearest num den).magnitude < infinity := of_decide_eq_true h
  have hmagnitude : (nearest num den).magnitude =
      nearestScale num den * fractionSize + nearestSignificand num den := by
    have heq := magnitude_nearest num den
    omega
  have hle := nearestSignificand_le num hden
  have hge : nearestScale num den ≠ 0 → fractionSize ≤ nearestSignificand num den :=
    le_nearestSignificand hden
  unfold units
  generalize nearestSignificand num den = m at *
  generalize nearestScale num den = e at *
  rcases Nat.lt_or_ge m fractionSize with hsmall | hsmall
  · have he : e = 0 := by
      by_contra hne
      exact absurd (hge hne) (by omega)
    subst he
    simp only [Nat.zero_mul, Nat.zero_add] at hmagnitude
    simp [significand, scale, hmagnitude, hsmall, Nat.div_eq_of_lt hsmall]
  rcases Nat.lt_or_ge m (2 * fractionSize) with hlarge | hlarge
  · have hsignificand : (nearest num den).significand = m := by
      unfold significand
      split <;> simp only [hmagnitude, fractionSize] at * <;> omega
    have hscale : (nearest num den).scale = e := by
      simp only [scale, hmagnitude, fractionSize] at *
      omega
    rw [hsignificand, hscale]
    rfl
  · -- the carry: the fraction is zero and the exponent one higher
    have hm : m = fractionSize * 2 := by omega
    have hsignificand : (nearest num den).significand = fractionSize := by
      unfold significand
      split <;> simp only [hmagnitude, fractionSize] at * <;> omega
    have hscale : (nearest num den).scale = e + 1 := by
      simp only [scale, hmagnitude, fractionSize] at *
      omega
    rw [hsignificand, hscale, hm, Nat.mul_assoc, ← Nat.pow_add_one']
    rfl

/-- Rounding does not pass a power of two from above, since powers of two are numbers themselves. -/
theorem two_pow_le_units_nearest {num den k : Nat} (hden : 0 < den)
    (hfinite : (nearest num den).isFinite = true) (h : den * 2 ^ k ≤ num) :
    2 ^ k ≤ (nearest num den).units := by
  rw [units_nearest hden hfinite]
  have hpos : 0 < den * 2 ^ nearestScale num den := Nat.mul_pos hden (Nat.two_pow_pos _)
  rcases Nat.lt_or_ge (nearestScale num den) k with hlt | hge
  · have hsignificand : 2 ^ (k - nearestScale num den) ≤ nearestSignificand num den := by
      apply le_roundDiv hpos
      rw [Nat.mul_assoc, ← Nat.pow_add, Nat.add_sub_cancel' hlt.le]
      exact h
    calc 2 ^ k = 2 ^ (k - nearestScale num den) * 2 ^ nearestScale num den := by
          rw [← Nat.pow_add, Nat.sub_add_cancel hlt.le]
      _ ≤ nearestSignificand num den * 2 ^ nearestScale num den := Nat.mul_le_mul_right _ hsignificand
  · have hsignificand : 1 ≤ nearestSignificand num den := by
      by_cases hscale : nearestScale num den = 0
      · apply le_roundDiv hpos
        have hk : k = 0 := by omega
        simpa [hscale, hk] using h
      · exact le_trans (by decide) (le_nearestSignificand hden hscale)
    calc 2 ^ k ≤ 2 ^ nearestScale num den := Nat.pow_le_pow_right (by decide) hge
      _ ≤ nearestSignificand num den * 2 ^ nearestScale num den := Nat.le_mul_of_pos_left _ hsignificand

/-! ## Arithmetic that stays finite -/

def oneScale : Nat := 1074

/-- The greatest finite number, which is whole. -/
def largestWhole : Nat := (2 ^ 53 - 1) * 2 ^ (topScale - oneScale)

theorem unitsOfOne_eq : unitsOfOne = 2 ^ oneScale := by
  unfold unitsOfOne oneScale
  -- Of no matter which exponent, so that the power is not computed.
  generalize 1074 = k
  rfl

theorem unitsOfOne_pos : 0 < unitsOfOne := by
  rw [unitsOfOne_eq]
  exact Nat.two_pow_pos _

theorem largest_eq : largest = largestWhole * unitsOfOne := by
  have hscale : topScale - oneScale + oneScale = topScale := by decide
  rw [largest, largestWhole, unitsOfOne_eq, Nat.mul_assoc, ← Nat.pow_add, hscale]

theorem word_le_largestWhole : 2 ^ 64 ≤ largestWhole := by
  have hpower : 2 ^ 64 ≤ 2 ^ (topScale - oneScale) := Nat.pow_le_pow_right (by decide) (by decide)
  exact hpower.trans (Nat.le_mul_of_pos_left _ (by decide))

theorem isFinite_ofNat {n : Nat} (h : n ≤ largestWhole) : (ofNat n).isFinite = true := by
  apply isFinite_nearest Nat.one_pos
  rw [Nat.one_mul, largest_eq]
  exact Nat.mul_le_mul_right _ h

theorem isFinite_ofInt {i : Int} (h : i.natAbs ≤ 2 ^ 64) : (ofInt i).isFinite = true := by
  rw [ofInt, isFinite_withSign]
  exact isFinite_ofNat (h.trans word_le_largestWhole)

theorem unitsOfOne_le_units_ofNat {n : Nat} (hpos : 0 < n) (h : n ≤ largestWhole) :
    unitsOfOne ≤ (ofNat n).units := by
  rw [unitsOfOne_eq]
  apply two_pow_le_units_nearest Nat.one_pos (isFinite_ofNat h)
  rw [Nat.one_mul, ← unitsOfOne_eq]
  exact Nat.le_mul_of_pos_left _ hpos

/-- Dividing by at least one makes no finite number infinite. -/
theorem isFinite_div {x y : Binary64} (hx : x.isFinite = true) (hy : unitsOfOne ≤ y.units) :
    (x.div y).isFinite = true := by
  apply isFinite_nearest (unitsOfOne_pos.trans_le hy)
  calc x.units * unitsOfOne ≤ largest * y.units := Nat.mul_le_mul (units_le_largest hx) hy
    _ = y.units * largest := Nat.mul_comm _ _

theorem unitsOfOne_le_units_powerOfTen {n : Nat} (h : n ≤ Numeral.largestPower) :
    unitsOfOne ≤ (powerOfTen n).units := by
  have hlargest : 10 ^ Numeral.largestPower ≤ largestWhole := by
    decide +kernel
  have hpower : 10 ^ n ≤ 10 ^ Numeral.largestPower := Nat.pow_le_pow_right (by decide) h
  exact unitsOfOne_le_units_ofNat (Nat.pow_pos (by decide)) (hpower.trans hlargest)

end Binary64

/-! ## The doubles of numerals -/

namespace Numeral

theorem absorb_lt {n : Nat} (ds : List Nat) (h : n < wordSize) : (absorb n ds).1 < wordSize := by
  fun_induction absorb n ds with
  | case1 n => exact h
  | case2 n d rest hfits m taken hrest ih => simpa [hrest] using ih hfits
  | case3 n d rest hfits => exact h

/-- Scaling by a power of ten gives a finite number or nothing. -/
theorem isFinite_of_scale? {x y : Binary64} {e : Int} (hx : x.isFinite = true)
    (h : scale? x e = some y) : y.isFinite = true := by
  unfold scale? at h
  split at h
  · split at h
    · simpa using Option.some.inj h ▸ hx
    · simp at h
  · split at h
    · -- the product is checked, the quotients need not be
      dsimp only at h
      split at h
      · rename_i hfinite
        exact Option.some.inj h ▸ hfinite
      · simp at h
    · dsimp only at h
      split at h
      · rename_i hdown
        exact Option.some.inj h ▸
          Binary64.isFinite_div hx (Binary64.unitsOfOne_le_units_powerOfTen hdown)
      · split at h
        · have hfirst := Binary64.isFinite_div hx
            (Binary64.unitsOfOne_le_units_powerOfTen (Nat.le_refl largestPower))
          exact Option.some.inj h ▸ Binary64.isFinite_div hfirst
            (Binary64.unitsOfOne_le_units_powerOfTen (by omega))
        · exact Option.some.inj h ▸ Binary64.isFinite_ofNat (Nat.zero_le _)

/-- The double that a numeral stands for, if there is one, is finite. -/
theorem isFinite_of_double? {n : Numeral} {x : Binary64} (h : n.double? = some x) :
    x.isFinite = true := by
  have hword : wordSize ≤ 2 ^ 64 := by decide
  have hwhole := absorb_lt n.whole (by decide : 0 < wordSize)
  have hdigits := absorb_lt n.fraction hwhole
  obtain ⟨y, hy, rfl⟩ := Option.map_eq_some_iff.1 h
  rw [Binary64.isFinite_withSign]
  apply isFinite_of_scale? _ hy
  exact Binary64.isFinite_ofNat ((hdigits.le.trans hword).trans Binary64.word_le_largestWhole)

/-- The integer that a numeral stands for, if there is one, is a number of 64 bits but for its
sign. -/
theorem natAbs_le_of_integer? {n : Numeral} {i : Int} (h : n.integer? = some i) :
    i.natAbs ≤ 2 ^ 64 := by
  have hword : wordSize = 2 ^ 64 := by decide
  unfold integer? at h
  dsimp only at h
  split at h
  · simp at h
  · split at h <;> split at h <;> simp only [Option.some.injEq, reduceCtorEq] at h <;> omega

end Numeral

end OutlineQuery

import LineShell.Numeric.Binary
import Mathlib.Algebra.Order.Field.Power
import Mathlib.Data.Rat.Cast.Order
import Mathlib.Tactic.FieldSimp
import Mathlib.Tactic.GCongr
import Mathlib.Tactic.Linarith
import Mathlib.Tactic.NormNum
import Mathlib.Tactic.Positivity
import Mathlib.Tactic.Ring

/-!
# How far rounding goes

A 53-bit number is made by scaling a quotient until its whole part has 53 bits, and rounding what
is left of it to a whole mantissa. The mantissa is then off by at most a half, and it is large, so
the number is off by at most one part in `2 ^ 53`.

    abs_divEven_sub_le   : a quotient rounded to a whole number
    le_div_roundingScale : how large the mantissa is
    abs_nearest_sub_le   : a quotient rounded to a 53-bit number
-/

namespace LineShell.Numeric

/-! ### Whole numbers -/

/-- Rounding goes down over at most half a step, or up over at most half a step. -/
theorem divEven_cases (num den : Nat) :
    divEven num den = num / den ∧ 2 * (num % den) ≤ den ∨
      divEven num den = num / den + 1 ∧ den ≤ 2 * (num % den) := by
  unfold divEven
  dsimp only
  split_ifs with hdown hup heven
  · exact .inl ⟨rfl, by omega⟩
  · exact .inr ⟨rfl, by omega⟩
  · exact .inl ⟨rfl, by omega⟩
  · exact .inr ⟨rfl, by omega⟩

/-- A quotient rounded to a whole number is off by at most a half. -/
theorem abs_divEven_sub_le (num : Nat) {den : Nat} (hden : 0 < den) :
    |(divEven num den : ℚ) - num / den| ≤ 1 / 2 := by
  have hpos : (0 : ℚ) < den := by exact_mod_cast hden
  have hnum : (num : ℚ) = den * (num / den : Nat) + (num % den : Nat) := by
    exact_mod_cast (Nat.div_add_mod num den).symm
  have hrest : ((num % den : Nat) : ℚ) ≤ den := by exact_mod_cast (Nat.mod_lt num hden).le
  have hquotient : (num : ℚ) / den = (num / den : Nat) + (num % den : Nat) / den := by
    rw [hnum]
    field_simp
  rw [hquotient]
  rcases divEven_cases num den with ⟨hq, hhalf⟩ | ⟨hq, hhalf⟩
  · have hsmall : ((num % den : Nat) : ℚ) / den ≤ 1 / 2 := by
      rw [div_le_iff₀ hpos]
      have : ((2 * (num % den) : Nat) : ℚ) ≤ den := by exact_mod_cast hhalf
      push_cast at this
      linarith
    have hnonneg : (0 : ℚ) ≤ ((num % den : Nat) : ℚ) / den := by positivity
    rw [hq, abs_le]
    constructor <;> linarith
  · have hlarge : 1 / 2 ≤ ((num % den : Nat) : ℚ) / den := by
      rw [le_div_iff₀ hpos]
      have : (den : ℚ) ≤ ((2 * (num % den) : Nat) : ℚ) := by exact_mod_cast hhalf
      push_cast at this
      linarith
    have hle : ((num % den : Nat) : ℚ) / den ≤ 1 := by
      rw [div_le_one hpos]
      exact hrest
    rw [hq, abs_le]
    push_cast
    constructor <;> linarith

namespace Binary

/-! ### Fractions and powers of two -/

def value (b : Binary) : ℚ := b.mantissa * 2 ^ b.exponent

theorem two_zpow_eq (e : Int) : (2 : ℚ) ^ e = 2 ^ e.toNat / 2 ^ (-e).toNat := by
  have hsplit : e = (e.toNat : Int) - ((-e).toNat : Int) := by omega
  conv_lhs => rw [hsplit, zpow_sub₀ two_ne_zero, zpow_natCast, zpow_natCast]

theorem den_pos (b : Binary) : 0 < b.den := Nat.pow_pos (by decide)

theorem num_div_den (b : Binary) : (b.num : ℚ) / b.den = b.value := by
  rw [value, two_zpow_eq, num, den]
  push_cast [Nat.pow_eq]
  ring

theorem scaled_snd_pos {num den : Nat} (hden : 0 < den) (e : Int) : 0 < (scaled num den e).2 :=
  Nat.mul_pos hden (Nat.pow_pos (by decide))

theorem scaled_div (num den : Nat) (e : Int) :
    ((scaled num den e).1 : ℚ) / (scaled num den e).2 = num / den / 2 ^ e := by
  rw [scaled, two_zpow_eq]
  push_cast [Nat.pow_eq]
  field_simp

/-! ### 53-bit numbers -/

/-- Half the quotient of the leading powers of two is below a quotient. -/
theorem two_zpow_lt_div {num den : Nat} (hnum : 0 < num) (hden : 0 < den) :
    (2 : ℚ) ^ ((Nat.log2 num : Int) - Nat.log2 den - 1) < num / den := by
  have hpos : (0 : ℚ) < den := by exact_mod_cast hden
  have hlow : (2 : ℚ) ^ Nat.log2 num ≤ num := by
    exact_mod_cast Nat.log2_self_le hnum.ne'
  have hhigh : (den : ℚ) < 2 ^ (Nat.log2 den + 1) := by
    exact_mod_cast Nat.lt_log2_self
  rw [lt_div_iff₀ hpos]
  calc (2 : ℚ) ^ ((Nat.log2 num : Int) - Nat.log2 den - 1) * den
      < 2 ^ ((Nat.log2 num : Int) - Nat.log2 den - 1) * 2 ^ (Nat.log2 den + 1) := by gcongr
    _ = 2 ^ Nat.log2 num := by
      rw [← zpow_natCast, ← zpow_natCast, ← zpow_add₀ two_ne_zero]
      congr 1
      push_cast
      ring
    _ ≤ num := hlow

/-- The exponent of the mantissa: at this scale the whole part of the quotient has 53 bits. -/
def roundingScale (num den : Nat) : Int :=
  let guess : Int := (Nat.log2 num : Int) - (Nat.log2 den : Int) - 52
  if (scaled num den guess).1 / (scaled num den guess).2 < Nat.pow 2 52 then guess - 1 else guess

/-- The quotient at its scale, rounded to a whole number. -/
def roundedAtScale (num den : Nat) : Nat :=
  divEven (scaled num den (roundingScale num den)).1 (scaled num den (roundingScale num den)).2

/-- The rounded quotient is the mantissa, unless rounding carries into a 54th bit. -/
theorem nearest_eq {num den : Nat} (hnum : 0 < num) :
    nearest num den =
      if roundedAtScale num den = Nat.pow 2 53 then ⟨Nat.pow 2 52, roundingScale num den + 1⟩
      else ⟨roundedAtScale num den, roundingScale num den⟩ := by
  rw [nearest, if_neg hnum.ne']
  rfl

/-- Both cases of the carry stand for the rounded quotient at its scale. -/
theorem value_nearest {num den : Nat} (hnum : 0 < num) :
    (nearest num den).value = roundedAtScale num den * 2 ^ roundingScale num den := by
  rw [nearest_eq hnum]
  split_ifs with hcarry
  · -- the carry into the next power of two keeps the value
    rw [value, hcarry, zpow_add_one₀ two_ne_zero]
    push_cast [Nat.pow_eq]
    ring
  · rfl

/-- At its scale the quotient is large. -/
theorem le_div_roundingScale {num den : Nat} (hnum : 0 < num) (hden : 0 < den) :
    (2 : ℚ) ^ 52 ≤ num / den / 2 ^ roundingScale num den := by
  rw [roundingScale]
  split_ifs with hsmall
  · -- one bit more than guessed is always enough
    rw [le_div_iff₀ (by positivity), ← zpow_natCast, ← zpow_add₀ two_ne_zero]
    have hexponent : ((52 : Nat) : Int) + ((Nat.log2 num : Int) - Nat.log2 den - 52 - 1) =
        (Nat.log2 num : Int) - Nat.log2 den - 1 := by
      push_cast
      ring
    rw [hexponent]
    exact (two_zpow_lt_div hnum hden).le
  · rw [← scaled_div]
    have hwhole := Nat.le_of_not_lt hsmall
    rw [Nat.le_div_iff_mul_le (scaled_snd_pos hden _)] at hwhole
    rw [le_div_iff₀ (by exact_mod_cast scaled_snd_pos hden _)]
    exact_mod_cast hwhole

/-- A quotient rounded to a 53-bit number is off by at most one part in `2 ^ 53`. -/
theorem abs_nearest_sub_le (num : Nat) {den : Nat} (hden : 0 < den) :
    |(nearest num den).value - num / den| ≤ num / den / 2 ^ 53 := by
  rcases Nat.eq_zero_or_pos num with rfl | hnum
  · simp [nearest, value]
  · have hstep : (0 : ℚ) < 2 ^ roundingScale num den := by positivity
    have hvalue : (nearest num den).value =
        roundedAtScale num den * 2 ^ roundingScale num den := value_nearest hnum
    have hlarge := le_div_roundingScale hnum hden
    have hhalf : |(roundedAtScale num den : ℚ) - num / den / 2 ^ roundingScale num den| ≤ 1 / 2 := by
      rw [← scaled_div]
      exact abs_divEven_sub_le _ (scaled_snd_pos hden _)
    generalize (2 : ℚ) ^ roundingScale num den = step at *
    calc |(nearest num den).value - num / den|
        = |((roundedAtScale num den : ℚ) - num / den / step) * step| := by
          rw [hvalue, sub_mul, div_mul_cancel₀ _ hstep.ne']
      _ = |(roundedAtScale num den : ℚ) - num / den / step| * step := by
          rw [abs_mul, abs_of_pos hstep]
      _ ≤ 1 / 2 * step := by gcongr
      _ = 2 ^ 52 * step / 2 ^ 53 := by ring
      _ ≤ num / den / step * step / 2 ^ 53 := by gcongr
      _ = num / den / 2 ^ 53 := by rw [div_mul_cancel₀ _ hstep.ne']

/-! ### Fixed places -/

/-- A 53-bit number rounded to decimal places is off by at most half a step of the last one. -/
theorem abs_places_sub_le (b : Binary) (places : Nat) :
    |(divEven (b.num * Nat.pow 10 places) b.den : ℚ) - b.value * 10 ^ places| ≤ 1 / 2 := by
  have hround := abs_divEven_sub_le (b.num * Nat.pow 10 places) b.den_pos
  have hvalue : ((b.num * Nat.pow 10 places : Nat) : ℚ) / b.den = b.value * 10 ^ places := by
    rw [← num_div_den]
    push_cast [Nat.pow_eq]
    ring
  rwa [hvalue] at hround

end Binary

end LineShell.Numeric

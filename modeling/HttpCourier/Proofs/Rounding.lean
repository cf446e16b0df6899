import HttpCourier.Number.Binary64
import Mathlib.Algebra.Order.Field.Power
import Mathlib.Algebra.Order.Floor.Semifield
import Mathlib.Data.Nat.Size
import Mathlib.Data.Rat.Floor
import Mathlib.Tactic.FieldSimp
import Mathlib.Tactic.Linarith
import Mathlib.Tactic.Positivity

/-!
# Rounding to the binary format

A quotient is rounded to the format by choosing an exponent and rounding the quotient that is left
for the mantissa. What this gives is said over the rationals (`Binary64.Rounds`). A product with a
power of two is exact then, so the number that stands for a decimal numeral times such a power is
the exact product, rounded once. When its whole part is the one of the product is said without any
rounding (`Binary64.truncate_scale_ofDecimal_iff`).
-/

namespace HttpCourier

/-! ## Rounding to a whole number -/

/-- A whole number is reached by rounding from half below it, and from exactly there when it is
even. -/
theorem Number.le_roundQuotient_iff {num den t : Nat} (hden : 0 < den) :
    t ≤ roundQuotient num den ↔
      2 * (t * den) < 2 * num + den ∨ 2 * (t * den) = 2 * num + den ∧ t % 2 = 0 := by
  have hnum := Nat.div_add_mod num den
  have hmod := Nat.mod_lt num hden
  unfold roundQuotient
  dsimp only
  generalize num / den = q at *
  generalize num % den = r at *
  -- only the neighbour above the quotient depends on the remainder
  rcases Nat.lt_trichotomy t (q + 1) with hlow | rfl | hhigh
  · have hle : t * den ≤ den * q := by
      rw [Nat.mul_comm den]
      exact Nat.mul_le_mul_right den (by omega)
    split_ifs <;> omega
  · have heq : (q + 1) * den = den * q + den := by rw [Nat.succ_mul, Nat.mul_comm]
    split_ifs <;> omega
  · have hge : den * q + 2 * den ≤ t * den := by
      rw [Nat.mul_comm den, ← Nat.add_mul]
      exact Nat.mul_le_mul_right den (by omega)
    split_ifs <;> omega

/-- The same over the rationals: reached from half below, and from exactly there when it is even. -/
theorem Number.le_roundQuotient_iff_rat {num den t : Nat} (hden : 0 < den) :
    t ≤ roundQuotient num den ↔
      (t : ℚ) < num / den + 1 / 2 ∨ (t : ℚ) = num / den + 1 / 2 ∧ t % 2 = 0 := by
  have hden' : (0 : ℚ) < den := by exact_mod_cast hden
  have hsum : (num : ℚ) / den + 1 / 2 = (2 * num + den) / (2 * den) := by field_simp
  have hlt : (t : ℚ) < num / den + 1 / 2 ↔ 2 * (t * den) < 2 * num + den := by
    rw [hsum, lt_div_iff₀ (by positivity), ← Nat.cast_lt (α := ℚ)]
    push_cast
    constructor <;> intro h <;> linarith
  have heq : (t : ℚ) = num / den + 1 / 2 ↔ 2 * (t * den) = 2 * num + den := by
    rw [hsum, eq_div_iff (by positivity), ← Nat.cast_inj (R := ℚ)]
    push_cast
    constructor <;> intro h <;> linarith
  rw [le_roundQuotient_iff hden, hlt, heq]

namespace Binary64

open Number

variable {num den m k : Nat} {e : Int}

/-! ## Quotients and powers of two -/

/-- A quotient over a power of two, as it is divided. -/
def scaled (num den : Nat) (e : Int) : Nat × Nat :=
  if 0 ≤ e then (num, den * Nat.pow 2 e.toNat) else (num * Nat.pow 2 (-e).toNat, den)

/-- An exponent that is not negative gives the same power among the rationals. -/
theorem cast_pow_toNat (he : 0 ≤ e) : ((Nat.pow 2 e.toNat : Nat) : ℚ) = 2 ^ e := by
  rw [Nat.pow_eq, Nat.cast_pow, Nat.cast_ofNat, ← zpow_natCast, Int.toNat_of_nonneg he]

/-- A scaled fraction has a denominator that is not zero. -/
theorem scaled_snd_pos (hden : 0 < den) : 0 < (scaled num den e).2 := by
  unfold scaled
  split
  case isTrue => exact Nat.mul_pos hden (Nat.pow_pos (by decide))
  case isFalse => exact hden

/-- A fraction is scaled by dividing it by the power of its exponent. -/
theorem scaled_eq : ((scaled num den e).1 : ℚ) / (scaled num den e).2 = num / den / 2 ^ e := by
  unfold scaled
  split
  case isTrue he =>
    dsimp only
    rw [Nat.cast_mul, cast_pow_toNat he, div_div]
  case isFalse he =>
    dsimp only
    rw [Nat.cast_mul, cast_pow_toNat (by omega), zpow_neg]
    field_simp

/-- A magnitude as a fraction has a denominator that is not zero. -/
theorem ratio_snd_pos : 0 < (ratio m e).2 := by
  unfold ratio
  split
  case isTrue => exact Nat.one_pos
  case isFalse => exact Nat.pow_pos (by decide)

/-- A magnitude as a fraction is the product of its mantissa and the power of its exponent. -/
theorem ratio_eq : ((ratio m e).1 : ℚ) / (ratio m e).2 = m * 2 ^ e := by
  unfold ratio
  split
  case isTrue he =>
    dsimp only
    rw [Nat.cast_mul, cast_pow_toNat he, Nat.cast_one, div_one]
  case isFalse he =>
    dsimp only
    rw [cast_pow_toNat (by omega), zpow_neg, div_inv_eq_mul]

/-- A magnitude with a mantissa is not zero. -/
theorem ratio_fst_ne_zero (hm : m ≠ 0) : (ratio m e).1 ≠ 0 := by
  unfold ratio
  split
  case isTrue => exact Nat.mul_ne_zero hm (Nat.pow_pos (by decide)).ne'
  case isFalse => exact hm

/-- The whole part of a number of the format. -/
theorem ratio_div : (ratio m e).1 / (ratio m e).2 = ⌊(m : ℚ) * 2 ^ e⌋₊ := by
  rw [← ratio_eq, Nat.floor_div_eq_div]

/-- A power of two is below a whole part when it is below the quotient. -/
theorem two_pow_le_div_iff {a b n : Nat} : Nat.pow 2 n ≤ a / b ↔ (2 : ℚ) ^ n ≤ a / b := by
  rw [← Nat.floor_div_eq_div (K := ℚ), Nat.le_floor_iff (by positivity), Nat.pow_eq, Nat.cast_pow,
    Nat.cast_ofNat]

/-! ## The exponent of a quotient -/

/-- A number is at least the power of its binary logarithm. -/
theorem two_zpow_log2_le (h : num ≠ 0) : (2 : ℚ) ^ (num.log2 : Int) ≤ num := by
  rw [zpow_natCast]
  exact_mod_cast Nat.log2_self_le h

/-- A number is less than the next power. -/
theorem lt_two_zpow_log2 : (num : ℚ) < 2 ^ ((num.log2 : Int) + 1) := by
  have h : num < 2 ^ (num.log2 + 1) := Nat.lt_log2_self
  exact_mod_cast h

/-- The lengths of both parts fix the first bit of a quotient up to one place. -/
theorem log2_bounds (hnum : num ≠ 0) (hden : den ≠ 0) :
    (2 : ℚ) ^ ((num.log2 : Int) - den.log2 - 1) ≤ num / den ∧
      (num : ℚ) / den < 2 ^ ((num.log2 : Int) - den.log2 + 1) := by
  have hden' : (0 : ℚ) < den := by exact_mod_cast Nat.pos_of_ne_zero hden
  rw [le_div_iff₀ hden', div_lt_iff₀ hden']
  constructor
  · calc (2 : ℚ) ^ ((num.log2 : Int) - den.log2 - 1) * den
        ≤ 2 ^ ((num.log2 : Int) - den.log2 - 1) * 2 ^ ((den.log2 : Int) + 1) :=
          mul_le_mul_of_nonneg_left lt_two_zpow_log2.le (by positivity)
      _ = 2 ^ (num.log2 : Int) := by
          rw [← zpow_add₀ two_ne_zero]
          congr 1
          omega
      _ ≤ num := two_zpow_log2_le hnum
  · calc (num : ℚ) < 2 ^ ((num.log2 : Int) + 1) := lt_two_zpow_log2
      _ = 2 ^ ((num.log2 : Int) - den.log2 + 1) * 2 ^ (den.log2 : Int) := by
          rw [← zpow_add₀ two_ne_zero]
          congr 1
          omega
      _ ≤ 2 ^ ((num.log2 : Int) - den.log2 + 1) * den :=
          mul_le_mul_of_nonneg_left (two_zpow_log2_le hden) (by positivity)

/-- But for its lower bound, the exponent leaves a mantissa of fifty-three bits. -/
theorem exists_fitted (hnum : num ≠ 0) (hden : 0 < den) :
    ∃ fitted, exponentFor num den = max fitted (-1074) ∧
      (2 : ℚ) ^ (52 + fitted) ≤ num / den ∧ (num : ℚ) / den < 2 ^ (53 + fitted) := by
  obtain ⟨hlow, hhigh⟩ := log2_bounds hnum hden.ne'
  generalize hguess : (num.log2 : Int) - den.log2 - 53 = guess
  have hfits : Nat.pow 2 53 ≤ (scaled num den guess).1 / (scaled num den guess).2 ↔
      (2 : ℚ) ^ (53 + guess) ≤ num / den := by
    rw [two_pow_le_div_iff, scaled_eq, le_div_iff₀ (by positivity), zpow_add₀ two_ne_zero]
    norm_num
  refine ⟨if Nat.pow 2 53 ≤ (scaled num den guess).1 / (scaled num den guess).2 then guess + 1
    else guess, ?_, ?_⟩
  · unfold exponentFor scaled
    dsimp only
    rw [hguess]
  · split
    case isTrue h =>
      refine ⟨?_, ?_⟩
      · rw [show 52 + (guess + 1) = 53 + guess by omega]
        exact hfits.1 h
      · rw [show 53 + (guess + 1) = (num.log2 : Int) - den.log2 + 1 by omega]
        exact hhigh
    case isFalse h =>
      refine ⟨?_, lt_of_not_ge fun hge => h (hfits.2 hge)⟩
      rw [show 52 + guess = (num.log2 : Int) - den.log2 - 1 by omega]
      exact hlow

/-- The exponent leaves a mantissa of fifty-three bits, unless it is the least one. -/
theorem exponentFor_spec (hnum : num ≠ 0) (hden : 0 < den) :
    -1074 ≤ exponentFor num den ∧ (num : ℚ) / den < 2 ^ (53 + exponentFor num den) ∧
      (exponentFor num den = -1074 ∨ (2 : ℚ) ^ (52 + exponentFor num den) ≤ num / den) := by
  obtain ⟨fitted, hfitted, hle, hlt⟩ := exists_fitted hnum hden
  refine ⟨by omega, hlt.trans_le (zpow_le_zpow_right₀ one_le_two (by omega)), ?_⟩
  rcases max_cases fitted (-1074 : Int) with ⟨hmax, -⟩ | ⟨hmax, -⟩
  · exact .inr (by rw [hfitted, hmax]; exact hle)
  · exact .inl (hfitted.trans hmax)

/-! ## Rounded quotients -/

/-- A number `m * 2 ^ e` of the format is a quotient, rounded: its exponent leaves a mantissa of
fifty-three bits or is the least one, and its mantissa is the nearest whole number. -/
structure Rounds (least : Int) (x : ℚ) (m : Nat) (e : Int) : Prop where
  least_le : least ≤ e
  below : x < 2 ^ (53 + e)
  normal : e = least ∨ (2 : ℚ) ^ (52 + e) ≤ x
  le_iff : ∀ t : Nat, t ≤ m ↔
    (t : ℚ) < x / 2 ^ e + 1 / 2 ∨ (t : ℚ) = x / 2 ^ e + 1 / 2 ∧ t % 2 = 0

namespace Rounds

variable {least : Int} {x : ℚ}

/-- The mantissa has fifty-three bits, or is the next power of two after rounding up. -/
theorem le_two_pow (h : Rounds least x m e) : m ≤ 2 ^ 53 := by
  by_contra hlarge
  have hx : x / 2 ^ e < 2 ^ 53 := by
    rw [div_lt_iff₀ (by positivity)]
    calc x < 2 ^ (53 + e) := h.below
      _ = 2 ^ 53 * 2 ^ e := by
        rw [zpow_add₀ two_ne_zero]
        norm_num
  have hlow : (2 : ℚ) ^ 53 + 1 ≤ x / 2 ^ e + 1 / 2 := by
    have hcast : (((2 ^ 53 + 1 : Nat)) : ℚ) = 2 ^ 53 + 1 := by norm_num
    rcases (h.le_iff (2 ^ 53 + 1)).1 (by omega) with hlt | ⟨heq, -⟩
    · exact hcast ▸ hlt.le
    · exact hcast ▸ heq.le
  linarith

/-- A power of two moves the exponents and nothing else. -/
theorem mul_two_pow (h : Rounds least x m e) :
    Rounds (least + k) (x * 2 ^ k) m (e + k) where
  least_le := by
    have := h.least_le
    omega
  below := by
    rw [← add_assoc, zpow_add₀ two_ne_zero, zpow_natCast]
    exact mul_lt_mul_of_pos_right h.below (by positivity)
  normal := h.normal.imp (fun he => by rw [he]) fun hle => by
    rw [← add_assoc, zpow_add₀ two_ne_zero, zpow_natCast]
    exact mul_le_mul_of_nonneg_right hle (by positivity)
  le_iff := by
    have hx : x * 2 ^ k / 2 ^ (e + k) = x / 2 ^ e := by
      rw [zpow_add₀ two_ne_zero, zpow_natCast]
      field_simp
    rw [hx]
    exact h.le_iff

/-- Nothing is rounded when the exponent leaves a whole number. -/
theorem eq_of_exact {c : Nat} (h : Rounds least (c * 2 ^ e) m e) : m = c := by
  have hquot : (c : ℚ) * 2 ^ e / 2 ^ e = c := mul_div_cancel_right₀ _ (by positivity)
  have hle := h.le_iff
  rw [hquot] at hle
  refine le_antisymm (not_lt.1 fun hlt => ?_) ((hle c).2 (.inl (by linarith)))
  have hsucc := (hle (c + 1)).1 hlt
  push_cast at hsucc
  rcases hsucc with hsucc | ⟨hsucc, -⟩ <;> linarith

/-- A number of the format is rounded to itself. -/
theorem value_eq {m' : Nat} {e' : Int} (h : Rounds least (m * 2 ^ e) m' e') (hm : m ≤ 2 ^ 53)
    (he : least ≤ e) : (m' : ℚ) * 2 ^ e' = m * 2 ^ e := by
  obtain ⟨c, hc⟩ : ∃ c : Nat, (m : ℚ) * 2 ^ e = c * 2 ^ e' := by
    rcases le_or_gt e' e with hle | hlt
    · refine ⟨m * 2 ^ (e - e').toNat, ?_⟩
      rw [Nat.cast_mul, ← Nat.pow_eq, cast_pow_toNat (by omega), mul_assoc, ← zpow_add₀ two_ne_zero]
      congr 2
      omega
    · -- only the least mantissa of the next exponent has fifty-four bits here
      have hnormal : (2 : ℚ) ^ (52 + e') ≤ m * 2 ^ e := h.normal.resolve_left (by omega)
      have hm' : (m : ℚ) ≤ 2 ^ 53 := by exact_mod_cast hm
      have hupper : (m : ℚ) * 2 ^ e ≤ 2 ^ (53 + e) := by
        rw [zpow_add₀ two_ne_zero]
        exact mul_le_mul_of_nonneg_right (by exact_mod_cast hm) (by positivity)
      obtain rfl : e' = e + 1 := by
        have := (zpow_le_zpow_iff_right₀ (one_lt_two (α := ℚ))).1 (hnormal.trans hupper)
        omega
      refine ⟨2 ^ 52, ?_⟩
      have hpow : ((2 ^ 52 : Nat) : ℚ) * 2 ^ (e + 1) = 2 ^ (53 + e) := by
        rw [Nat.cast_pow, Nat.cast_ofNat, ← zpow_natCast, ← zpow_add₀ two_ne_zero]
        congr 1
        omega
      have hlower : (2 : ℚ) ^ (53 + e) ≤ m * 2 ^ e := by
        rw [show 53 + e = 52 + (e + 1) by omega]
        exact hnormal
      rw [hpow]
      exact le_antisymm hupper hlower
  rw [hc] at h ⊢
  rw [h.eq_of_exact]

end Rounds

/-- The number with a mantissa and an exponent, infinite from a power of two on. -/
def capped (top : Nat) (negative : Bool) (m : Nat) (e : Int) : Binary64 :=
  if Nat.pow 2 top ≤ (ratio m e).1 / (ratio m e).2 then infinite negative else finite negative m e

/-- The cap is on the magnitude: it is infinite from the power on, and the number itself below. -/
theorem capped_eq {top : Nat} {negative : Bool} : capped top negative m e
    = if (2 : ℚ) ^ top ≤ m * 2 ^ e then infinite negative else finite negative m e :=
  if_congr (by rw [two_pow_le_div_iff, ratio_eq]) rfl rfl

/-- A quotient is rounded to a mantissa for its exponent, and capped at the end of the range. -/
theorem ofRatio_eq_capped {negative : Bool} (hnum : num ≠ 0) :
    ofRatio negative num den = capped 1024 negative
      (roundQuotient (scaled num den (exponentFor num den)).1
        (scaled num den (exponentFor num den)).2) (exponentFor num den) := by
  rw [ofRatio, if_neg hnum]
  -- the power is never to be computed
  generalize 1024 = top
  unfold scaled
  dsimp only
  split <;> rfl

/-- A quotient becomes a number of the format that it is rounded to, unless that one is too
large. -/
theorem exists_ofRatio (negative : Bool) (hnum : num ≠ 0) (hden : 0 < den) :
    ∃ m e, Rounds (-1074) (num / den) m e ∧
      ofRatio negative num den
        = if (2 : ℚ) ^ 1024 ≤ m * 2 ^ e then infinite negative else finite negative m e := by
  obtain ⟨hleast, hbelow, hnormal⟩ := exponentFor_spec hnum hden
  refine ⟨_, _, ⟨hleast, hbelow, hnormal, fun t => ?_⟩, (ofRatio_eq_capped hnum).trans capped_eq⟩
  rw [le_roundQuotient_iff_rat (scaled_snd_pos hden), scaled_eq]

/-- A product of a number of the format with a power of two is not rounded. -/
theorem truncate_scale_finite (hm : m ≤ 2 ^ 53) (he : -1074 ≤ e) (k : Nat) :
    ((finite false m e).scale k).truncate?
      = if (2 : ℚ) ^ 1024 ≤ m * 2 ^ (e + k) then none else some (⌊(m : ℚ) * 2 ^ (e + k)⌋₊ : Int) := by
  rw [scale]
  dsimp only
  by_cases hzero : m = 0
  · rw [if_pos hzero, hzero, Nat.cast_zero, zero_mul, if_neg (not_le.2 (by positivity)), Nat.floor_zero]
    rfl
  rw [if_neg hzero]
  have hnum : (ratio m e).1 * Nat.pow 2 k ≠ 0 :=
    Nat.mul_ne_zero (ratio_fst_ne_zero hzero) (Nat.pow_pos (by decide)).ne'
  obtain ⟨m', e', hrounds, hvalue⟩ := exists_ofRatio false hnum ratio_snd_pos
  have hproduct : (((ratio m e).1 * Nat.pow 2 k : Nat) : ℚ) / (ratio m e).2 = m * 2 ^ (e + k) := by
    rw [Nat.cast_mul, mul_div_right_comm, ratio_eq, Nat.pow_eq, Nat.cast_pow, Nat.cast_ofNat,
      zpow_add₀ two_ne_zero, zpow_natCast, mul_assoc]
  rw [hproduct] at hrounds
  have hsame := hrounds.value_eq hm (by omega)
  rw [hvalue, hsame]
  split
  case isTrue => rfl
  case isFalse =>
    rw [truncate?]
    dsimp only
    rw [if_neg Bool.false_ne_true, ratio_div, hsame]

/-- The whole part of a product with a power of two is the one of the exact product, rounded
once. -/
theorem exists_truncate_scale_ofRatio (hnum : num ≠ 0) (hden : 0 < den) (k : Nat) :
    ∃ m e, Rounds (-1074 + k) (num / den * 2 ^ k) m e ∧
      ((ofRatio false num den).scale k).truncate?
        = if (2 : ℚ) ^ 1024 ≤ m * 2 ^ e then none else some (⌊(m : ℚ) * 2 ^ e⌋₊ : Int) := by
  obtain ⟨m, e, hrounds, hvalue⟩ := exists_ofRatio false hnum hden
  refine ⟨m, e + k, hrounds.mul_two_pow, ?_⟩
  rw [hvalue]
  split
  case isTrue hlarge =>
    have hle : (m : ℚ) * 2 ^ e ≤ m * 2 ^ (e + k) :=
      mul_le_mul_of_nonneg_left (zpow_le_zpow_right₀ one_le_two (by omega)) (by positivity)
    rw [if_pos (hlarge.trans hle)]
    rfl
  case isFalse => exact truncate_scale_finite hrounds.le_two_pow hrounds.least_le k

/-! ## When the whole part is kept -/

/-- The whole part of `num / den` is the one of the rounded quotient: what is missing to the next
whole number is more than half a unit in the last of the fifty-three bits, or just half a unit that
is not rounded up; a whole part of more bits has only zeros after them, and is in the format's
range. -/
def KeepsWhole (num den : Nat) : Prop :=
  let whole := num / den
  let missing := den - num % den
  if whole.size ≤ 53 then
    den < 2 ^ (54 - whole.size) * missing ∨ whole.size = 53 ∧ whole % 2 = 0 ∧ den = 2 * missing
  else whole.size ≤ 1024 ∧ 2 ^ (whole.size - 53) ∣ whole

/-- What is missing to the next whole number, times the denominator. -/
theorem cast_missing (hden : 0 < den) :
    ((den - num % den : Nat) : ℚ) = ((num / den : Nat) + 1 - num / den) * den := by
  have hsum : (den : ℚ) * (num / den : Nat) + (num % den : Nat) = num := by
    exact_mod_cast Nat.div_add_mod num den
  have hden' : (den : ℚ) ≠ 0 := by exact_mod_cast hden.ne'
  rw [Nat.cast_sub (Nat.mod_lt num hden).le, sub_mul, div_mul_cancel₀ _ hden']
  linarith

/-- The denominator is less than a multiple of what is missing when the quotient stays below the
next whole number by more than that part of one. -/
theorem lt_missing_iff (hden : 0 < den) (c : Nat) :
    den < 2 ^ c * (den - num % den) ↔ (num : ℚ) / den + 1 / 2 ^ c < (num / den : Nat) + 1 := by
  have hden' : (0 : ℚ) < den := by exact_mod_cast hden
  have hpow : (0 : ℚ) < 2 ^ c := by positivity
  rw [← Nat.cast_lt (α := ℚ), Nat.cast_mul, cast_missing hden, Nat.cast_pow, Nat.cast_ofNat,
    ← mul_assoc, lt_mul_iff_one_lt_left hden', ← div_lt_iff₀' hpow, lt_sub_iff_add_lt']

/-- Twice what is missing is the denominator just at half a unit below the next whole number. -/
theorem eq_missing_iff (hden : 0 < den) :
    den = 2 * (den - num % den) ↔ (num : ℚ) / den + 1 / 2 = (num / den : Nat) + 1 := by
  have hden' : (den : ℚ) ≠ 0 := by exact_mod_cast hden.ne'
  rw [← Nat.cast_inj (R := ℚ), Nat.cast_mul, cast_missing hden, Nat.cast_ofNat, ← mul_assoc,
    eq_comm, mul_eq_right₀ hden']
  constructor <;> intro h <;> linarith

namespace Rounds

variable {least : Int} {x : ℚ} {n : Nat}

/-- The whole part of a number between two powers has as many bits as the number. -/
theorem size_eq (hlow : (2 : ℚ) ^ (52 + e) ≤ x) (h : x < 2 ^ (53 + e)) (hn : (n : ℚ) ≤ x)
    (hx : x < n + 1) (hpos : 0 < n) : (n.size : Int) = 53 + e := by
  have hone : (1 : ℚ) ≤ n := by exact_mod_cast hpos
  have he : 0 < 53 + e :=
    (zpow_lt_zpow_iff_right₀ (one_lt_two (α := ℚ))).1 (by rw [zpow_zero]; linarith)
  obtain ⟨b, hb⟩ : ∃ b : Nat, 52 + e = b := ⟨(52 + e).toNat, by omega⟩
  rw [hb, zpow_natCast] at hlow
  rw [show 53 + e = ((b + 1 : Nat) : Int) by push_cast; omega, zpow_natCast] at h
  have hupper : n < 2 ^ (b + 1) := by exact_mod_cast hn.trans_lt h
  have hlower : 2 ^ b < n + 1 := by exact_mod_cast hlow.trans_lt hx
  have hle := Nat.size_le.2 hupper
  have hlt := Nat.lt_size.2 (Nat.le_of_lt_succ hlower)
  omega

/-- Without a positive exponent the magnitude is within the range. -/
theorem not_large (h : Rounds least x m e) (he : e ≤ 0) : ¬ (2 : ℚ) ^ 1024 ≤ m * 2 ^ e := by
  have hm : (m : ℚ) ≤ 2 ^ 53 := by exact_mod_cast h.le_two_pow
  have hpow : (2 : ℚ) ^ e ≤ 1 := zpow_le_one_of_nonpos₀ one_le_two he
  have hle : (m : ℚ) * 2 ^ e ≤ 2 ^ 53 * 1 := mul_le_mul hm hpow (by positivity) (by positivity)
  have hlt : (2 : ℚ) ^ 53 < 2 ^ 1024 := pow_lt_pow_right₀ one_lt_two (by decide)
  exact not_le.2 ((hle.trans_eq (mul_one _)).trans_lt hlt)

/-- Without bits to drop before the point, a whole number is reached from half a unit below it. -/
theorem le_value_iff (h : Rounds least x m e) (he : e ≤ 0) (t : Nat) :
    (t : ℚ) ≤ m * 2 ^ e ↔
      (t : ℚ) < x + 2 ^ e / 2 ∨ (t : ℚ) = x + 2 ^ e / 2 ∧ t * 2 ^ (-e).toNat % 2 = 0 := by
  have hle_iff := h.le_iff
  have hscale : ((2 ^ (-e).toNat : Nat) : ℚ) * 2 ^ e = 1 := by
    rw [← Nat.pow_eq, cast_pow_toNat (by omega), ← zpow_add₀ two_ne_zero, neg_add_cancel, zpow_zero]
  have hpos : (0 : ℚ) < 2 ^ e := by positivity
  generalize (-e).toNat = j at *
  generalize (2 : ℚ) ^ e = unit at *
  have ht : (t : ℚ) = ((t * 2 ^ j : Nat) : ℚ) * unit := by
    rw [Nat.cast_mul, mul_assoc, hscale, mul_one]
  have hsum : x + unit / 2 = (x / unit + 1 / 2) * unit := by field_simp
  rw [ht, hsum, mul_le_mul_iff_left₀ hpos, mul_lt_mul_iff_left₀ hpos, mul_left_inj' hpos.ne',
    Nat.cast_le]
  exact hle_iff (t * 2 ^ j)

/-- With bits behind the point the whole part is kept by a number that stays more than half a unit
of the last bit below the next whole number, or just half a unit below one whose mantissa is odd. -/
theorem floor_eq_iff_of_nonpos (h : Rounds least x m e) (hn : (n : ℚ) ≤ x) (he : e ≤ 0) :
    ⌊(m : ℚ) * 2 ^ e⌋₊ = n ↔
      x + 2 ^ e / 2 < n + 1 ∨ x + 2 ^ e / 2 = n + 1 ∧ (n + 1) * 2 ^ (-e).toNat % 2 = 1 := by
  have hwhole : (n : ℚ) ≤ m * 2 ^ e := by
    have hpos : (0 : ℚ) < 2 ^ e := by positivity
    exact (h.le_value_iff he n).2 (.inl (by linarith))
  have hnext := h.le_value_iff he (n + 1)
  rw [Nat.cast_add, Nat.cast_one] at hnext
  rw [Nat.floor_eq_iff (by positivity), and_iff_right hwhole, ← not_le, hnext]
  constructor
  · intro hnot
    rcases lt_trichotomy (x + 2 ^ e / 2) ((n : ℚ) + 1) with hlt | heq | hgt
    · exact .inl hlt
    · exact .inr ⟨heq, by by_contra hodd; exact hnot (.inr ⟨heq.symm, by omega⟩)⟩
    · exact absurd (.inl hgt) hnot
  · rintro (hlt | ⟨heq, hodd⟩) (hgt | ⟨heq', heven⟩)
    · exact lt_asymm hlt hgt
    · exact hlt.ne' heq'
    · exact hgt.ne' heq
    · omega

/-- With bits to drop before the point, they must be zeros, and then the mantissa is what stands
before them. -/
theorem floor_eq_iff_of_pos (h : Rounds least x m e) (hn : (n : ℚ) ≤ x) (hx : x < n + 1)
    (he : 0 < e) : ⌊(m : ℚ) * 2 ^ e⌋₊ = n ↔ 2 ^ e.toNat ∣ n := by
  have hle_iff := h.le_iff
  have hunit : (2 : ℚ) ^ e = ((2 ^ e.toNat : Nat) : ℚ) := by rw [← Nat.pow_eq, cast_pow_toNat he.le]
  have htwo : 2 ≤ 2 ^ e.toNat := Nat.le_self_pow (by omega) 2
  rw [hunit] at hle_iff ⊢
  generalize 2 ^ e.toNat = unit at *
  rw [← Nat.cast_mul, Nat.floor_natCast]
  constructor
  · rintro rfl
    exact Nat.dvd_mul_left unit m
  · rintro ⟨c, rfl⟩
    have hpos : (0 : ℚ) < unit := by exact_mod_cast (by omega : 0 < unit)
    have htwo' : (2 : ℚ) ≤ unit := by exact_mod_cast htwo
    push_cast at hn hx
    have hlow : (c : ℚ) ≤ x / unit := by
      rw [le_div_iff₀ hpos]
      linarith
    have hhigh : x / unit < c + 1 / 2 := by
      rw [div_lt_iff₀ hpos]
      linarith
    have hle : c ≤ m := (hle_iff c).2 (.inl (by linarith))
    have hnot : ¬ c + 1 ≤ m := by
      rw [hle_iff]
      push_cast
      rintro (h1 | ⟨h1, -⟩) <;> linarith
    rw [show m = c by omega, Nat.mul_comm]

/-- A number below one keeps its whole part when it is not rounded up to one. -/
theorem keepsWhole_iff_of_zero (hden : 0 < den) (h : Rounds least (num / den) m e)
    (hleast : least ≤ -1000) (hzero : num / den = 0) (hx : (num : ℚ) / den < 1) :
    (¬ (2 : ℚ) ^ 1024 ≤ m * 2 ^ e ∧ ⌊(m : ℚ) * 2 ^ e⌋₊ = num / den) ↔ KeepsWhole num den := by
  have he : e ≤ -53 := by
    rcases h.normal with rfl | hlow
    · omega
    · have hlt : (2 : ℚ) ^ (52 + e) < 2 ^ (0 : Int) := hlow.trans_lt (by rwa [zpow_zero])
      have := (zpow_lt_zpow_iff_right₀ (one_lt_two (α := ℚ))).1 hlt
      omega
  have hodd : ¬ (0 + 1) * 2 ^ (-e).toNat % 2 = 1 := by
    rw [show (-e).toNat = (-e).toNat - 1 + 1 by omega, Nat.pow_succ]
    omega
  have hkeeps : KeepsWhole num den ↔ (num : ℚ) / den + 1 / 2 ^ 54 < 1 := by
    unfold KeepsWhole
    dsimp only
    rw [hzero, Nat.size_zero, if_pos (by decide), lt_missing_iff hden, hzero, Nat.cast_zero, zero_add]
    exact or_iff_left (by rintro ⟨h, -⟩; cases h)
  rw [hkeeps, hzero, h.floor_eq_iff_of_nonpos (by rw [Nat.cast_zero]; positivity) (by omega),
    Nat.cast_zero, zero_add, and_iff_right (h.not_large (by omega)), or_iff_left fun h => hodd h.2]
  rcases eq_or_lt_of_le he with rfl | hlt
  · norm_num
  · -- less than a half is far from one either way
    have hhalf : (2 : ℚ) ^ (53 + e) ≤ 2 ^ (-1 : Int) := zpow_le_zpow_right₀ one_le_two (by omega)
    have hunit : (2 : ℚ) ^ e ≤ 2 ^ (-1 : Int) := zpow_le_zpow_right₀ one_le_two (by omega)
    have hbelow := h.below
    norm_num at hhalf hunit
    refine iff_of_true ?_ ?_
    · linarith
    · norm_num
      linarith

/-- What is missing to the next whole number, with the exponent of the last bit. -/
theorem keepsWhole_iff_of_nonpos (hden : 0 < den) (hsize : ((num / den).size : Int) = 53 + e)
    (he : e ≤ 0) : KeepsWhole num den ↔
      (num : ℚ) / den + 2 ^ e / 2 < (num / den : Nat) + 1 ∨
        (num : ℚ) / den + 2 ^ e / 2 = (num / den : Nat) + 1 ∧
          (num / den + 1) * 2 ^ (-e).toNat % 2 = 1 := by
  have hunit : (1 : ℚ) / 2 ^ (54 - (num / den).size) = 2 ^ e / 2 := by
    rw [← zpow_natCast, show ((54 - (num / den).size : Nat) : Int) = -e + 1 by omega,
      zpow_add₀ two_ne_zero, zpow_neg]
    field_simp
  unfold KeepsWhole
  dsimp only
  rw [if_pos (by omega), lt_missing_iff hden, hunit, eq_missing_iff hden]
  refine or_congr_right ?_
  -- the next whole number has an odd mantissa only when the last bit stands just before the point
  rcases eq_or_lt_of_le he with rfl | hlt
  · rw [zpow_zero, show (-(0 : Int)).toNat = 0 from rfl, pow_zero, mul_one]
    constructor
    · rintro ⟨-, heven, hmissing⟩
      exact ⟨hmissing, by omega⟩
    · rintro ⟨hmissing, hodd⟩
      exact ⟨by omega, by omega, hmissing⟩
  · rw [show (-e).toNat = (-e).toNat - 1 + 1 by omega, pow_succ, ← mul_assoc]
    refine iff_of_false (fun h => ?_) fun h => ?_
    · omega
    · omega

/-- Without fractional bits the whole part is kept when the bits that are cut off are zero. -/
theorem keepsWhole_iff_of_pos (hsize : ((num / den).size : Int) = 53 + e) (he : 0 < e) :
    KeepsWhole num den ↔ (num / den).size ≤ 1024 ∧ 2 ^ e.toNat ∣ num / den := by
  unfold KeepsWhole
  dsimp only
  rw [if_neg (by omega), show (num / den).size - 53 = e.toNat by omega]

/-- A number of at least one keeps its whole part in range just as `KeepsWhole` says, whichever bits
its mantissa ends in. -/
theorem keepsWhole_iff_of_ne_zero (hden : 0 < den) (h : Rounds least (num / den) m e)
    (hleast : least ≤ -1000) (hpos : 0 < num / den) (hn : ((num / den : Nat) : ℚ) ≤ num / den)
    (hx : (num : ℚ) / den < (num / den : Nat) + 1) :
    (¬ (2 : ℚ) ^ 1024 ≤ m * 2 ^ e ∧ ⌊(m : ℚ) * 2 ^ e⌋₊ = num / den) ↔ KeepsWhole num den := by
  have hnormal : (2 : ℚ) ^ (52 + e) ≤ num / den := h.normal.resolve_left fun hlow => by
    have hsmall : (2 : ℚ) ^ (53 + e) ≤ 1 := zpow_le_one_of_nonpos₀ one_le_two (by omega)
    have hone : (1 : ℚ) ≤ (num / den : Nat) := by exact_mod_cast hpos
    have hbelow := h.below
    linarith
  have hsize := size_eq hnormal h.below hn hx hpos
  rcases le_or_gt e 0 with he | he
  · rw [keepsWhole_iff_of_nonpos hden hsize he, h.floor_eq_iff_of_nonpos hn he,
      and_iff_right (h.not_large he)]
  · have hfloor := h.floor_eq_iff_of_pos hn hx he
    rw [keepsWhole_iff_of_pos hsize he, hfloor]
    refine and_congr_left fun hdvd => ?_
    have hvalue : (m : ℚ) * 2 ^ e = (num / den : Nat) := by
      have hcast : (m : ℚ) * 2 ^ e = ((m * 2 ^ e.toNat : Nat) : ℚ) := by
        rw [Nat.cast_mul, ← Nat.pow_eq, cast_pow_toNat he.le]
      have hdiv := hfloor.2 hdvd
      rw [hcast, Nat.floor_natCast] at hdiv
      rw [hcast, hdiv]
    rw [hvalue, not_le]
    generalize 1024 = top
    rw [Nat.size_le, ← Nat.cast_ofNat (R := ℚ), ← Nat.cast_pow, Nat.cast_lt]

/-- The whole part of a rounded quotient is the one of the quotient, and in the format's range,
exactly when rounding keeps it. -/
theorem keepsWhole_iff (hden : 0 < den) (h : Rounds least (num / den) m e) (hleast : least ≤ -1000) :
    (¬ (2 : ℚ) ^ 1024 ≤ m * 2 ^ e ∧ ⌊(m : ℚ) * 2 ^ e⌋₊ = num / den) ↔ KeepsWhole num den := by
  have hfloor : ⌊(num : ℚ) / den⌋₊ = num / den := Nat.floor_div_eq_div num den
  obtain ⟨hn, hx⟩ := (Nat.floor_eq_iff (by positivity)).1 hfloor
  rcases Nat.eq_zero_or_pos (num / den) with hzero | hpos
  · exact h.keepsWhole_iff_of_zero hden hleast hzero (by simpa [hzero] using hx)
  · exact h.keepsWhole_iff_of_ne_zero hden hleast hpos hn hx

end Rounds

/-! ## Decimal numerals -/

/-- The whole part of less than a half is kept. -/
theorem keepsWhole_of_small (hden : 0 < den) (h : 2 * num ≤ den) :
    num / den = 0 ∧ KeepsWhole num den := by
  have hzero : num / den = 0 := Nat.div_eq_of_lt (by omega)
  have hmod : num % den = num := Nat.mod_eq_of_lt (by omega)
  refine ⟨hzero, ?_⟩
  unfold KeepsWhole
  dsimp only
  rw [hzero, hmod, Nat.size_zero, if_pos (by decide)]
  exact .inl (by omega)

/-- The whole part of a quotient with a numerator of fifty-three bits is kept, whatever its
fraction. -/
theorem keepsWhole_of_lt (hden : 0 < den) (h : num < 2 ^ 53) : KeepsWhole num den := by
  have hsize : (num / den).size ≤ 53 := Nat.size_le.2 ((Nat.div_le_self num den).trans_lt h)
  have hmod := Nat.mod_lt num hden
  unfold KeepsWhole
  dsimp only
  rw [if_pos hsize]
  refine .inl ?_
  rcases Nat.eq_zero_or_pos (num / den) with hzero | hpos
  · have hrest : num % den = num := Nat.mod_eq_of_lt ((Nat.div_eq_zero_iff_lt hden).1 hzero)
    rw [hzero, hrest, Nat.size_zero]
    omega
  · have hsize' : 0 < (num / den).size := Nat.lt_size.2 hpos
    obtain ⟨b, hb⟩ : ∃ b, (num / den).size = b + 1 := ⟨_, (Nat.sub_add_cancel hsize').symm⟩
    have hlow : 2 ^ b ≤ num / den := Nat.lt_size.1 (by omega)
    have hbound : den * 2 ^ b < 2 ^ (54 - (num / den).size) * 2 ^ b :=
      calc den * 2 ^ b ≤ den * (num / den) := Nat.mul_le_mul_left den hlow
        _ ≤ num := Nat.mul_div_le num den
        _ < 2 ^ 53 := h
        _ = 2 ^ (54 - (num / den).size) * 2 ^ b := by rw [← pow_add]; congr 1; omega
    exact (Nat.lt_of_mul_lt_mul_right hbound).trans_le (Nat.le_mul_of_pos_right _ (by omega))

/-- Digits so far behind the point that they are less than half the least number are zero. -/
theorem ofDecimal_eq_zero {digits places : Nat} (h : digits = 0 ∨ 400 + digits.log2 < places) :
    ofDecimal false digits (-(places : Int)) = finite false 0 0 := by
  unfold ofDecimal
  rcases h with h | h
  · rw [if_pos h]
  · split_ifs <;> first | rfl | omega

/-- Otherwise a decimal numeral is its fraction, rounded once. -/
theorem ofDecimal_eq_ofRatio {digits places : Nat} (hdigits : digits ≠ 0)
    (h : places ≤ 400 + digits.log2) :
    ofDecimal false digits (-(places : Int)) = ofRatio false digits (10 ^ places) := by
  rw [ofDecimal, if_neg hdigits, if_neg (by omega), if_neg (by omega)]
  split
  case isTrue hle =>
    obtain rfl : places = 0 := by omega
    simp
  case isFalse => simp

/-- The power that a numeral with so many places is divided by leaves less than a half of it. -/
theorem two_mul_le_ten_pow {digits places : Nat} (hk : k ≤ 40)
    (h : digits = 0 ∨ 400 + digits.log2 < places) : 2 * (digits * 2 ^ k) ≤ 10 ^ places := by
  rcases h with rfl | h
  · rw [Nat.zero_mul]
    exact Nat.zero_le _
  · calc 2 * (digits * 2 ^ k) ≤ 2 * (2 ^ (digits.log2 + 1) * 2 ^ 40) :=
          Nat.mul_le_mul_left 2 (Nat.mul_le_mul Nat.lt_log2_self.le (Nat.pow_le_pow_right two_pos hk))
      _ = 2 ^ (digits.log2 + 42) := by ring
      _ ≤ 2 ^ places := Nat.pow_le_pow_right two_pos (by omega)
      _ ≤ 10 ^ places := Nat.pow_le_pow_left (by decide) places

/-- A decimal numeral times a power of two has the whole part of the exact product when rounding
keeps that, and not otherwise. -/
theorem truncate_scale_ofDecimal_iff {digits places : Nat} (hk : k ≤ 40) :
    ((ofDecimal false digits (-(places : Int))).scale k).truncate?
        = some ((digits * 2 ^ k / 10 ^ places : Nat) : Int) ↔
      KeepsWhole (digits * 2 ^ k) (10 ^ places) := by
  have hden : 0 < 10 ^ places := Nat.pow_pos (by decide)
  by_cases hsmall : digits = 0 ∨ 400 + digits.log2 < places
  · obtain ⟨hzero, hkeeps⟩ := keepsWhole_of_small hden (two_mul_le_ten_pow hk hsmall)
    rw [ofDecimal_eq_zero hsmall, hzero]
    exact iff_of_true rfl hkeeps
  · obtain ⟨hdigits, hplaces⟩ := not_or.1 hsmall
    obtain ⟨m, e, hrounds, hvalue⟩ := exists_truncate_scale_ofRatio hdigits hden k
    have hproduct : (digits : ℚ) / (10 ^ places : Nat) * 2 ^ k
        = (digits * 2 ^ k : Nat) / (10 ^ places : Nat) := by
      push_cast
      ring
    rw [hproduct] at hrounds
    rw [← hrounds.keepsWhole_iff hden (by omega), ofDecimal_eq_ofRatio hdigits (by omega), hvalue]
    split
    case isTrue hlarge => exact iff_of_false nofun fun h => h.1 hlarge
    case isFalse hlarge => rw [and_iff_right hlarge, Option.some_inj, Nat.cast_inj]

end Binary64

end HttpCourier

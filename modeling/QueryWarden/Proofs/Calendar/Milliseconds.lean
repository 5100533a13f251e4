import Mathlib.Tactic.NormNum
import QueryWarden.Calendar.DateTime
import QueryWarden.Proofs.Double.Value

/-!
# Milliseconds as doubles of seconds

A number of milliseconds is turned into a double of seconds, whose fraction is rounded to
microseconds.  Let `a` be the size of the number and `x` the nearest double to `a / 1000`.

1. The integer part of `x` is that of `a / 1000` (`floor_double`).
2. The scaled fraction of `x` is rounded to a double before it is rounded to an integer, which makes
   no difference to whether the milliseconds come out (`near_iff_near_product`).
3. So they come out exactly when `x` lies within half a microsecond of `a / 1000`
   (`microsecondsOfSeconds?_ofInt`), as it does below `2 ^ 33` seconds (`hasCloseDouble_of_lt`).
   Above, the doubles are too far apart to show every millisecond, yet none is off by more than 15
   microseconds.
-/

namespace QueryWarden.DateTime

open Double

/-- Whether a double of seconds lies within half a microsecond of the milliseconds. -/
def HasCloseDouble (m : Int) : Prop :=
  ∃ n : Int, |n * spacing (m.natAbs / 1000) - m.natAbs / 1000| ≤ (1 / 2000000 : ℚ)

section Seconds

variable {a : Nat} {x : ℚ}

theorem seconds_eq (a : Nat) : (a : ℚ) / 1000 = (a / 1000 : Nat) + (a % 1000 : Nat) / 1000 := by
  exact_mod_cast cast_div_eq a (show 0 < 1000 by decide)

theorem seconds_lt (ha : a < 2 ^ 38 * 1000) : (a : ℚ) / 1000 < 2 ^ 38 := by
  rw [div_lt_iff₀ (by norm_num)]
  exact_mod_cast ha

theorem double_eq_of_mod_eq_zero (ha : a < 2 ^ 38 * 1000) (hx : IsNearest (a / 1000) x)
    (h : a % 1000 = 0) : x = (a / 1000 : Nat) := by
  have hsec : (a : ℚ) / 1000 = (a / 1000 : Nat) := by
    rw [seconds_eq, h, Nat.cast_zero, zero_div, add_zero]
  rw [hsec] at hx
  obtain ⟨w, hw⟩ := spacing_natCast (show a / 1000 < 2 ^ 53 by omega)
  exact hx.eq_of_multiple hw

theorem double_near (ha : a < 2 ^ 38 * 1000) (hx : IsNearest (a / 1000) x) :
    |x - a / 1000| ≤ 1 / 2 ^ 16 := by
  obtain ⟨b, hb, hspacing⟩ :=
    exists_spacing_eq (by positivity) (by decide) (by decide) (seconds_lt ha)
  have hpow : (2 : ℚ) ^ 15 ≤ 2 ^ b := pow_le_pow_right₀ one_le_two (by omega)
  calc |x - a / 1000|
    _ ≤ 1 / 2 ^ b / 2 := hspacing ▸ hx.2
    _ ≤ 1 / 2 ^ 15 / 2 := by gcongr
    _ = 1 / 2 ^ 16 := by norm_num

/-- The double has the whole seconds, and a fraction that is zero or not tiny. -/
theorem double_bounds (ha : a < 2 ^ 38 * 1000) (hx : IsNearest (a / 1000) x) :
    (x - (a / 1000 : Nat) = 0 ∨ 1 / 2 ^ 11 ≤ x - (a / 1000 : Nat)) ∧
      x - (a / 1000 : Nat) < 1 := by
  by_cases h : a % 1000 = 0
  · rw [double_eq_of_mod_eq_zero ha hx h, sub_self]
    exact ⟨.inl rfl, one_pos⟩
  · have hnear := abs_le.mp (double_near ha hx)
    have h₁ : (1 : ℚ) ≤ (a % 1000 : Nat) := by exact_mod_cast Nat.one_le_iff_ne_zero.mpr h
    have h₂ : ((a % 1000 : Nat) : ℚ) ≤ 999 := by
      exact_mod_cast Nat.le_of_lt_succ (Nat.mod_lt a (by decide))
    rw [seconds_eq] at hnear
    norm_num at hnear ⊢
    constructor
    · right
      linarith
    · linarith

theorem floor_double (ha : a < 2 ^ 38 * 1000) (hx : IsNearest (a / 1000) x) :
    ⌊x⌋₊ = a / 1000 := by
  obtain ⟨hlow, hhigh⟩ := double_bounds ha hx
  have hnonneg : 0 ≤ x - (a / 1000 : Nat) := by
    rcases hlow with h | h
    · exact h.ge
    · exact le_trans (by positivity) h
  have hx' : 0 ≤ x := le_trans (Nat.cast_nonneg _) (sub_nonneg.mp hnonneg)
  rw [Nat.floor_eq_iff hx']
  constructor <;> linarith

theorem close_iff (hx : IsNearest (a / 1000) x) :
    (∃ n : Int, |n * spacing (a / 1000) - a / 1000| ≤ (1 / 2000000 : ℚ)) ↔
      |x - a / 1000| ≤ 1 / 2000000 := by
  constructor
  · rintro ⟨n, hn⟩
    exact (hx.abs_le_of_multiple n).trans hn
  · intro h
    obtain ⟨⟨w, rfl⟩, -⟩ := hx
    exact ⟨w, by exact_mod_cast h⟩

/-! ## The fraction in microseconds -/

section Fraction

variable {y : ℚ} (ha : a < 2 ^ 38 * 1000) (hx : IsNearest (a / 1000) x)
  (hy : IsNearest ((x - (a / 1000 : Nat)) * 1000000) y)

include ha hx in
theorem product_nonneg : 0 ≤ (x - (a / 1000 : Nat)) * 1000000 := by
  rcases (double_bounds ha hx).1 with h | h
  · rw [h, zero_mul]
  · exact mul_nonneg (le_trans (by positivity) h) (by norm_num)

include ha hx in
theorem product_lt : (x - (a / 1000 : Nat)) * 1000000 < 2 ^ 20 := by
  have hlt := (double_bounds ha hx).2
  norm_num
  linarith

include ha hx in
theorem log_product : -1022 ≤ Int.log 2 ((x - (a / 1000 : Nat)) * 1000000) ∧
    Int.log 2 ((x - (a / 1000 : Nat)) * 1000000) ≤ 1022 := by
  have hlow : (x - (a / 1000 : Nat)) * 1000000 = 0 ∨
      1 / 2 ^ 11 ≤ (x - (a / 1000 : Nat)) * 1000000 := by
    rcases (double_bounds ha hx).1 with h | h
    · exact .inl (by rw [h, zero_mul])
    · exact .inr (by linarith)
  have h₁ := neg_le_log hlow
  have h₂ := log_lt (product_nonneg ha hx) (by decide) (product_lt ha hx)
  constructor <;> omega

include ha hx hy in
theorem near_product : |y - (x - (a / 1000 : Nat)) * 1000000| ≤ 1 / 2 ^ 34 := by
  obtain ⟨c, hc, hspacing⟩ := exists_spacing_eq (product_nonneg ha hx) (by decide) (by decide)
    (product_lt ha hx)
  have hpow : (2 : ℚ) ^ 33 ≤ 2 ^ c := pow_le_pow_right₀ one_le_two (by omega)
  calc |y - (x - (a / 1000 : Nat)) * 1000000|
    _ ≤ 1 / 2 ^ c / 2 := hspacing ▸ hy.2
    _ ≤ 1 / 2 ^ 33 / 2 := by gcongr
    _ = 1 / 2 ^ 34 := by norm_num

theorem product_error (a : Nat) (x : ℚ) :
    (1000 * (a % 1000) : Nat) - (x - (a / 1000 : Nat)) * 1000000 = (a / 1000 - x) * 1000000 := by
  rw [seconds_eq]
  push_cast
  ring

include ha hx in
/-- Where the doubles of seconds are at least `1 / 2 ^ 33` apart, the product is a double. -/
theorem exists_product_eq {b : Nat} (hb : b ≤ 33) (hspacing : spacing (a / 1000) = 1 / 2 ^ b) :
    ∃ n : Nat, (x - (a / 1000 : Nat)) * 1000000 =
      n * spacing ((x - (a / 1000 : Nat)) * 1000000) := by
  have hnonneg := product_nonneg ha hx
  obtain ⟨c, hc, hspacing'⟩ := exists_spacing_eq hnonneg (by decide) (by decide) (product_lt ha hx)
  obtain ⟨⟨w, hw⟩, -⟩ := hx
  have hscaled : x * 2 ^ b = w := by
    rw [hw, hspacing, mul_assoc, one_div_mul_cancel (by positivity), mul_one]
  have hle : a / 1000 * 2 ^ b ≤ w := by
    have h : ((a / 1000 : Nat) : ℚ) ≤ x := by linarith
    have h' := mul_le_mul_of_nonneg_right h (show (0 : ℚ) ≤ 2 ^ b by positivity)
    rw [hscaled] at h'
    exact_mod_cast h'
  have hsplit : (2 : ℚ) ^ c = 2 ^ b * 2 ^ (c - b) := by
    rw [← pow_add, Nat.add_sub_cancel' (by omega)]
  refine ⟨(w - a / 1000 * 2 ^ b) * 1000000 * 2 ^ (c - b), ?_⟩
  rw [hspacing', hsplit]
  push_cast [hle]
  rw [← hscaled]
  field_simp

include ha hx hy in
/-- The product is a double, unless the doubles of seconds are so close to each other that one is
within half a microsecond of the milliseconds in any case. -/
theorem near_iff_near_product :
    |((1000 * (a % 1000) : Nat) : ℚ) - y| ≤ 1 / 2 ↔ |x - a / 1000| ≤ 1 / 2000000 := by
  have hproduct := product_error a x
  have hiff : |((1000 * (a % 1000) : Nat) : ℚ) - (x - (a / 1000 : Nat)) * 1000000| ≤ 1 / 2 ↔
      |x - a / 1000| ≤ 1 / 2000000 := by
    rw [hproduct, abs_mul, abs_sub_comm, abs_of_pos (by norm_num : (0 : ℚ) < 1000000)]
    constructor <;> intro h <;> linarith
  obtain ⟨b, hb, hspacing⟩ :=
    exists_spacing_eq (by positivity) (by decide) (by decide) (seconds_lt ha)
  by_cases hcoarse : b ≤ 33
  · obtain ⟨n, hn⟩ := exists_product_eq ha hx hcoarse hspacing
    rw [hy.eq_of_multiple hn, hiff]
  · have hpow : (2 : ℚ) ^ 34 ≤ 2 ^ b := pow_le_pow_right₀ one_le_two (by omega)
    have hclose : |x - a / 1000| ≤ 1 / 2 ^ 34 / 2 :=
      calc |x - a / 1000|
        _ ≤ 1 / 2 ^ b / 2 := hspacing ▸ hx.2
        _ ≤ 1 / 2 ^ 34 / 2 := by gcongr
    have hnear := abs_le.mp (near_product ha hx hy)
    have hbounds := abs_le.mp hclose
    norm_num at hbounds hnear
    refine iff_of_true (abs_le.mpr ⟨?_, ?_⟩) (hclose.trans (by norm_num))
    · linarith
    · linarith

include ha hx hy in
/-- Half a step of the greatest doubles, and what the two roundings add, are less than 16
microseconds. -/
theorem product_error_lt {u : Nat} (hu : |(u : ℚ) - y| ≤ 1 / 2) :
    |(u : Int) - (1000 * (a % 1000) : Nat)| ≤ 15 := by
  have hclose := abs_le.mp (double_near ha hx)
  have hnear := abs_le.mp (near_product ha hx hy)
  have hround := abs_le.mp hu
  have hproduct := product_error a x
  norm_num at hclose hnear
  have hlow : ((1000 * (a % 1000) : Nat) : ℚ) < u + 16 := by linarith
  have hhigh : (u : ℚ) < (1000 * (a % 1000) : Nat) + 16 := by linarith
  have hlow' : 1000 * (a % 1000) < u + 16 := by exact_mod_cast hlow
  have hhigh' : u < 1000 * (a % 1000) + 16 := by exact_mod_cast hhigh
  rw [abs_le]
  constructor <;> omega

end Fraction

/-- Below `2 ^ 33` seconds the doubles are less than a microsecond apart. -/
theorem close_of_lt (ha : a < 2 ^ 33 * 1000) (hx : IsNearest (a / 1000) x) :
    |x - a / 1000| ≤ 1 / 2000000 := by
  have hlt : (a : ℚ) / 1000 < 2 ^ 33 := by
    rw [div_lt_iff₀ (by norm_num)]
    exact_mod_cast ha
  obtain ⟨b, hb, hspacing⟩ := exists_spacing_eq (by positivity) (by decide) (by decide) hlt
  have hpow : (2 : ℚ) ^ 20 ≤ 2 ^ b := pow_le_pow_right₀ one_le_two (by omega)
  calc |x - a / 1000|
    _ ≤ 1 / 2 ^ b / 2 := hspacing ▸ hx.2
    _ ≤ 1 / 2 ^ 20 / 2 := by gcongr
    _ ≤ 1 / 2000000 := by norm_num

theorem close_of_mod_eq_zero (ha : a < 2 ^ 38 * 1000) (hx : IsNearest (a / 1000) x)
    (h : a % 1000 = 0) : |x - a / 1000| ≤ 1 / 2000000 := by
  rw [double_eq_of_mod_eq_zero ha hx h, seconds_eq, h, Nat.cast_zero, zero_div, add_zero, sub_self,
    abs_zero]
  norm_num

end Seconds

/-! ## The microseconds of a number of milliseconds -/

section Milliseconds

variable {m : Int}

theorem log_seconds (hm : m.natAbs < 2 ^ 38 * 1000) :
    -1022 ≤ Int.log 2 ((m.natAbs : ℚ) / 1000) ∧ Int.log 2 ((m.natAbs : ℚ) / 1000) ≤ 1022 := by
  have hlow : (m.natAbs : ℚ) / 1000 = 0 ∨ 1 / 2 ^ 10 ≤ (m.natAbs : ℚ) / 1000 := by
    rcases Nat.eq_zero_or_pos m.natAbs with h | h
    · left
      rw [h, Nat.cast_zero, zero_div]
    · right
      have h' : (1 : ℚ) ≤ m.natAbs := by exact_mod_cast h
      rw [div_le_div_iff₀ (by positivity) (by norm_num)]
      linarith
  have h₁ := neg_le_log hlow
  have h₂ := log_lt (by positivity) (by decide) (seconds_lt hm)
  constructor <;> omega

theorem exists_double (hm : m.natAbs < 2 ^ 38 * 1000) :
    ∃ x, IsNearest (m.natAbs / 1000) x ∧
      HasSize (decide (m < 0)) x ((ofInt m).mulRatio 1 1000) := by
  have hsec : (m.natAbs : ℚ) * (1 : Nat) / (1000 : Nat) = m.natAbs / 1000 := by
    rw [Nat.cast_one, mul_one, Nat.cast_ofNat]
  obtain ⟨hlow, hhigh⟩ := log_seconds hm
  rw [← hsec] at hlow hhigh ⊢
  exact (hasSize_ofInt (by omega)).exists_mulRatio 1 (by decide) hlow hhigh

theorem signed_add (s : Bool) (q u : Nat) :
    Number.signed s q * 1000000 + Number.signed s u = Number.signed s (q * 1000000 + u) := by
  unfold Number.signed
  cases s
  · rfl
  · rw [if_pos rfl, if_pos rfl, if_pos rfl]
    omega

theorem abs_signed_sub (m : Int) (n : Nat) :
    |Number.signed (decide (m < 0)) n - 1000 * m| = |(n : Int) - (1000 * m.natAbs : Nat)| := by
  unfold Number.signed
  by_cases h : m < 0
  · rw [if_pos (decide_eq_true h), abs_sub_comm (n : Int)]
    exact congrArg abs (by omega)
  · rw [if_neg (by simpa using h)]
    exact congrArg abs (by omega)

/-- The milliseconds come out exactly when a double is close to them, and within 15 microseconds in
any case. -/
theorem microsecondsOfSeconds?_ofInt (hm : m.natAbs < 2 ^ 38 * 1000) :
    ∃ u : Int, microsecondsOfSeconds? ((ofInt m).mulRatio 1 1000) = some u ∧
      |u - 1000 * m| ≤ 15 ∧ (m % 1000 = 0 → u = 1000 * m) ∧ (u = 1000 * m ↔ HasCloseDouble m) := by
  obtain ⟨x, hx, hsize⟩ := exists_double hm
  have hfloor := floor_double hm hx
  have hscale : (x - ⌊x⌋₊) * (1000000 : Nat) = (x - (m.natAbs / 1000 : Nat)) * 1000000 := by
    rw [hfloor, Nat.cast_ofNat]
  obtain ⟨hlow, hhigh⟩ := log_product hm hx
  rw [← hscale] at hlow hhigh
  obtain ⟨y, u, hy, hfraction, hnear, heven⟩ := hsize.exists_scaledFraction? 1000000 hlow hhigh
  rw [hscale] at hy
  have hexact : u = 1000 * (m.natAbs % 1000) ↔ HasCloseDouble m :=
    (heven _ (by omega)).trans ((near_iff_near_product hm hx hy).trans (close_iff hx).symm)
  have hwhole : m % 1000 = 0 → HasCloseDouble m := fun h =>
    (close_iff hx).mpr (close_of_mod_eq_zero hm hx (by omega))
  -- The integer part is exact, so the whole is off as the fraction is.
  have htotal : |Number.signed (decide (m < 0)) (m.natAbs / 1000 * 1000000 + u) - 1000 * m| =
      |(u : Int) - (1000 * (m.natAbs % 1000) : Nat)| := by
    rw [abs_signed_sub]
    exact congrArg abs (by omega)
  have hiff : Number.signed (decide (m < 0)) (m.natAbs / 1000 * 1000000 + u) = 1000 * m ↔
      HasCloseDouble m := by
    rw [← hexact, ← sub_eq_zero, ← abs_eq_zero, htotal, abs_eq_zero, sub_eq_zero, Nat.cast_inj]
  refine ⟨Number.signed (decide (m < 0)) (m.natAbs / 1000 * 1000000 + u), ?_, ?_,
    fun h => hiff.mpr (hwhole h), hiff⟩
  · unfold microsecondsOfSeconds?
    rw [hsize.truncate?_eq, hfloor, hfraction]
    exact congrArg some (signed_add _ _ _)
  · rw [htotal]
    exact product_error_lt hm hx hy hnear

theorem hasCloseDouble_of_lt (hm : m.natAbs < 2 ^ 33 * 1000) : HasCloseDouble m := by
  obtain ⟨x, hx, -⟩ := exists_double (show m.natAbs < 2 ^ 38 * 1000 by omega)
  exact (close_iff hx).mpr (close_of_lt hm hx)

end Milliseconds

end QueryWarden.DateTime

import Mathlib.Algebra.Order.Field.Power
import Mathlib.Algebra.Order.Floor.Semifield
import Mathlib.Data.Int.Log
import Mathlib.Data.Rat.Floor
import Mathlib.Tactic.FieldSimp
import Mathlib.Tactic.Linarith
import Mathlib.Tactic.Positivity
import Mathlib.Tactic.Ring
import QueryWarden.Double.Basic

/-!
# Doubles as rational numbers

A finite double is a sign and a size, a natural multiple of a power of two (`HasSize`).  Around a
size `v` the doubles are the multiples of `spacing v`.

1. Rounding a quotient to an integer is off by a half at most, and it gives an even number exactly
   when that is no further away (`roundDiv_near`, `roundDiv_eq_iff_of_even`).
2. Rounding a quotient to a double gives a multiple of the spacing at the quotient that lies nearest
   to it (`isNearest_ofRatio`); a quotient that is such a multiple is kept
   (`IsNearest.eq_of_multiple`).
3. The integer part and the scaled fraction of a double are those of its size
   (`HasSize.truncate?_eq`, `HasSize.exists_scaledFraction?`).
-/

namespace QueryWarden.Double

/-! ## Rounding to integers -/

theorem cast_div_eq (n : Nat) {d : Nat} (hd : 0 < d) :
    (n : ℚ) / d = (n / d : Nat) + (n % d : Nat) / (d : ℚ) := by
  have hd' : (d : ℚ) ≠ 0 := by exact_mod_cast hd.ne'
  have hn : (d : ℚ) * (n / d : Nat) + (n % d : Nat) = n := by exact_mod_cast Nat.div_add_mod n d
  rw [eq_comm, eq_div_iff hd', add_mul, div_mul_cancel₀ _ hd', mul_comm]
  exact hn

theorem roundDiv_cases (n : Nat) {d : Nat} (hd : 0 < d) :
    ∃ q : Nat, ∃ r : ℚ, (n : ℚ) / d = q + r ∧ 0 ≤ r ∧ r < 1 ∧
      (r < 1 / 2 ∧ roundDiv n d = q ∨ 1 / 2 < r ∧ roundDiv n d = q + 1 ∨
        r = 1 / 2 ∧ roundDiv n d = if q % 2 = 0 then q else q + 1) := by
  have hd' : (0 : ℚ) < d := by exact_mod_cast hd
  have hlt : ((n % d : Nat) : ℚ) < d := by exact_mod_cast Nat.mod_lt n hd
  refine ⟨n / d, (n % d : Nat) / (d : ℚ), cast_div_eq n hd, by positivity,
    (div_lt_one hd').mpr hlt, ?_⟩
  have hcast : (2 * (n % d) : Nat) = 2 * ((n % d : Nat) : ℚ) := by push_cast; rfl
  unfold roundDiv
  dsimp only
  by_cases h₁ : 2 * (n % d) < d
  · refine .inl ⟨?_, if_pos h₁⟩
    have h : 2 * ((n % d : Nat) : ℚ) < d := by exact_mod_cast h₁
    rw [div_lt_div_iff₀ hd' two_pos]
    linarith
  · rw [if_neg h₁]
    by_cases h₂ : d < 2 * (n % d)
    · refine .inr (.inl ⟨?_, if_pos h₂⟩)
      have h : (d : ℚ) < 2 * ((n % d : Nat) : ℚ) := by exact_mod_cast h₂
      rw [div_lt_div_iff₀ two_pos hd']
      linarith
    · refine .inr (.inr ⟨?_, if_neg h₂⟩)
      have h : 2 * ((n % d : Nat) : ℚ) = d := by exact_mod_cast (by omega : 2 * (n % d) = d)
      rw [div_eq_div_iff hd'.ne' two_ne_zero]
      linarith

theorem roundDiv_near (n : Nat) {d : Nat} (hd : 0 < d) : |(roundDiv n d : ℚ) - n / d| ≤ 1 / 2 := by
  obtain ⟨q, r, hv, h₀, h₁, ⟨h, hq⟩ | ⟨h, hq⟩ | ⟨h, hq⟩⟩ := roundDiv_cases n hd
  · rw [hq, hv, abs_le]
    constructor <;> linarith
  · rw [hq, hv, abs_le]
    push_cast
    constructor <;> linarith
  · rw [hq, hv, abs_le]
    split_ifs
    · constructor <;> linarith
    · push_cast
      constructor <;> linarith

/-- A quotient is rounded to an even number exactly when that lies within a half of it. -/
theorem roundDiv_eq_iff_of_even (n : Nat) {d k : Nat} (hd : 0 < d) (hk : k % 2 = 0) :
    roundDiv n d = k ↔ |(k : ℚ) - n / d| ≤ 1 / 2 := by
  constructor
  · rintro rfl
    exact roundDiv_near n hd
  · intro hnear
    obtain ⟨q, r, hv, h₀, h₁, h⟩ := roundDiv_cases n hd
    rw [hv, abs_le] at hnear
    have hlow : (q : ℚ) < k + 1 := by linarith
    have hhigh : (k : ℚ) < q + 2 := by linarith
    have hlow' : q ≤ k := Nat.lt_succ_iff.mp (by exact_mod_cast hlow)
    have hhigh' : k < q + 2 := by exact_mod_cast hhigh
    have hcases : k = q ∨ k = q + 1 := by omega
    rcases h with ⟨h, hq⟩ | ⟨h, hq⟩ | ⟨h, hq⟩
    · rw [hq]
      rcases hcases with rfl | rfl
      · rfl
      · push_cast at hnear
        linarith
    · rw [hq]
      rcases hcases with rfl | rfl
      · linarith
      · rfl
    · rw [hq]
      split_ifs <;> omega

/-! ## Sizes -/

theorem two_zpow_eq (e : Int) : (2 : ℚ) ^ e = 2 ^ e.toNat / 2 ^ (-e).toNat := by
  rw [← zpow_natCast, ← zpow_natCast, ← zpow_sub₀ two_ne_zero]
  congr 1
  omega

theorem cast_pow2 (n : Nat) : (Number.pow2 n : ℚ) = 2 ^ n :=
  Nat.cast_pow 2 n

def HasSize (s : Bool) (v : ℚ) (x : Double) : Prop :=
  ∃ m e h, x = .finite s m e h ∧ (m : ℚ) * 2 ^ e = v

theorem denominator_pos (e : Int) : 0 < denominator e :=
  Nat.pow_pos two_pos

theorem numerator_div_denominator (m : Nat) (e : Int) :
    (numerator m e : ℚ) / denominator e = m * 2 ^ e := by
  unfold numerator denominator
  rw [two_zpow_eq, Nat.cast_mul, cast_pow2, cast_pow2, mul_div_assoc]

theorem hasSize_pack {s : Bool} {m : Nat} {e : Int} (h : IsCanonical m e) :
    HasSize s (m * 2 ^ e) (pack s m e) :=
  ⟨m, e, h, dif_pos h, rfl⟩

theorem hasSize_zero (s : Bool) : HasSize s 0 (zero s) :=
  ⟨0, -1074, by decide, rfl, by rw [Nat.cast_zero, zero_mul]⟩

/-! ## Rounding to doubles -/

/-- The distance between the doubles at a size, above the least exponent. -/
def spacing (v : ℚ) : ℚ :=
  2 ^ (Int.log 2 v - 52)

theorem spacing_pos (v : ℚ) : 0 < spacing v := by
  unfold spacing
  positivity

/-- A multiple of the spacing at a size that lies nearest to it. -/
def IsNearest (v y : ℚ) : Prop :=
  (∃ w : Nat, y = w * spacing v) ∧ |y - v| ≤ spacing v / 2

theorem two_zpow_le_iff {v : ℚ} (hv : 0 < v) (k : Int) : (2 : ℚ) ^ k ≤ v ↔ k ≤ Int.log 2 v := by
  exact_mod_cast Int.zpow_le_iff_le_log (b := 2) Nat.one_lt_two hv

/-- The lengths of numerator and denominator give the logarithm of a quotient up to one. -/
theorem log_div_bounds {n d : Nat} (hn : 0 < n) (hd : 0 < d) :
    (Nat.log2 n : Int) - Nat.log2 d - 1 ≤ Int.log 2 ((n : ℚ) / d) ∧
      Int.log 2 ((n : ℚ) / d) < (Nat.log2 n : Int) - Nat.log2 d + 1 := by
  have hd' : (0 : ℚ) < d := by exact_mod_cast hd
  have hv : 0 < (n : ℚ) / d := div_pos (by exact_mod_cast hn) hd'
  have n₁ : (2 : ℚ) ^ Nat.log2 n ≤ n := by exact_mod_cast Nat.log2_self_le hn.ne'
  have n₂ : (n : ℚ) < 2 ^ (Nat.log2 n + 1) := by exact_mod_cast Nat.lt_log2_self (n := n)
  have d₁ : (2 : ℚ) ^ Nat.log2 d ≤ d := by exact_mod_cast Nat.log2_self_le hd.ne'
  have d₂ : (d : ℚ) < 2 ^ (Nat.log2 d + 1) := by exact_mod_cast Nat.lt_log2_self (n := d)
  constructor
  · rw [← two_zpow_le_iff hv, le_div_iff₀ hd']
    calc (2 : ℚ) ^ ((Nat.log2 n : Int) - Nat.log2 d - 1) * d
      _ ≤ 2 ^ ((Nat.log2 n : Int) - Nat.log2 d - 1) * 2 ^ (Nat.log2 d + 1) := by gcongr
      _ = 2 ^ Nat.log2 n := by
        rw [← zpow_natCast, ← zpow_natCast, ← zpow_add₀ two_ne_zero]
        congr 1
        push_cast
        omega
      _ ≤ n := n₁
  · rw [← not_le, ← two_zpow_le_iff hv, not_le, div_lt_iff₀ hd']
    calc (n : ℚ)
      _ < 2 ^ (Nat.log2 n + 1) := n₂
      _ = 2 ^ ((Nat.log2 n : Int) - Nat.log2 d + 1) * 2 ^ Nat.log2 d := by
        rw [← zpow_natCast, ← zpow_natCast, ← zpow_add₀ two_ne_zero]
        congr 1
        push_cast
        omega
      _ ≤ 2 ^ ((Nat.log2 n : Int) - Nat.log2 d + 1) * d := by gcongr

theorem floorLog2_eq_log {n d : Nat} (hn : 0 < n) (hd : 0 < d) :
    floorLog2 n d = Int.log 2 ((n : ℚ) / d) := by
  have hd' : (0 : ℚ) < d := by exact_mod_cast hd
  have hv : 0 < (n : ℚ) / d := div_pos (by exact_mod_cast hn) hd'
  have htest (k : Int) : d * Number.pow2 k.toNat ≤ n * Number.pow2 (-k).toNat ↔
      k ≤ Int.log 2 ((n : ℚ) / d) := by
    rw [← two_zpow_le_iff hv, two_zpow_eq, div_le_div_iff₀ (by positivity) hd',
      mul_comm ((2 : ℚ) ^ _) (d : ℚ), ← cast_pow2, ← cast_pow2]
    exact_mod_cast Iff.rfl
  obtain ⟨hlow, hhigh⟩ := log_div_bounds hn hd
  unfold floorLog2
  dsimp only
  by_cases h : (Nat.log2 n : Int) - Nat.log2 d ≤ Int.log 2 ((n : ℚ) / d)
  · rw [if_pos ((htest _).mpr h)]
    omega
  · rw [if_neg (mt (htest _).mp h)]
    omega

theorem roundAt_near (n : Nat) {d : Nat} (hd : 0 < d) (e : Int) :
    |(roundAt n d e : ℚ) - n / d / 2 ^ e| ≤ 1 / 2 := by
  have hpos : 0 < d * Number.pow2 e.toNat := Nat.mul_pos hd (Nat.pow_pos two_pos)
  have h := roundDiv_near (n * Number.pow2 (-e).toNat) hpos
  have hquot : ((n * Number.pow2 (-e).toNat : Nat) : ℚ) / (d * Number.pow2 e.toNat : Nat) =
      n / d / 2 ^ e := by
    have hd' : (d : ℚ) ≠ 0 := by exact_mod_cast hd.ne'
    rw [two_zpow_eq, Nat.cast_mul, Nat.cast_mul, cast_pow2, cast_pow2]
    field_simp
  rwa [hquot] at h

/-- A size is between `2 ^ 52` and `2 ^ 53` times its spacing. -/
theorem div_spacing_bounds {v : ℚ} (hv : 0 < v) :
    2 ^ 52 ≤ v / spacing v ∧ v / spacing v < 2 ^ 53 := by
  have hle : (2 : ℚ) ^ Int.log 2 v ≤ v := (two_zpow_le_iff hv _).mpr (le_refl _)
  have hlt : v < 2 ^ (Int.log 2 v + 1) := by
    exact_mod_cast Int.lt_zpow_succ_log_self (b := 2) Nat.one_lt_two v
  have hpos := spacing_pos v
  rw [le_div_iff₀ hpos, div_lt_iff₀ hpos]
  unfold spacing
  rw [← zpow_natCast, ← zpow_natCast, ← zpow_add₀ two_ne_zero, ← zpow_add₀ two_ne_zero,
    show ((52 : Nat) : Int) + (Int.log 2 v - 52) = Int.log 2 v by omega,
    show ((53 : Nat) : Int) + (Int.log 2 v - 52) = Int.log 2 v + 1 by omega]
  exact ⟨hle, hlt⟩

theorem isNearest_of_near {v : ℚ} {w : Nat} (h : |(w : ℚ) - v / spacing v| ≤ 1 / 2) :
    IsNearest v (w * spacing v) := by
  have hpos := spacing_pos v
  refine ⟨⟨w, rfl⟩, ?_⟩
  calc |(w : ℚ) * spacing v - v|
    _ = |((w : ℚ) - v / spacing v) * spacing v| := by rw [sub_mul, div_mul_cancel₀ _ hpos.ne']
    _ = |(w : ℚ) - v / spacing v| * spacing v := by rw [abs_mul, abs_of_pos hpos]
    _ ≤ 1 / 2 * spacing v := mul_le_mul_of_nonneg_right h hpos.le
    _ = spacing v / 2 := by ring

theorem isNearest_zero : IsNearest 0 0 := by
  refine ⟨⟨0, by rw [Nat.cast_zero, zero_mul]⟩, ?_⟩
  rw [sub_zero, abs_zero]
  exact div_nonneg (spacing_pos 0).le two_pos.le

/-- A mantissa that was rounded up to `2 ^ 53` is halved. -/
theorem hasSize_carry (s : Bool) {m : Nat} {e : Int} (hm : 2 ^ 52 ≤ m) (hm' : m ≤ 2 ^ 53)
    (he : -1074 ≤ e) (he' : e ≤ 970) :
    HasSize s (m * 2 ^ e)
      (if m = 0x20000000000000 then pack s 0x10000000000000 (e + 1) else pack s m e) := by
  by_cases h : m = 0x20000000000000
  · have hsize := hasSize_pack (s := s) (m := 0x10000000000000) (e := e + 1)
      ⟨by decide, by omega, by omega, .inl (Nat.le_refl _)⟩
    have heq : ((0x10000000000000 : Nat) : ℚ) * 2 ^ (e + 1) = m * 2 ^ e := by
      rw [h, zpow_add_one₀ two_ne_zero]
      push_cast
      ring
    rw [if_pos h]
    rwa [heq] at hsize
  · rw [if_neg h]
    exact hasSize_pack ⟨by omega, by omega, by omega, .inl (by omega)⟩

/-- A quotient is rounded to a nearest double, as long as its exponent is in the normal range. -/
theorem isNearest_ofRatio (s : Bool) (n : Nat) {d : Nat} (hd : 0 < d)
    (hlow : -1022 ≤ Int.log 2 ((n : ℚ) / d)) (hhigh : Int.log 2 ((n : ℚ) / d) ≤ 1022) :
    ∃ y, IsNearest (n / d) y ∧ HasSize s y (ofRatio s n d) := by
  by_cases hn : n = 0
  · subst hn
    refine ⟨0, ?_, hasSize_zero s⟩
    rw [Nat.cast_zero, zero_div]
    exact isNearest_zero
  · have hn' : 0 < n := Nat.pos_of_ne_zero hn
    have hv : 0 < (n : ℚ) / d := div_pos (by exact_mod_cast hn') (by exact_mod_cast hd)
    have hnear := roundAt_near n hd (Int.log 2 ((n : ℚ) / d) - 52)
    obtain ⟨hmin, hmax⟩ := div_spacing_bounds hv
    obtain ⟨hbelow, habove⟩ := abs_le.mp hnear
    refine ⟨_, isNearest_of_near hnear, ?_⟩
    unfold spacing at hmin hmax
    unfold ofRatio
    rw [if_neg hn, floorLog2_eq_log hn' hd, max_eq_left (by omega)]
    dsimp only
    generalize roundAt n d (Int.log 2 ((n : ℚ) / d) - 52) = m at hbelow habove ⊢
    have hm : (2 : ℚ) ^ 52 < m + 1 := by linarith
    have hm' : (m : ℚ) < 2 ^ 53 + 1 := by linarith
    exact hasSize_carry s (Nat.lt_succ_iff.mp (by exact_mod_cast hm))
      (Nat.lt_succ_iff.mp (by exact_mod_cast hm')) (by omega) (by omega)

/-- A size on the grid of its own spacing is its only nearest double. -/
theorem IsNearest.eq_of_multiple {v y : ℚ} (h : IsNearest v y) {n : Nat} (hv : v = n * spacing v) :
    y = v := by
  obtain ⟨⟨w, rfl⟩, hnear⟩ := h
  have hpos := spacing_pos v
  have herror : (w : ℚ) * spacing v - v = (w - n) * spacing v := by
    rw [sub_mul, ← hv]
  rw [herror, abs_mul, abs_of_pos hpos, div_eq_inv_mul] at hnear
  have hhalf : |(w : ℚ) - n| ≤ 2⁻¹ := le_of_mul_le_mul_right hnear hpos
  rw [abs_le] at hhalf
  have hlow : (w : ℚ) < n + 1 := by linarith
  have hhigh : (n : ℚ) < w + 1 := by linarith
  have hlow' : w < n + 1 := by exact_mod_cast hlow
  have hhigh' : n < w + 1 := by exact_mod_cast hhigh
  rw [show w = n by omega, ← hv]

/-- No multiple of the spacing is nearer than a nearest one. -/
theorem IsNearest.abs_le_of_multiple {v y : ℚ} (h : IsNearest v y) (n : Int) :
    |y - v| ≤ |n * spacing v - v| := by
  obtain ⟨⟨w, rfl⟩, hnear⟩ := h
  have hpos := spacing_pos v
  by_cases hn : n = w
  · rw [hn, Int.cast_natCast]
  · -- Two different multiples are a whole spacing apart.
    have hone : (1 : ℚ) ≤ |((n - w : Int) : ℚ)| := by
      rw [← Int.cast_abs]
      exact_mod_cast Int.one_le_abs (sub_ne_zero.mpr hn)
    have hapart : spacing v ≤ |n * spacing v - w * spacing v| := by
      rw [← sub_mul, abs_mul, abs_of_pos hpos]
      push_cast at hone
      nlinarith
    have htriangle := abs_sub_le (n * spacing v) v (w * spacing v)
    rw [abs_sub_comm v] at htriangle
    linarith

/-! ## The spacing below a power of two -/

theorem log_lt {v : ℚ} (hv : 0 ≤ v) {k : Nat} (hk : 0 < k) (h : v < 2 ^ k) : Int.log 2 v < k := by
  rcases hv.eq_or_lt with rfl | hpos
  · rw [Int.log_zero_right]
    exact_mod_cast hk
  · rw [← Int.lt_zpow_iff_log_lt Nat.one_lt_two hpos]
    exact_mod_cast h

theorem neg_le_log {v : ℚ} {k : Nat} (h : v = 0 ∨ 1 / 2 ^ k ≤ v) : -(k : Int) ≤ Int.log 2 v := by
  rcases h with rfl | h
  · rw [Int.log_zero_right]
    omega
  · have hpos : 0 < v := lt_of_lt_of_le (by positivity) h
    rw [← Int.zpow_le_iff_le_log Nat.one_lt_two hpos, zpow_neg, zpow_natCast, ← one_div]
    exact_mod_cast h

/-- Below `2 ^ 52` the doubles are the multiples of a negative power of two. -/
theorem exists_spacing_eq {v : ℚ} (hv : 0 ≤ v) {k : Nat} (hk : 0 < k) (hk' : k ≤ 53)
    (h : v < 2 ^ k) : ∃ b : Nat, 53 ≤ b + k ∧ spacing v = 1 / 2 ^ b := by
  have hlog := log_lt hv hk h
  refine ⟨(52 - Int.log 2 v).toNat, by omega, ?_⟩
  unfold spacing
  rw [two_zpow_eq, show (Int.log 2 v - 52).toNat = 0 by omega, pow_zero,
    show -(Int.log 2 v - 52) = 52 - Int.log 2 v by omega]

/-! ## Integers and quotients of doubles -/

theorem spacing_natCast {n : Nat} (hn : n < 2 ^ 53) :
    ∃ w : Nat, (n : ℚ) = w * spacing n := by
  have hlog : Int.log 2 (n : ℚ) = Nat.log 2 n := Int.log_natCast 2 n
  have hle : Nat.log 2 n ≤ 52 := by
    by_cases h0 : n = 0
    · rw [h0, Nat.log_zero_right]
      omega
    · exact Nat.lt_succ_iff.mp (Nat.log_lt_of_lt_pow h0 hn)
  refine ⟨n * 2 ^ (52 - Nat.log 2 n), ?_⟩
  unfold spacing
  rw [hlog]
  push_cast
  rw [mul_assoc, ← zpow_natCast, ← zpow_add₀ two_ne_zero,
    show ((52 - Nat.log 2 n : Nat) : Int) + (Nat.log 2 n - 52) = 0 by omega, zpow_zero, mul_one]

theorem hasSize_ofInt {i : Int} (hi : i.natAbs < 2 ^ 53) :
    HasSize (decide (i < 0)) i.natAbs (ofInt i) := by
  have hlog : Int.log 2 ((i.natAbs : ℚ) / (1 : Nat)) = Nat.log 2 i.natAbs := by
    rw [Nat.cast_one, div_one]
    exact Int.log_natCast 2 _
  have hle : Nat.log 2 i.natAbs ≤ 53 := (Nat.log_mono_right hi.le).trans (by
    rw [Nat.log_pow Nat.one_lt_two])
  obtain ⟨y, hy, hsize⟩ := isNearest_ofRatio (decide (i < 0)) i.natAbs Nat.one_pos
    (by omega) (by omega)
  rw [Nat.cast_one, div_one] at hy
  obtain ⟨w, hw⟩ := spacing_natCast hi
  rw [hy.eq_of_multiple hw] at hsize
  exact hsize

namespace HasSize

variable {s : Bool} {v : ℚ} {x : Double}

/-- A double times a fraction is a nearest double to the product. -/
theorem exists_mulRatio (h : HasSize s v x) (p : Nat) {q : Nat} (hq : 0 < q)
    (hlow : -1022 ≤ Int.log 2 (v * p / q)) (hhigh : Int.log 2 (v * p / q) ≤ 1022) :
    ∃ y, IsNearest (v * p / q) y ∧ HasSize s y (x.mulRatio p q) := by
  obtain ⟨m, e, hc, rfl, rfl⟩ := h
  have hquot : ((numerator m e * p : Nat) : ℚ) / (denominator e * q : Nat) = m * 2 ^ e * p / q := by
    rw [← numerator_div_denominator]
    push_cast
    rw [mul_div_mul_comm, mul_div_assoc]
  have hpos : 0 < denominator e * q := Nat.mul_pos (denominator_pos e) hq
  rw [← hquot] at hlow hhigh ⊢
  exact isNearest_ofRatio s (numerator m e * p) hpos hlow hhigh

theorem truncate?_eq (h : HasSize s v x) : x.truncate? = some (Number.signed s ⌊v⌋₊) := by
  obtain ⟨m, e, hc, rfl, rfl⟩ := h
  rw [← numerator_div_denominator, Nat.floor_div_eq_div]
  rfl

/-- The scaled fraction is rounded twice, to a double and to an integer. -/
theorem exists_scaledFraction? (h : HasSize s v x) (p : Nat)
    (hlow : -1022 ≤ Int.log 2 ((v - ⌊v⌋₊) * p)) (hhigh : Int.log 2 ((v - ⌊v⌋₊) * p) ≤ 1022) :
    ∃ y : ℚ, ∃ u : Nat, IsNearest ((v - ⌊v⌋₊) * p) y ∧
      x.scaledFraction? p = some (Number.signed s u) ∧ |(u : ℚ) - y| ≤ 1 / 2 ∧
      ∀ k, k % 2 = 0 → (u = k ↔ |(k : ℚ) - y| ≤ 1 / 2) := by
  obtain ⟨m, e, hc, rfl, rfl⟩ := h
  have hden := denominator_pos e
  have hquot : ((numerator m e % denominator e * p : Nat) : ℚ) / denominator e =
      (m * 2 ^ e - ⌊(m : ℚ) * 2 ^ e⌋₊) * p := by
    rw [← numerator_div_denominator, Nat.floor_div_eq_div, cast_div_eq (numerator m e) hden]
    push_cast
    rw [add_sub_cancel_left, div_mul_eq_mul_div]
  rw [← hquot] at hlow hhigh ⊢
  obtain ⟨y, hy, m', e', hc', hratio, rfl⟩ := isNearest_ofRatio s _ hden hlow hhigh
  refine ⟨_, roundDiv (numerator m' e') (denominator e'), hy, ?_, ?_, fun k hk => ?_⟩
  · simp only [scaledFraction?, hratio]
  · rw [← numerator_div_denominator]
    exact roundDiv_near _ (denominator_pos e')
  · rw [← numerator_div_denominator]
    exact roundDiv_eq_iff_of_even _ (denominator_pos e') hk

end HasSize

end QueryWarden.Double

import LibRga.Float32
import Mathlib.Algebra.Order.Field.Power
import Mathlib.Data.Nat.Log
import Mathlib.Tactic.FieldSimp
import Mathlib.Tactic.Linarith

/-!
Comparing the rounded quotient of two single-precision numbers with one.

Such a quotient is exact enough: it rounds to one only when the numbers are
equal, so the comparison is that of the numbers themselves.
-/

namespace LibRga.Float32

theorem roundEven_bounds (q : ℚ) : |(roundEven q : ℚ) - q| ≤ 1 / 2 := by
  have low := Int.floor_le q
  have high := Int.lt_floor_add_one q
  have same : q.floor = ⌊q⌋ := rfl
  unfold roundEven
  dsimp only
  rw [same, abs_le]
  split_ifs <;> push_cast <;> constructor <;> linarith

theorem le_roundEven {n : Int} {q : ℚ} (below : (n : ℚ) ≤ q) : n ≤ roundEven q := by
  have near := (abs_le.mp (roundEven_bounds q)).1
  have close : (n : ℚ) < roundEven q + 1 := by linarith
  exact Int.lt_add_one_iff.mp (by exact_mod_cast close)

theorem roundEven_le {n : Int} {q : ℚ} (above : q ≤ (n : ℚ)) : roundEven q ≤ n := by
  have near := (abs_le.mp (roundEven_bounds q)).2
  have close : (roundEven q : ℚ) < n + 1 := by linarith
  exact Int.lt_add_one_iff.mp (by exact_mod_cast close)

theorem log2_bounds {n : Nat} (nonzero : n ≠ 0) :
    (2 : ℚ) ^ (Nat.log2 n : Int) ≤ n ∧ (n : ℚ) < (2 : ℚ) ^ ((Nat.log2 n : Int) + 1) := by
  have low := Nat.log2_self_le nonzero
  have high := Nat.lt_log2_self (n := n)
  constructor
  · rw [zpow_natCast]
    exact_mod_cast low
  · have sum : (Nat.log2 n : Int) + 1 = ((Nat.log2 n + 1 : Nat) : Int) := by push_cast; rfl
    rw [sum, zpow_natCast]
    exact_mod_cast high

theorem quotient_bounds {q : ℚ} (positive : 0 < q) :
    (2 : ℚ) ^ ((Nat.log2 q.num.natAbs : Int) - Nat.log2 q.den - 1) ≤ q ∧
      q < (2 : ℚ) ^ ((Nat.log2 q.num.natAbs : Int) - Nat.log2 q.den + 1) := by
  have numerator : 0 < q.num := Rat.num_pos.mpr positive
  obtain ⟨numLow, numHigh⟩ := log2_bounds (n := q.num.natAbs) (by omega)
  obtain ⟨denLow, denHigh⟩ := log2_bounds q.den_nz
  have value : q = (q.num.natAbs : ℚ) / q.den := by
    have whole : ((q.num.natAbs : Int) : ℚ) = q.num := by rw [Int.natAbs_of_nonneg numerator.le]
    rw [← Int.cast_natCast, whole]
    exact (Rat.num_div_den q).symm
  have denominator : (0 : ℚ) < q.den := by exact_mod_cast q.den_pos
  have two : (2 : ℚ) ≠ 0 := by norm_num
  generalize Nat.log2 q.num.natAbs = high at *
  generalize Nat.log2 q.den = low at *
  constructor
  · rw [value, le_div_iff₀ denominator]
    calc (2 : ℚ) ^ ((high : Int) - low - 1) * q.den
        ≤ (2 : ℚ) ^ ((high : Int) - low - 1) * (2 : ℚ) ^ ((low : Int) + 1) := by
          exact mul_le_mul_of_nonneg_left denHigh.le (zpow_nonneg (by norm_num) _)
      _ = (2 : ℚ) ^ (high : Int) := by
          rw [← zpow_add₀ two]
          ring_nf
      _ ≤ q.num.natAbs := numLow
  · rw [value, div_lt_iff₀ denominator]
    calc (q.num.natAbs : ℚ)
        < (2 : ℚ) ^ ((high : Int) + 1) := numHigh
      _ = (2 : ℚ) ^ ((high : Int) - low + 1) * (2 : ℚ) ^ (low : Int) := by
          rw [← zpow_add₀ two]
          ring_nf
      _ ≤ (2 : ℚ) ^ ((high : Int) - low + 1) * q.den := by
          exact mul_le_mul_of_nonneg_left denLow (zpow_nonneg (by norm_num) _)

theorem exponent_bounds {q : ℚ} (positive : 0 < q) :
    (2 : ℚ) ^ exponent q ≤ q ∧ q < (2 : ℚ) ^ (exponent q + 1) := by
  obtain ⟨low, high⟩ := quotient_bounds positive
  unfold exponent
  dsimp only
  rw [abs_of_pos positive]
  split
  · rename_i below
    exact ⟨low, by rwa [sub_add_cancel]⟩
  · rename_i above
    exact ⟨not_lt.mp above, high⟩

/-- A positive number of 24 binary digits. -/
def IsFloat (x : ℚ) : Prop :=
  ∃ (m e : Int), 2 ^ 23 ≤ m ∧ m < 2 ^ 24 ∧ x = m * (2 : ℚ) ^ e

theorem zpow_split (e : Int) (k : Nat) : (2 : ℚ) ^ e = 2 ^ k * (2 : ℚ) ^ (e - k) := by
  rw [← zpow_natCast, ← zpow_add₀ (by norm_num : (2 : ℚ) ≠ 0), add_sub_cancel]

/-- The rounded number has its digits behind the exponent of the exact one. -/
theorem round_eq {q : ℚ} (positive : 0 < q) :
    ∃ m : Int, 2 ^ 23 ≤ m ∧ m ≤ 2 ^ 24 ∧ round q = m * (2 : ℚ) ^ (exponent q - 23) ∧
      |round q - q| ≤ (2 : ℚ) ^ (exponent q - 24) := by
  obtain ⟨low, high⟩ := exponent_bounds positive
  have unit : (0 : ℚ) < (2 : ℚ) ^ (exponent q - 23) := zpow_pos (by norm_num) _
  have value : round q =
      roundEven (q / (2 : ℚ) ^ (exponent q - 23)) * (2 : ℚ) ^ (exponent q - 23) := by
    have same : exponent q - (24 : Nat) + 1 = exponent q - 23 := by push_cast; ring
    unfold round roundTo
    rw [if_neg positive.ne']
    dsimp only
    rw [same]
  have lower := zpow_split (exponent q) 23
  have upper := zpow_split (exponent q + 1) 24
  have shifted : exponent q + 1 - (24 : Nat) = exponent q - 23 := by push_cast; ring
  rw [shifted] at upper
  have half : (2 : ℚ) ^ (exponent q - 23) = 2 * (2 : ℚ) ^ (exponent q - 24) := by
    have step := zpow_split (exponent q - 23) 1
    have less : exponent q - 23 - (1 : Nat) = exponent q - 24 := by push_cast; ring
    rwa [less, pow_one] at step
  have near := roundEven_bounds (q / (2 : ℚ) ^ (exponent q - 23))
  have whole : q / (2 : ℚ) ^ (exponent q - 23) * (2 : ℚ) ^ (exponent q - 23) = q :=
    div_mul_cancel₀ _ unit.ne'
  refine ⟨_, ?_, ?_, value, ?_⟩
  · apply le_roundEven
    rw [le_div_iff₀ unit]
    push_cast at lower ⊢
    linarith
  · apply roundEven_le
    rw [div_le_iff₀ unit]
    push_cast at upper ⊢
    linarith
  · rw [value]
    generalize (roundEven (q / (2 : ℚ) ^ (exponent q - 23)) : ℚ) = m at *
    generalize q / (2 : ℚ) ^ (exponent q - 23) = exact at *
    generalize (2 : ℚ) ^ (exponent q - 23) = ulp at *
    have error : |m * ulp - q| = |m - exact| * ulp := by
      rw [← whole, ← sub_mul, abs_mul, abs_of_pos unit]
    have bound := mul_le_mul_of_nonneg_right near unit.le
    rw [error]
    linarith

theorem isFloat_round {q : ℚ} (positive : 0 < q) : IsFloat (round q) := by
  obtain ⟨m, low, high, value, _⟩ := round_eq positive
  by_cases carried : m = 2 ^ 24
  · refine ⟨2 ^ 23, exponent q - 22, le_refl _, by norm_num, ?_⟩
    have step := zpow_split (exponent q - 22) 1
    have less : exponent q - 22 - (1 : Nat) = exponent q - 23 := by push_cast; ring
    rw [less] at step
    rw [value, carried, step]
    push_cast
    ring
  · exact ⟨m, exponent q - 23, low, lt_of_le_of_ne high carried, value⟩

theorem zpow_le_one {e : Int} (low : e ≤ 0) : (2 : ℚ) ^ e ≤ 1 := by
  have mono := zpow_le_zpow_right₀ (by norm_num : (1 : ℚ) ≤ 2) low
  rwa [zpow_zero] at mono

theorem one_le_zpow {e : Int} (high : 0 ≤ e) : 1 ≤ (2 : ℚ) ^ e := by
  have mono := zpow_le_zpow_right₀ (by norm_num : (1 : ℚ) ≤ 2) high
  rwa [zpow_zero] at mono

theorem exponent_neg {q : ℚ} (positive : 0 < q) (below : q < 1) : exponent q ≤ -1 := by
  by_contra high
  have one := one_le_zpow (e := exponent q) (by omega)
  linarith [(exponent_bounds positive).1]

theorem exponent_nonneg {q : ℚ} (above : 1 ≤ q) : 0 ≤ exponent q := by
  by_contra low
  have one := zpow_le_one (e := exponent q + 1) (by omega)
  linarith [(exponent_bounds (lt_of_lt_of_le one_pos above)).2]

theorem round_lt_one {q : ℚ} (positive : 0 < q) (below : q * 2 ^ 24 ≤ 2 ^ 24 - 1) :
    round q < 1 := by
  obtain ⟨m, _, high, value, near⟩ := round_eq positive
  have small := exponent_neg positive (by linarith)
  have error : (2 : ℚ) ^ (exponent q - 24) ≤ 2 ^ (-25 : Int) :=
    zpow_le_zpow_right₀ (by norm_num) (by omega)
  have unit : (2 : ℚ) ^ (-25 : Int) = 1 / 2 ^ 25 := by norm_num
  have top := (abs_le.mp near).2
  rw [unit] at error
  linarith

theorem one_lt_round {q : ℚ} (above : 2 ^ 24 ≤ q * (2 ^ 24 - 1)) : 1 < round q := by
  have big : 1 ≤ q := by linarith
  obtain ⟨m, low, _, value, near⟩ := round_eq (lt_of_lt_of_le one_pos big)
  have exponentLow := exponent_nonneg big
  by_cases zero : exponent q = 0
  · have bottom := (abs_le.mp near).1
    rw [zero] at bottom
    have unit : (2 : ℚ) ^ (0 - 24 : Int) = 1 / 2 ^ 24 := by norm_num
    rw [unit] at bottom
    linarith
  · have half := zpow_split (exponent q) 23
    have two := zpow_le_zpow_right₀ (by norm_num : (1 : ℚ) ≤ 2) (by omega : 1 ≤ exponent q)
    have unit : (0 : ℚ) < (2 : ℚ) ^ (exponent q - 23) := zpow_pos (by norm_num) _
    have digits : ((2 : ℚ) ^ 23) ≤ m := by exact_mod_cast low
    have scaled := mul_le_mul_of_nonneg_right digits unit.le
    rw [zpow_one] at two
    push_cast at half
    rw [value]
    linarith

theorem IsFloat.pos {x : ℚ} (float : IsFloat x) : 0 < x := by
  obtain ⟨m, e, low, _, rfl⟩ := float
  have digits : (0 : ℚ) < m := by
    have positive : 0 < m := by omega
    exact_mod_cast positive
  exact mul_pos digits (zpow_pos (by norm_num) _)

/-- The next number is a whole unit of the smaller one away. -/
theorem IsFloat.gap {x y : ℚ} (first : IsFloat x) (second : IsFloat y) (less : x < y) :
    x * 2 ^ 24 ≤ y * (2 ^ 24 - 1) := by
  obtain ⟨m, i, low, high, rfl⟩ := first
  obtain ⟨n, j, _, above, rfl⟩ := second
  have unit : (0 : ℚ) < (2 : ℚ) ^ i := zpow_pos (by norm_num) _
  have ordered : i ≤ j := by
    by_contra smaller
    have power := zpow_le_zpow_right₀ (by norm_num : (1 : ℚ) ≤ 2) (by omega : j ≤ i - 1)
    have half := zpow_split i 1
    have digits : ((2 : ℚ) ^ 23) ≤ m := by exact_mod_cast low
    have top : (n : ℚ) ≤ 2 ^ 24 := by exact_mod_cast above.le
    have left := mul_le_mul_of_nonneg_right digits unit.le
    have right := mul_le_mul top power (zpow_nonneg (by norm_num) _) (by norm_num)
    push_cast at half
    linarith
  obtain ⟨k, rfl⟩ := Int.le.dest ordered
  have split : (2 : ℚ) ^ (i + k) = 2 ^ k * (2 : ℚ) ^ i := by
    rw [zpow_split (i + k) k, add_sub_cancel_right]
  rw [split, ← mul_assoc] at less ⊢
  have bigger : m < n * 2 ^ k := by
    have scaled := lt_of_mul_lt_mul_right less unit.le
    exact_mod_cast scaled
  have next : (m : ℚ) + 1 ≤ n * 2 ^ k := by exact_mod_cast bigger
  have digits : (m : ℚ) ≤ 2 ^ 24 - 1 := by
    have whole : m ≤ 2 ^ 24 - 1 := by omega
    exact_mod_cast whole
  have core : (m : ℚ) * 2 ^ 24 ≤ n * 2 ^ k * (2 ^ 24 - 1) := by linarith
  calc (m : ℚ) * (2 : ℚ) ^ i * 2 ^ 24 = (m * 2 ^ 24) * (2 : ℚ) ^ i := by ring
    _ ≤ (n * 2 ^ k * (2 ^ 24 - 1)) * (2 : ℚ) ^ i := mul_le_mul_of_nonneg_right core unit.le
    _ = n * 2 ^ k * (2 : ℚ) ^ i * (2 ^ 24 - 1) := by ring

section Quotient

variable {x y : ℚ}

theorem div_lt_one (first : IsFloat x) (second : IsFloat y) (less : x < y) : div x y < 1 := by
  refine round_lt_one (div_pos first.pos second.pos) ?_
  rw [div_mul_eq_mul_div, div_le_iff₀ second.pos, mul_comm _ y]
  exact first.gap second less

theorem one_lt_div (first : IsFloat x) (second : IsFloat y) (less : y < x) : 1 < div x y := by
  refine one_lt_round ?_
  rw [div_mul_eq_mul_div, le_div_iff₀ second.pos, mul_comm _ y]
  exact second.gap first less

theorem div_self_eq_one (float : IsFloat x) : div x x = 1 := by
  unfold div
  rw [div_self float.pos.ne']
  decide +kernel

theorem compare_div (first : IsFloat x) (second : IsFloat y) :
    compare (div x y) 1 = compare x y := by
  rcases lt_trichotomy x y with less | same | more
  · rw [compare_lt_iff_lt.mpr less, compare_lt_iff_lt]
    exact div_lt_one first second less
  · rw [compare_eq_iff_eq.mpr same, compare_eq_iff_eq, ← same]
    exact div_self_eq_one first
  · rw [compare_gt_iff_gt.mpr more, compare_gt_iff_gt]
    exact one_lt_div first second more

end Quotient

/-! Order and scale -/

theorem zpow_lt_iff {i j : Int} : (2 : ℚ) ^ i < (2 : ℚ) ^ j ↔ i < j :=
  zpow_lt_zpow_iff_right₀ (by norm_num)

theorem exponent_mono {p q : ℚ} (positive : 0 < p) (below : p ≤ q) : exponent p ≤ exponent q := by
  have low := (exponent_bounds positive).1
  have high := (exponent_bounds (lt_of_lt_of_le positive below)).2
  have powers := zpow_lt_iff.mp (lt_of_le_of_lt (low.trans below) high)
  omega

theorem exponent_unique {q : ℚ} {e : Int} (low : (2 : ℚ) ^ e ≤ q)
    (high : q < (2 : ℚ) ^ (e + 1)) : exponent q = e := by
  obtain ⟨first, last⟩ := exponent_bounds (lt_of_lt_of_le (zpow_pos (by norm_num) e) low)
  have above := zpow_lt_iff.mp (lt_of_le_of_lt low last)
  have under := zpow_lt_iff.mp (lt_of_le_of_lt first high)
  omega

theorem roundEven_mono {p q : ℚ} (below : p ≤ q) : roundEven p ≤ roundEven q := by
  by_contra less
  have step : (roundEven q : ℚ) + 1 ≤ roundEven p := by exact_mod_cast not_le.mp less
  have upper := (abs_le.mp (roundEven_bounds p)).2
  have lower := (abs_le.mp (roundEven_bounds q)).1
  have same : p = q := by linarith
  rw [same] at less
  exact less (le_refl _)

theorem round_mono {p q : ℚ} (positive : 0 < p) (below : p ≤ q) : round p ≤ round q := by
  have larger := lt_of_lt_of_le positive below
  have exponents := exponent_mono positive below
  rcases exponents.eq_or_lt with same | less
  · have unit : (0 : ℚ) < (2 : ℚ) ^ (exponent q - (24 : Nat) + 1) := zpow_pos (by norm_num) _
    unfold round roundTo
    rw [if_neg positive.ne', if_neg larger.ne']
    dsimp only
    rw [same]
    have digits := roundEven_mono (div_le_div_of_nonneg_right below unit.le)
    exact mul_le_mul_of_nonneg_right (by exact_mod_cast digits) unit.le
  · obtain ⟨m, _, high, first, _⟩ := round_eq positive
    obtain ⟨n, low, _, second, _⟩ := round_eq larger
    have top : (m : ℚ) ≤ 2 ^ 24 := by exact_mod_cast high
    have bottom : (2 : ℚ) ^ 23 ≤ n := by exact_mod_cast low
    have upper := zpow_split (exponent p + 1) 24
    have lower := zpow_split (exponent q) 23
    have shift : exponent p + 1 - (24 : Nat) = exponent p - 23 := by push_cast; ring
    rw [shift] at upper
    rw [first, second]
    calc (m : ℚ) * (2 : ℚ) ^ (exponent p - 23)
        ≤ 2 ^ 24 * (2 : ℚ) ^ (exponent p - 23) :=
          mul_le_mul_of_nonneg_right top (zpow_nonneg (by norm_num) _)
      _ = (2 : ℚ) ^ (exponent p + 1) := upper.symm
      _ ≤ (2 : ℚ) ^ exponent q := zpow_le_zpow_right₀ (by norm_num) (by omega)
      _ = 2 ^ 23 * (2 : ℚ) ^ (exponent q - 23) := lower
      _ ≤ n * (2 : ℚ) ^ (exponent q - 23) :=
          mul_le_mul_of_nonneg_right bottom (zpow_nonneg (by norm_num) _)

theorem round_scale {q : ℚ} (positive : 0 < q) (k : Int) :
    round (q * (2 : ℚ) ^ k) = round q * (2 : ℚ) ^ k := by
  have two : (2 : ℚ) ≠ 0 := by norm_num
  have power : (0 : ℚ) < (2 : ℚ) ^ k := zpow_pos (by norm_num) k
  obtain ⟨low, high⟩ := exponent_bounds positive
  have moved : exponent (q * (2 : ℚ) ^ k) = exponent q + k := by
    apply exponent_unique
    · rw [zpow_add₀ two]
      exact mul_le_mul_of_nonneg_right low power.le
    · rw [add_right_comm, zpow_add₀ two]
      exact mul_lt_mul_of_pos_right high power
  unfold round roundTo
  rw [if_neg positive.ne', if_neg (mul_pos positive power).ne']
  dsimp only
  have unit : (2 : ℚ) ^ (exponent q + k - (24 : Nat) + 1) =
      (2 : ℚ) ^ (exponent q - (24 : Nat) + 1) * (2 : ℚ) ^ k := by
    rw [← zpow_add₀ two]
    congr 1
    ring
  rw [moved, unit, mul_div_mul_right _ _ power.ne', mul_assoc]

theorem roundEven_int (n : Int) : roundEven n = n :=
  le_antisymm (roundEven_le le_rfl) (le_roundEven le_rfl)

theorem round_int {n : Int} (positive : 0 < n) (small : n ≤ 2 ^ 24) : round n = n := by
  have one : (1 : ℚ) ≤ n := by exact_mod_cast positive
  have top : (n : ℚ) ≤ (2 : ℚ) ^ (24 : Int) := by exact_mod_cast small
  have low := exponent_nonneg one
  have high : exponent n ≤ 24 :=
    Int.lt_add_one_iff.mp (zpow_lt_iff.mp
      (lt_of_le_of_lt ((exponent_bounds (by linarith)).1.trans top) (by norm_num)))
  rcases high.eq_or_lt with full | less
  · have bottom := (exponent_bounds (by linarith : (0 : ℚ) < n)).1
    rw [full] at bottom
    have same : (n : ℚ) = (2 : ℚ) ^ (24 : Int) := le_antisymm top bottom
    rw [same]
    decide +kernel
  · obtain ⟨k, digits⟩ := Int.le.dest (by omega : exponent n ≤ 23)
    have ulp : (2 : ℚ) ^ (exponent n - (24 : Nat) + 1) = ((2 : ℚ) ^ k)⁻¹ := by
      rw [← zpow_natCast, ← zpow_neg]
      congr 1
      push_cast
      omega
    have whole : (n : ℚ) / ((2 : ℚ) ^ k)⁻¹ = ((n * 2 ^ k : Int) : ℚ) := by
      rw [div_inv_eq_mul]
      push_cast
      rfl
    unfold round roundTo
    rw [if_neg (by linarith)]
    dsimp only
    rw [ulp, whole, roundEven_int, ← whole, div_mul_cancel₀]
    exact inv_ne_zero (by positivity)

theorem IsFloat.scale {x : ℚ} (float : IsFloat x) (k : Int) : IsFloat (x * (2 : ℚ) ^ k) := by
  obtain ⟨m, e, low, high, rfl⟩ := float
  refine ⟨m, e + k, low, high, ?_⟩
  rw [mul_assoc, ← zpow_add₀ (by norm_num : (2 : ℚ) ≠ 0)]

/-- A rounded quotient compares with a power of two as the exact one does. -/
theorem compare_div_zpow {x y : ℚ} (first : IsFloat x) (second : IsFloat y) (k : Int) :
    compare (div x y) ((2 : ℚ) ^ k) = compare x (y * (2 : ℚ) ^ k) := by
  have power : (0 : ℚ) < (2 : ℚ) ^ k := zpow_pos (by norm_num) k
  have scaled : div x y = div x (y * (2 : ℚ) ^ k) * (2 : ℚ) ^ k := by
    have exact : x / y = x / (y * (2 : ℚ) ^ k) * (2 : ℚ) ^ k := by
      rw [div_mul_eq_div_div, div_mul_cancel₀ _ power.ne']
    unfold div
    rw [exact, round_scale (div_pos first.pos (mul_pos second.pos power))]
  rw [← compare_div first (second.scale k), scaled]
  rcases lt_trichotomy (div x (y * (2 : ℚ) ^ k)) 1 with less | same | more
  · rw [compare_lt_iff_lt.mpr less, compare_lt_iff_lt]
    exact mul_lt_of_lt_one_left power less
  · rw [compare_eq_iff_eq.mpr same, same, one_mul, compare_eq_iff_eq]
  · rw [compare_gt_iff_gt.mpr more, compare_gt_iff_gt]
    exact lt_mul_of_one_lt_left power more

end LibRga.Float32

import LibRga.HardwareLimits
import LibRga.Narrowing

/-!
The width stride that `rga_check_align` asks for and the one that it tells the caller to use. The
first is a remainder of bits, the second goes through a loop for the greatest common divisor.
-/

namespace LibRga

/-- The loop of `GET_GCD` from the counter `i` on, with what the variable `gcd` holds. -/
def gcdLoop (n1 n2 : Int32) : (fuel : Nat) → (i gcd : Int32) → Option Int32
  | 0, _, _ => none
  | fuel + 1, i, gcd =>
      if i ≤ n1 ∧ i ≤ n2 then
        gcdLoop n1 n2 fuel (i + 1) (if n1 % i = 0 ∧ n2 % i = 0 then i else gcd)
      else some gcd

def getLcm (n1 n2 gcd : Int32) : Int32 :=
  n1 * n2 / gcd

/-- The alignment in the message of `rga_check_align`; `gcd` is not initialised there. -/
def rgaReportedAlign (pixelStride byteStride gcd : Int32) (fuel : Nat) : Option Int32 :=
  (gcdLoop pixelStride (byteStride * 8) fuel 1 gcd).map fun gcd =>
    getLcm pixelStride (byteStride * 8) gcd / pixelStride

/-! The loop -/

theorem dvd_of_rem_zero {value divisor : Int32} : value % divisor = 0 ↔
    divisor.toInt ∣ value.toInt := by
  rw [← Int32.toInt_inj, Int32.toInt_mod, Int.dvd_iff_tmod_eq_zero]
  rfl

theorem gcdLoop_counters {n1 n2 : Int32} {start left : Nat}
    (all : start + left = (min n1.toInt n2.toInt).toNat)
    (below : (start + left : Int) < 2 ^ 31 - 1) (gcd : Int32) :
    gcdLoop n1 n2 (left + 1) (Int32.ofNat (start + 1)) gcd =
      some ((((List.range' start left).map fun i => Int32.ofNat (i + 1)).filter
        fun i => n1 % i = 0 ∧ n2 % i = 0).getLast?.getD gcd) := by
  have counter : (Int32.ofNat (start + 1)).toInt = (start : Int) + 1 := by
    rw [Int32.toInt_ofNat_of_lt (by omega)]
    omega
  induction left generalizing start gcd with
  | zero =>
      have done : ¬(Int32.ofNat (start + 1) ≤ n1 ∧ Int32.ofNat (start + 1) ≤ n2) := by
        rw [Int32.le_iff_toInt_le, Int32.le_iff_toInt_le, counter]
        omega
      rw [gcdLoop, if_neg done]
      rfl
  | succ left ih =>
      have more : Int32.ofNat (start + 1) ≤ n1 ∧ Int32.ofNat (start + 1) ≤ n2 := by
        rw [Int32.le_iff_toInt_le, Int32.le_iff_toInt_le, counter]
        omega
      have next : Int32.ofNat (start + 1) + 1 = Int32.ofNat (start + 1 + 1) := by
        rw [Int32.ofNat_add (start + 1) 1]
        rfl
      have nextCounter : (Int32.ofNat (start + 1 + 1)).toInt = ((start + 1 : Nat) : Int) + 1 := by
        rw [Int32.toInt_ofNat_of_lt (by omega)]
        omega
      rw [gcdLoop, if_pos more, next, ih (by omega) (by omega) _ nextCounter,
        List.range'_succ, List.map_cons, List.filter_cons]
      split <;> rename_i divides
      · rw [if_pos (by simpa using divides), List.getLast?_cons]
        rfl
      · rw [if_neg (by simpa using divides)]

theorem gcdLoop_getGcd {n1 n2 : Int32} (below : min n1.toInt n2.toInt < 2 ^ 31 - 1)
    (positive : 0 < min n1.toInt n2.toInt) (gcd : Int32) :
    gcdLoop n1 n2 ((min n1.toInt n2.toInt).toNat + 1) 1 gcd =
      some ((getGcd n1 n2).getD gcd) := by
  have run := @gcdLoop_counters n1 n2 0 (min n1.toInt n2.toInt).toNat (by omega) (by omega) gcd
  rw [← List.range_eq_range'] at run
  exact run

theorem getLast?_filter_range {bound last : Nat} {test : Nat → Bool} (inside : last < bound)
    (holds : test last = true) (above : ∀ i, last < i → i < bound → test i = false) :
    ((List.range bound).filter test).getLast? = some last := by
  induction bound with
  | zero => omega
  | succ bound ih =>
      rw [List.range_succ, List.filter_append]
      by_cases top : last = bound
      · subst last
        simp [holds]
      · have skipped : test bound = false := above bound (by omega) (by omega)
        have rest := ih (by omega) (fun i low high => above i low (by omega))
        simpa [skipped] using rest

/-- The counters ascend, so the last one that divides both is the greatest. -/
theorem getGcd_eq_gcd {n1 n2 : Int32} (first : 0 < n1.toInt) (second : 0 < n2.toInt) :
    getGcd n1 n2 = some (Int32.ofNat (Int.gcd n1.toInt n2.toInt)) := by
  have some_divisor : 0 < Int.gcd n1.toInt n2.toInt := Int.gcd_pos_of_ne_zero_left _ (by omega)
  have low : (Int.gcd n1.toInt n2.toInt : Int) ≤ n1.toInt :=
    Int.le_of_dvd first (Int.gcd_dvd_left ..)
  have high : (Int.gcd n1.toInt n2.toInt : Int) ≤ n2.toInt :=
    Int.le_of_dvd second (Int.gcd_dvd_right ..)
  have small := n1.toInt_lt
  have counter : ∀ i < (min n1.toInt n2.toInt).toNat,
      (Int32.ofNat (i + 1)).toInt = (i : Int) + 1 := by
    intro i bound
    rw [Int32.toInt_ofNat_of_lt (by omega)]
    omega
  have passes : ∀ i < (min n1.toInt n2.toInt).toNat,
      (n1 % Int32.ofNat (i + 1) = 0 ∧ n2 % Int32.ofNat (i + 1) = 0) ↔
        i + 1 ∣ Int.gcd n1.toInt n2.toInt := by
    intro i bound
    rw [dvd_of_rem_zero, dvd_of_rem_zero, counter i bound, ← Int.dvd_coe_gcd_iff,
      ← Int.natCast_dvd_natCast]
    push_cast
    rfl
  have last : ((List.range (min n1.toInt n2.toInt).toNat).filter
      ((fun i => decide (n1 % i = 0 ∧ n2 % i = 0)) ∘ fun i => Int32.ofNat (i + 1))).getLast? =
        some (Int.gcd n1.toInt n2.toInt - 1) := by
    apply getLast?_filter_range
    · omega
    · have divides := (passes (Int.gcd n1.toInt n2.toInt - 1) (by omega)).mpr
        (by rw [Nat.sub_add_cancel some_divisor])
      simpa using divides
    · intro i beyond bound
      have bigger : ¬i + 1 ∣ Int.gcd n1.toInt n2.toInt := fun divides => by
        have := Nat.le_of_dvd some_divisor divides
        omega
      simpa using mt (passes i bound).mp bigger
  rw [getGcd, gcdCounters, List.filter_map, List.getLast?_map, last]
  simp only [Option.map_some]
  rw [Nat.sub_add_cancel some_divisor]

/-! The alignment -/

theorem dvd_mul_iff_reduced {value other : ℤ} (positive : 0 < value) (factor : ℤ) :
    value ∣ other * factor ↔ value / (Int.gcd other value : ℤ) ∣ factor := by
  have common : 0 < Int.gcd other value := Int.gcd_pos_of_ne_zero_right _ positive.ne'
  obtain ⟨left, right, apart, leftEq, rightEq⟩ := Int.exists_gcd_one common
  generalize Int.gcd other value = divisor at *
  have nonzero : (divisor : ℤ) ≠ 0 := by omega
  rw [leftEq, rightEq, Int.mul_ediv_cancel _ nonzero, mul_right_comm,
    Int.mul_dvd_mul_iff_right nonzero]
  constructor
  · intro divides
    exact Int.dvd_of_dvd_mul_right_of_gcd_one divides (by rwa [Int.gcd_comm])
  · intro divides
    exact divides.mul_left left

/-- What the switch over the data mode asks for. Raster images pass it as they are. -/
def DataModeAligned (info : RgaBuffer) (isRead : Bool) : Prop :=
  (info.rdMode = imFbcMode → info.wstride % 16 = 0 ∧ info.hstride % 16 = 0) ∧
  (info.rdMode = imTileMode → info.width % 8 = 0 ∧ info.height % 8 = 0 ∧
    (isRead = true → info.wstride % 16 = 0 ∧ info.hstride % 16 = 0))

theorem rgaCheckAlign_noError_iff (info : RgaBuffer) (byteStride : Int32) (isRead : Bool) :
    rgaCheckAlign info byteStride isRead = .noError ↔ DataModeAligned info isRead ∧
      getPerPixelStrideFromFormat info.format * info.wstride % (byteStride * 8) = 0 := by
  have modes : imFbcMode ≠ imTileMode := by decide
  simp only [rgaCheckAlign, andThen_eq_noError, DataModeAligned]
  refine and_congr ?_ ?_
  · by_cases fbc : info.rdMode = imFbcMode
    · simp [fbc, modes, not_or]
    · by_cases tile : info.rdMode = imTileMode
      · have other : ¬imTileMode = imFbcMode := modes.symm
        simp [tile, other]
        grind
      · simp [fbc, tile]
  · simp

theorem acceptedFormat_pixels {info : RgaBuffer} {rect : ImRect} {formatUsage : UInt32}
    {modeUsage : Int32} (accepted : rgaCheckFormat info rect formatUsage modeUsage = .noError) :
    0 < (getPerPixelStrideFromFormat info.format).toInt := by
  have listed : ∀ family ∈ formatFamilies, ∀ format ∈ family.formats,
      0 < (getPerPixelStrideFromFormat format).toInt := by
    decide
  obtain ⟨family, member, contained⟩ := rgaCheckFormat_family accepted
  exact listed family member _ contained

section Strides

variable {pixelStride byteStride : Int32}

theorem lineBits_toInt (pixels : 0 < pixelStride.toInt) (bytes : 0 < byteStride.toInt)
    (product : IntFits (pixelStride.toInt * (byteStride.toInt * 8))) :
    (byteStride * 8).toInt = byteStride.toInt * 8 := by
  have grows : byteStride.toInt * 8 ≤ pixelStride.toInt * (byteStride.toInt * 8) :=
    le_mul_of_one_le_left (by omega) (by omega)
  have upper := product.2
  have fits : IntFits (byteStride.toInt * 8) := ⟨by omega, by omega⟩
  exact toInt_mul_of_fits fits

/-- With the divisor that the loop finds, the two quotients of the macro come out exact. -/
theorem reducedAlign_toInt (pixels : 0 < pixelStride.toInt) (bytes : 0 < byteStride.toInt)
    (product : IntFits (pixelStride.toInt * (byteStride.toInt * 8))) :
    (getLcm pixelStride (byteStride * 8)
        (Int32.ofNat (Int.gcd pixelStride.toInt (byteStride * 8).toInt)) / pixelStride).toInt =
      byteStride.toInt * 8 / Int.gcd pixelStride.toInt (byteStride.toInt * 8) := by
  have line := lineBits_toInt pixels bytes product
  have common : 0 < Int.gcd pixelStride.toInt (byteStride.toInt * 8) :=
    Int.gcd_pos_of_ne_zero_left _ (by omega)
  have small : (Int.gcd pixelStride.toInt (byteStride.toInt * 8) : ℤ) ≤ pixelStride.toInt :=
    Int.le_of_dvd pixels (Int.gcd_dvd_left ..)
  have bound := pixelStride.toInt_lt
  have bits : (pixelStride * (byteStride * 8)).toInt =
      pixelStride.toInt * (byteStride.toInt * 8) := by
    rw [toInt_mul_of_fits (by rw [line]; exact product), line]
  have divisor : (Int32.ofNat (Int.gcd pixelStride.toInt (byteStride.toInt * 8))).toInt =
      Int.gcd pixelStride.toInt (byteStride.toInt * 8) :=
    Int32.toInt_ofNat_of_lt (by omega)
  have positive : ∀ value : Int32, 0 < value.toInt → value ≠ -1 := by
    rintro value above rfl
    exact absurd above (by decide)
  obtain ⟨reduced, whole⟩ := Int.gcd_dvd_right pixelStride.toInt (byteStride.toInt * 8)
  rw [line, getLcm, Int32.toInt_div_of_ne_right _ _ (positive _ pixels),
    Int32.toInt_div_of_ne_right _ _ (positive _ (by rw [divisor]; omega)), bits, divisor]
  generalize Int.gcd pixelStride.toInt (byteStride.toInt * 8) = shared at *
  have nonzero : (shared : ℤ) ≠ 0 := by omega
  rw [whole, mul_left_comm, Int.mul_tdiv_cancel_left _ nonzero,
    Int.mul_tdiv_cancel_left _ pixels.ne', Int.mul_ediv_cancel_left _ nonzero]

theorem rgaReportedAlign_exists (pixels : 0 < pixelStride.toInt) (bytes : 0 < byteStride.toInt)
    (product : IntFits (pixelStride.toInt * (byteStride.toInt * 8))) (gcd : Int32) :
    ∃ fuel align,
      gcdLoop pixelStride (byteStride * 8) fuel 1 gcd =
        some (Int32.ofNat (Int.gcd pixelStride.toInt (byteStride.toInt * 8))) ∧
      rgaReportedAlign pixelStride byteStride gcd fuel = some align ∧
      align.toInt = byteStride.toInt * 8 / Int.gcd pixelStride.toInt (byteStride.toInt * 8) := by
  have line := lineBits_toInt pixels bytes product
  -- the product fits, so that its first factor is far below the greatest counter
  have factor : pixelStride.toInt * 8 ≤ pixelStride.toInt * (byteStride.toInt * 8) :=
    mul_le_mul_of_nonneg_left (by omega) pixels.le
  have upper := product.2
  have loop := @gcdLoop_getGcd pixelStride (byteStride * 8) (by omega) (by omega) gcd
  rw [getGcd_eq_gcd pixels (by omega), Option.getD_some] at loop
  refine ⟨_, _, by rw [loop, line], ?_, reducedAlign_toInt pixels bytes product⟩
  rw [rgaReportedAlign, loop]
  rfl

theorem bitStride_aligned_iff {wstride : Int32} (pixels : 0 < pixelStride.toInt)
    (bytes : 0 < byteStride.toInt) (bits : IntFits (pixelStride.toInt * wstride.toInt))
    (product : IntFits (pixelStride.toInt * (byteStride.toInt * 8))) :
    pixelStride * wstride % (byteStride * 8) = 0 ↔
      byteStride.toInt * 8 / Int.gcd pixelStride.toInt (byteStride.toInt * 8) ∣ wstride.toInt := by
  rw [dvd_of_rem_zero, lineBits_toInt pixels bytes product, toInt_mul_of_fits bits,
    dvd_mul_iff_reduced (by omega)]

end Strides

/-- `gcd` is whatever the variable held before the loop. -/
theorem strideAlign_exact :
    (∀ pixelStride byteStride wstride gcd : Int32, 0 < pixelStride.toInt → 0 < byteStride.toInt →
      0 ≤ wstride.toInt → IntFits (pixelStride.toInt * wstride.toInt) →
      IntFits (pixelStride.toInt * (byteStride.toInt * 8)) →
      ∃ fuel align,
        gcdLoop pixelStride (byteStride * 8) fuel 1 gcd =
          some (Int32.ofNat (Int.gcd pixelStride.toInt (byteStride.toInt * 8))) ∧
        rgaReportedAlign pixelStride byteStride gcd fuel = some align ∧
        IsLeast {a : ℤ | 0 < a ∧ 8 * byteStride.toInt ∣ pixelStride.toInt * a} align.toInt ∧
        (pixelStride * wstride % (byteStride * 8) = 0 ↔ align.toInt ∣ wstride.toInt) ∧
        ∀ info isRead, info.wstride = wstride →
          getPerPixelStrideFromFormat info.format = pixelStride →
          (rgaCheckAlign info byteStride isRead = .noError ↔
            DataModeAligned info isRead ∧ align.toInt ∣ wstride.toInt)) ∧
    ∀ info rect formatUsage modeUsage,
      rgaCheckFormat info rect formatUsage modeUsage = .noError →
        0 < (getPerPixelStrideFromFormat info.format).toInt := by
  refine ⟨?_, fun _ _ _ _ accepted => acceptedFormat_pixels accepted⟩
  intro pixelStride byteStride wstride gcd pixels bytes _ bits product
  obtain ⟨fuel, align, loop, reported, value⟩ := rgaReportedAlign_exists pixels bytes product gcd
  have line : 0 < byteStride.toInt * 8 := by omega
  have positive : 0 < align.toInt := by
    rw [value]
    exact Int.ediv_pos_of_pos_of_dvd line (by omega) (Int.gcd_dvd_right ..)
  have aligned := bitStride_aligned_iff pixels bytes bits product
  rw [← value] at aligned
  refine ⟨fuel, align, loop, reported, ⟨⟨positive, ?_⟩, ?_⟩, aligned, ?_⟩
  · rw [mul_comm 8, dvd_mul_iff_reduced line, value]
  · rintro other ⟨above, divides⟩
    rw [mul_comm 8, dvd_mul_iff_reduced line, ← value] at divides
    exact Int.le_of_dvd above divides
  · rintro info isRead rfl rfl
    rw [rgaCheckAlign_noError_iff, aligned]

/-- 24 bits a pixel in lines of four bytes: the stride is a multiple of four pixels. -/
example : rgaReportedAlign 24 4 0 25 = some 4 := by
  decide

theorem strideAlign_exact_rgb888 : ∃ fuel align, rgaReportedAlign 24 4 0 fuel = some align ∧
    (rgaCheckAlign { format := rkFormatRgb888, wstride := 1280 } 4 true = .noError ↔
      DataModeAligned { format := rkFormatRgb888, wstride := 1280 } true ∧
        align.toInt ∣ 1280) := by
  obtain ⟨fuel, align, _, reported, _, _, check⟩ := strideAlign_exact.1 24 4 1280 0 (by decide)
    (by decide) (by decide) ⟨by decide, by decide⟩ ⟨by decide, by decide⟩
  exact ⟨fuel, align, reported, check _ true rfl (by decide)⟩

end LibRga

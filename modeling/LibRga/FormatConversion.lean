import LibRga.Format

/-!
`convert_to_rga_format` on its own results: a code of the driver is recognised as one and kept,
whatever family it was converted from.
-/

namespace LibRga

/-- The codes that the conversion keeps: no HAL byte, and a format byte or nothing at all. -/
def IsDriverCode (format : Int32) : Prop :=
  format &&& (0xff : Int32) = 0 ∧ isRgaFormat format = true

instance isDriverCodeDecidable (format : Int32) : Decidable (IsDriverCode format) :=
  inferInstanceAs (Decidable (_ ∧ _))

/-! A driver code is kept. -/

theorem isDrmFourcc_driverCode {format : Int32} (driver : IsDriverCode format) :
    isDrmFourcc format = false := by
  simp [isDrmFourcc, driver.1]

theorem isAndroidHalFormat_driverCode {format : Int32} (driver : IsDriverCode format) :
    isAndroidHalFormat format = false := by
  simp [isAndroidHalFormat, driver.1]

/-- The shift by which `get_compatible_format` looks for a format byte loses none. -/
theorem formatByte_zero_of_shift {format : Int32} (shifted : format >>> (8 : Int32) = 0) :
    format &&& (0xff00 : Int32) = 0 := by
  have bits : format.toBitVec.sshiftRight 8 = 0 := congrArg Int32.toBitVec shifted
  have mask : ∀ i < 32, (Int32.toBitVec 0xff00).getLsbD i = decide (8 ≤ i ∧ i < 16) := by decide
  apply Int32.toBitVec_inj.mp
  apply BitVec.eq_of_getLsbD_eq
  intro i below
  rw [Int32.toBitVec_and, BitVec.getLsbD_and, mask i below]
  by_cases inside : 8 ≤ i ∧ i < 16
  · have bit : (format.toBitVec.sshiftRight 8).getLsbD (i - 8) = false := by
      rw [bits]
      simp
    have position : 8 + (i - 8) = i := by omega
    rw [BitVec.getLsbD_sshiftRight, position] at bit
    have unset : format.toBitVec.getLsbD i = false := by
      simpa [below, show ¬32 ≤ i - 8 by omega] using bit
    simp [unset]
  · simp [inside]

theorem getCompatibleFormat_driverCode {format : Int32} (driver : IsDriverCode format) :
    getCompatibleFormat format = format := by
  have byte : format = 0 ∨ format &&& (0xff00 : Int32) ≠ 0 := by
    simpa [isRgaFormat, or_comm] using driver.2
  rcases byte with zero | byte
  · simp [getCompatibleFormat, zero]
  · have shifted : format >>> (8 : Int32) ≠ 0 := fun none => byte (formatByte_zero_of_shift none)
    simp [getCompatibleFormat, shifted]

theorem convertToRgaFormat_driverCode {format : Int32} (driver : IsDriverCode format) :
    convertToRgaFormat format = format := by
  simp [convertToRgaFormat, isDrmFourcc_driverCode driver, getCompatibleFormat_driverCode driver,
    isAndroidHalFormat_driverCode driver, driver.2]

/-! Every result is a driver code, or `RK_FORMAT_UNKNOWN`. -/

theorem tableFormat_driverCode {table : List (UInt32 × Int32)}
    (listed : table.all (fun row => row.2 = rkFormatUnknown ∨ IsDriverCode row.2) = true)
    (code : UInt32) :
    (table.lookup code).getD rkFormatUnknown = rkFormatUnknown ∨
      IsDriverCode ((table.lookup code).getD rkFormatUnknown) := by
  cases found : table.lookup code with
  | none => exact .inl rfl
  | some format =>
      obtain ⟨before, after, split, _⟩ := List.lookup_eq_some_iff.mp found
      have row := List.all_eq_true.mp listed (code, format) (by simp [split])
      exact of_decide_eq_true row

theorem getFormatFromDrmFourcc_driverCode (drmFourcc : UInt32) :
    getFormatFromDrmFourcc drmFourcc = rkFormatUnknown ∨
      IsDriverCode (getFormatFromDrmFourcc drmFourcc) := by
  apply tableFormat_driverCode
  decide

theorem getFormatFromAndroidHal_driverCode (androidHalFormat : UInt32) :
    getFormatFromAndroidHal androidHalFormat = rkFormatUnknown ∨
      IsDriverCode (getFormatFromAndroidHal androidHalFormat) := by
  apply tableFormat_driverCode
  decide

theorem convertToRgaFormat_result (exFormat : Int32) :
    convertToRgaFormat exFormat = rkFormatUnknown ∨ IsDriverCode (convertToRgaFormat exFormat) := by
  simp only [convertToRgaFormat]
  split
  · exact getFormatFromDrmFourcc_driverCode _
  · split
    · exact getFormatFromAndroidHal_driverCode _
    · rename_i notHal
      split
      · rename_i rga
        exact .inr ⟨by simpa [isAndroidHalFormat] using notHal, rga⟩
      · exact .inl rfl

theorem convertToRgaFormat_idempotent (format : Int32) :
    convertToRgaFormat (convertToRgaFormat format) = convertToRgaFormat format := by
  rcases convertToRgaFormat_result format with unknown | driver
  · rw [unknown]
    decide
  · exact convertToRgaFormat_driverCode driver

/-- A fourcc, a HAL code, and an RGA code as older callers write it, without the shift. -/
example : [0x34325241, 0x201, 0xa].map convertToRgaFormat =
    [rkFormatBgra8888, rkFormatYCbCr420Sp10b, rkFormatYCbCr420Sp] := by
  decide

end LibRga

import LibRga.Bounds
import LibRga.FloatOrder
import LibRga.HardwareMerge

/-!
What the checks of a request rely on in the table that `rga_get_info` leaves: limits that are
positive and a byte stride that can be divided by. The loop over the cores trusts the count of
the driver, so the indices that it reads are kept here beside its result.
-/

namespace LibRga

/-! The divisions of `rga_check_align` and `rga_check_limit` -/

def gcdCounters (n1 n2 : Int32) : List Int32 :=
  (List.range (min n1.toInt n2.toInt).toNat).map fun i => Int32.ofNat (i + 1)

/-- `GET_GCD`, which assigns nothing if no counter divides both. -/
def getGcd (n1 n2 : Int32) : Option Int32 :=
  ((gcdCounters n1 n2).filter fun i => n1 % i = 0 ∧ n2 % i = 0).getLast?

/-- A stride that is not aligned is divided further, for the message. A `gcd` that was not
assigned counts as zero. -/
def rgaCheckAlignDivisors (info : RgaBuffer) (byteStride : Int32) : List Int32 :=
  let pixelStride := getPerPixelStrideFromFormat info.format
  if pixelStride * info.wstride % (byteStride * 8) = 0 then [byteStride * 8]
  else byteStride * 8 :: gcdCounters pixelStride (byteStride * 8) ++
    [(getGcd pixelStride (byteStride * 8)).getD 0, pixelStride]

def rgaCheckLimitDivisors (src dst : RgaBuffer) : List ℚ :=
  [src.width, src.height, dst.width, dst.height].map fun side => Float32.ofInt side.toInt

/-- `rga_check` comes to `rga_check_limit` only with images that passed `rga_check_info`. -/
structure UsableInfo (table : RgaInfoTableEntry) : Prop where
  byteStride : 0 < table.byteStride
  scaleLimit : 0 < table.scaleLimit
  inputResolution : 0 < table.inputResolution.width ∧ 0 < table.inputResolution.height
  outputResolution : 0 < table.outputResolution.width ∧ 0 < table.outputResolution.height
  align : ∀ info, ∀ divisor ∈ rgaCheckAlignDivisors info table.byteStride.toInt32, divisor ≠ 0
  limit : ∀ src dst srcRect dstRect,
    rgaCheckInfo src srcRect table.inputResolution = .noError →
      rgaCheckInfo dst dstRect table.outputResolution = .noError →
      ∀ divisor ∈ rgaCheckLimitDivisors src dst, divisor ≠ 0

def UsableOnSuccess (versions : RgaHwVersions) : Prop :=
  (rgaGetInfo versions {}).1 = .success → UsableInfo (rgaGetInfo versions {}).2

/-! The loop with the indices it reads -/

def rgaGetInfoLoop (versions : RgaHwVersions) :
    (left i : Nat) → RgaInfoTableEntry → Option RgaInfoTableEntry × List Nat
  | 0, _, table => (some table, [])
  | left + 1, i, table =>
      match rgaCoreTable.lookup (versions.entry i) with
      | none => (none, [i])
      | some entry =>
          let (merged, reads) :=
            rgaGetInfoLoop versions left (i + 1) (rgaSupportInfoMergeTable table entry)
          (merged, i :: reads)

/-- The elements of `version[]` that the loop reads. -/
def rgaGetInfoReads (versions : RgaHwVersions) (table : RgaInfoTableEntry) : List Nat :=
  (rgaGetInfoLoop versions versions.size.toNat 0 table).2

theorem rgaGetInfoLoop_merges (versions : RgaHwVersions) (left i : Nat)
    (table : RgaInfoTableEntry) :
    (rgaGetInfoLoop versions left i table).1 =
      rgaMergeCores table ((List.range' i left).map versions.entry) := by
  induction left generalizing i table with
  | zero => rfl
  | succ left ih =>
      rw [List.range'_succ, List.map_cons, rgaGetInfoLoop, rgaMergeCores]
      cases rgaCoreTable.lookup (versions.entry i) with
      | none => rfl
      | some entry => exact ih _ _

theorem rgaGetInfo_loop (versions : RgaHwVersions) (table : RgaInfoTableEntry) :
    (rgaGetInfoLoop versions versions.size.toNat 0 table).1 =
      rgaMergeCores table versions.listed := by
  rw [rgaGetInfoLoop_merges, RgaHwVersions.listed, List.range_eq_range']

theorem mem_reads_iff (versions : RgaHwVersions) (left i index : Nat)
    (table : RgaInfoTableEntry) :
    index ∈ (rgaGetInfoLoop versions left i table).2 ↔
      i ≤ index ∧ index < i + left ∧ ∀ earlier, i ≤ earlier → earlier < index →
        (rgaCoreTable.lookup (versions.entry earlier)).isSome := by
  induction left generalizing i table with
  | zero =>
      simp only [rgaGetInfoLoop, List.not_mem_nil, false_iff]
      omega
  | succ left ih =>
      cases row : rgaCoreTable.lookup (versions.entry i) with
      | none =>
          simp only [rgaGetInfoLoop, row, List.mem_singleton]
          constructor
          · intro same
            subst index
            exact ⟨by omega, by omega, by omega⟩
          · rintro ⟨lower, _, known⟩
            by_contra different
            have first := known i (by omega) (by omega)
            rw [row] at first
            cases first
      | some entry =>
          simp only [rgaGetInfoLoop, row, List.mem_cons, ih]
          constructor
          · rintro (same | ⟨lower, upper, known⟩)
            · subst index
              exact ⟨by omega, by omega, by omega⟩
            · refine ⟨by omega, by omega, ?_⟩
              intro earlier above below
              by_cases first : earlier = i
              · rw [first, row]
                rfl
              · exact known earlier (by omega) below
          · rintro ⟨lower, upper, known⟩
            by_cases first : index = i
            · exact .inl first
            · refine .inr ⟨by omega, by omega, ?_⟩
              intro earlier above below
              exact known earlier (by omega) below

/-! Positive limits -/

theorem pixelStride_values (format : Int32) :
    getPerPixelStrideFromFormat format ∈ ([0, 2, 4, 8, 10, 16, 24, 30, 32] : List Int32) := by
  simp only [getPerPixelStrideFromFormat]
  split_ifs <;> decide

theorem align_divisors_nonzero {byteStride : UInt32} (stride : byteStride = 4 ∨ byteStride = 16)
    (info : RgaBuffer) :
    ∀ divisor ∈ rgaCheckAlignDivisors info byteStride.toInt32, divisor ≠ 0 := by
  have line : byteStride.toInt32 * 8 = 32 ∨ byteStride.toInt32 * 8 = 128 := by
    rcases stride with rfl | rfl
    · exact .inl rfl
    · exact .inr rfl
  have further : ∀ pixelStride ∈ ([2, 4, 8, 10, 16, 24, 30, 32] : List Int32),
      ∀ line ∈ ([32, 128] : List Int32),
      ∀ divisor ∈ line :: gcdCounters pixelStride line ++
        [(getGcd pixelStride line).getD 0, pixelStride], divisor ≠ 0 := by
    decide
  have lineValue : byteStride.toInt32 * 8 ∈ ([32, 128] : List Int32) := by
    rcases line with same | same <;> simp [same]
  simp only [rgaCheckAlignDivisors]
  split
  · intro divisor member
    rw [List.mem_singleton.mp member]
    rcases line with same | same <;> rw [same] <;> decide
  · rename_i unaligned
    -- a format without pixels has a line of no bits, which is aligned
    have pixels := pixelStride_values info.format
    rcases List.mem_cons.mp pixels with none | some
    · rw [none, Int32.zero_mul] at unaligned
      rcases line with same | same <;> rw [same] at unaligned <;> exact absurd rfl unaligned
    · exact further _ some _ lineValue

theorem ofInt_pos {side : Int32} (positive : 2 ≤ side.toInt) :
    Float32.ofInt side.toInt ≠ 0 := by
  have above : (0 : ℚ) < side.toInt := by exact_mod_cast (by omega : 0 < side.toInt)
  exact (Float32.isFloat_round above).pos.ne'

theorem usableInfo_of_positive {table : RgaInfoTableEntry}
    (input : RgaInfoResolution.smaller {} table.inputResolution)
    (output : RgaInfoResolution.smaller {} table.outputResolution)
    (stride : table.byteStride = 4 ∨ table.byteStride = 16) (scale : 0 < table.scaleLimit) :
    UsableInfo table where
  byteStride := by rcases stride with same | same <;> rw [same] <;> decide
  scaleLimit := scale
  inputResolution := input
  outputResolution := output
  align := align_divisors_nonzero stride
  limit := by
    intro src dst srcRect dstRect srcChecked dstChecked divisor member
    obtain ⟨srcWidth, srcHeight, _⟩ := rgaCheckInfo_noError srcChecked
    obtain ⟨dstWidth, dstHeight, _⟩ := rgaCheckInfo_noError dstChecked
    obtain ⟨side, listed, rfl⟩ := List.mem_map.mp member
    apply ofInt_pos
    simp only [List.mem_cons, List.not_mem_nil, or_false] at listed
    rcases listed with rfl | rfl | rfl | rfl <;> assumption

theorem mergeTables_usable {versions : RgaHwVersions} (listed : versions.coreTables ≠ []) :
    UsableInfo (mergeTables versions.coreTables) := by
  have merged := mergedFrom_coreTables versions
  obtain ⟨first, member⟩ := List.exists_mem_of_ne_nil _ listed
  obtain ⟨_, _, firstStride, firstScale⟩ := coreTables_positive member
  obtain ⟨input, inputListed, inputSame⟩ := List.mem_map.mp (merged.inputResolution.1 listed)
  obtain ⟨output, outputListed, outputSame⟩ := List.mem_map.mp (merged.outputResolution.1 listed)
  apply usableInfo_of_positive
  · rw [← inputSame]
    exact (coreTables_positive inputListed).1
  · rw [← outputSame]
    exact (coreTables_positive outputListed).2.1
  · have atLeast := merge_limit (·.byteStride) (fun _ _ => rfl) member
    rcases merge_limit_mem (·.byteStride) (fun _ _ => rfl) versions.coreTables with none | taken
    · simp only [none] at atLeast
      rcases firstStride with same | same <;> simp [same] at atLeast
    · obtain ⟨table, tableListed, same⟩ := List.mem_map.mp taken
      rw [← same]
      exact (coreTables_positive tableListed).2.2.1
  · exact UInt32.lt_of_lt_of_le firstScale (merged.scaleLimit _ member).1

theorem hwInfoTable_usable {index : RgaHwVersionIndex} (found : index ≠ .vErr) :
    UsableInfo (hwInfoTable index) := by
  apply usableInfo_of_positive <;> revert found <;> cases index <;> decide

/-! Every report of the driver -/

theorem coreTables_nonempty {versions : RgaHwVersions} (known : versions.Known)
    (cores : versions.size ≠ 0) : versions.coreTables ≠ [] := by
  rw [coreTables_known known]
  have count : versions.size.toNat ≠ 0 := by
    intro none
    exact cores (UInt32.toNat_inj.mp none)
  simp [RgaHwVersions.listed, count]

theorem usableOnSuccess_of_cores {versions : RgaHwVersions} (cores : versions.size ≠ 0) :
    UsableOnSuccess versions := by
  intro succeeded
  unfold rgaGetInfo at succeeded ⊢
  cases merged : rgaMergeCores {} ((List.range versions.size.toNat).map versions.entry) with
  | none =>
      rw [merged] at succeeded
      apply hwInfoTable_usable
      intro unknown
      simp [unknown] at succeeded
  | some table =>
      obtain ⟨known, rfl⟩ := (rgaMergeCores_some_iff _ _ _).mp merged
      exact mergeTables_usable (coreTables_nonempty known cores)

theorem no_cores_unusable {versions : RgaHwVersions} (none : versions.size = 0) :
    ¬UsableOnSuccess versions := by
  intro usable
  have answer : rgaGetInfo versions {} = (.success, {}) := by
    simp [rgaGetInfo, none, rgaMergeCores]
  have stride := (usable (congrArg Prod.fst answer)).byteStride
  rw [answer] at stride
  exact absurd stride (by decide)

/-- `rga_get_info` on a zeroed table: without a core it succeeds on the zeroed table, and with more
than `RGA_HW_SIZE` cores it is only an unknown one among the first that stops the loop in time. -/
theorem hardwareInfo_usable_iff (versions : RgaHwVersions) :
    (UsableOnSuccess versions ∧ ∀ index ∈ rgaGetInfoReads versions {}, index < rgaHwSize) ↔
      versions.size ≠ 0 ∧ (versions.size.toNat ≤ rgaHwSize ∨
        ∃ index < rgaHwSize, rgaCoreTable.lookup (versions.entry index) = none) := by
  constructor
  · rintro ⟨usable, inside⟩
    refine ⟨fun none => no_cores_unusable none usable, ?_⟩
    by_contra! beyond
    have read : rgaHwSize ∈ rgaGetInfoReads versions {} := by
      apply (mem_reads_iff _ _ _ _ _).mpr
      refine ⟨by omega, by omega, ?_⟩
      intro earlier _ below
      exact Option.isSome_iff_ne_none.mpr (beyond.2 earlier below)
    have := inside _ read
    omega
  · rintro ⟨cores, bounded⟩
    refine ⟨usableOnSuccess_of_cores cores, ?_⟩
    intro index read
    obtain ⟨_, upper, known⟩ := (mem_reads_iff _ _ _ _ _).mp read
    rcases bounded with fits | ⟨stop, stopBound, unknown⟩
    · omega
    · by_contra beyond
      have passed := known stop (by omega) (by omega)
      rw [unknown] at passed
      cases passed

/-- A driver that reports no core, and one that reports six. -/
theorem hardwareInfo_unusable :
    let none : RgaHwVersions := { size := 0 }
    let six : RgaHwVersions := { version := List.replicate 5 ⟨3, 2, 0x63318⟩, size := 6 }
    rgaGetInfo none {} = (.success, {}) ∧
      (rgaGetInfo none {}).2.byteStride.toInt32 * 8 = 0 ∧
      (rgaGetInfoReads six {}) = [0, 1, 2, 3, 4, 5] := by
  decide

end LibRga

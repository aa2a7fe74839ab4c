import LibRga.Hardware
import LibRga.Library.Selection

/-!
What `rga_get_info` makes of a list of known cores: masks that are unions, limits that are
maxima, and resolutions that are taken as a pair.

A pair is given up only for one larger in both dimensions, so cores with incomparable
resolutions are merged in the order in which the driver lists them.
-/

namespace LibRga

open Selection

def RgaHwVersions.listed (versions : RgaHwVersions) : List RgaVersion :=
  (List.range versions.size.toNat).map versions.entry

def RgaHwVersions.coreTables (versions : RgaHwVersions) : List RgaInfoTableEntry :=
  versions.listed.filterMap fun version => rgaCoreTable.lookup version

def RgaHwVersions.Known (versions : RgaHwVersions) : Prop :=
  ∀ version ∈ versions.listed, (rgaCoreTable.lookup version).isSome

/-- Larger in both dimensions: what `rga_support_info_merge_table` asks for. -/
def RgaInfoResolution.smaller (left right : RgaInfoResolution) : Prop :=
  left.width < right.width ∧ left.height < right.height

instance : DecidableRel RgaInfoResolution.smaller :=
  fun left right =>
    inferInstanceAs (Decidable (left.width < right.width ∧ left.height < right.height))

instance : IsStrictOrder RgaInfoResolution RgaInfoResolution.smaller where
  irrefl _ below := Int32.lt_irrefl below.1
  trans _ _ _ first second :=
    ⟨Int32.lt_trans first.1 second.1, Int32.lt_trans first.2 second.2⟩

def RgaInfoResolution.atMost (left right : RgaInfoResolution) : Prop :=
  left.width ≤ right.width ∧ left.height ≤ right.height

structure MergedFrom (tables : List RgaInfoTableEntry) (merged : RgaInfoTableEntry) : Prop where
  inputFormat : ∀ bit, merged.inputFormat.toBitVec.getLsbD bit =
    tables.any fun table => table.inputFormat.toBitVec.getLsbD bit
  outputFormat : ∀ bit, merged.outputFormat.toBitVec.getLsbD bit =
    tables.any fun table => table.outputFormat.toBitVec.getLsbD bit
  feature : ∀ bit, merged.feature.toBitVec.getLsbD bit =
    tables.any fun table => table.feature.toBitVec.getLsbD bit
  scaleLimit : ∀ table ∈ tables, table.scaleLimit ≤ merged.scaleLimit ∧
    table.scaleVerBicubicLimit ≤ merged.scaleVerBicubicLimit
  /-- The resolutions are those of listed cores, and none larger in both dimensions is listed. -/
  inputResolution : (tables ≠ [] → merged.inputResolution ∈ tables.map (·.inputResolution)) ∧
    ∀ table ∈ tables, ¬merged.inputResolution.smaller table.inputResolution
  outputResolution : (tables ≠ [] → merged.outputResolution ∈ tables.map (·.outputResolution)) ∧
    ∀ table ∈ tables, ¬merged.outputResolution.smaller table.outputResolution

/-- The tables are equal but for the resolutions. -/
def RgaInfoTableEntry.SameLimits (left right : RgaInfoTableEntry) : Prop :=
  { left with
    inputResolution := right.inputResolution, outputResolution := right.outputResolution } = right

def OrderIndependent (versions : RgaHwVersions) : Prop :=
  ∀ permuted : RgaHwVersions, permuted.listed.Perm versions.listed →
    rgaGetInfo permuted {} = rgaGetInfo versions {}

def BoundsResolutions (versions : RgaHwVersions) : Prop :=
  ∀ table ∈ versions.coreTables,
    table.inputResolution.atMost (rgaGetInfo versions {}).2.inputResolution ∧
      table.outputResolution.atMost (rgaGetInfo versions {}).2.outputResolution

/-! One fold for each field -/

@[simp] theorem max_toNat (left right : UInt32) :
    (max left right).toNat = max left.toNat right.toNat := by
  have unfolded : max left right = if left ≤ right then right else left := rfl
  rw [unfolded]
  split
  · rename_i upTo
    have := UInt32.le_iff_toNat_le.mp upTo
    omega
  · rename_i beyond
    have := mt UInt32.le_iff_toNat_le.mpr beyond
    omega

instance rightCommutativeMax : RightCommutative (max : UInt32 → UInt32 → UInt32) where
  right_comm first second third := by
    apply UInt32.toNat_inj.mp
    simp only [max_toNat]
    omega

def mergeTables (tables : List RgaInfoTableEntry) : RgaInfoTableEntry :=
  tables.foldl rgaSupportInfoMergeTable {}

theorem merge_field {β : Type} (field : RgaInfoTableEntry → β) (combine : β → β → β)
    (merges : ∀ dst table,
      combine (field dst) (field table) = field (rgaSupportInfoMergeTable dst table))
    (tables : List RgaInfoTableEntry) :
    field (mergeTables tables) = (tables.map field).foldl combine (field {}) := by
  rw [mergeTables, List.foldl_map]
  exact (List.foldl_hom field merges).symm

theorem merge_resolution (field : RgaInfoTableEntry → RgaInfoResolution)
    (merges : ∀ dst table, rgaSupportInfoMergeResolution (field dst) (field table) =
      field (rgaSupportInfoMergeTable dst table))
    (tables : List RgaInfoTableEntry) :
    field (mergeTables tables) =
      select RgaInfoResolution.smaller (field {}) (tables.map field) := by
  rw [merge_field field rgaSupportInfoMergeResolution merges, select_foldl]
  rfl

theorem merge_mask (field : RgaInfoTableEntry → UInt32)
    (merges : ∀ dst table, field dst ||| field table = field (rgaSupportInfoMergeTable dst table))
    (empty : field {} = 0) (tables : List RgaInfoTableEntry) (bit : Nat) :
    (field (mergeTables tables)).toBitVec.getLsbD bit =
      tables.any fun table => (field table).toBitVec.getLsbD bit := by
  have union (masks : List UInt32) (start : UInt32) :
      (masks.foldl (· ||| ·) start).toBitVec.getLsbD bit =
        (start.toBitVec.getLsbD bit || masks.any fun mask => mask.toBitVec.getLsbD bit) := by
    induction masks generalizing start with
    | nil => simp
    | cons mask rest ih => simp [ih, Bool.or_assoc]
  rw [merge_field field _ merges, union, empty]
  simp [Function.comp_def]

theorem merge_limit (field : RgaInfoTableEntry → UInt32)
    (merges : ∀ dst table, max (field dst) (field table) =
      field (rgaSupportInfoMergeTable dst table))
    {tables : List RgaInfoTableEntry} {table : RgaInfoTableEntry} (member : table ∈ tables) :
    field table ≤ field (mergeTables tables) := by
  have bounds (limits : List UInt32) (start : UInt32) :
      start.toNat ≤ (limits.foldl max start).toNat ∧
        ∀ limit ∈ limits, limit.toNat ≤ (limits.foldl max start).toNat := by
    induction limits generalizing start with
    | nil => simp
    | cons limit rest ih =>
        obtain ⟨kept, later⟩ := ih (max start limit)
        rw [max_toNat] at kept
        rw [List.foldl_cons]
        constructor
        · omega
        · intro other listed
          obtain rfl | listed := List.mem_cons.mp listed
          · omega
          · exact later other listed
  rw [merge_field field max merges, UInt32.le_iff_toNat_le]
  exact (bounds _ _).2 _ (List.mem_map_of_mem member)

theorem merge_limit_mem (field : RgaInfoTableEntry → UInt32)
    (merges : ∀ dst table, max (field dst) (field table) =
      field (rgaSupportInfoMergeTable dst table))
    (tables : List RgaInfoTableEntry) :
    field (mergeTables tables) = field {} ∨ field (mergeTables tables) ∈ tables.map field := by
  have chosen (limits : List UInt32) (start : UInt32) :
      limits.foldl max start = start ∨ limits.foldl max start ∈ limits := by
    induction limits generalizing start with
    | nil => exact .inl rfl
    | cons limit rest ih =>
        have step : max start limit = start ∨ max start limit = limit := by
          simp only [← UInt32.toNat_inj, max_toNat]
          omega
        rw [List.foldl_cons, List.mem_cons]
        rcases ih (max start limit) with same | later
        · rw [same]
          rcases step with kept | taken
          · exact .inl kept
          · exact .inr (.inl taken)
        · exact .inr (.inr later)
  rw [merge_field field max merges]
  exact chosen _ _

theorem merge_perm {β : Type} (field : RgaInfoTableEntry → β) (combine : β → β → β)
    [RightCommutative combine]
    (merges : ∀ dst table,
      combine (field dst) (field table) = field (rgaSupportInfoMergeTable dst table))
    {permuted tables : List RgaInfoTableEntry} (perm : permuted.Perm tables) :
    field (mergeTables permuted) = field (mergeTables tables) := by
  rw [merge_field field combine merges, merge_field field combine merges]
  exact (perm.map field).foldl_eq _

/-! The loop over the cores -/

theorem rgaMergeCores_some_iff (table merged : RgaInfoTableEntry) (versions : List RgaVersion) :
    rgaMergeCores table versions = some merged ↔
      (∀ version ∈ versions, (rgaCoreTable.lookup version).isSome) ∧
        merged = (versions.filterMap fun version => rgaCoreTable.lookup version).foldl
          rgaSupportInfoMergeTable table := by
  induction versions generalizing table with
  | nil =>
      simp only [rgaMergeCores, Option.some.injEq, List.not_mem_nil, false_implies, implies_true,
        true_and, List.filterMap_nil, List.foldl_nil]
      exact eq_comm
  | cons version rest ih =>
      cases row : rgaCoreTable.lookup version with
      | none =>
          simp only [rgaMergeCores, row, reduceCtorEq, false_iff]
          rintro ⟨known, -⟩
          have first := known version List.mem_cons_self
          rw [row] at first
          cases first
      | some entry =>
          simp only [rgaMergeCores, row, ih, List.forall_mem_cons, Option.isSome_some, true_and,
            List.filterMap_cons, List.foldl_cons]

theorem rgaGetInfo_known {versions : RgaHwVersions} (known : versions.Known) :
    rgaGetInfo versions {} = (.success, mergeTables versions.coreTables) := by
  have merged := (rgaMergeCores_some_iff {} _ versions.listed).mpr ⟨known, rfl⟩
  unfold RgaHwVersions.listed at merged
  rw [rgaGetInfo, merged]
  rfl

theorem known_perm {permuted versions : RgaHwVersions} (known : versions.Known)
    (perm : permuted.listed.Perm versions.listed) : permuted.Known := by
  intro version listed
  exact known version (perm.mem_iff.mp listed)

theorem coreTables_perm {permuted versions : RgaHwVersions}
    (perm : permuted.listed.Perm versions.listed) :
    permuted.coreTables.Perm versions.coreTables :=
  perm.filterMap _

/-- Every row of the table can be divided by and scaled with. -/
theorem coreTable_positive {version : RgaVersion} {entry : RgaInfoTableEntry}
    (row : rgaCoreTable.lookup version = some entry) :
    RgaInfoResolution.smaller {} entry.inputResolution ∧
      RgaInfoResolution.smaller {} entry.outputResolution ∧
      (entry.byteStride = 4 ∨ entry.byteStride = 16) ∧ 0 < entry.scaleLimit := by
  have rows : ∀ entry ∈ rgaCoreTable.map (·.2),
      RgaInfoResolution.smaller {} entry.inputResolution ∧
        RgaInfoResolution.smaller {} entry.outputResolution ∧
        (entry.byteStride = 4 ∨ entry.byteStride = 16) ∧ 0 < entry.scaleLimit := by
    decide
  apply rows
  obtain ⟨before, after, split, _⟩ := List.lookup_eq_some_iff.mp row
  simp [split]

theorem coreTables_positive {versions : RgaHwVersions} {table : RgaInfoTableEntry}
    (member : table ∈ versions.coreTables) :
    RgaInfoResolution.smaller {} table.inputResolution ∧
      RgaInfoResolution.smaller {} table.outputResolution ∧
      (table.byteStride = 4 ∨ table.byteStride = 16) ∧ 0 < table.scaleLimit := by
  obtain ⟨version, _, row⟩ := List.mem_filterMap.mp member
  exact coreTable_positive row

/-- Every order of the listed cores is that of some report of the driver. -/
theorem exists_listed (versions : RgaHwVersions) {order : List RgaVersion}
    (perm : order.Perm versions.listed) : ∃ permuted : RgaHwVersions, permuted.listed = order := by
  have count : order.length = versions.size.toNat := by
    simp [perm.length_eq, RgaHwVersions.listed]
  refine ⟨{ version := order, size := versions.size }, ?_⟩
  apply List.ext_getElem
  · simp [RgaHwVersions.listed, count]
  · intro index _ inside
    simp [RgaHwVersions.listed, RgaHwVersions.entry, inside]

/-! Lists of known cores -/

theorem merge_selected (field : RgaInfoTableEntry → RgaInfoResolution)
    (merges : ∀ dst table, rgaSupportInfoMergeResolution (field dst) (field table) =
      field (rgaSupportInfoMergeTable dst table))
    {versions : RgaHwVersions}
    (start : ∀ table ∈ versions.coreTables, RgaInfoResolution.smaller (field {}) (field table)) :
    (versions.coreTables ≠ [] →
        field (mergeTables versions.coreTables) ∈ versions.coreTables.map field) ∧
      ∀ table ∈ versions.coreTables,
        ¬RgaInfoResolution.smaller (field (mergeTables versions.coreTables)) (field table) := by
  rw [merge_resolution field merges]
  have maximal : ∀ table ∈ versions.coreTables, ¬RgaInfoResolution.smaller
      (select RgaInfoResolution.smaller (field {}) (versions.coreTables.map field))
      (field table) := by
    intro table member
    exact select_maximal _ _ (List.mem_map_of_mem member)
  refine ⟨?_, maximal⟩
  intro listed
  rcases select_mem RgaInfoResolution.smaller (field {})
    (versions.coreTables.map field) with same | chosen
  · obtain ⟨table, member⟩ := List.exists_mem_of_ne_nil _ listed
    exact absurd (same.symm ▸ start table member) (maximal table member)
  · exact chosen

theorem mergedFrom_coreTables (versions : RgaHwVersions) :
    MergedFrom versions.coreTables (mergeTables versions.coreTables) where
  inputFormat bit := merge_mask (·.inputFormat) (fun _ _ => rfl) rfl _ bit
  outputFormat bit := merge_mask (·.outputFormat) (fun _ _ => rfl) rfl _ bit
  feature bit := merge_mask (·.feature) (fun _ _ => rfl) rfl _ bit
  scaleLimit _ member := ⟨merge_limit (·.scaleLimit) (fun _ _ => rfl) member,
    merge_limit (·.scaleVerBicubicLimit) (fun _ _ => rfl) member⟩
  inputResolution := merge_selected (·.inputResolution) (fun _ _ => rfl)
    fun _ member => (coreTables_positive member).1
  outputResolution := merge_selected (·.outputResolution) (fun _ _ => rfl)
    fun _ member => (coreTables_positive member).2.1

theorem sameLimits_perm {permuted tables : List RgaInfoTableEntry} (perm : permuted.Perm tables) :
    (mergeTables permuted).SameLimits (mergeTables tables) := by
  unfold RgaInfoTableEntry.SameLimits
  rw [RgaInfoTableEntry.mk.injEq]
  refine ⟨?_, rfl, rfl, ?_, ?_, ?_, ?_, ?_, ?_, ?_⟩
  · exact merge_perm (·.version) (· ||| ·) (fun _ _ => rfl) perm
  · exact merge_perm (·.byteStride) max (fun _ _ => rfl) perm
  · exact merge_perm (·.scaleLimit) max (fun _ _ => rfl) perm
  · exact merge_perm (·.performance) max (fun _ _ => rfl) perm
  · exact merge_perm (·.inputFormat) (· ||| ·) (fun _ _ => rfl) perm
  · exact merge_perm (·.outputFormat) (· ||| ·) (fun _ _ => rfl) perm
  · exact merge_perm (·.feature) (· ||| ·) (fun _ _ => rfl) perm
  · exact merge_perm (·.scaleVerBicubicLimit) max (fun _ _ => rfl) perm

def coreTable (version : RgaVersion) : RgaInfoTableEntry :=
  (rgaCoreTable.lookup version).getD {}

theorem coreTables_known {versions : RgaHwVersions} (known : versions.Known) :
    versions.coreTables = versions.listed.map coreTable := by
  rw [RgaHwVersions.coreTables, ← List.filterMap_eq_map]
  apply List.filterMap_congr
  intro version listed
  obtain ⟨entry, row⟩ := Option.isSome_iff_exists.mp (known version listed)
  simp [coreTable, row]

theorem resolution_order_iff (field : RgaInfoTableEntry → RgaInfoResolution)
    (merges : ∀ dst table, rgaSupportInfoMergeResolution (field dst) (field table) =
      field (rgaSupportInfoMergeTable dst table))
    {versions : RgaHwVersions} (known : versions.Known)
    (start : ∀ table ∈ versions.coreTables, RgaInfoResolution.smaller (field {}) (field table)) :
    (∀ permuted : RgaHwVersions, permuted.listed.Perm versions.listed →
        field (mergeTables permuted.coreTables) = field (mergeTables versions.coreTables)) ↔
      Topped RgaInfoResolution.smaller (versions.coreTables.map field) := by
  have tables := coreTables_known known
  have selected := select_perm_iff RgaInfoResolution.smaller (field {})
    (fun version => field (coreTable version)) versions.listed
  rw [tables] at start ⊢
  rw [List.map_map]
  refine Iff.trans ?_ (selected fun version listed => start _ (List.mem_map_of_mem listed))
  constructor
  · intro unordered order perm
    obtain ⟨permuted, rfl⟩ := exists_listed versions perm
    have same := unordered permuted perm
    rw [coreTables_known (known_perm known perm), merge_resolution field merges,
      merge_resolution field merges, List.map_map, List.map_map] at same
    exact same
  · intro unordered permuted perm
    rw [coreTables_known (known_perm known perm), merge_resolution field merges,
      merge_resolution field merges, List.map_map, List.map_map]
    exact unordered permuted.listed perm

theorem topped_atMost (field : RgaInfoTableEntry → RgaInfoResolution)
    (merges : ∀ dst table, rgaSupportInfoMergeResolution (field dst) (field table) =
      field (rgaSupportInfoMergeTable dst table))
    {tables : List RgaInfoTableEntry}
    (start : ∀ table ∈ tables, RgaInfoResolution.smaller (field {}) (field table))
    (topped : Topped RgaInfoResolution.smaller (tables.map field)) :
    ∀ table ∈ tables, (field table).atMost (field (mergeTables tables)) := by
  intro table member
  rcases topped with none | ⟨top, listed, above⟩
  · cases (List.map_eq_nil_iff.mp none) ▸ member
  · rw [merge_resolution field merges,
      select_top _ (List.forall_mem_map.mpr start) listed above]
    by_cases same : field table = top
    · rw [same]
      exact ⟨Int32.le_refl _, Int32.le_refl _⟩
    · have below := above _ (List.mem_map_of_mem member) same
      exact ⟨Int32.le_of_lt below.1, Int32.le_of_lt below.2⟩

/-- Only the resolutions depend on the order, and they do unless one listed resolution is larger
in both dimensions than every other one. -/
theorem hardwareMerge_settled (versions : RgaHwVersions) (known : versions.Known) :
    (rgaGetInfo versions {}).1 = .success ∧
      MergedFrom versions.coreTables (rgaGetInfo versions {}).2 ∧
      (∀ permuted : RgaHwVersions, permuted.listed.Perm versions.listed →
        (rgaGetInfo permuted {}).1 = .success ∧
          (rgaGetInfo permuted {}).2.SameLimits (rgaGetInfo versions {}).2) ∧
      (OrderIndependent versions ∧ BoundsResolutions versions ↔
        Topped RgaInfoResolution.smaller (versions.coreTables.map (·.inputResolution)) ∧
          Topped RgaInfoResolution.smaller (versions.coreTables.map (·.outputResolution))) := by
  have inputStart : ∀ table ∈ versions.coreTables,
      RgaInfoResolution.smaller {} table.inputResolution :=
    fun table member => (coreTables_positive member).1
  have outputStart : ∀ table ∈ versions.coreTables,
      RgaInfoResolution.smaller {} table.outputResolution :=
    fun table member => (coreTables_positive member).2.1
  have inputs := resolution_order_iff (·.inputResolution) (fun _ _ => rfl) known inputStart
  have outputs := resolution_order_iff (·.outputResolution) (fun _ _ => rfl) known outputStart
  rw [rgaGetInfo_known known]
  refine ⟨rfl, mergedFrom_coreTables versions, ?_, ?_⟩
  · intro permuted perm
    rw [rgaGetInfo_known (known_perm known perm)]
    exact ⟨rfl, sameLimits_perm (coreTables_perm perm)⟩
  constructor
  · rintro ⟨unordered, -⟩
    have merged : ∀ permuted : RgaHwVersions, permuted.listed.Perm versions.listed →
        mergeTables permuted.coreTables = mergeTables versions.coreTables := by
      intro permuted perm
      have same := unordered permuted perm
      rw [rgaGetInfo_known known, rgaGetInfo_known (known_perm known perm)] at same
      exact congrArg Prod.snd same
    constructor
    · exact inputs.mp fun permuted perm => congrArg (·.inputResolution) (merged permuted perm)
    · exact outputs.mp fun permuted perm => congrArg (·.outputResolution) (merged permuted perm)
  · rintro ⟨input, output⟩
    constructor
    · intro permuted perm
      have limits := sameLimits_perm (coreTables_perm perm)
      rw [rgaGetInfo_known known, rgaGetInfo_known (known_perm known perm)]
      have sameInput : (mergeTables permuted.coreTables).inputResolution =
        (mergeTables versions.coreTables).inputResolution := inputs.mpr input permuted perm
      have sameOutput : (mergeTables permuted.coreTables).outputResolution =
        (mergeTables versions.coreTables).outputResolution := outputs.mpr output permuted perm
      unfold RgaInfoTableEntry.SameLimits at limits
      rw [← sameInput, ← sameOutput] at limits
      exact congrArg (Prod.mk _) limits
    · intro table member
      rw [rgaGetInfo_known known]
      exact ⟨topped_atMost (·.inputResolution) (fun _ _ => rfl) inputStart input table member,
        topped_atMost (·.outputResolution) (fun _ _ => rfl) outputStart output table member⟩

/-- Two RGA3 cores and the enhanced RGA2 of RK3588, in either order. -/
theorem hardwareMerge_settled_rk3588 :
    (rgaGetInfo { version := [⟨3, 0, 0x76831⟩, ⟨3, 0, 0x76831⟩, ⟨3, 2, 0x63318⟩], size := 3 }
        {}).2.SameLimits
      (rgaGetInfo { version := [⟨3, 2, 0x63318⟩, ⟨3, 0, 0x76831⟩, ⟨3, 0, 0x76831⟩], size := 3 }
        {}).2 := by
  have known : RgaHwVersions.Known
      { version := [⟨3, 2, 0x63318⟩, ⟨3, 0, 0x76831⟩, ⟨3, 0, 0x76831⟩], size := 3 } := by
    unfold RgaHwVersions.Known
    decide
  refine ((hardwareMerge_settled _ known).2.2.1 _ ?_).2
  decide

/-- RK3506 reads 1280x8192, the RGA2 Lite2 2880x8192: neither is larger in both dimensions, and the
first of the list wins. -/
theorem hardwareMerge_ordered :
    let cores : RgaHwVersions := { version := [⟨3, 0xa, 0x07135⟩, ⟨3, 0xf, 0x23690⟩], size := 2 }
    let swapped : RgaHwVersions := { version := [⟨3, 0xf, 0x23690⟩, ⟨3, 0xa, 0x07135⟩], size := 2 }
    swapped.listed.Perm cores.listed ∧
      (rgaGetInfo cores {}).1 = .success ∧ (rgaGetInfo swapped {}).1 = .success ∧
      (rgaGetInfo cores {}).2.inputResolution = ⟨1280, 8192⟩ ∧
      (rgaGetInfo swapped {}).2.inputResolution = ⟨2880, 8192⟩ := by
  decide

end LibRga

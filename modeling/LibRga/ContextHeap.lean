import LibRga.LegacyOpen

/-!
A new legacy context beside the memory it was made from.

`malloc` does not clear the block, so the context is compared for two contents of
it. For that the version records are kept whole, with their texts.
-/

namespace LibRga

def rgaVersionSize : Nat := 16

/-- `rga_version_t` -/
structure VersionRecord where
  version : RgaVersion := {}
  str : List UInt8 := List.replicate rgaVersionSize 0
deriving DecidableEq, Repr, Inhabited

/-- `rga_hw_versions_t`, its array split behind the first core -/
structure HwVersionsRecord where
  first : VersionRecord := {}
  others : List VersionRecord := List.replicate (rgaHwSize - 1) {}
  size : UInt32 := 0
deriving DecidableEq, Repr, Inhabited

/-- What a version ioctl of the older drivers writes into `str`: a text with its end. -/
structure VersionText where
  bytes : List UInt8
  fits : bytes.length ≤ rgaVersionSize
  ended : 0 ∈ bytes
deriving DecidableEq, Repr

def cText (bytes : List UInt8) : List UInt8 :=
  bytes.takeWhile (· ≠ 0)

structure OpenAnswers where
  fd : Int32 := -1
  driverVersion : Option VersionRecord := none
  hwVersions : Option HwVersionsRecord := none
  rga2Version : Option VersionText := none
  rga1Version : Option VersionText := none
deriving DecidableEq, Repr

/-- `rgaContext` without its fd and the log settings -/
structure HeapContext where
  mVersion : ℚ := 0
  mHwVersions : HwVersionsRecord := {}
  mDriverVersion : VersionRecord := {}
  driver : RgaDriverIocType := .unknown
  driverFeature : UInt32 := 0
deriving DecidableEq, Repr, Inhabited

def VersionText.over (written : VersionText) (old : List UInt8) : List UInt8 :=
  written.bytes ++ old.drop written.bytes.length

/-- The first record after the ioctl of an older driver and the `sscanf` of its text. -/
def scanRecord (written : VersionText) (old : VersionRecord) : VersionRecord :=
  let str := written.over old.str
  { version := scanVersion (cText str) old.version, str := str }

namespace HeapContext

def rgaSetDriverFeature (ctx : HeapContext) : HeapContext :=
  if (rgaVersionCompare ctx.mDriverVersion.version ⟨1, 3, 0⟩).isGE then
    { ctx with driverFeature := ctx.driverFeature ||| rgaDriverFeatureUserCloseFence }
  else ctx

def normalRgaOpen (block : HeapContext) (answers : OpenAnswers) : Option HeapContext :=
  if answers.fd < 0 then none
  else
    match answers.driverVersion with
    | some driverVersion =>
        answers.hwVersions.map fun versions =>
          { block with
            mDriverVersion := driverVersion
            mHwVersions := versions
            mVersion := Float32.round (Float32.double (32 / 10))
            driver := .multiRga }.rgaSetDriverFeature
    | none =>
        (answers.rga2Version.or answers.rga1Version).map fun written =>
          let first := scanRecord written block.mHwVersions.first
          { block with
            mHwVersions := { block.mHwVersions with first := first, size := 1 }
            mVersion := Float32.round (atof (cText first.str))
            driver := .rga2 }.rgaSetDriverFeature

/-- What `RgaInit` returns; a version that the tables refuse is closed again. -/
def rgaInit (block : HeapContext) (answers : OpenAnswers) : Int32 :=
  match block.normalRgaOpen answers with
  | none => if answers.fd < 0 then -19 else -1
  | some ctx =>
      match rgaCheckDriver ctx.mDriverVersion.version with
      | .errorVersion => -1
      | status => status.toInt32

end HeapContext

/-! The context without the texts -/

def HwVersionsRecord.versions (record : HwVersionsRecord) : RgaHwVersions :=
  { version := record.first.version :: record.others.map VersionRecord.version
    str := cText record.first.str
    size := record.size }

def OpenAnswers.reply (answers : OpenAnswers) : SessionReply :=
  { fd := answers.fd
    driverVersion := answers.driverVersion.map VersionRecord.version
    hwVersions := answers.hwVersions.map HwVersionsRecord.versions
    rga2Version := answers.rga2Version.map fun written => cText written.bytes
    rga1Version := answers.rga1Version.map fun written => cText written.bytes }

def HeapContext.block (ctx : HeapContext) : ContextBlock :=
  { mVersion := ctx.mVersion
    mHwVersions := ctx.mHwVersions.versions
    mDriverVersion := ctx.mDriverVersion.version
    driver := ctx.driver
    driverFeature := ctx.driverFeature }

-- the text ends before what is left of the old one
theorem cText_over (written : VersionText) (old : List UInt8) :
    cText (written.over old) = cText written.bytes := by
  have short : (written.bytes.takeWhile (· ≠ 0)).length ≠ written.bytes.length := by
    intro whole
    have same := (List.takeWhile_sublist (l := written.bytes) (· ≠ 0)).eq_of_length whole
    have all := List.all_takeWhile (p := (· ≠ 0)) (l := written.bytes)
    rw [same] at all
    have zero := List.all_eq_true.mp all 0 written.ended
    simp at zero
  unfold cText VersionText.over
  rw [List.takeWhile_append, if_neg short]

theorem rgaSetDriverFeature_block (ctx : HeapContext) :
    ctx.rgaSetDriverFeature.block = ctx.block.rgaSetDriverFeature := by
  unfold HeapContext.rgaSetDriverFeature ContextBlock.rgaSetDriverFeature
  rw [apply_ite HeapContext.block]
  rfl

theorem normalRgaOpen_block (block : HeapContext) (answers : OpenAnswers) :
    (block.normalRgaOpen answers).map HeapContext.block =
      block.block.normalRgaOpen answers.reply := by
  unfold HeapContext.normalRgaOpen ContextBlock.normalRgaOpen OpenAnswers.reply
  by_cases closed : answers.fd < 0
  · rw [if_pos closed, if_pos closed]
    rfl
  · rw [if_neg closed, if_neg closed]
    cases answers.driverVersion with
    | some driverVersion =>
        dsimp only [Option.map_some]
        rw [Option.map_map, Option.map_map]
        congr 1
        funext versions
        exact rgaSetDriverFeature_block _
    | none =>
        dsimp only [Option.map_none]
        have texts : (answers.rga2Version.map fun written => cText written.bytes).or
            (answers.rga1Version.map fun written => cText written.bytes) =
              (answers.rga2Version.or answers.rga1Version).map
                fun written => cText written.bytes := by
          cases answers.rga2Version <;> rfl
        rw [texts, Option.map_map, Option.map_map]
        congr 1
        funext written
        refine (rgaSetDriverFeature_block _).trans ?_
        simp only [Function.comp, HeapContext.block, HwVersionsRecord.versions, scanRecord,
          cText_over]
        rfl

/-! Two contents of the block -/

/-- The fields of a context that a client depends on. -/
structure ContextFields where
  driver : RgaDriverIocType
  driverFeature : UInt32
  mHwVersions : HwVersionsRecord
  mDriverVersion : VersionRecord
deriving DecidableEq, Repr

def HeapContext.fields (ctx : HeapContext) : ContextFields :=
  { driver := ctx.driver
    driverFeature := ctx.driverFeature
    mHwVersions := ctx.mHwVersions
    mDriverVersion := ctx.mDriverVersion }

def HeapContext.outcome (block : HeapContext) (answers : OpenAnswers) :
    Option ContextFields × Int32 :=
  ((block.normalRgaOpen answers).map HeapContext.fields, block.rgaInit answers)

def featureBits (version : RgaVersion) : UInt32 :=
  if (rgaVersionCompare version ⟨1, 3, 0⟩).isGE then rgaDriverFeatureUserCloseFence else 0

/-- How many of the three numbers of a version the text has. -/
def scanCount (text : List UInt8) : Nat :=
  match scanHex text with
  | none => 0
  | some (_, text) =>
      match scanDotHex text with
      | none => 1
      | some (_, text) =>
          match scanDotHex text with
          | none => 2
          | some _ => 3

/-- Two records agree in what the text of an older driver does not overwrite. -/
structure SameRest (written : VersionText) (first second : HwVersionsRecord) : Prop where
  major : scanCount (cText written.bytes) < 1 →
    first.first.version.major = second.first.version.major
  minor : scanCount (cText written.bytes) < 2 →
    first.first.version.minor = second.first.version.minor
  revision : scanCount (cText written.bytes) < 3 →
    first.first.version.revision = second.first.version.revision
  str : first.first.str.drop written.bytes.length = second.first.str.drop written.bytes.length
  others : first.others = second.others

/-- Two blocks agree in what an open with these answers leaves as it was. -/
def SameLeft (answers : OpenAnswers) (first second : HeapContext) : Prop :=
  match answers.driverVersion with
  | some driverVersion => answers.hwVersions.isSome = true →
      first.driverFeature ||| featureBits driverVersion.version =
        second.driverFeature ||| featureBits driverVersion.version
  | none => ∀ written, answers.rga2Version.or answers.rga1Version = some written →
      first.mDriverVersion = second.mDriverVersion ∧
        first.driverFeature ||| featureBits first.mDriverVersion.version =
          second.driverFeature ||| featureBits first.mDriverVersion.version ∧
        SameRest written first.mHwVersions second.mHwVersions

theorem scanVersion_eq_iff (text : List UInt8) (first second : RgaVersion) :
    scanVersion text first = scanVersion text second ↔
      (scanCount text < 1 → first.major = second.major) ∧
        (scanCount text < 2 → first.minor = second.minor) ∧
        (scanCount text < 3 → first.revision = second.revision) := by
  obtain ⟨major, minor, revision⟩ := first
  obtain ⟨major', minor', revision'⟩ := second
  unfold scanVersion scanCount
  rcases scanHex text with _ | ⟨_, rest⟩
  · simp
  · dsimp only
    rcases scanDotHex rest with _ | ⟨_, rest⟩
    · simp
    · dsimp only
      rcases scanDotHex rest with _ | ⟨_, rest⟩
      · simp
      · simp

theorem scanRecord_eq_iff (written : VersionText) (first second : VersionRecord) :
    scanRecord written first = scanRecord written second ↔
      scanVersion (cText written.bytes) first.version =
          scanVersion (cText written.bytes) second.version ∧
        first.str.drop written.bytes.length = second.str.drop written.bytes.length := by
  unfold scanRecord
  rw [VersionRecord.mk.injEq, cText_over, cText_over]
  unfold VersionText.over
  rw [List.append_cancel_left_eq]

theorem sameRest_iff (written : VersionText) (first second : HwVersionsRecord) :
    SameRest written first second ↔
      scanRecord written first.first = scanRecord written second.first ∧
        first.others = second.others := by
  rw [scanRecord_eq_iff, scanVersion_eq_iff]
  exact ⟨fun ⟨major, minor, revision, str, others⟩ => ⟨⟨⟨major, minor, revision⟩, str⟩, others⟩,
    fun ⟨⟨⟨major, minor, revision⟩, str⟩, others⟩ => ⟨major, minor, revision, str, others⟩⟩

theorem rgaSetDriverFeature_fields (ctx : HeapContext) :
    ctx.rgaSetDriverFeature.fields =
      { ctx.fields with
        driverFeature := ctx.driverFeature ||| featureBits ctx.mDriverVersion.version } := by
  unfold HeapContext.rgaSetDriverFeature featureBits
  split
  · rfl
  · simp [HeapContext.fields]

-- the library is newer than the last row of the table, which accepts every driver
theorem rgaCheckDriver_success (version : RgaVersion) : rgaCheckDriver version = .success := by
  have index : rgaVersionTableGetCurrentIndex rgaSetCurrentApiVersion userDriverBindTable = 4 := by
    decide
  have range : rgaVersionTableCheckMinimumRange version userDriverBindTable 4 = 0 ∨
      rgaVersionTableCheckMinimumRange version userDriverBindTable 4 = -1 := by
    unfold rgaVersionTableCheckMinimumRange
    split
    · exact .inl rfl
    · exact .inr rfl
  have checked : rgaVersionCheck rgaSetCurrentApiVersion version userDriverBindTable =
      rgaVersionTableCheckMinimumRange version userDriverBindTable 4 := by
    unfold rgaVersionCheck
    rw [index]
    rfl
  unfold rgaCheckDriver
  rw [checked]
  exact if_pos range

theorem rgaInit_eq (block : HeapContext) (answers : OpenAnswers) :
    block.rgaInit answers =
      if (block.normalRgaOpen answers).isSome then 1 else if answers.fd < 0 then -19 else -1 := by
  unfold HeapContext.rgaInit
  cases block.normalRgaOpen answers with
  | none => rfl
  | some ctx =>
      dsimp only
      rw [rgaCheckDriver_success]
      rfl

theorem normalRgaOpen_isSome_eq (answers : OpenAnswers) (first second : HeapContext) :
    (first.normalRgaOpen answers).isSome = (second.normalRgaOpen answers).isSome := by
  unfold HeapContext.normalRgaOpen
  by_cases closed : answers.fd < 0
  · simp [closed]
  · cases answers.driverVersion <;> simp [closed]

/-- The block shows in a context exactly where the open leaves it as it was: always in the
feature word, and without a driver version in most of the version records. -/
theorem context_independent_iff (answers : OpenAnswers) (first second : HeapContext) :
    first.outcome answers = second.outcome answers ↔
      (0 ≤ answers.fd → SameLeft answers first second) := by
  have result : first.rgaInit answers = second.rgaInit answers := by
    rw [rgaInit_eq, rgaInit_eq, normalRgaOpen_isSome_eq answers first second]
  unfold HeapContext.outcome
  rw [Prod.mk.injEq, and_iff_left result]
  unfold HeapContext.normalRgaOpen SameLeft
  by_cases closed : answers.fd < 0
  · rw [if_pos closed, if_pos closed]
    exact iff_of_true rfl fun opened => absurd closed (Int32.not_lt.mpr opened)
  · rw [if_neg closed, if_neg closed, imp_iff_right (Int32.not_lt.mp closed)]
    cases answers.driverVersion with
    | some driverVersion =>
        cases answers.hwVersions with
        | none => simp
        | some versions =>
            simp only [Option.map_some, rgaSetDriverFeature_fields]
            simp [HeapContext.fields]
    | none =>
        dsimp only
        cases answers.rga2Version.or answers.rga1Version with
        | none => simp
        | some written =>
            simp only [Option.map_some, rgaSetDriverFeature_fields]
            simp only [Option.some.injEq, HeapContext.fields, ContextFields.mk.injEq,
              HwVersionsRecord.mk.injEq, true_and, and_true, forall_eq', sameRest_iff]
            constructor
            · rintro ⟨feature, ⟨scanned, others⟩, version⟩
              rw [← version] at feature
              exact ⟨version, feature, scanned, others⟩
            · rintro ⟨version, feature, scanned, others⟩
              rw [← version]
              exact ⟨feature, ⟨scanned, others⟩, rfl⟩

/-- A driver before 1.3.0 is taken to close fences when the block happens to say so. -/
theorem context_depends_on_block :
    let answers : OpenAnswers :=
      { fd := 3, driverVersion := some { version := ⟨1, 2, 4⟩ }, hwVersions := some {} }
    ¬ HeapContext.outcome { driverFeature := rgaDriverFeatureUserCloseFence } answers =
      HeapContext.outcome {} answers := by
  decide +kernel

end LibRga

import LibRga.ContextHeap
import LibRga.HardwareMerge
import LibRga.Session

/-!
The session with its version records whole, and what a failed attempt leaves in it for the next.

The version ioctls of a newer driver write whole records, that of an older one only the front
of a text, and `rga_get_info` merges into the table that is there.
-/

namespace LibRga

/-- `rga_session_t` without its locks, the version records with their texts -/
structure SessionRecord where
  rgaDevFd : Int32 := -1
  coreVersion : HwVersionsRecord := {}
  driverVersion : VersionRecord := {}
  driverType : RgaDriverIocType := .unknown
  driverFeature : UInt32 := 0
  hardwareInfo : RgaInfoTableEntry := {}
deriving DecidableEq, Repr, Inhabited

namespace SessionRecord

def setDriverFeature (session : SessionRecord) : SessionRecord :=
  if (rgaVersionCompare session.driverVersion.version ⟨1, 3, 0⟩).isGE then
    { session with driverFeature := session.driverFeature ||| rgaDriverFeatureUserCloseFence }
  else session

/-- The queries of `rga_device_init`; the flag says whether they were answered. -/
def queryVersions (session : SessionRecord) (answers : OpenAnswers) : SessionRecord × Bool :=
  match answers.driverVersion with
  | some driverVersion =>
      let session := { session with driverVersion := driverVersion }
      match answers.hwVersions with
      | none => (session, false)
      | some versions => ({ session with coreVersion := versions, driverType := .multiRga }, true)
  | none =>
      let session := { session with coreVersion := { session.coreVersion with size := 1 } }
      match answers.rga2Version.or answers.rga1Version with
      | none => (session, false)
      | some written =>
          let first := scanRecord written session.coreVersion.first
          ({ session with
              coreVersion := { session.coreVersion with first := first }
              driverType := if first.version.major < 2 then .rga1 else .rga2 }, true)

def rgaDeviceInit (session : SessionRecord) (answers : OpenAnswers) :
    ImStatus × SessionRecord × List DeviceCall :=
  if answers.fd < 0 then (.failed, session, [])
  else
    let asked := session.queryVersions answers
    if asked.2 = false then (.failed, asked.1, [.openFd answers.fd, .closeFd answers.fd])
    else if rgaCheckDriver asked.1.driverVersion.version = .errorVersion then
      (.errorVersion, asked.1, [.openFd answers.fd, .closeFd answers.fd])
    else
      (.success, { asked.1.setDriverFeature with rgaDevFd := answers.fd }, [.openFd answers.fd])

def rgaDeviceExit (session : SessionRecord) : SessionRecord × List DeviceCall :=
  if session.rgaDevFd < 0 then (session, [])
  else
    ({ session with rgaDevFd := -1, driverType := .unknown, driverFeature := 0 },
      [.closeFd session.rgaDevFd])

def rgaSessionInit (session : SessionRecord) (answers : OpenAnswers) :
    ImStatus × SessionRecord × List DeviceCall :=
  let (ret, session, calls) := session.rgaDeviceInit answers
  if ret ≠ .success then (ret, session, calls)
  else
    let (ret, info) := rgaGetInfo session.coreVersion.versions session.hardwareInfo
    let session := { session with hardwareInfo := info }
    if ret ≠ .success then
      let (session, closing) := session.rgaDeviceExit
      (ret, session, calls ++ closing)
    else (.success, session, calls)

/-- `get_rga_session` under the write lock, where the session is not there yet. -/
def attempt (session : SessionRecord) (answers : OpenAnswers) :
    Option (SessionRecord × ImStatus) :=
  if 0 < session.rgaDevFd then none
  else some ((session.rgaSessionInit answers).2.1, (session.rgaSessionInit answers).1)

/-! The session without the texts -/

def data (session : SessionRecord) : SessionData :=
  { rgaDevFd := session.rgaDevFd
    coreVersion := session.coreVersion.versions
    driverVersion := session.driverVersion.version
    driverType := session.driverType
    driverFeature := session.driverFeature
    hardwareInfo := session.hardwareInfo }

theorem setDriverFeature_data (session : SessionRecord) :
    session.setDriverFeature.data = session.data.setDriverFeature := by
  unfold setDriverFeature SessionData.setDriverFeature
  rw [apply_ite data]
  rfl

theorem queryVersions_data (session : SessionRecord) (answers : OpenAnswers) :
    session.data.queryVersions answers.reply =
      ((session.queryVersions answers).1.data, (session.queryVersions answers).2) := by
  obtain ⟨fd, driverVersion, hwVersions, rga2Version, rga1Version⟩ := answers
  cases driverVersion with
  | some driverVersion => cases hwVersions <;> rfl
  | none =>
      have scanned (written : VersionText) :
          scanVersion (cText written.bytes) session.coreVersion.first.version =
            (scanRecord written session.coreVersion.first).version := by
        rw [scanRecord, cText_over]
      have kept (written : VersionText) :
          cText (scanRecord written session.coreVersion.first).str = cText written.bytes := by
        rw [scanRecord, cText_over]
      cases rga2Version with
      | some written =>
          simp [queryVersions, SessionData.queryVersions, OpenAnswers.reply, data,
            HwVersionsRecord.versions, RgaHwVersions.entry, scanned, kept]
      | none =>
          cases rga1Version with
          | none => rfl
          | some written =>
              simp [queryVersions, SessionData.queryVersions, OpenAnswers.reply, data,
                HwVersionsRecord.versions, RgaHwVersions.entry, scanned, kept]

variable (session : SessionRecord) (answers : OpenAnswers)

theorem rgaDeviceInit_data :
    session.data.rgaDeviceInit answers.reply =
      ((session.rgaDeviceInit answers).1, (session.rgaDeviceInit answers).2.1.data,
        (session.rgaDeviceInit answers).2.2) := by
  have sameFd : answers.reply.fd = answers.fd := rfl
  have feature := setDriverFeature_data (session.queryVersions answers).1
  unfold SessionData.rgaDeviceInit rgaDeviceInit
  rw [queryVersions_data, sameFd]
  by_cases closed : answers.fd < 0
  · rw [if_pos closed, if_pos closed]
  rw [if_neg closed, if_neg closed]
  dsimp only
  by_cases silent : (session.queryVersions answers).2 = false
  · rw [if_pos silent, if_pos silent]
  rw [if_neg silent, if_neg silent]
  have driver : (session.queryVersions answers).1.data.driverVersion =
      (session.queryVersions answers).1.driverVersion.version := rfl
  rw [driver, rgaCheckDriver_success, if_neg (by decide), if_neg (by decide), ← feature]
  rfl

theorem rgaSessionInit_data :
    session.data.rgaSessionInit answers.reply =
      ((session.rgaSessionInit answers).1, (session.rgaSessionInit answers).2.1.data,
        (session.rgaSessionInit answers).2.2) := by
  unfold SessionData.rgaSessionInit rgaSessionInit
  rw [rgaDeviceInit_data]
  generalize session.rgaDeviceInit answers = device
  obtain ⟨status, opened, calls⟩ := device
  dsimp only
  by_cases failed : status ≠ .success
  · rw [if_pos failed, if_pos failed]
  rw [if_neg failed, if_neg failed]
  have info : rgaGetInfo opened.data.coreVersion opened.data.hardwareInfo =
    rgaGetInfo opened.coreVersion.versions opened.hardwareInfo := rfl
  rw [info]
  by_cases unknown : (rgaGetInfo opened.coreVersion.versions opened.hardwareInfo).1 ≠ .success
  · rw [if_pos unknown, if_pos unknown]
    unfold SessionData.rgaDeviceExit rgaDeviceExit
    have sameFd : opened.data.rgaDevFd = opened.rgaDevFd := rfl
    dsimp only
    rw [sameFd]
    split <;> rfl
  · rw [if_neg unknown, if_neg unknown]
    rfl

/-! One attempt -/

theorem queryVersions_frame :
    (session.queryVersions answers).1.hardwareInfo = session.hardwareInfo ∧
      (session.queryVersions answers).1.driverFeature = session.driverFeature ∧
      (session.queryVersions answers).1.rgaDevFd = session.rgaDevFd := by
  unfold queryVersions
  split <;> split <;> exact ⟨rfl, rfl, rfl⟩

theorem setDriverFeature_eq :
    session.setDriverFeature =
      { session with
        driverFeature := session.driverFeature ||| featureBits session.driverVersion.version } := by
  unfold setDriverFeature featureBits
  split
  · rfl
  · simp

theorem rgaSessionInit_closed (closed : answers.fd < 0) :
    session.rgaSessionInit answers = (.failed, session, []) := by
  simp [rgaSessionInit, rgaDeviceInit, closed]

theorem rgaSessionInit_silent (opened : ¬answers.fd < 0)
    (silent : (session.queryVersions answers).2 = false) :
    session.rgaSessionInit answers =
      (.failed, (session.queryVersions answers).1, [.openFd answers.fd, .closeFd answers.fd]) := by
  simp [rgaSessionInit, rgaDeviceInit, opened, silent]

theorem rgaSessionInit_answered (opened : ¬answers.fd < 0)
    (answered : (session.queryVersions answers).2 = true) :
    let asked := (session.queryVersions answers).1
    let info := rgaGetInfo asked.coreVersion.versions session.hardwareInfo
    session.rgaSessionInit answers =
      if info.1 = .success then
        (.success,
          { asked with
            rgaDevFd := answers.fd
            driverFeature := session.driverFeature ||| featureBits asked.driverVersion.version
            hardwareInfo := info.2 },
          [.openFd answers.fd])
      else
        (info.1,
          { asked with
            rgaDevFd := -1, driverType := .unknown, driverFeature := 0, hardwareInfo := info.2 },
          [.openFd answers.fd, .closeFd answers.fd]) := by
  intro asked info
  obtain ⟨hardware, feature, _⟩ := queryVersions_frame session answers
  have device : session.rgaDeviceInit answers =
      (.success,
        { asked with
          rgaDevFd := answers.fd
          driverFeature := session.driverFeature ||| featureBits asked.driverVersion.version },
        [.openFd answers.fd]) := by
    unfold rgaDeviceInit
    rw [if_neg opened]
    dsimp only
    rw [answered, if_neg (by decide), rgaCheckDriver_success, if_neg (by decide),
      setDriverFeature_eq, feature]
  unfold rgaSessionInit
  rw [device]
  dsimp only
  rw [if_neg (by decide), hardware]
  by_cases known : info.1 = .success
  · rw [if_pos known, if_neg (not_not.mpr known)]
  · rw [if_neg known, if_pos known, rgaDeviceExit, if_neg opened]
    rfl

theorem answered_iff :
    (session.queryVersions answers).2 = true ↔
      (∃ driverVersion versions, answers.driverVersion = some driverVersion ∧
        answers.hwVersions = some versions) ∨
      answers.driverVersion = none ∧
        ∃ written, answers.rga2Version.or answers.rga1Version = some written := by
  obtain ⟨fd, driverVersion, hwVersions, rga2Version, rga1Version⟩ := answers
  cases driverVersion with
  | some driverVersion => cases hwVersions <;> simp [queryVersions]
  | none => cases rga2Version <;> cases rga1Version <;> simp [queryVersions]

end SessionRecord

/-! What a table that is not zeroed does to the merge -/

theorem rgaGetInfo_status (versions : RgaHwVersions) (first second : RgaInfoTableEntry) :
    (rgaGetInfo versions first).1 = (rgaGetInfo versions second).1 := by
  have merges (table other merged : RgaInfoTableEntry)
      (done : rgaMergeCores table versions.listed = some merged) :
      ∃ merged, rgaMergeCores other versions.listed = some merged := by
    obtain ⟨known, _⟩ := (rgaMergeCores_some_iff _ _ _).mp done
    exact ⟨_, (rgaMergeCores_some_iff _ _ _).mpr ⟨known, rfl⟩⟩
  unfold RgaHwVersions.listed at merges
  unfold rgaGetInfo
  cases left : rgaMergeCores first ((List.range versions.size.toNat).map versions.entry) with
  | some merged =>
      obtain ⟨other, right⟩ := merges first second merged left
      rw [right]
  | none =>
      cases right : rgaMergeCores second
          ((List.range versions.size.toNat).map versions.entry) with
      | some merged =>
          obtain ⟨other, again⟩ := merges second first merged right
          cases left.symm.trans again
      | none => rfl

theorem rgaGetInfo_unknown {versions : RgaHwVersions} (unknown : ¬versions.Known)
    (table : RgaInfoTableEntry) :
    rgaGetInfo versions table =
      (if rgaCompatibleIndex versions.str = .vErr then .failed else .success,
        hwInfoTable (rgaCompatibleIndex versions.str)) := by
  have none : rgaMergeCores table versions.listed = none := by
    rw [Option.eq_none_iff_forall_ne_some]
    intro merged done
    exact unknown ((rgaMergeCores_some_iff _ _ _).mp done).1
  unfold RgaHwVersions.listed at none
  rw [rgaGetInfo, none]

theorem rgaGetInfo_failed {versions : RgaHwVersions} {table : RgaInfoTableEntry}
    (failed : (rgaGetInfo versions table).1 ≠ .success) :
    (rgaGetInfo versions table).2 = hwInfoTable .vErr := by
  by_cases known : versions.Known
  · rw [rgaGetInfo_status versions table {}, rgaGetInfo_known known] at failed
    exact absurd rfl failed
  · rw [rgaGetInfo_unknown known] at failed ⊢
    by_cases index : rgaCompatibleIndex versions.str = .vErr
    · rw [index]
    · exact absurd (if_neg index) failed

def errorBit (table : RgaInfoTableEntry) : Bool :=
  table.version.toBitVec.getLsbD 0

/-- The bit that the table of an unknown core leaves behind. -/
theorem errorBit_merges (versions : RgaHwVersions) (table : RgaInfoTableEntry) :
    errorBit (versions.coreTables.foldl rgaSupportInfoMergeTable table) = errorBit table := by
  have clear : ∀ entry ∈ versions.coreTables, errorBit entry = false := by
    have rows : ∀ row ∈ rgaCoreTable, errorBit row.2 = false := by
      decide
    intro entry member
    obtain ⟨version, _, found⟩ := List.mem_filterMap.mp member
    obtain ⟨before, after, split, _⟩ := List.lookup_eq_some_iff.mp found
    exact rows (version, entry) (by simp [split])
  generalize versions.coreTables = entries at clear
  induction entries generalizing table with
  | nil => rfl
  | cons entry rest ih =>
      rw [List.foldl_cons, ih (rgaSupportInfoMergeTable table entry)
        fun other member => clear other (List.mem_cons_of_mem _ member)]
      have bit : errorBit (rgaSupportInfoMergeTable table entry) =
          (errorBit table || errorBit entry) := by
        simp [errorBit, rgaSupportInfoMergeTable]
      rw [bit, clear entry List.mem_cons_self, Bool.or_false]

theorem rgaGetInfo_fresh_iff (versions : RgaHwVersions) {table : RgaInfoTableEntry}
    (left : table = {} ∨ table = hwInfoTable .vErr) :
    rgaGetInfo versions table = rgaGetInfo versions {} ↔ table = {} ∨ ¬versions.Known := by
  by_cases known : versions.Known
  · rw [or_iff_left (not_not.mpr known)]
    constructor
    · intro same
      rcases left with zeroed | stained
      · exact zeroed
      · have merged (start : RgaInfoTableEntry) : (rgaGetInfo versions start).2 =
            versions.coreTables.foldl rgaSupportInfoMergeTable start := by
          have done := (rgaMergeCores_some_iff start _ versions.listed).mpr ⟨known, rfl⟩
          unfold RgaHwVersions.listed at done
          rw [rgaGetInfo, done]
          rfl
        have bits := congrArg (fun answer => errorBit answer.2) same
        rw [merged, merged, errorBit_merges, errorBit_merges, stained] at bits
        exact absurd bits (by decide)
    · intro zeroed
      rw [zeroed]
  · rw [rgaGetInfo_unknown known, rgaGetInfo_unknown known]
    exact iff_of_true rfl (.inr known)

/-! Failed attempts, then one that succeeds -/

/-- The fields of a session that its requests depend on. -/
structure SessionFields where
  driverType : RgaDriverIocType
  driverFeature : UInt32
  driverVersion : VersionRecord
  coreVersion : HwVersionsRecord
  hardwareInfo : RgaInfoTableEntry
deriving DecidableEq, Repr

namespace SessionRecord

def fields (session : SessionRecord) : SessionFields :=
  { driverType := session.driverType
    driverFeature := session.driverFeature
    driverVersion := session.driverVersion
    coreVersion := session.coreVersion
    hardwareInfo := session.hardwareInfo }

/-- The cores that a first attempt with these answers hands to `rga_get_info`. -/
def freshCores (answers : OpenAnswers) : RgaHwVersions :=
  (({} : SessionRecord).queryVersions answers).1.coreVersion.versions

/-- The session is zeroed in what an attempt with these answers does not write: without a driver
version in the version records, and for known cores in the table. -/
structure Unstained (session : SessionRecord) (answers : OpenAnswers) : Prop where
  versions : answers.driverVersion = none →
    ∀ written, answers.rga2Version.or answers.rga1Version = some written →
      session.driverVersion = {} ∧ SameRest written session.coreVersion {}
  hardwareInfo : session.hardwareInfo = {} ∨ ¬(freshCores answers).Known

/-- What failed attempts leave of a session, beside the version records. -/
structure LeftByFailure (session : SessionRecord) : Prop where
  fd : session.rgaDevFd < 0
  driverFeature : session.driverFeature = 0
  hardwareInfo : session.hardwareInfo = {} ∨ session.hardwareInfo = hwInfoTable .vErr

theorem failed_attempt {session after : SessionRecord} {answers : OpenAnswers}
    {status : ImStatus} (left : session.LeftByFailure)
    (taken : session.attempt answers = some (after, status)) (failed : status ≠ .success) :
    after.LeftByFailure := by
  unfold attempt at taken
  rw [if_neg (Int32.lt_asymm left.fd)] at taken
  cases taken
  by_cases closed : answers.fd < 0
  · rw [rgaSessionInit_closed session answers closed]
    exact left
  obtain ⟨hardware, feature, fd⟩ := queryVersions_frame session answers
  by_cases silent : (session.queryVersions answers).2 = false
  · rw [rgaSessionInit_silent session answers closed silent]
    exact ⟨fd.symm ▸ left.fd, feature.trans left.driverFeature, hardware.symm ▸ left.hardwareInfo⟩
  · have answered := eq_true_of_ne_false silent
    rw [rgaSessionInit_answered session answers closed answered] at failed ⊢
    split at failed
    · exact absurd rfl failed
    · rename_i unknown
      rw [if_neg unknown]
      have negative : (-1 : Int32) < 0 := by decide
      exact ⟨negative, rfl, .inr (rgaGetInfo_failed unknown)⟩

theorem failed_run {trace : List ImStatus} {session : SessionRecord}
    (run : Machine.Run attempt {} trace session) (failed : ∀ status ∈ trace, status ≠ .success) :
    session.LeftByFailure := by
  refine run.invariant (P := fun past session =>
    (∀ status ∈ past, status ≠ .success) → session.LeftByFailure)
    (fun _ => ⟨by decide, rfl, .inl rfl⟩) ?_ failed
  intro past before answers after status _ kept taken failed
  obtain ⟨latest, earlier⟩ := List.forall_mem_cons.mp failed
  exact failed_attempt (kept earlier) taken latest

theorem sameQueries_iff {session : SessionRecord} {answers : OpenAnswers}
    (answered : (session.queryVersions answers).2 = true) :
    ((session.queryVersions answers).1.coreVersion =
          (({} : SessionRecord).queryVersions answers).1.coreVersion ∧
        (session.queryVersions answers).1.driverVersion =
          (({} : SessionRecord).queryVersions answers).1.driverVersion) ↔
      (answers.driverVersion = none →
        ∀ written, answers.rga2Version.or answers.rga1Version = some written →
          session.driverVersion = {} ∧ SameRest written session.coreVersion {}) := by
  unfold queryVersions
  obtain ⟨driverVersion, versions, driver, hw⟩ | ⟨driver, written, text⟩ :=
    (answered_iff session answers).mp answered
  · simp [driver, hw]
  · simp only [driver, text, sameRest_iff, true_implies, Option.some.injEq, forall_eq',
      HwVersionsRecord.mk.injEq, and_true]
    exact and_comm

theorem sameType {session : SessionRecord} {answers : OpenAnswers}
    (answered : (session.queryVersions answers).2 = true)
    (same : (session.queryVersions answers).1.coreVersion =
      (({} : SessionRecord).queryVersions answers).1.coreVersion) :
    (session.queryVersions answers).1.driverType =
      (({} : SessionRecord).queryVersions answers).1.driverType := by
  unfold queryVersions at same ⊢
  obtain ⟨driverVersion, versions, driver, hw⟩ | ⟨driver, written, text⟩ :=
    (answered_iff session answers).mp answered
  · simp [driver, hw]
  · simp only [driver, text, HwVersionsRecord.mk.injEq] at same
    simp only [driver, text, same.1]

theorem fresh_versions {answers : OpenAnswers} (opened : ¬answers.fd < 0)
    (answered : (({} : SessionRecord).queryVersions answers).2 = true) :
    (({} : SessionRecord).rgaSessionInit answers).2.1.coreVersion =
        (({} : SessionRecord).queryVersions answers).1.coreVersion ∧
      (({} : SessionRecord).rgaSessionInit answers).2.1.driverVersion =
        (({} : SessionRecord).queryVersions answers).1.driverVersion := by
  rw [rgaSessionInit_answered {} answers opened answered]
  split <;> exact ⟨rfl, rfl⟩

theorem succeeded_answered {session : SessionRecord} {answers : OpenAnswers}
    (succeeded : (session.rgaSessionInit answers).1 = .success) :
    ¬answers.fd < 0 ∧ (session.queryVersions answers).2 = true ∧
      (rgaGetInfo (session.queryVersions answers).1.coreVersion.versions
        session.hardwareInfo).1 = .success := by
  have opened : ¬answers.fd < 0 := by
    intro closed
    rw [rgaSessionInit_closed session answers closed] at succeeded
    cases succeeded
  have answered : (session.queryVersions answers).2 = true := by
    by_contra silent
    rw [rgaSessionInit_silent session answers opened (eq_false_of_ne_true silent)] at succeeded
    cases succeeded
  refine ⟨opened, answered, ?_⟩
  by_contra unknown
  rw [rgaSessionInit_answered session answers opened answered, if_neg unknown] at succeeded
  exact unknown succeeded

/-- A retry ends as a first attempt would exactly when the failed ones have left nothing in what it
does not write. -/
theorem retry_fresh_iff {trace : List ImStatus} {session : SessionRecord}
    (run : Machine.Run attempt {} trace session) (failed : ∀ status ∈ trace, status ≠ .success)
    (answers : OpenAnswers) (succeeded : (session.rgaSessionInit answers).1 = .success) :
    (session.rgaSessionInit answers).2.1.fields =
        (({} : SessionRecord).rgaSessionInit answers).2.1.fields ↔
      Unstained session answers := by
  obtain ⟨_, feature, stained⟩ := failed_run run failed
  obtain ⟨opened, answered, known⟩ := succeeded_answered succeeded
  have freshAnswered : (({} : SessionRecord).queryVersions answers).2 = true :=
    (answered_iff {} answers).mpr ((answered_iff session answers).mp answered)
  have queries := sameQueries_iff answered
  have retried := rgaSessionInit_answered session answers opened answered
  dsimp only at retried
  rw [if_pos known] at retried
  -- once the versions are the same, so is the answer of `rga_get_info`, but for its table
  have fresh (sameCores : (session.queryVersions answers).1.coreVersion =
        (({} : SessionRecord).queryVersions answers).1.coreVersion) :
      (({} : SessionRecord).rgaSessionInit answers).2.1 =
        { (({} : SessionRecord).queryVersions answers).1 with
          rgaDevFd := answers.fd
          driverFeature := 0 ||| featureBits
            (({} : SessionRecord).queryVersions answers).1.driverVersion.version
          hardwareInfo := (rgaGetInfo (freshCores answers) {}).2 } := by
    rw [sameCores, rgaGetInfo_status _ session.hardwareInfo {}] at known
    rw [rgaSessionInit_answered {} answers opened freshAnswered, if_pos known]
    rfl
  have table := rgaGetInfo_fresh_iff (freshCores answers) stained
  constructor
  · intro same
    obtain ⟨freshCoresSame, freshDriver⟩ := fresh_versions opened freshAnswered
    have cores := congrArg SessionFields.coreVersion same
    have driver := congrArg SessionFields.driverVersion same
    have info := congrArg SessionFields.hardwareInfo same
    simp only [fields, retried, freshCoresSame, freshDriver] at cores driver
    rw [fresh cores] at info
    simp only [fields, retried, cores] at info
    refine ⟨queries.mp ⟨cores, driver⟩, table.mp (Prod.ext ?_ info)⟩
    exact rgaGetInfo_status _ _ _
  · intro clean
    obtain ⟨cores, driver⟩ := queries.mpr clean.versions
    have info := table.mpr clean.hardwareInfo
    rw [fresh cores, retried]
    simp only [fields, SessionFields.mk.injEq]
    refine ⟨sameType answered cores, ?_, driver, cores, ?_⟩
    · rw [feature, driver]
    · rw [cores]
      exact congrArg Prod.snd info

/-- A core that no table knows, and RK3588 with all its cores known. -/
def unknownAnswers : OpenAnswers :=
  { fd := 3
    driverVersion := some { version := ⟨1, 3, 0⟩ }
    hwVersions := some { first := { version := ⟨3, 0, 0x12345⟩ }, size := 1 } }

def rk3588Answers : OpenAnswers :=
  { fd := 3
    driverVersion := some { version := ⟨1, 3, 0⟩ }
    hwVersions := some
      { first := { version := ⟨3, 0, 0x76831⟩ }
        others := { version := ⟨3, 2, 0x63318⟩ } :: List.replicate 3 {}
        size := 2 } }

/-- The first attempt gets the driver version, which the second one writes again. -/
theorem retry_fresh_unanswered :
    let session :=
      (({} : SessionRecord).rgaSessionInit { rk3588Answers with hwVersions := none }).2.1
    (session.rgaSessionInit rk3588Answers).2.1.fields =
      (({} : SessionRecord).rgaSessionInit rk3588Answers).2.1.fields := by
  intro session
  have silent : attempt {} { rk3588Answers with hwVersions := none } = some (session, .failed) := by
    decide +kernel
  have succeeded : (session.rgaSessionInit rk3588Answers).1 = .success := by
    decide +kernel
  apply (retry_fresh_iff (.next .init silent) (by decide) rk3588Answers succeeded).mpr
  exact ⟨fun none => absurd none (by decide), .inl rfl⟩

theorem retry_keeps_error_version :
    let session := (({} : SessionRecord).rgaSessionInit unknownAnswers).2.1
    (({} : SessionRecord).rgaSessionInit unknownAnswers).1 = .failed ∧
      (session.rgaSessionInit rk3588Answers).1 = .success ∧
      (session.rgaSessionInit rk3588Answers).2.1.fields ≠
        (({} : SessionRecord).rgaSessionInit rk3588Answers).2.1.fields := by
  decide +kernel

end SessionRecord

end LibRga

import LibRga.Api
import LibRga.Plan

/-!
What one submission does: the checks it passes, the builder it reaches and the
events it leaves behind.
-/

namespace LibRga

/-! The checks give `noError` or one of three errors -/

def ImStatus.refuses : ImStatus → Bool
  | .notSupported | .invalidParam | .illegalParam => true
  | _ => false

def ImStatus.checked (status : ImStatus) : Bool :=
  status = .noError || status.refuses

theorem andThen_eq_noError {first rest : ImStatus} :
    first.andThen rest = .noError ↔ first = .noError ∧ rest = .noError := by
  unfold ImStatus.andThen
  by_cases passed : first = .noError <;> simp [passed]

theorem andThen_checked {first rest : ImStatus} (one : first.checked = true)
    (two : rest.checked = true) : (first.andThen rest).checked = true := by
  unfold ImStatus.andThen
  split
  · exact two
  · exact one

theorem ite_checked {condition : Prop} [Decidable condition] {yes no : ImStatus}
    (one : yes.checked = true) (two : no.checked = true) :
    (if condition then yes else no).checked = true := by
  split
  · exact one
  · exact two

theorem rgaCheckSupport_checked (wanted : Bool) (feature support : UInt32) :
    (rgaCheckSupport wanted feature support).checked = true :=
  ite_checked rfl rfl

theorem rgaCheckInfo_checked (info : RgaBuffer) (rect : ImRect)
    (resolution : RgaInfoResolution) : (rgaCheckInfo info rect resolution).checked = true := by
  unfold rgaCheckInfo
  repeat' apply ite_checked
  all_goals rfl

theorem rgaCheckFormat_checked (info : RgaBuffer) (rect : ImRect) (formatUsage : UInt32)
    (modeUsage : Int32) : (rgaCheckFormat info rect formatUsage modeUsage).checked = true := by
  unfold rgaCheckFormat
  split
  · rfl
  · refine ite_checked rfl ?_
    split
    · rename_i illegal
      unfold rgaYuvLegalityCheck at illegal ⊢
      split
      · rfl
      · rename_i legal
        exact absurd (if_neg legal) illegal.2
    · rfl

theorem rgaCheckAlign_checked (info : RgaBuffer) (byteStride : Int32) (isRead : Bool) :
    (rgaCheckAlign info byteStride isRead).checked = true := by
  refine andThen_checked ?_ (ite_checked rfl rfl)
  repeat' apply ite_checked
  all_goals rfl

theorem rgaCheckImage_checked (info : RgaBuffer) (rect : ImRect)
    (resolution : RgaInfoResolution) (formatUsage byteStride : UInt32) (modeUsage : Int32)
    (isRead : Bool) :
    (rgaCheckImage info rect resolution formatUsage byteStride modeUsage isRead).checked = true :=
  andThen_checked (rgaCheckInfo_checked _ _ _) <|
    andThen_checked (rgaCheckFormat_checked _ _ _ _) (rgaCheckAlign_checked _ _ _)

theorem rgaCheckFeature_checked (src pat dst : RgaBuffer) (patEnable : Bool)
    (modeUsage : Int32) (feature : UInt32) :
    (rgaCheckFeature src pat dst patEnable modeUsage feature).checked = true := by
  unfold rgaCheckFeature
  repeat' apply andThen_checked
  all_goals exact rgaCheckSupport_checked _ _ _

theorem rgaCheck_checked (table : RgaInfoTableEntry) (src dst pat : RgaBuffer)
    (srcRect dstRect patRect : ImRect) (modeUsage : Int32) :
    (rgaCheck table src dst pat srcRect dstRect patRect modeUsage).checked = true := by
  refine andThen_checked (rgaCheckFeature_checked _ _ _ _ _ _) ?_
  refine andThen_checked (ite_checked rfl (rgaCheckImage_checked _ _ _ _ _ _ _)) ?_
  refine andThen_checked
    (ite_checked (ite_checked rfl (rgaCheckImage_checked _ _ _ _ _ _ _)) rfl) ?_
  refine andThen_checked (rgaCheckImage_checked _ _ _ _ _ _ _) ?_
  refine andThen_checked (ite_checked rfl (ite_checked rfl rfl)) ?_
  refine andThen_checked (ite_checked ?_ rfl) ?_
  · unfold rgaCheckBlend
    repeat' apply ite_checked
    all_goals rfl
  · unfold rgaCheckRotate
    repeat' apply ite_checked
    all_goals rfl

theorem refuses_of_checked {status : ImStatus} (checked : status.checked = true)
    (failed : status ≠ .noError) : status.refuses = true := by
  simpa [ImStatus.checked, failed] using checked

theorem refuses_not_ok {status : ImStatus} (refuses : status.refuses = true) :
    status.ok = false := by
  cases status <;> first | rfl | cases refuses

/-! Addresses -/

theorem rgaSetBufferInfo_ok (image : RgaBuffer) (info : RgaInfo) :
    (rgaSetBufferInfo image info).1.ok = rgaIsBufferValid image := by
  unfold rgaSetBufferInfo rgaIsBufferValid
  by_cases handle : 0 < image.handle
  · simp [handle, ImStatus.ok]
  by_cases phy : image.phyAddr = 0
  · by_cases fd : 0 < image.fd
    · simp [handle, phy, fd, ImStatus.ok]
    · by_cases vir : image.virAddr = 0 <;> simp [handle, phy, fd, vir, ImStatus.ok]
  · simp [handle, phy, ImStatus.ok]

/-- A buffer a blit cannot address: it has no address, or a handle that reads as `-1`. -/
def Unaddressed (image : RgaBuffer) : Prop :=
  rgaIsBufferValid image = false ∨ image.handle = 0xffffffff

instance (image : RgaBuffer) : Decidable (Unaddressed image) :=
  inferInstanceAs (Decidable (_ ∨ _))

def addressInfo (image : RgaBuffer) : RgaInfo :=
  (rgaSetBufferInfo image {}).2

theorem eq_zero_of_not_pos {handle : UInt32} (none : ¬ 0 < handle) : handle = 0 := by
  rwa [UInt32.not_lt, UInt32.le_zero_iff] at none

theorem toInt32_eq_iff (handle : UInt32) (value : Int32) :
    handle.toInt32 = value ↔ handle = value.toUInt32 :=
  ⟨fun same => congrArg Int32.toUInt32 same, fun same => by rw [same]; rfl⟩

theorem addressInfo_handle (image : RgaBuffer) :
    (addressInfo image).handle = image.handle.toInt32 := by
  unfold addressInfo rgaSetBufferInfo
  by_cases handle : 0 < image.handle
  · simp [handle]
  · have zero : image.handle = 0 := eq_zero_of_not_pos handle
    rw [if_neg handle, zero]
    split_ifs <;> rfl

theorem requireAddr_addressInfo (image : RgaBuffer) :
    requireAddr (resolveAddr (addressInfo image)) =
      if Unaddressed image then .error .noAddress
      else .ok (resolveAddr (addressInfo image)) := by
  have empty : (0 : UInt32).toInt32 = 0 := by decide
  by_cases handle : 0 < image.handle
  · have nonzero : image.handle.toInt32 ≠ 0 := by
      rw [Ne, toInt32_eq_iff]
      rintro zero
      rw [zero] at handle
      exact absurd handle (by decide)
    have valid : rgaIsBufferValid image = true := by simp [rgaIsBufferValid, handle]
    have negative : image.handle.toInt32 = -1 ↔ image.handle = 0xffffffff := by
      rw [toInt32_eq_iff]
      exact Iff.rfl
    simp [resolveAddr, addressInfo, rgaSetBufferInfo, handle, nonzero, requireAddr, Unaddressed,
      valid, negative]
  · have zero : image.handle = 0 := eq_zero_of_not_pos handle
    by_cases phy : image.phyAddr = 0
    · by_cases fd : 0 < image.fd
      · obtain ⟨nonzero, set⟩ := ne_of_positive fd
        simp [resolveAddr, addressInfo, rgaSetBufferInfo, zero, phy, fd, requireAddr, Unaddressed,
          rgaIsBufferValid, set, nonzero]
      · by_cases vir : image.virAddr = 0 <;>
          simp [resolveAddr, addressInfo, rgaSetBufferInfo, zero, phy, fd, vir, requireAddr,
            Unaddressed, rgaIsBufferValid]
    · simp [resolveAddr, addressInfo, rgaSetBufferInfo, zero, phy, requireAddr, Unaddressed,
        rgaIsBufferValid]

/-! The way to the builder -/

/-- A submission that passes every check in front of the builder. -/
structure Accepted (session : RgaSession) (args : TaskArgs) (buffers : TaskBuffers)
    (mode : Int32) : Prop where
  dst : rgaIsBufferValid args.dst = true
  settled : settleBuffers args = .ok buffers
  checked : rgaCheck session.hardwareInfo buffers.src buffers.dst buffers.pat
    args.srect args.drect args.prect args.usage = .noError
  colour : taskColorSpaceMode session.hardwareInfo buffers.src buffers.dst buffers.pat = .ok mode
  gauss : ¬(has args.usage imGauss = true ∧
    gaussStatus buffers (rgaGetOpt args.opt) args.usage ≠ .success)

open Result in
theorem validateTask_ok_iff {session : RgaSession} {args : TaskArgs} {buffers : TaskBuffers}
    {mode : Int32} :
    validateTask session args = .ok (buffers, mode) ↔ Accepted session args buffers mode := by
  simp only [validateTask, bufferInfoStatus, rgaSetBufferInfo_ok, ite_error_eq_ok, bind_eq_ok,
    Bool.not_eq_false]
  constructor
  · rintro ⟨dst, settled, settles, checked, csc, colour, gauss, same⟩
    cases same
    exact ⟨dst, settles, not_not.mp checked, colour, gauss⟩
  · rintro ⟨dst, settles, checked, colour, gauss⟩
    exact ⟨dst, buffers, settles, not_not.mpr checked, mode, colour, gauss, rfl⟩

theorem settleBuffer_error {image : RgaBuffer} {rect : ImRect} {status : ImStatus}
    (refused : settleBuffer image rect = .error status) : status = .notSupported := by
  unfold settleBuffer at refused
  dsimp only at refused
  split at refused
  · cases refused
    rfl
  · cases refused

theorem bufferInfo_refuses {image : RgaBuffer} {info : RgaInfo}
    (unset : (rgaSetBufferInfo image info).1.ok = false) :
    (rgaSetBufferInfo image info).1.refuses = true := by
  unfold rgaSetBufferInfo at unset ⊢
  split_ifs at unset ⊢ <;> first | rfl | cases unset

open Result in
theorem settleBuffers_error {args : TaskArgs} {status : ImStatus}
    (refused : settleBuffers args = .error status) : status.refuses = true := by
  simp only [settleBuffers, bind_eq_error] at refused
  obtain refused | ⟨_, _, refused | ⟨_, _, refused⟩⟩ := refused
  · rw [settleBuffer_error refused]
    rfl
  · rw [settleBuffer_error refused]
    rfl
  · split at refused
    · split at refused
      · rename_i unset
        cases refused
        exact bufferInfo_refuses unset
      · simp only [bind_eq_error] at refused
        obtain refused | ⟨_, _, refused⟩ := refused
        · rw [settleBuffer_error refused]
          rfl
        · cases refused
    · cases refused

theorem taskColorSpaceMode_error {entry : RgaInfoTableEntry} {src dst pat : RgaBuffer}
    {status : ImStatus} (refused : taskColorSpaceMode entry src dst pat = .error status) :
    status.refuses = true := by
  unfold taskColorSpaceMode at refused
  dsimp only at refused
  split_ifs at refused <;> cases refused <;> rfl

theorem gaussStatus_refuses {buffers : TaskBuffers} {opt : ImOpt} {usage : Int32}
    (refused : gaussStatus buffers opt usage ≠ .success) :
    (gaussStatus buffers opt usage).refuses = true := by
  unfold gaussStatus at refused ⊢
  split_ifs at refused ⊢ <;> first | rfl | contradiction

open Result in
theorem validateTask_error {session : RgaSession} {args : TaskArgs} {status : ImStatus}
    (refused : validateTask session args = .error status) : status.refuses = true := by
  unfold validateTask at refused
  split at refused
  · rename_i unset
    cases refused
    exact bufferInfo_refuses unset
  · simp only [bind_eq_error] at refused
    obtain refused | ⟨buffers, _, refused⟩ := refused
    · exact settleBuffers_error refused
    · split at refused
      · rename_i unchecked
        cases refused
        exact refuses_of_checked (rgaCheck_checked _ _ _ _ _ _ _ _) unchecked
      · simp only [bind_eq_error] at refused
        obtain refused | ⟨mode, _, refused⟩ := refused
        · exact taskColorSpaceMode_error refused
        · split at refused
          · rename_i gauss
            cases refused
            exact gaussStatus_refuses gauss.2
          · cases refused

def gaussEvents (env : TaskEnv) (args : TaskArgs) : List DriverEvent :=
  if has args.usage imGauss then [.gaussAlloc env.coePtr] else []

def taskBuilt (session : RgaSession) (env : TaskEnv) (args : TaskArgs) (buffers : TaskBuffers)
    (mode : Int32) : Option RgaReq × Except BuildExit RgaReq :=
  buildTask session (taskPath args) (taskSetup env args buffers mode) env.lutRet

inductive Prepared (session : RgaSession) (env : TaskEnv) (args : TaskArgs) :
    List DriverEvent × Except ImStatus RgaReq → Prop
  | invalid (status : ImStatus) (refused : validateTask session args = .error status) :
      Prepared session env args ([], .error status)
  | noFence (buffers : TaskBuffers) (mode : Int32) (accepted : Accepted session args buffers mode)
      (fence : lacksFence args = true) :
      Prepared session env args (gaussEvents env args, .error .illegalParam)
  | refused (buffers : TaskBuffers) (mode : Int32) (accepted : Accepted session args buffers mode)
      (fence : lacksFence args = false)
      (exits : builtReq (taskBuilt session env args buffers mode).2 = none) :
      Prepared session env args
        (gaussEvents env args ++ lutEvents (taskBuilt session env args buffers mode).1,
          .error .failed)
  | built (buffers : TaskBuffers) (mode : Int32) (accepted : Accepted session args buffers mode)
      (fence : lacksFence args = false) (req : RgaReq)
      (builds : builtReq (taskBuilt session env args buffers mode).2 = some req) :
      Prepared session env args
        (gaussEvents env args ++ lutEvents (taskBuilt session env args buffers mode).1, .ok req)

theorem prepareTask_prepared (session : RgaSession) (env : TaskEnv) (args : TaskArgs) :
    Prepared session env args (prepareTask session env args) := by
  unfold prepareTask
  split
  · rename_i status refused
    exact .invalid status refused
  · rename_i buffers mode validated
    have accepted := validateTask_ok_iff.mp validated
    by_cases fence : lacksFence args = true
    · rw [if_pos fence]
      exact .noFence buffers mode accepted fence
    · rw [if_neg fence]
      have present : lacksFence args = false := by simpa using fence
      dsimp only
      split
      · rename_i exits
        exact .refused buffers mode accepted present exits
      · rename_i req builds
        exact .built buffers mode accepted present req builds

/-- The ways a submission can go. -/
inductive Submitted (session : RgaSession) (env : TaskEnv) (manager : JobManager RgaReq)
    (args : TaskArgs) (result : SubmitResult) : Prop
  | invalid (status : ImStatus) (refused : validateTask session args = .error status)
      (same : result = { status := status, manager := manager })
  | noFence (buffers : TaskBuffers) (mode : Int32) (accepted : Accepted session args buffers mode)
      (fence : lacksFence args = true)
      (same : result =
        { status := .illegalParam, events := gaussEvents env args, manager := manager })
  | refused (buffers : TaskBuffers) (mode : Int32) (accepted : Accepted session args buffers mode)
      (fence : lacksFence args = false)
      (exits : builtReq (taskBuilt session env args buffers mode).2 = none)
      (same : result =
        { status := .failed
          events := gaussEvents env args ++ lutEvents (taskBuilt session env args buffers mode).1
          manager := manager })
  | built (buffers : TaskBuffers) (mode : Int32) (accepted : Accepted session args buffers mode)
      (fence : lacksFence args = false) (req : RgaReq)
      (builds : builtReq (taskBuilt session env args buffers mode).2 = some req)
      (same : result =
        { submitReq session env manager args req with
          events := gaussEvents env args ++
            lutEvents (taskBuilt session env args buffers mode).1 ++
              (submitReq session env manager args req).events })

theorem rgaTaskSubmit_submitted (session : RgaSession) (env : TaskEnv)
    (manager : JobManager RgaReq) (args : TaskArgs) :
    Submitted session env manager args (rgaTaskSubmit session env manager args) := by
  unfold rgaTaskSubmit
  have prepared := prepareTask_prepared session env args
  generalize prepareTask session env args = outcome at prepared
  cases prepared with
  | invalid status refused => exact .invalid status refused rfl
  | noFence buffers mode accepted fence => exact .noFence buffers mode accepted fence rfl
  | refused buffers mode accepted fence exits =>
      exact .refused buffers mode accepted fence exits rfl
  | built buffers mode accepted fence req builds =>
      exact .built buffers mode accepted fence req builds rfl

/-- A submission that succeeds has come to the driver or the job, and that is how it ends. -/
theorem built_of_ok {session : RgaSession} {env : TaskEnv} {manager : JobManager RgaReq}
    {args : TaskArgs} (succeeds : (rgaTaskSubmit session env manager args).status.ok = true) :
    ∃ buffers mode req, Accepted session args buffers mode ∧ lacksFence args = false ∧
      builtReq (taskBuilt session env args buffers mode).2 = some req ∧
      (submitReq session env manager args req).status =
        (rgaTaskSubmit session env manager args).status := by
  cases rgaTaskSubmit_submitted session env manager args with
  | invalid status refused same =>
      rw [same, refuses_not_ok (validateTask_error refused)] at succeeds
      cases succeeds
  | noFence buffers mode accepted fence same =>
      rw [same] at succeeds
      cases succeeds
  | refused buffers mode accepted fence exits same =>
      rw [same] at succeeds
      cases succeeds
  | built buffers mode accepted fence req builds same =>
      exact ⟨buffers, mode, req, accepted, fence, builds, by rw [same]⟩

theorem builtReq_eq_some {result : Except BuildExit RgaReq} {req : RgaReq}
    (built : builtReq result = some req) :
    result = .ok req ∨ ∃ exit, result = .error exit ∧ ¬ exit.ret < 0 ∧ req = {} := by
  cases result with
  | ok value =>
      cases built
      exact .inl rfl
  | error exit =>
      refine .inr ⟨exit, rfl, ?_⟩
      by_cases negative : exit.ret < 0
      · simp [builtReq, negative] at built
      · simp only [builtReq, negative, if_false, Option.some.injEq] at built
        exact ⟨negative, built.symm⟩

/-! A session on one row of the hardware table, and a manager without jobs -/

/-- The row of `IM_RGA_HW_VERSION_RGA_2_PRO`. -/
def rga2ProInfo : RgaInfoTableEntry :=
  { version := 0x80
    inputResolution := ⟨8192, 8192⟩
    outputResolution := ⟨8192, 8192⟩
    byteStride := 4
    scaleLimit := 16
    inputFormat := 0xedfe6
    outputFormat := 0x19eaae
    feature := 0x3c7e
    scaleVerBicubicLimit := 1928 }

def rga2ProSession : RgaSession :=
  { hardwareInfo := rga2ProInfo }

def emptyManager : JobManager RgaReq :=
  { records := fun _ => { req := fun _ => {}, id := 0 } }

end LibRga

import LibRga.Deferral

/-!
The task call of an operation against its single call. A job and a fence reach
the builders in fields of `dst` that only the fence of the request depends on.
-/

namespace LibRga

/-! Words that differ in the sync bit only -/

def SameUsage (left right : Int32) : Prop :=
  ∀ mask : Int32, mask &&& imSync = 0 → left &&& mask = right &&& mask

theorem SameUsage.refl (usage : Int32) : SameUsage usage usage :=
  fun _ _ => rfl

theorem sameUsage_sync (usage : Int32) : SameUsage (usage ||| imSync) usage := by
  intro mask clear
  have bits : imSync.toBitVec &&& mask.toBitVec = 0#32 := by
    rw [BitVec.and_comm]
    exact congrArg Int32.toBitVec clear
  apply Int32.toBitVec_inj.mp
  rw [Int32.toBitVec_and, Int32.toBitVec_and, Int32.toBitVec_or, BitVec.and_or_distrib_right, bits,
    BitVec.or_zero]

/-- Words that ask for the same operation, whichever way it is waited for. -/
def SameOperation (left right : Int32) : Prop :=
  ∀ mask : Int32, mask &&& (imSync ||| imAsync) = 0 → left &&& mask = right &&& mask

theorem SameUsage.has {left right : Int32} (same : SameUsage left right) (mask : Int32)
    (clear : mask &&& imSync = 0) : has left mask = has right mask := by
  rw [LibRga.has, LibRga.has, same mask clear]

theorem SameUsage.operation {left right : Int32} (same : SameUsage left right) :
    SameOperation left right := by
  intro mask clear
  apply same
  calc mask &&& imSync
      _ = mask &&& ((imSync ||| imAsync) &&& imSync) := rfl
      _ = (mask &&& (imSync ||| imAsync)) &&& imSync := (Int32.and_assoc _ _ _).symm
      _ = 0 := by rw [clear, Int32.zero_and]

section Usage

variable {left right : Int32} (same : SameOperation left right)
include same

theorem SameOperation.has (mask : Int32) (clear : mask &&& (imSync ||| imAsync) = 0) :
    has left mask = has right mask := by
  rw [LibRga.has, LibRga.has, same mask clear]

theorem taskRotation_usage : taskRotation left = taskRotation right := by
  unfold taskRotation
  rw [same.has imHalTransformMask (by decide), same imHalTransformRotMask (by decide),
    same imHalTransformFlipMask (by decide)]

theorem taskBlend_usage (srcAlpha dstAlpha : Int32) :
    taskBlend left srcAlpha dstAlpha = taskBlend right srcAlpha dstAlpha := by
  unfold taskBlend taskBlendCode
  rw [same.has imAlphaBlendMask (by decide), same imAlphaBlendMask (by decide),
    same.has imAlphaBlendPreMul (by decide), same.has imAlphaColorkeyMask (by decide),
    same.has imGauss (by decide)]

theorem rgaCheckImage_usage (info : RgaBuffer) (rect : ImRect) (resolution : RgaInfoResolution)
    (formatUsage byteStride : UInt32) (isRead : Bool) :
    rgaCheckImage info rect resolution formatUsage byteStride left isRead =
      rgaCheckImage info rect resolution formatUsage byteStride right isRead := by
  simp only [rgaCheckImage, rgaCheckFormat, same.has imColorPalette (by decide)]

theorem rgaCheckFeature_usage (src pat dst : RgaBuffer) (patEnable : Bool) (feature : UInt32) :
    rgaCheckFeature src pat dst patEnable left feature =
      rgaCheckFeature src pat dst patEnable right feature := by
  unfold rgaCheckFeature
  rw [same.has imColorFill (by decide), same.has imColorPalette (by decide),
    same.has imRop (by decide), same.has imNnQuantize (by decide), same.has imMosaic (by decide),
    same.has imOsd (by decide), same.has imPreIntr (by decide),
    same.has imAlphaBitMap (by decide), same.has imGauss (by decide)]

theorem rgaCheckRotate_usage (table : RgaInfoTableEntry) :
    rgaCheckRotate left table = rgaCheckRotate right table := by
  unfold rgaCheckRotate
  rw [same.has imHalTransformFlipHV (by decide), same.has imHalTransformRotMask (by decide),
    same.has imHalTransformFlipMask (by decide)]

theorem rgaCheckLimit_usage (src dst : RgaBuffer) (scaleUsage : Int32) :
    rgaCheckLimit src dst scaleUsage left = rgaCheckLimit src dst scaleUsage right := by
  unfold rgaCheckLimit
  rw [same.has imHalTransformRot270 (by decide), same.has imHalTransformRot90 (by decide)]

theorem rgaCheck_usage (table : RgaInfoTableEntry) (src dst pat : RgaBuffer)
    (srcRect dstRect patRect : ImRect) :
    rgaCheck table src dst pat srcRect dstRect patRect left =
      rgaCheck table src dst pat srcRect dstRect patRect right := by
  simp only [rgaCheck, same.has imAlphaBlendMask (by decide), same.has imColorFill (by decide),
    rgaCheckFeature_usage same, rgaCheckImage_usage same, rgaCheckLimit_usage same,
    rgaCheckRotate_usage same]

end Usage

section Checks

variable {left : Int32}

theorem takesPattern_usage {args : TaskArgs} (same : SameOperation left args.usage) :
    takesPattern { args with usage := left } = takesPattern args := by
  simp only [takesPattern, same.has imColorPalette (by decide),
    same.has imAlphaBlendMask (by decide)]

theorem settleBuffers_usage {args : TaskArgs} (same : SameOperation left args.usage) :
    settleBuffers { args with usage := left } = settleBuffers args := by
  unfold settleBuffers
  rw [takesPattern_usage same]

/-- What is checked in front of the builder does not depend on the wait. -/
theorem validateTask_usage (session : RgaSession) {args : TaskArgs}
    (same : SameOperation left args.usage) :
    validateTask session { args with usage := left } = validateTask session args := by
  unfold validateTask gaussStatus
  rw [settleBuffers_usage same]
  simp only [bufferInfoStatus, rgaCheck_usage same, same.has imGauss (by decide),
    same.has imHalTransformMask (by decide)]

end Checks

/-! Builders and the fields of a call -/

def RgaInfo.recast (info : RgaInfo) (fence handle : Int32) : RgaInfo :=
  { info with inFenceFd := fence, jobHandle := handle }

def RgaReq.setFence (req : RgaReq) (fence : Int32) : RgaReq :=
  { req with inFenceFd := fence }

def BlitPlan.recast (plan : BlitPlan) (fence handle : Int32) : BlitPlan :=
  { plan with dst := { plan.dst with info := plan.dst.info.recast fence handle } }

section Recast

variable (session : RgaSession) (src dst : RgaInfo) (src1 : Option RgaInfo) (fence handle : Int32)

theorem openChannel_recast :
    openChannel (dst.recast fence handle) = (openChannel dst).map fun channel =>
      { channel with info := channel.info.recast fence handle } := by
  unfold openChannel
  show (requireAddr (resolveAddr dst) >>= _) = _
  cases requireAddr (resolveAddr dst) <;> rfl

theorem planBlit_recast :
    planBlit session src (dst.recast fence handle) src1 =
      (planBlit session src dst src1).map fun plan => plan.recast fence handle := by
  unfold planBlit
  rw [openChannel_recast]
  show (handleMode (src.handle :: dst.handle :: _) >>= _) = _
  cases handleMode (src.handle :: dst.handle :: (src1.map RgaInfo.handle).toList) with
  | error exit => rfl
  | ok flag =>
      cases openChannel src with
      | error exit => rfl
      | ok srcChannel =>
          cases openSrc1 src1 with
          | error exit => rfl
          | ok src1Channel =>
              cases openChannel dst with
              | error exit => rfl
              | ok dstChannel =>
                  simp only [bind, Except.bind, Except.map]
                  have rects : checkBlitRects srcChannel
                      { dstChannel with info := dstChannel.info.recast fence handle } src1Channel =
                      checkBlitRects srcChannel dstChannel src1Channel := rfl
                  rw [rects]
                  cases checkBlitRects srcChannel dstChannel src1Channel with
                  | error exit => rfl
                  | ok _ =>
                      dsimp only
                      split_ifs <;> rfl

theorem blitReq_recast (plan : BlitPlan) :
    blitReq session (plan.recast fence handle) =
      (blitReq session plan).map fun req => req.setFence fence := by
  have rest (req : RgaReq) (mode : AddressMode) (word : Int32) :
      blitReqRest req (plan.recast fence handle) mode word = blitReqRest req plan mode word := rfl
  have tail (req : RgaReq) :
      blitReqTail req (plan.recast fence handle) = (blitReqTail req plan).setFence fence := rfl
  unfold blitReq
  dsimp only
  show (setFullCsc (blitReqBase session plan) plan.dst.info.colorSpaceMode >>= _) = _
  cases setFullCsc (blitReqBase session plan) plan.dst.info.colorSpaceMode with
  | error exit => rfl
  | ok req =>
      simp only [bind, Except.bind, rest, tail]
      rfl

theorem generateBlitReq_recast :
    generateBlitReq session src (dst.recast fence handle) src1 =
      (generateBlitReq session src dst src1).map fun req => req.setFence fence := by
  unfold generateBlitReq
  rw [planBlit_recast]
  cases planBlit session src dst src1 with
  | error exit => rfl
  | ok plan => exact blitReq_recast session fence handle plan

theorem generateFillReq_recast :
    generateFillReq session (dst.recast fence handle) =
      (generateFillReq session dst).map fun req => req.setFence fence := by
  unfold generateFillReq fillReq
  show (requireAddr (fillAddr dst) >>= _) = _
  cases requireAddr (fillAddr dst) <;> rfl

theorem planPalette_recast (lut : RgaInfo) :
    planPalette src (dst.recast fence handle) lut = (planPalette src dst lut).map fun plan =>
      { plan with dst := { plan.dst with info := plan.dst.info.recast fence handle } } := by
  unfold planPalette
  show (if src.handle ≤ 0 ∨ dst.handle ≤ 0 ∨ lut.handle ≤ 0 then _ else _) = _
  rw [openChannel_recast]
  split_ifs
  · rfl
  · cases openChannel src with
    | error exit => rfl
    | ok srcChannel =>
        cases openChannel dst with
        | error exit => rfl
        | ok dstChannel =>
            simp only [bind, Except.bind, Except.map]
            split_ifs <;> rfl

end Recast

/-! The same submission, made directly and for a job -/

def TaskArgs.asDirect (args : TaskArgs) (fence : Int32) (releaseFence : Bool) (usage : Int32) :
    TaskArgs :=
  { args with
    jobHandle := 0
    acquireFenceFd := fence
    releaseFence := releaseFence
    usage := usage }

section Direct

variable {session : RgaSession} {env : TaskEnv} {args : TaskArgs} {buffers : TaskBuffers}
  {mode : Int32} (fence : Int32) (releaseFence : Bool) {usage : Int32}
  (same : SameUsage usage args.usage)
include same

theorem taskPath_direct : taskPath (args.asDirect fence releaseFence usage) = taskPath args := by
  simp only [taskPath, TaskArgs.asDirect, same.has imColorFill (by decide),
    same.has imColorPalette (by decide), same.has imAlphaBlendMask (by decide)]

theorem validateTask_direct :
    validateTask session (args.asDirect fence releaseFence usage) = validateTask session args :=
  validateTask_usage session same.operation

theorem accepted_direct :
    Accepted session (args.asDirect fence releaseFence usage) buffers mode ↔
      Accepted session args buffers mode := by
  rw [← validateTask_ok_iff, ← validateTask_ok_iff, validateTask_direct fence releaseFence same]

theorem taskSetup_direct :
    taskSetup env (args.asDirect fence releaseFence usage) buffers mode =
      { taskSetup env args buffers mode with
        dst := (taskSetup env args buffers mode).dst.recast fence 0 } := by
  simp only [taskSetup, taskSrcInfo, taskDstInfo, taskPatInfo, TaskArgs.asDirect, taskSyncMode,
    taskOsd, taskPreIntr, taskNn, taskRotation_usage same.operation,
    taskBlend_usage same.operation,
    same imAlphaColorkeyMask (by decide), same.has imColorFill (by decide),
    same.has imAlphaColorkeyMask (by decide), same.has imAlphaBitMap (by decide),
    same.has imOsd (by decide), same.has imRop (by decide), same.has imMosaic (by decide),
    same.has imPreIntr (by decide), same.has imGauss (by decide),
    same.has imNnQuantize (by decide), same.has imAsync (by decide)]
  rfl

theorem gaussEvents_direct (env : TaskEnv) :
    gaussEvents env (args.asDirect fence releaseFence usage) = gaussEvents env args := by
  simp only [gaussEvents, TaskArgs.asDirect, same.has imGauss (by decide)]

theorem lacksFence_direct :
    lacksFence (args.asDirect fence releaseFence usage) =
      (has args.usage imAsync && !releaseFence) := by
  simp only [lacksFence, TaskArgs.asDirect, same.has imAsync (by decide)]

end Direct

/-! Outcomes of an accepted submission -/

def builtStatus (built : Option RgaReq) : ImStatus :=
  if built.isSome then .success else .failed

section Outcome

variable {session : RgaSession} {env : TaskEnv} {manager : JobManager RgaReq} {args : TaskArgs}
  {buffers : TaskBuffers} {mode : Int32}

theorem direct_outcome (driver : session.driverType ≠ .unknown) (taken : env.reply.ret = 0)
    (manager : JobManager RgaReq) (zero : args.jobHandle = 0)
    (accepted : Accepted session args buffers mode) (fence : lacksFence args = false) :
    let built := taskBuilt session env args buffers mode
    let result := rgaTaskSubmit session env manager args
    blitRequests result.events = built.1.toList ++ (builtReq built.2).toList ∧
      result.status = builtStatus (builtReq built.2) := by
  have prepared := prepareTask_accepted env accepted fence
  have gauss := gaussEvents_quiet env args
  dsimp only [rgaTaskSubmit]
  rw [prepared]
  cases builtReq (taskBuilt session env args buffers mode).2 with
  | none => simp [gauss.1, builtStatus]
  | some req =>
      obtain ⟨status, _, _, blits, _⟩ := submitReq_branch session env manager args req
      have direct : ¬ (0 < args.jobHandle) := by
        rw [zero]
        decide
      have succeeds : (submitDirect session env manager args req).status = .success :=
        (submitDirect_success_iff req).mpr ⟨driver, taken⟩
      rw [if_neg direct] at status blits
      rw [submitDirect_blits driver] at blits
      simp [gauss.1, blits, status, succeeds, builtStatus]

theorem task_outcome {count : Nat} (env : TaskEnv) (job : 0 < args.jobHandle)
    (room : JobRoom manager args.jobHandle (count + 1))
    (accepted : Accepted session args buffers mode) (fence : lacksFence args = false) :
    let built := taskBuilt session env args buffers mode
    let result := rgaTaskSubmit session env manager args
    queuedRequests result.events = (builtReq built.2).toList ∧
      result.status = builtStatus (builtReq built.2) ∧
      JobRoom result.manager args.jobHandle count := by
  have prepared := prepareTask_accepted env accepted fence
  have gauss := gaussEvents_quiet env args
  dsimp only [rgaTaskSubmit]
  rw [prepared]
  cases builtReq (taskBuilt session env args buffers mode).2 with
  | none =>
      obtain ⟨ptr, found, fits⟩ := room
      refine ⟨by simp [gauss.2], rfl, ptr, found, ?_⟩
      show (manager.records ptr).taskCount + count ≤ rgaTaskNumMax.toInt
      omega
  | some req =>
      obtain ⟨status, managed, _, _, queues⟩ := submitReq_branch session env manager args req
      obtain ⟨ptr, after, appended, left⟩ := room.append req
      rw [if_pos job] at status managed queues
      simp only [submitJob, appended] at status managed queues
      have one : queuedRequests [DriverEvent.queueTask args.jobHandle req] = [req] := rfl
      refine ⟨by simp [gauss.2, queues, one], ?_, ?_⟩
      · exact status
      · show JobRoom (submitReq session env manager args req).manager args.jobHandle count
        rw [managed]
        exact left

end Outcome

/-! Agreement of one submission -/

def RgaReq.withoutFence (req : RgaReq) : RgaReq :=
  { req with inFenceFd := 0, outFenceFd := 0 }

/-- What the job was given is what the driver was given, and both calls return the same. -/
structure SameOutcome (direct task : SubmitResult) : Prop where
  requests : (queuedRequests task.events).map RgaReq.withoutFence =
    (blitRequests direct.events).map RgaReq.withoutFence
  status : direct.status = task.status

/-- A submission that the job defers and the single call makes at once, without the two ways in
which they part: the fence of an asynchronous usage, and the table of a palette. -/
def CallMatches (session : RgaSession) (env : TaskEnv) (releaseFence : Bool) (args : TaskArgs) :
    Prop :=
  ∀ buffers mode, Accepted session args buffers mode →
    ¬(has args.usage imAsync = true ∧ releaseFence = true) ∧
      (has args.usage imAsync = false → taskPath args = .palette →
        BuilderRefuses session .palette (taskSetup env args buffers mode))

section Agreement

variable {session : RgaSession} {env : TaskEnv} {manager : JobManager RgaReq} {args : TaskArgs}
  {buffers : TaskBuffers} {mode : Int32} {usage : Int32} (same : SameUsage usage args.usage)

theorem builtReq_setFence (result : Except BuildExit RgaReq) (fence : Int32) :
    (builtReq (result.map fun req => req.setFence fence)).map RgaReq.withoutFence =
      (builtReq result).map RgaReq.withoutFence := by
  cases result <;> rfl

theorem rgaTaskSubmit_invalid {status : ImStatus}
    (refused : validateTask session args = .error status) :
    rgaTaskSubmit session env manager args = { status := status, manager := manager } := by
  simp [rgaTaskSubmit, prepareTask, refused]

theorem rgaTaskSubmit_noFence (accepted : Accepted session args buffers mode)
    (fence : lacksFence args = true) :
    rgaTaskSubmit session env manager args =
      { status := .illegalParam, events := gaussEvents env args, manager := manager } := by
  simp [rgaTaskSubmit, prepareTask, validateTask_ok_iff.mpr accepted, fence, gaussEvents]

include same in
theorem built_direct (session : RgaSession) (env : TaskEnv) (buffers : TaskBuffers)
    (mode fence : Int32) (releaseFence : Bool) (path : taskPath args ≠ .palette) :
    let direct := taskBuilt session env (args.asDirect fence releaseFence usage) buffers mode
    direct.1 = none ∧ (builtReq direct.2).map RgaReq.withoutFence =
      (builtReq (taskBuilt session env args buffers mode).2).map RgaReq.withoutFence := by
  dsimp only [taskBuilt]
  rw [taskPath_direct fence releaseFence same, taskSetup_direct fence releaseFence same]
  cases taken : taskPath args with
  | palette => exact absurd taken path
  | fill =>
      refine ⟨rfl, ?_⟩
      simp only [buildTask, generateFillReq_recast]
      exact builtReq_setFence _ fence
  | blend =>
      refine ⟨rfl, ?_⟩
      simp only [buildTask, generateBlitReq_recast]
      exact builtReq_setFence _ fence
  | blit =>
      refine ⟨rfl, ?_⟩
      simp only [buildTask, generateBlitReq_recast]
      exact builtReq_setFence _ fence

theorem palette_refuses_iff (session : RgaSession) (setup : TaskSetup) (fence handle : Int32) :
    BuilderRefuses session .palette { setup with dst := setup.dst.recast fence handle } ↔
      BuilderRefuses session .palette setup := by
  simp only [BuilderRefuses, planPalette_recast]
  cases planPalette setup.src setup.dst setup.pat <;> simp [Except.map]

include same in
theorem call_agrees {count : Nat} (fence : Int32) (releaseFence : Bool)
    (driver : session.driverType ≠ .unknown) (taken : env.reply.ret = 0)
    (job : 0 < args.jobHandle) (room : JobRoom manager args.jobHandle (count + 1))
    (unfenced : args.releaseFence = false)
    (agrees : CallMatches session env releaseFence args) (other : JobManager RgaReq) :
    SameOutcome (rgaTaskSubmit session env other (args.asDirect fence releaseFence usage))
        (rgaTaskSubmit session env manager args) ∧
      JobRoom (rgaTaskSubmit session env manager args).manager args.jobHandle count := by
  have less : JobRoom manager args.jobHandle count := by
    obtain ⟨ptr, found, fits⟩ := room
    exact ⟨ptr, found, by omega⟩
  have validated : validateTask session (args.asDirect fence releaseFence usage) =
      validateTask session args := validateTask_direct fence releaseFence same
  cases outcome : validateTask session args with
  | error status =>
      rw [rgaTaskSubmit_invalid (validated.trans outcome), rgaTaskSubmit_invalid outcome]
      exact ⟨⟨rfl, rfl⟩, less⟩
  | ok pair =>
      obtain ⟨buffers, mode⟩ := pair
      have accepted := validateTask_ok_iff.mp outcome
      have acceptedDirect := (accepted_direct fence releaseFence same).mpr accepted
      obtain ⟨noClash, refuses⟩ := agrees buffers mode accepted
      have lacks : lacksFence args = has args.usage imAsync := by simp [lacksFence, unfenced]
      have lacksDirect : lacksFence (args.asDirect fence releaseFence usage) =
          (has args.usage imAsync && !releaseFence) := lacksFence_direct fence releaseFence same
      by_cases async : has args.usage imAsync = true
      · have none : releaseFence = false := by simpa [async] using noClash
        rw [async, none] at lacksDirect
        rw [rgaTaskSubmit_noFence accepted (lacks.trans async),
          rgaTaskSubmit_noFence acceptedDirect (none ▸ lacksDirect)]
        have quiet := gaussEvents_quiet env args
        have events := gaussEvents_direct fence releaseFence same env
        exact ⟨⟨by simp [events, quiet], rfl⟩, less⟩
      · have sync : has args.usage imAsync = false := by simpa using async
        rw [sync] at lacks lacksDirect
        obtain ⟨blits, directStatus⟩ := direct_outcome driver taken other rfl acceptedDirect
          lacksDirect
        obtain ⟨queues, status, left⟩ := task_outcome env job room accepted lacks
        refine ⟨?_, left⟩
        by_cases path : taskPath args = .palette
        · have refusesDirect : BuilderRefuses session .palette
              (taskSetup env (args.asDirect fence releaseFence usage) buffers mode) := by
            rw [taskSetup_direct fence releaseFence same, palette_refuses_iff]
            exact refuses sync path
          have direct := palette_refused ((taskPath_direct fence releaseFence same).trans path)
            refusesDirect
          have task := palette_refused path (refuses sync path)
          exact ⟨by rw [queues, blits, direct.1, direct.2, task.2]; rfl,
            by rw [directStatus, status, direct.2, task.2]⟩
        · obtain ⟨noTable, requests⟩ :=
            built_direct same session env buffers mode fence releaseFence path
          have both := congrArg Option.isSome requests
          simp only [Option.isSome_map] at both
          refine ⟨?_, ?_⟩
          · rw [queues, blits, noTable, Option.toList_none, List.nil_append,
              ← Option.toList_map, ← Option.toList_map, requests]
          · rw [directStatus, status, builtStatus, builtStatus, both]

include same in
theorem matches_of_agrees {count : Nat} (fence : Int32) (releaseFence : Bool)
    (driver : session.driverType ≠ .unknown) (taken : env.reply.ret = 0)
    (job : 0 < args.jobHandle) (room : JobRoom manager args.jobHandle (count + 1))
    (unfenced : args.releaseFence = false) (other : JobManager RgaReq)
    (agreed : SameOutcome
      (rgaTaskSubmit session env other (args.asDirect fence releaseFence usage))
      (rgaTaskSubmit session env manager args)) :
    CallMatches session env releaseFence args := by
  intro buffers mode accepted
  have acceptedDirect := (accepted_direct fence releaseFence same).mpr accepted
  have lacks : lacksFence args = has args.usage imAsync := by simp [lacksFence, unfenced]
  have lacksDirect : lacksFence (args.asDirect fence releaseFence usage) =
      (has args.usage imAsync && !releaseFence) := lacksFence_direct fence releaseFence same
  constructor
  · rintro ⟨async, fenced⟩
    rw [async, fenced] at lacksDirect
    have direct := (direct_outcome driver taken other rfl acceptedDirect (fenced ▸ lacksDirect)).2
    have status := agreed.status
    rw [direct, rgaTaskSubmit_noFence accepted (lacks.trans async), builtStatus] at status
    split at status <;> cases status
  · intro sync path
    by_contra accepts
    rw [sync] at lacks lacksDirect
    have pathDirect := (taskPath_direct fence releaseFence same).trans path
    have setup : taskSetup env (args.asDirect fence releaseFence usage) buffers mode = _ :=
      taskSetup_direct fence releaseFence same
    obtain ⟨plan, planned⟩ := palette_planned accepts
    have plannedDirect := planPalette_recast (taskSetup env args buffers mode).src
      (taskSetup env args buffers mode).dst fence 0 (taskSetup env args buffers mode).pat
    rw [planned] at plannedDirect
    obtain ⟨_, built⟩ := palette_updates session env.lutRet planned
    obtain ⟨table, builtDirect⟩ := palette_updates session env.lutRet plannedDirect
    have blits := (direct_outcome driver taken other rfl acceptedDirect lacksDirect).1
    have queues := (task_outcome env job room accepted lacks).1
    have lengths := congrArg List.length agreed.requests
    simp only [List.length_map, queues, blits, List.length_append, taskBuilt, pathDirect, path,
      setup, buildTask, Option.length_toList, table, built, builtDirect, if_true] at lengths
    omega

end Agreement

/-! Whole calls -/

structure Twin (jobHandle : UInt32) (releaseFence : Bool) (direct task : TaskArgs) : Prop where
  same : ∃ fence usage, SameUsage usage task.usage ∧ direct = task.asDirect fence releaseFence usage
  handle : task.jobHandle = jobHandle
  unfenced : task.releaseFence = false

theorem calls_agree {session : RgaSession} {jobHandle : UInt32} {releaseFence : Bool}
    {directs tasks : List TaskArgs} (driver : session.driverType ≠ .unknown)
    (job : 0 < jobHandle)
    (paired : List.Forall₂ (Twin jobHandle releaseFence) directs tasks)
    (agrees : ∀ args ∈ tasks, ∀ env, CallMatches session env releaseFence args)
    (env : Nat → TaskEnv) (taken : ∀ n, (env n).reply.ret = 0) (manager other : JobManager RgaReq)
    (room : JobRoom manager jobHandle tasks.length) :
    SameOutcome (submitAll session env other directs) (submitAll session env manager tasks) := by
  induction paired generalizing env manager other with
  | nil => exact ⟨rfl, rfl⟩
  | @cons direct task directs tasks twin _ ih =>
      obtain ⟨⟨fence, usage, same, rfl⟩, rfl, unfenced⟩ := twin
      obtain ⟨outcome, left⟩ := call_agrees same fence releaseFence driver (taken 0) job room
        unfenced (agrees task (by simp) (env 0)) other
      have later := ih (fun args member => agrees args (by simp [member]))
        (fun n => env (n + 1)) (fun n => taken (n + 1)) _
        (rgaTaskSubmit session (env 0) other (task.asDirect fence releaseFence usage)).manager left
      unfold submitAll
      dsimp only
      rw [outcome.status]
      split
      · exact ⟨by simp [outcome.requests, later.requests], later.status⟩
      · exact outcome

inductive PlanTwin (jobHandle : UInt32) (releaseFence : Bool) : ApiPlan → ApiPlan → Prop
  | refused (status : ImStatus) :
      PlanTwin jobHandle releaseFence (.error status) (.error status)
  | calls (directs tasks : List TaskArgs)
      (paired : List.Forall₂ (Twin jobHandle releaseFence) directs tasks) :
      PlanTwin jobHandle releaseFence (.ok directs) (.ok tasks)

/-- `imcvtcolor` asks for its mode only where the buffer leaves it open; the task sets it. -/
def ImOp.KeepsColourSpace : ImOp → Prop
  | cvtcolor _ dst _ _ mode => dst.colorSpaceMode = 0 ∨ dst.colorSpaceMode = mode
  | _ => True

theorem planTwin_one {jobHandle : UInt32} {releaseFence : Bool} {direct task : TaskArgs}
    (twin : Twin jobHandle releaseFence direct task) :
    PlanTwin jobHandle releaseFence (.ok [direct]) (.ok [task]) :=
  .calls _ _ (.cons twin .nil)

theorem planTwin_forRects {jobHandle : UInt32} {releaseFence : Bool} (rects : List ImRect)
    {direct task : ImRect → ApiPlan}
    (each : ∀ rect, ∃ directs tasks, direct rect = .ok directs ∧ task rect = .ok tasks ∧
      List.Forall₂ (Twin jobHandle releaseFence) directs tasks) :
    ∃ directs tasks, forRects rects direct = .ok directs ∧ forRects rects task = .ok tasks ∧
      List.Forall₂ (Twin jobHandle releaseFence) directs tasks := by
  induction rects with
  | nil => exact ⟨[], [], rfl, rfl, .nil⟩
  | cons rect rest ih =>
      obtain ⟨directs, tasks, direct_eq, task_eq, paired⟩ := each rect
      obtain ⟨moreDirects, moreTasks, directs_eq, tasks_eq, morePaired⟩ := ih
      exact ⟨directs ++ moreDirects, tasks ++ moreTasks, forRects_cons direct_eq directs_eq,
        forRects_cons task_eq tasks_eq, List.rel_append paired morePaired⟩

theorem syncUsage_one : syncUsage 1 = imSync := by
  decide

theorem sameUsage_syncOnly : SameUsage (syncUsage 1) 0 := by
  have same := sameUsage_sync 0
  rwa [show (0 : Int32) ||| imSync = syncUsage 1 by decide] at same

theorem sameUsage_synced (usage : Int32) : SameUsage (usage ||| syncUsage 1) usage := by
  rw [syncUsage_one]
  exact sameUsage_sync usage

theorem imfill_twin (jobHandle : UInt32) (releaseFence : Bool) (dst : RgaBuffer) (color : UInt32)
    (rect : ImRect) :
    ∃ directs tasks, imfill dst rect color.toInt32 1 releaseFence = .ok directs ∧
      imfillTask jobHandle dst rect color = .ok tasks ∧
      List.Forall₂ (Twin jobHandle releaseFence) directs tasks :=
  ⟨_, _, rfl, rfl, .cons ⟨⟨-1, _, sameUsage_synced _, rfl⟩, rfl, rfl⟩ .nil⟩

theorem immosaic_twin (jobHandle : UInt32) (releaseFence : Bool) (dst : RgaBuffer)
    (mosaicMode : Int32) (rect : ImRect) :
    ∃ directs tasks, immosaic dst rect mosaicMode 1 releaseFence = .ok directs ∧
      immosaicTask jobHandle dst rect mosaicMode = .ok tasks ∧
      List.Forall₂ (Twin jobHandle releaseFence) directs tasks :=
  ⟨_, _, rfl, rfl, .cons ⟨⟨-1, _, sameUsage_synced _, rfl⟩, rfl, rfl⟩ .nil⟩

theorem imrectangle_twin (jobHandle : UInt32) (releaseFence : Bool) (dst : RgaBuffer)
    (color : UInt32) (thickness : Int32) (rect : ImRect) :
    ∃ directs tasks, imrectangle dst rect color thickness 1 releaseFence = .ok directs ∧
      imrectangleTask jobHandle dst rect color thickness = .ok tasks ∧
      List.Forall₂ (Twin jobHandle releaseFence) directs tasks := by
  unfold imrectangle imrectangleTask
  split
  · exact imfill_twin jobHandle releaseFence dst color rect
  · exact planTwin_forRects _ (imfill_twin jobHandle releaseFence dst color)

theorem PlanTwin.of_calls {jobHandle : UInt32} {releaseFence : Bool} {direct task : ApiPlan}
    (calls : ∃ directs tasks, direct = .ok directs ∧ task = .ok tasks ∧
      List.Forall₂ (Twin jobHandle releaseFence) directs tasks) :
    PlanTwin jobHandle releaseFence direct task := by
  obtain ⟨directs, tasks, rfl, rfl, paired⟩ := calls
  exact .calls directs tasks paired

theorem direct_plan (table : RgaInfoTableEntry) (jobHandle : UInt32) (fence : Int32)
    (releaseFence : Bool) (op : ImOp) (keeps : op.KeepsColourSpace) :
    PlanTwin jobHandle releaseFence (op.direct table fence releaseFence)
      (op.task table jobHandle) := by
  cases op with
  | copy | translate =>
      dsimp only [ImOp.direct, ImOp.task, imcopy, imcopyTask, imtranslate, imtranslateTask]
      split
      · exact .refused _
      · exact planTwin_one ⟨⟨-1, _, sameUsage_syncOnly, rfl⟩, rfl, rfl⟩
  | palette =>
      dsimp only [ImOp.direct, ImOp.task, impalette, impaletteTask]
      split
      · exact .refused _
      · exact planTwin_one ⟨⟨-1, _, sameUsage_synced _, rfl⟩, rfl, rfl⟩
  | resize src dst fx fy interpolation =>
      dsimp only [ImOp.direct, ImOp.task, imresize, imresizeTask]
      cases resizeBuffer table src dst fx fy with
      | error status => exact .refused status
      | ok dst => exact planTwin_one ⟨⟨-1, _, sameUsage_syncOnly, rfl⟩, rfl, rfl⟩
  | cvtcolor src dst sfmt dfmt mode =>
      have colour : (if dst.colorSpaceMode = 0 then mode else dst.colorSpaceMode) = mode := by
        obtain unset | set := keeps
        · rw [if_pos unset]
        · rw [set, ite_self]
      dsimp only [ImOp.direct, ImOp.task, imcvtcolor, imcvtcolorTask]
      rw [colour]
      exact planTwin_one ⟨⟨-1, _, sameUsage_syncOnly, rfl⟩, rfl, rfl⟩
  | crop => exact planTwin_one ⟨⟨-1, _, sameUsage_syncOnly, rfl⟩, rfl, rfl⟩
  | process => exact planTwin_one ⟨⟨fence, _, .refl _, rfl⟩, rfl, rfl⟩
  | fillArray dst rects color =>
      exact .of_calls (planTwin_forRects rects (imfill_twin jobHandle releaseFence dst color))
  | mosaicArray dst rects mosaicMode =>
      exact .of_calls
        (planTwin_forRects rects (immosaic_twin jobHandle releaseFence dst mosaicMode))
  | rectangle dst rect color thickness =>
      exact .of_calls (imrectangle_twin jobHandle releaseFence dst color thickness rect)
  | rectangleArray dst rects color thickness =>
      exact .of_calls
        (planTwin_forRects rects (imrectangle_twin jobHandle releaseFence dst color thickness))
  | _ => exact planTwin_one ⟨⟨-1, _, sameUsage_synced _, rfl⟩, rfl, rfl⟩

theorem PlainTask.matches {jobHandle : UInt32} {args : TaskArgs}
    (plain : PlainTask jobHandle args) (session : RgaSession) (env : TaskEnv)
    (releaseFence : Bool) : CallMatches session env releaseFence args := by
  intro buffers mode _
  refine ⟨?_, fun _ palette => absurd palette plain.path⟩
  rintro ⟨async, _⟩
  rw [plain.sync] at async
  cases async

theorem sameOutcome_single (session : RgaSession) (env : Nat → TaskEnv)
    (manager : JobManager RgaReq) (direct task : TaskArgs) :
    SameOutcome (submitAll session env manager [direct]) (submitAll session env manager [task]) ↔
      SameOutcome (rgaTaskSubmit session (env 0) manager direct)
        (rgaTaskSubmit session (env 0) manager task) := by
  obtain ⟨directStatus, directEvents, _⟩ := submitAll_single session env manager direct
  obtain ⟨taskStatus, taskEvents, _⟩ := submitAll_single session env manager task
  constructor
  · rintro ⟨requests, status⟩
    exact ⟨by rwa [directEvents, taskEvents] at requests,
      by rwa [directStatus, taskStatus] at status⟩
  · rintro ⟨requests, status⟩
    exact ⟨by rwa [directEvents, taskEvents], by rwa [directStatus, taskStatus]⟩

/-- Job 7, with nothing queued yet. -/
def openJobManager : JobManager RgaReq :=
  { emptyManager with jobMap := [⟨7, 0⟩], jobCount := 1, allocated := fun ptr => ptr == 0 }

end LibRga

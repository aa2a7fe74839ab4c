import LibRga.Fence
import LibRga.TaskEquivalence

/-!
`improcess_ctx`: one task for a context, then the configuration of the context.

The task is submitted without a place for a release fence, whatever the caller
gave, and with the usage of the caller, so that the check for such a place meets
every asynchronous call.
-/

namespace LibRga

structure ContextResult where
  status : ImStatus
  releaseFence : Option Int32 := none
  /-- What `RGA_IOC_REQUEST_CONFIG` was given, with the acquire fence. -/
  config : Option (RgaUserRequest RgaReq × Int32) := none
  events : List DriverEvent := []
  manager : JobManager RgaReq

/-- `rga_job_config` as one thread runs it. -/
def rgaJobConfig (manager : JobManager RgaReq) (handle : UInt32) (syncMode acquireFenceFd : Int32)
    (releaseFence : Bool) (reply : IoctlReply) : ContextResult :=
  match jobSyncMode syncMode, rgaMapFindJob manager.jobMap handle with
  | some command, some ptr =>
      let config := (manager.userRequest ptr command, acquireFenceFd)
      if reply.ret < 0 then { status := .failed, config := some config, manager := manager }
      else
        { status := .success
          releaseFence := if syncMode = imAsync ∧ releaseFence = true then some reply.outFenceFd
            else none
          config := some config
          manager := manager }
  | _, _ => { status := .illegalParam, manager := manager }

theorem rgaJobConfig_step (kind : JobMapKind) (state : JobState RgaReq) (thread : Thread)
    (idle : state.pc thread = .idle) (handle : UInt32) (syncMode fence command : Int32)
    (releaseFence : Bool) (reply : IoctlReply) (ptr : JobPtr)
    (known : jobSyncMode syncMode = some command)
    (found : rgaMapFindJob state.manager.jobMap handle = some ptr) :
    let result := rgaJobConfig state.manager handle syncMode fence releaseFence reply
    let request := state.manager.userRequest ptr command
    state.step kind (.configLock thread handle syncMode (decide (¬reply.ret < 0))) =
        some (state, .configIoctl thread handle ptr request (decide (¬reply.ret < 0))) ∧
      result.config = some (request, fence) ∧ result.manager = state.manager := by
  dsimp only
  constructor
  · simp only [JobState.step, JobState.configLock, idle, known, found, if_true]
  · unfold rgaJobConfig
    rw [known, found]
    dsimp only
    split_ifs <;> exact ⟨rfl, rfl⟩

/-- The task `improcess_ctx` makes of its arguments. -/
def contextTask (args : TaskArgs) (ctxId : UInt32) : TaskArgs :=
  { args with jobHandle := ctxId, acquireFenceFd := -1, releaseFence := false }

def improcessCtx (session : RgaSession) (env : TaskEnv) (manager : JobManager RgaReq)
    (args : TaskArgs) (acquireFenceFd : Int32) (releaseFence : Bool) (ctxId : UInt32)
    (reply : IoctlReply) : ContextResult :=
  let task := rgaTaskSubmit session env manager (contextTask args ctxId)
  if task.status ≠ .success then
    { status := task.status, events := task.events, manager := task.manager }
  else
    let syncMode := if has args.usage imAsync then imAsync else imSync
    let config := rgaJobConfig task.manager ctxId syncMode acquireFenceFd releaseFence reply
    { config with events := task.events ++ config.events }

/-! The two modes of one call -/

def asyncUsage (usage : Int32) : Int32 :=
  usage ||| imAsync

def waitingUsage (usage : Int32) : Int32 :=
  (usage &&& ~~~imAsync) ||| imSync

def RgaReq.unfenced (req : RgaReq) : RgaReq :=
  { req with inFenceFd := 0, outFenceFd := 0 }

def RgaUserRequest.unsynced (request : RgaUserRequest RgaReq) : RgaUserRequest RgaReq :=
  { request with tasks := request.tasks.map RgaReq.unfenced, syncMode := 0 }

/-- The asynchronous call does what the waiting one does, and reports the fence of the driver. -/
structure AsyncLikeSync (reply : IoctlReply) (async sync : ContextResult) : Prop where
  succeeds : async.status = .success
  queued : (queuedRequests async.events).map RgaReq.unfenced =
    (queuedRequests sync.events).map RgaReq.unfenced
  config : async.config.map (Prod.map RgaUserRequest.unsynced id) =
    sync.config.map (Prod.map RgaUserRequest.unsynced id)
  fence : async.releaseFence = some reply.outFenceFd

theorem has_asyncUsage (usage : Int32) : has (asyncUsage usage) imAsync = true := by
  have kept : (asyncUsage usage).toBitVec.getLsbD 26 = true := by
    rw [asyncUsage, Int32.toBitVec_or, BitVec.getLsbD_or]
    exact Bool.or_true _
  have bit : (asyncUsage usage &&& imAsync).toBitVec.getLsbD 26 = true := by
    rw [Int32.toBitVec_and, BitVec.getLsbD_and, kept]
    rfl
  apply bne_iff_ne.mpr
  intro clear
  rw [clear] at bit
  cases bit

theorem sameOperation_modes (usage : Int32) :
    SameOperation (asyncUsage usage) (waitingUsage usage) := by
  intro mask clear
  apply Int32.toBitVec_inj.mp
  apply BitVec.eq_of_getLsbD_eq
  intro bit below
  have outside : mask.toBitVec.getLsbD bit = true →
      imSync.toBitVec.getLsbD bit = false ∧ imAsync.toBitVec.getLsbD bit = false := by
    intro set
    have bits := congrArg (fun word : Int32 => word.toBitVec.getLsbD bit) clear
    simpa [set] using bits
  simp only [asyncUsage, waitingUsage, Int32.toBitVec_and, Int32.toBitVec_or, Int32.toBitVec_not,
    BitVec.getLsbD_and, BitVec.getLsbD_or, BitVec.getLsbD_not, below, decide_true, Bool.true_and]
  cases set : mask.toBitVec.getLsbD bit with
  | false => rw [Bool.and_false, Bool.and_false]
  | true =>
      obtain ⟨sync, async⟩ := outside set
      rw [sync, async]
      simp

section Submission

variable {session : RgaSession} {env : TaskEnv} {manager : JobManager RgaReq} {args : TaskArgs}

/-- Without a place for its fence an asynchronous submission does not come to the builder. -/
theorem rgaTaskSubmit_unfenced (lacks : lacksFence args = true) :
    let result := rgaTaskSubmit session env manager args
    result.status.ok = false ∧ blitRequests result.events = [] ∧
      queuedRequests result.events = [] ∧ result.manager = manager := by
  have gauss := gaussEvents_quiet env args
  dsimp only
  cases rgaTaskSubmit_submitted session env manager args with
  | invalid status refused same =>
      rw [same]
      exact ⟨refuses_not_ok (validateTask_error refused), rfl, rfl, rfl⟩
  | noFence buffers mode accepted fence same =>
      rw [same]
      exact ⟨rfl, gauss.1, gauss.2, rfl⟩
  | refused buffers mode accepted fence exits same =>
      rw [lacks] at fence
      cases fence
  | built buffers mode accepted fence req builds same =>
      rw [lacks] at fence
      cases fence

theorem rgaTaskSubmit_accepted (succeeds :
    (rgaTaskSubmit session env manager args).status = .success) :
    ∃ buffers mode, Accepted session args buffers mode := by
  obtain ⟨buffers, mode, _, accepted, _⟩ :=
    @built_of_ok session env manager args (by rw [succeeds]; rfl)
  exact ⟨buffers, mode, accepted⟩

end Submission

section Context

variable (session : RgaSession) (env : TaskEnv) (manager : JobManager RgaReq) (args : TaskArgs)
  (acquireFenceFd : Int32) (releaseFence : Bool) (ctxId : UInt32) (reply : IoctlReply)

theorem improcessCtx_async (async : has args.usage imAsync = true) :
    let task := rgaTaskSubmit session env manager (contextTask args ctxId)
    let result := improcessCtx session env manager args acquireFenceFd releaseFence ctxId reply
    result.status = task.status ∧ result.status.ok = false ∧ result.config = none ∧
      blitRequests result.events = [] ∧ queuedRequests result.events = [] ∧
      result.manager = manager := by
  have lacks : lacksFence (contextTask args ctxId) = true := by
    simp only [lacksFence, contextTask, async, Bool.not_false, Bool.and_self]
  obtain ⟨fails, direct, quiet, kept⟩ :=
    @rgaTaskSubmit_unfenced session env manager (contextTask args ctxId) lacks
  have failed :
      (rgaTaskSubmit session env manager (contextTask args ctxId)).status ≠ .success := by
    intro succeeds
    rw [succeeds] at fails
    cases fails
  dsimp only [improcessCtx]
  rw [if_pos failed]
  exact ⟨rfl, fails, rfl, direct, quiet, kept⟩

theorem improcessCtx_submits
    (succeeds : (improcessCtx session env manager args acquireFenceFd releaseFence ctxId
      reply).status = .success) :
    (rgaTaskSubmit session env manager (contextTask args ctxId)).status = .success := by
  by_contra failed
  dsimp only [improcessCtx] at succeeds
  rw [if_pos failed] at succeeds
  exact failed succeeds

end Context

/-- No call with `IM_ASYNC` in its usage does what the waiting call does; and where that one
succeeds, nothing but the missing place for a fence is the matter with it. -/
theorem improcessCtx_never_async (session : RgaSession) (env : TaskEnv)
    (manager : JobManager RgaReq) (args : TaskArgs) (acquireFenceFd : Int32) (ctxId : UInt32)
    (reply : IoctlReply) :
    let called usage := improcessCtx session env manager { args with usage := usage }
      acquireFenceFd true ctxId reply
    let async := called (asyncUsage args.usage)
    let sync := called (waitingUsage args.usage)
    ¬ AsyncLikeSync reply async sync ∧ async.status.ok = false ∧ async.config = none ∧
      blitRequests async.events = [] ∧ queuedRequests async.events = [] ∧
      async.manager = manager ∧ (sync.status = .success → async.status = .illegalParam) := by
  obtain ⟨same, fails, unconfigured, direct, quiet, kept⟩ :=
    improcessCtx_async session env manager { args with usage := asyncUsage args.usage }
      acquireFenceFd true ctxId reply (has_asyncUsage args.usage)
  refine ⟨?_, fails, unconfigured, direct, quiet, kept, ?_⟩
  · rintro ⟨succeeds, _, _, _⟩
    rw [succeeds] at fails
    cases fails
  · intro succeeds
    obtain ⟨buffers, mode, accepted⟩ :=
      rgaTaskSubmit_accepted (improcessCtx_submits _ _ _ _ _ _ _ _ succeeds)
    have alike := @validateTask_usage (asyncUsage args.usage) session
      (contextTask { args with usage := waitingUsage args.usage } ctxId)
      (sameOperation_modes args.usage)
    have acceptedAsync := validateTask_ok_iff.mp (alike.trans (validateTask_ok_iff.mpr accepted))
    have lacks : lacksFence (contextTask { args with usage := asyncUsage args.usage } ctxId) =
        true := by
      simp only [lacksFence, contextTask, has_asyncUsage, Bool.not_false, Bool.and_self]
    exact same.trans (congrArg SubmitResult.status (rgaTaskSubmit_noFence acceptedAsync lacks))

/-- A copy as a task of context 7, with a driver that answers with fence 9. -/
theorem improcessCtx_refuses_async :
    let args : TaskArgs := { src := importedBuffer 1, dst := importedBuffer 2, opt := some {} }
    let called usage := improcessCtx rga2ProSession {} openJobManager
      { args with usage := usage } (-1) true 7 { ret := 0, outFenceFd := 9 }
    let async := called (asyncUsage args.usage)
    let sync := called (waitingUsage args.usage)
    JobRoom openJobManager 7 1 ∧ sync.status = .success ∧ async.status = .illegalParam ∧
      ¬ AsyncLikeSync { ret := 0, outFenceFd := 9 } async sync := by
  refine ⟨⟨0, rfl, by decide⟩, by decide +kernel, by decide +kernel, ?_⟩
  rintro ⟨succeeds, _, _, _⟩
  exact absurd succeeds (by decide +kernel)

end LibRga

import LibRga.Deferral
import LibRga.LegacyOpen
import LibRga.SessionAccounting

/-!
The acquire fence of an asynchronous submission.

A driver from version 1.3.0 on leaves the fd to the library, an older one closes
it. `rga_task_submit`, `RgaBlit` and `RgaCollorFill` go by a feature flag of the
session or context; `rga_job_submit` does not look at it and never closes.
-/

namespace LibRga

/-! `rga_job_submit` as one thread runs it -/

structure JobSubmitResult where
  status : ImStatus
  releaseFence : Option Int32 := none
  /-- What `RGA_IOC_REQUEST_SUBMIT` was given, with the acquire fence. -/
  request : Option (RgaUserRequest RgaReq × Int32) := none
  events : List DriverEvent := []
  manager : JobManager RgaReq

def rgaJobSubmit (manager : JobManager RgaReq) (handle : UInt32) (syncMode acquireFenceFd : Int32)
    (releaseFence : Bool) (reply : IoctlReply) : JobSubmitResult :=
  match jobSyncMode syncMode, rgaMapFindJob manager.jobMap handle with
  | some command, some ptr =>
      let request := (manager.userRequest ptr command, acquireFenceFd)
      let freed := (manager.removeJob handle).setAllocated ptr false
      if reply.ret < 0 then { status := .failed, request := some request, manager := freed }
      else
        { status := .success
          releaseFence := if syncMode = imAsync ∧ releaseFence = true then some reply.outFenceFd
            else none
          request := some request
          manager := freed }
  | _, _ => { status := .illegalParam, manager := manager }

theorem rgaJobSubmit_steps (kind : JobMapKind) (state : JobState RgaReq) (thread : Thread)
    (idle : state.pc thread = .idle) (handle : UInt32) (fence : Int32) (releaseFence : Bool)
    (reply : IoctlReply) (ptr : JobPtr)
    (found : rgaMapFindJob state.manager.jobMap handle = some ptr) :
    ∃ between after, state.step kind (.submitLock thread handle imAsync) =
        some (between, .detached thread handle ptr) ∧
      between.step kind (.submitIoctl thread (decide (¬reply.ret < 0))) =
        some (after, .submitIoctl thread ptr (state.manager.userRequest ptr rgaBlitAsync)
          (decide (¬reply.ret < 0))) ∧
      (rgaJobSubmit state.manager handle imAsync fence releaseFence reply).manager =
        after.manager ∧
      (rgaJobSubmit state.manager handle imAsync fence releaseFence reply).request =
        some (state.manager.userRequest ptr rgaBlitAsync, fence) := by
  have command : jobSyncMode imAsync = some rgaBlitAsync := by decide
  let between := { state with manager := state.manager.removeJob handle }.setPc thread
    (.submitting ptr rgaBlitAsync)
  have stands : between.pc thread = .submitting ptr rgaBlitAsync := if_pos rfl
  refine ⟨between, (JobState.submitIoctl between thread ptr rgaBlitAsync
    (decide (¬reply.ret < 0))).1, ?_, ?_, ?_⟩
  · simp only [JobState.step, JobState.submitLock, idle, command, found, if_true]
    rfl
  · simp only [JobState.step, stands]
    rfl
  · unfold rgaJobSubmit
    rw [command, found]
    dsimp only
    split_ifs <;> exact ⟨rfl, rfl⟩

def closedFences (events : List DriverEvent) : List Int32 :=
  events.filterMap fun
    | .closeFence fd => some fd
    | _ => none

/-- `RGA_DRIVER_FEATURE_USER_CLOSE_FENCE` by the version of the driver. -/
def userCloses (version : RgaVersion) : Bool :=
  (rgaVersionCompare version ⟨1, 3, 0⟩).isGE

/-- A driver reports its own version or does not answer. -/
def SessionReply.From (version : RgaVersion) (reply : SessionReply) : Prop :=
  ∀ reported, reply.driverVersion = some reported → reported = version

def SessionEvent.From (version : RgaVersion) : SessionEvent → Prop
  | initialised _ _ reply _ | refused _ _ reply _ => reply.From version
  | _ => True

/-- A session that `get_rga_session` returns in some run over a driver of the given version. -/
def SessionOver (version : RgaVersion) (session : SessionData) : Prop :=
  ∃ trace state, Machine.Run SessionState.step {} trace state ∧
    (∀ event ∈ trace, event.From version) ∧ state.session = session ∧ 0 < session.rgaDevFd

/-- A call that takes an acquire fence. The legacy ones come with the block their context was made
in and the replies it was opened with. -/
inductive FenceCall where
  | task (session : SessionData) (env : TaskEnv) (manager : JobManager RgaReq) (args : TaskArgs)
  | job (session : SessionData) (manager : JobManager RgaReq) (handle : UInt32)
      (syncMode fence : Int32) (releaseFence : Bool) (reply : IoctlReply)
  | blit (block : ContextBlock) (opening : SessionReply) (ctx : ContextBlock) (src dst : RgaInfo)
      (src1 : Option RgaInfo) (reply : IoctlReply)
  | collorFill (block : ContextBlock) (opening : SessionReply) (ctx : ContextBlock) (dst : RgaInfo)
      (reply : IoctlReply)

namespace FenceCall

/-- The session or context has been set up over a driver of the given version. -/
def Over (version : RgaVersion) : FenceCall → Prop
  | task session .. | job session .. => SessionOver version session
  | blit block opening ctx .. | collorFill block opening ctx .. =>
      opening.From version ∧ block.normalRgaOpen opening = some ctx

def fence : FenceCall → Int32
  | task _ _ _ args => args.acquireFenceFd
  | job _ _ _ _ fence _ _ => fence
  | blit _ _ _ _ dst _ _ | collorFill _ _ _ dst _ => dst.inFenceFd

def async : FenceCall → Bool
  | task _ _ _ args => has args.usage imAsync
  | job _ _ _ syncMode _ _ _ => syncMode = imAsync
  | blit _ _ _ src dst _ _ => src.syncMode = rgaBlitAsync ∨ dst.syncMode = rgaBlitAsync
  | collorFill _ _ _ dst _ => dst.syncMode = rgaBlitAsync

def events : FenceCall → List DriverEvent
  | task session env manager args =>
      (rgaSingleTaskSubmit session.rgaSession env manager args).events
  | job _ manager handle syncMode fence releaseFence reply =>
      (rgaJobSubmit manager handle syncMode fence releaseFence reply).events
  | blit _ _ ctx src dst src1 reply => (rgaBlit ctx.rgaContext src dst src1 reply).events
  | collorFill _ _ ctx dst reply => (rgaCollorFill ctx.rgaContext dst reply).events

/-- The driver has taken the request. A legacy call returns `-errno` when it has not, which need not
be negative, so its return value does not say. -/
def submitted : FenceCall → Bool
  | task session env manager args =>
      (rgaSingleTaskSubmit session.rgaSession env manager args).status = .success
  | job _ manager handle syncMode fence releaseFence reply =>
      (rgaJobSubmit manager handle syncMode fence releaseFence reply).status = .success
  | blit _ _ ctx src dst src1 reply =>
      (rgaBlitReq ctx.rgaContext src dst src1).toOption.isSome && decide (reply.ret = 0)
  | collorFill _ _ ctx dst reply =>
      (rgaCollorFillReq ctx.rgaContext dst).toOption.isSome && decide (reply.ret = 0)

/-- How often the fence is closed by the library and the driver together. -/
def closeCount (version : RgaVersion) (call : FenceCall) : Nat :=
  (closedFences call.events).count call.fence +
    if call.submitted = true ∧ userCloses version = false then 1 else 0

/-- What the library has to know about the driver. The session starts out cleared, a context does
not, and a job submission never closes. -/
def Informed (version : RgaVersion) : FenceCall → Prop
  | task session .. => userCloses version = true → session.driverVersion = version
  | job .. => userCloses version = false
  | blit block opening .. | collorFill block opening .. =>
      (hasBit block.driverFeature rgaDriverFeatureUserCloseFence ||
        userCloses (opening.driverVersion.getD block.mDriverVersion)) = userCloses version

end FenceCall

/-! The flag of the session -/

/-- The flag follows the version, and the version is the driver's or still zero. -/
structure FlagFits (version : RgaVersion) (session : SessionData) : Prop where
  known : session.driverVersion = version ∨ session.driverVersion = {}
  right : hasBit session.driverFeature rgaDriverFeatureUserCloseFence = true →
    userCloses session.driverVersion = true
  set : 0 < session.rgaDevFd → userCloses session.driverVersion = true →
    hasBit session.driverFeature rgaDriverFeatureUserCloseFence = true

variable {version : RgaVersion} {session : SessionData} {reply : SessionReply}

theorem hasBit_userCloseFence (word : UInt32) :
    hasBit (word ||| rgaDriverFeatureUserCloseFence) rgaDriverFeatureUserCloseFence = true := by
  have kept : (word ||| rgaDriverFeatureUserCloseFence) &&& rgaDriverFeatureUserCloseFence =
      rgaDriverFeatureUserCloseFence := by
    apply UInt32.toBitVec_inj.mp
    ext i below
    simp only [UInt32.toBitVec_and, UInt32.toBitVec_or, BitVec.getElem_and, BitVec.getElem_or]
    cases rgaDriverFeatureUserCloseFence.toBitVec[i] <;> simp
  rw [hasBit, kept]
  decide

theorem userCloses_zero : userCloses {} = false := by
  decide

theorem queryVersions_flag (session : SessionData) (answers : reply.From version) :
    (session.queryVersions reply).1.driverFeature = session.driverFeature ∧
      ((session.queryVersions reply).1.driverVersion = version ∨
        (session.queryVersions reply).1.driverVersion = session.driverVersion) := by
  unfold SessionData.queryVersions
  split
  · rename_i reported same
    split <;> exact ⟨rfl, .inl (answers reported same)⟩
  · split <;> exact ⟨rfl, .inr rfl⟩

theorem FlagFits.query (fits : FlagFits version session) (answers : reply.From version)
    (unset : ¬0 < session.rgaDevFd) : FlagFits version (session.queryVersions reply).1 := by
  obtain ⟨feature, learnt⟩ := queryVersions_flag session answers
  have fd := queryVersions_fd session reply
  refine ⟨?_, ?_, fun set => absurd (fd ▸ set) unset⟩
  · rcases learnt with reported | same
    · exact .inl reported
    · rw [same]
      exact fits.known
  · rw [feature]
    intro flagged
    have closes := fits.right flagged
    rcases fits.known with old | zero
    · rcases learnt with reported | same
      · rw [reported, ← old]
        exact closes
      · rw [same]
        exact closes
    · rw [zero, userCloses_zero] at closes
      cases closes

theorem FlagFits.setDriverFeature {fd : Int32} (fits : FlagFits version session) :
    FlagFits version { session.setDriverFeature with rgaDevFd := fd } := by
  unfold SessionData.setDriverFeature
  by_cases closes : (rgaVersionCompare session.driverVersion ⟨1, 3, 0⟩).isGE = true
  · rw [if_pos closes]
    exact ⟨fits.known, fun _ => closes, fun _ _ => hasBit_userCloseFence _⟩
  · rw [if_neg closes]
    exact ⟨fits.known, fits.right, fun _ other => absurd other closes⟩

theorem FlagFits.device (fits : FlagFits version session) (answers : reply.From version)
    (unset : ¬0 < session.rgaDevFd) : FlagFits version (session.rgaDeviceInit reply).2.1 := by
  have asked := fits.query answers unset
  unfold SessionData.rgaDeviceInit
  dsimp only
  split
  · exact fits
  split
  · exact asked
  split
  · exact asked
  · exact asked.setDriverFeature

theorem FlagFits.init (fits : FlagFits version session) (answers : reply.From version)
    (unset : ¬0 < session.rgaDevFd) : FlagFits version (session.rgaSessionInit reply).2.1 := by
  have device := fits.device answers unset
  unfold SessionData.rgaSessionInit
  generalize session.rgaDeviceInit reply = opened at device
  obtain ⟨status, opened, calls⟩ := opened
  dsimp only at device ⊢
  split
  · exact device
  split
  · unfold SessionData.rgaDeviceExit
    split
    · exact ⟨device.known, device.right, device.set⟩
    · have closed : ¬(0 : Int32) < -1 := by decide
      exact ⟨device.known, by simp [hasBit], fun set => absurd set closed⟩
  · exact ⟨device.known, device.right, device.set⟩

theorem run_flag {trace : List SessionEvent} {state : SessionState}
    (run : Machine.Run SessionState.step {} trace state)
    (answers : ∀ event ∈ trace, event.From version) : FlagFits version state.session := by
  refine run.invariant (P := fun past state =>
    (∀ event ∈ past, event.From version) → FlagFits version state.session) ?_ ?_ answers
  · exact fun _ => ⟨.inr rfl, fun flagged => absurd flagged (by decide),
      fun set => absurd set (by decide)⟩
  · intro past before op after event _ kept taken answers
    obtain ⟨latest, earlier⟩ := List.forall_mem_cons.mp answers
    obtain ⟨_, _, session, _⟩ |
        ⟨thread, reply, status, made, calls, unset, ran, session, _, outcome⟩ :=
      sessionStep_cases taken
    · rw [session]
      exact kept earlier
    · have answered : reply.From version := by
        rcases outcome with ⟨_, rfl⟩ | ⟨_, _, rfl⟩ <;> exact latest
      have fits := (kept earlier).init answered unset
      rw [ran] at fits
      rw [session]
      exact fits

theorem SessionOver.flag (versioned : SessionOver version session) :
    hasBit session.driverFeature rgaDriverFeatureUserCloseFence = userCloses session.driverVersion ∧
      (session.driverVersion = version ∨ session.driverVersion = {}) := by
  obtain ⟨trace, state, run, answers, rfl, opened⟩ := versioned
  have fits := run_flag run answers
  exact ⟨Bool.eq_iff_iff.mpr ⟨fits.right, fits.set opened⟩, fits.known⟩

theorem rgaSetDriverFeature_flag (ctx : ContextBlock) :
    hasBit ctx.rgaSetDriverFeature.driverFeature rgaDriverFeatureUserCloseFence =
        (hasBit ctx.driverFeature rgaDriverFeatureUserCloseFence ||
          userCloses ctx.mDriverVersion) ∧ ctx.rgaSetDriverFeature.driver = ctx.driver := by
  unfold ContextBlock.rgaSetDriverFeature userCloses
  by_cases closes : (rgaVersionCompare ctx.mDriverVersion ⟨1, 3, 0⟩).isGE = true
  · rw [if_pos closes, hasBit_userCloseFence, closes, Bool.or_true]
    exact ⟨rfl, rfl⟩
  · rw [if_neg closes, eq_false_of_ne_true closes, Bool.or_false]
    exact ⟨rfl, rfl⟩

theorem normalRgaOpen_flag {block ctx : ContextBlock}
    (opened : block.normalRgaOpen reply = some ctx) :
    hasBit ctx.driverFeature rgaDriverFeatureUserCloseFence =
        (hasBit block.driverFeature rgaDriverFeatureUserCloseFence ||
          userCloses (reply.driverVersion.getD block.mDriverVersion)) ∧
      (ctx.driver = .multiRga ∨ ctx.driver = .rga2) := by
  unfold ContextBlock.normalRgaOpen at opened
  split at opened
  · cases opened
  split at opened
  · rename_i reported same
    obtain ⟨versions, _, rfl⟩ := Option.map_eq_some_iff.mp opened
    rw [same]
    obtain ⟨flag, driver⟩ := rgaSetDriverFeature_flag { block with
      mDriverVersion := reported, mHwVersions := versions
      mVersion := Float32.round (Float32.double (32 / 10)), driver := .multiRga }
    exact ⟨flag, .inl driver⟩
  · rename_i unanswered
    obtain ⟨text, _, rfl⟩ := Option.map_eq_some_iff.mp opened
    rw [unanswered]
    exact ⟨(rgaSetDriverFeature_flag _).1, .inr (rgaSetDriverFeature_flag _).2⟩

/-! What the library closes -/

@[simp]
theorem closedFences_append (first second : List DriverEvent) :
    closedFences (first ++ second) = closedFences first ++ closedFences second :=
  List.filterMap_append

theorem closedFences_prepared (env : TaskEnv) (args : TaskArgs) (update : Option RgaReq) :
    closedFences (gaussEvents env args) = [] ∧ closedFences (lutEvents update) = [] := by
  constructor
  · unfold gaussEvents
    split_ifs <;> rfl
  · cases update <;> rfl

theorem submitDirect_closes (session : RgaSession) (env : TaskEnv) (manager : JobManager RgaReq)
    (args : TaskArgs) (req : RgaReq) (async : has args.usage imAsync = true)
    (positive : 0 < args.acquireFenceFd) :
    closedFences (submitDirect session env manager args req).events =
      if (submitDirect session env manager args req).status = .success ∧
          hasBit session.driverFeature rgaDriverFeatureUserCloseFence = true then
        [args.acquireFenceFd]
      else [] := by
  unfold submitDirect
  split
  · rfl
  · dsimp only
    split_ifs <;> simp_all [closedFences]

theorem submitReq_closes (session : RgaSession) (env : TaskEnv) (manager : JobManager RgaReq)
    (args : TaskArgs) (req : RgaReq) :
    closedFences (submitReq session env manager { args with jobHandle := 0 } req).events =
        closedFences (submitDirect session env manager { args with jobHandle := 0 } req).events ∧
      (submitReq session env manager { args with jobHandle := 0 } req).status =
        (submitDirect session env manager { args with jobHandle := 0 } req).status := by
  have direct : ¬0 < ({ args with jobHandle := 0 } : TaskArgs).jobHandle := by simp
  unfold submitReq
  rw [if_neg direct]
  dsimp only
  split
  · exact ⟨by simp [closedFences], rfl⟩
  · exact ⟨rfl, rfl⟩

theorem rgaSingleTaskSubmit_closes (session : RgaSession) (env : TaskEnv)
    (manager : JobManager RgaReq) (args : TaskArgs) (async : has args.usage imAsync = true)
    (positive : 0 < args.acquireFenceFd) :
    closedFences (rgaSingleTaskSubmit session env manager args).events =
      if (rgaSingleTaskSubmit session env manager args).status = .success ∧
          hasBit session.driverFeature rgaDriverFeatureUserCloseFence = true then
        [args.acquireFenceFd]
      else [] := by
  unfold rgaSingleTaskSubmit
  have quiet := closedFences_prepared env { args with jobHandle := 0 }
  cases rgaTaskSubmit_submitted session env manager { args with jobHandle := 0 } with
  | invalid status refused same =>
      have failed := refuses_not_ok (validateTask_error refused)
      have other : status ≠ .success := by
        rintro rfl
        cases failed
      simp [same, closedFences, other]
  | noFence buffers mode accepted fence same => simp [same, (quiet none).1]
  | refused buffers mode accepted fence exits same => simp [same, (quiet none).1, (quiet _).2]
  | built buffers mode accepted fence req builds same =>
      obtain ⟨closes, status⟩ := submitReq_closes session env manager args req
      have direct := submitDirect_closes session env manager { args with jobHandle := 0 } req async
        positive
      rw [same]
      dsimp only
      rw [closedFences_append, closedFences_append, (quiet none).1, (quiet _).2, closes, status,
        direct]
      rfl

theorem legacyIoctl_closes {ctx : RgaContext} (driver : ctx.driver = .multiRga ∨ ctx.driver = .rga2)
    (dst : RgaInfo) (req : RgaReq) (reply : IoctlReply) (outFence : Int32)
    (positive : 0 < dst.inFenceFd) :
    closedFences (legacyIoctl ctx dst rgaBlitAsync req reply outFence).events =
      if reply.ret = 0 ∧ hasBit ctx.driverFeature rgaDriverFeatureUserCloseFence = true then
        [dst.inFenceFd]
      else [] := by
  have known : ∃ arg, legacyArg ctx.driver req = some arg := by
    rcases driver with multi | old
    · exact ⟨_, by rw [multi]; rfl⟩
    · exact ⟨_, by rw [old]; rfl⟩
  obtain ⟨arg, known⟩ := known
  unfold legacyIoctl
  rw [known]
  dsimp only
  split_ifs <;> simp_all [closedFences]

theorem rgaBlit_closes {ctx : RgaContext} (driver : ctx.driver = .multiRga ∨ ctx.driver = .rga2)
    (src dst : RgaInfo) (src1 : Option RgaInfo) (reply : IoctlReply)
    (async : src.syncMode = rgaBlitAsync ∨ dst.syncMode = rgaBlitAsync)
    (positive : 0 < dst.inFenceFd) :
    closedFences (rgaBlit ctx src dst src1 reply).events =
      if ((rgaBlitReq ctx src dst src1).toOption.isSome && decide (reply.ret = 0)) = true ∧
          hasBit ctx.driverFeature rgaDriverFeatureUserCloseFence = true then [dst.inFenceFd]
      else [] := by
  unfold rgaBlit
  cases rgaBlitReq ctx src dst src1 with
  | error exit => simp [closedFences, Except.toOption]
  | ok req =>
      dsimp only
      rw [if_pos async, legacyIoctl_closes driver dst req reply _ positive]
      simp [Except.toOption]

theorem rgaCollorFill_closes {ctx : RgaContext}
    (driver : ctx.driver = .multiRga ∨ ctx.driver = .rga2) (dst : RgaInfo) (reply : IoctlReply)
    (async : dst.syncMode = rgaBlitAsync) (positive : 0 < dst.inFenceFd) :
    closedFences (rgaCollorFill ctx dst reply).events =
      if ((rgaCollorFillReq ctx dst).toOption.isSome && decide (reply.ret = 0)) = true ∧
          hasBit ctx.driverFeature rgaDriverFeatureUserCloseFence = true then [dst.inFenceFd]
      else [] := by
  unfold rgaCollorFill
  cases rgaCollorFillReq ctx dst with
  | error exit => simp [closedFences, Except.toOption]
  | ok req =>
      dsimp only
      rw [if_pos async, legacyIoctl_closes driver dst req reply _ positive]
      simp [Except.toOption]

/-! Every path -/

namespace FenceCall

/-- Whether the library closes the fence of a request that the driver has taken. -/
def flag : FenceCall → Bool
  | task session .. => hasBit session.driverFeature rgaDriverFeatureUserCloseFence
  | job .. => false
  | blit _ _ ctx .. | collorFill _ _ ctx .. =>
      hasBit ctx.driverFeature rgaDriverFeatureUserCloseFence

variable {call : FenceCall}

theorem closes_eq (versioned : call.Over version) (async : call.async = true)
    (positive : 0 < call.fence) :
    closedFences call.events =
      if call.submitted = true ∧ call.flag = true then [call.fence] else [] := by
  cases call with
  | task session env manager args =>
      simp only [events, submitted, decide_eq_true_eq]
      exact rgaSingleTaskSubmit_closes session.rgaSession env manager args async positive
  | job session manager handle syncMode fence releaseFence reply =>
      have silent :
          (rgaJobSubmit manager handle syncMode fence releaseFence reply).events = [] := by
        unfold rgaJobSubmit
        split
        · dsimp only
          split_ifs <;> rfl
        · rfl
      rw [events, silent, flag, if_neg (by simp)]
      rfl
  | blit block opening ctx src dst src1 reply =>
      exact rgaBlit_closes (normalRgaOpen_flag versioned.2).2 src dst src1 reply
        (of_decide_eq_true async) positive
  | collorFill block opening ctx dst reply =>
      exact rgaCollorFill_closes (normalRgaOpen_flag versioned.2).2 dst reply
        (of_decide_eq_true async) positive

theorem informed_iff (versioned : call.Over version) :
    call.Informed version ↔ call.flag = userCloses version := by
  cases call with
  | task session env manager args =>
      obtain ⟨flag, known⟩ := SessionOver.flag versioned
      rw [Informed, FenceCall.flag, flag]
      rcases known with same | zero
      · rw [same]
        exact iff_of_true (fun _ => rfl) rfl
      · rw [zero, userCloses_zero]
        cases closes : userCloses version with
        | false => simp
        | true =>
            have other : ({} : RgaVersion) ≠ version := by
              rintro rfl
              cases closes
            simp [other]
  | job session manager handle syncMode fence releaseFence reply =>
      exact eq_comm
  | blit block opening ctx src dst src1 reply =>
      rw [Informed, FenceCall.flag, (normalRgaOpen_flag versioned.2).1]
  | collorFill block opening ctx dst reply =>
      rw [Informed, FenceCall.flag, (normalRgaOpen_flag versioned.2).1]

end FenceCall

theorem acquireFence_closed_once_iff (version : RgaVersion) (call : FenceCall)
    (versioned : call.Over version) (async : call.async = true) (positive : 0 < call.fence) :
    (call.submitted = true → (call.closeCount version = 1 ↔ call.Informed version)) ∧
      (call.submitted = false → call.fence ∉ closedFences call.events) := by
  rw [FenceCall.informed_iff versioned, FenceCall.closeCount,
    FenceCall.closes_eq versioned async positive]
  constructor
  · intro taken
    rw [taken]
    cases call.flag <;> cases userCloses version <;> simp
  · intro refused
    rw [refused]
    simp

def fencedFill : RgaInfo :=
  { handle := 1, inFenceFd := 5, syncMode := rgaBlitAsync
    rect := { width := 64, height := 64, wstride := 64, hstride := 64 } }

def fillCall (block : ContextBlock) (version : RgaVersion) : FenceCall :=
  .collorFill block { rk3588Reply 3 with driverVersion := some version }
    ((block.normalRgaOpen { rk3588Reply 3 with driverVersion := some version }).getD {})
    fencedFill {}

theorem fillCall_over (block : ContextBlock) (version : RgaVersion) :
    (fillCall block version).Over version := by
  refine ⟨?_, rfl⟩
  intro reported same
  cases same
  rfl

theorem acquireFence_closed_once_fill :
    (fillCall {} ⟨1, 3, 0⟩).submitted = true ∧
      (fillCall {} ⟨1, 3, 0⟩).closeCount ⟨1, 3, 0⟩ = 1 := by
  have taken : (fillCall {} ⟨1, 3, 0⟩).submitted = true := by decide +kernel
  have informed : (fillCall {} ⟨1, 3, 0⟩).Informed ⟨1, 3, 0⟩ := by
    unfold FenceCall.Informed fillCall
    decide
  exact ⟨taken, ((acquireFence_closed_once_iff ⟨1, 3, 0⟩ (fillCall {} ⟨1, 3, 0⟩)
    (fillCall_over {} ⟨1, 3, 0⟩) (by decide) (by decide)).1 taken).mpr informed⟩

def createdManager : JobManager RgaReq :=
  (initialJobState fun _ => { req := fun _ => {}, id := 0 }).manager.insertJob .stdMap 1 0x1000

/-- Driver 1.3.0 leaves the fence of a job to the library, which leaves it open. And in a block
that had the flag's bit set the library closes the fence that driver 1.2.4 has closed. -/
theorem acquireFence_misowned :
    (∃ session, SessionOver ⟨1, 3, 0⟩ session ∧
      (FenceCall.job session createdManager 1 imAsync 5 true {}).submitted = true ∧
      (FenceCall.job session createdManager 1 imAsync 5 true {}).closeCount ⟨1, 3, 0⟩ = 0) ∧
    ((fillCall { driverFeature := 1 } ⟨1, 2, 4⟩).Over ⟨1, 2, 4⟩ ∧
      (fillCall { driverFeature := 1 } ⟨1, 2, 4⟩).submitted = true ∧
      (fillCall { driverFeature := 1 } ⟨1, 2, 4⟩).closeCount ⟨1, 2, 4⟩ = 2) := by
  refine ⟨?_, fillCall_over _ _, by decide +kernel, by decide +kernel⟩
  have run := Machine.Run.of_exec SessionState.step {}
    [.readLock 0, .writeLock 0 (rk3588Reply 3)] rfl
  refine ⟨_, ⟨_, _, run, ?_, rfl, by decide +kernel⟩, rfl, by decide +kernel⟩
  intro event member
  simp only [List.mem_cons, List.not_mem_nil, or_false] at member
  rcases member with rfl | rfl
  · intro reported same
    cases same
    rfl
  · trivial

end LibRga

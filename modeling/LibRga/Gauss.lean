import LibRga.Failure
import LibRga.JobInvariant

/-!
The coefficient blocks of Gaussian operations: the heap they live in, the runs of
calls that use them, and what one call does to them.

`rga_task_submit` allocates a block, stores its address in the request and frees
it at its last label, but only when it still finds the address in the request.
A request that was queued keeps the address until its job is submitted.
-/

namespace LibRga

/-! The heap -/

/-- The blocks in use, and how often the library freed or passed on a block that is not. -/
structure CoeHeap where
  live : List UInt64 := []
  faults : Nat := 0
deriving DecidableEq, Repr

def CoeHeap.handOver (heap : CoeHeap) (req : RgaReq) : CoeHeap :=
  let ptr := req.gaussConfig.coePtr
  if ptr = 0 ∨ ptr ∈ heap.live then heap else { heap with faults := heap.faults + 1 }

def CoeHeap.observe (heap : CoeHeap) : DriverEvent → CoeHeap
  | .gaussAlloc ptr => { heap with live := ptr :: heap.live }
  | .gaussFree ptr =>
      if ptr ∈ heap.live then { heap with live := heap.live.erase ptr }
      else { heap with faults := heap.faults + 1 }
  | .blit _ req _ => heap.handOver req
  -- queuing a request and closing a fence touch no block
  | .queueTask _ _ | .closeFence _ => heap

/-! Runs -/

structure GaussState where
  jobs : JobState RgaReq
  heap : CoeHeap := {}

inductive GaussOp where
  | task (thread : Thread) (env : TaskEnv) (args : TaskArgs)
  | job (op : JobOp RgaReq)

/-- A task call is kept with the manager it met. -/
inductive GaussEvent where
  | task (manager : JobManager RgaReq) (env : TaskEnv) (args : TaskArgs)
  | job (event : JobEvent RgaReq)

def JobOp.isTask {τ : Type} : JobOp τ → Bool
  | taskLock .. => true
  | _ => false

/-- The requests an event of the job functions hands to the driver. -/
def JobEvent.handed {τ : Type} : JobEvent τ → List τ
  | submitIoctl _ _ request _ => request.tasks
  | configIoctl _ _ _ request _ => request.tasks
  | _ => []

def GaussState.step (kind : JobMapKind) (session : RgaSession) (state : GaussState) :
    GaussOp → Option (GaussState × GaussEvent)
  | .task thread env args =>
      let manager := state.jobs.manager
      let result := rgaTaskSubmit session env manager args
      -- `malloc` gives a block that is not in use; where it gives none the process dies
      if state.jobs.pc thread ≠ .idle ∨ (.gaussAlloc env.coePtr ∈ result.events ∧
          (env.coePtr = 0 ∨ env.coePtr ∈ state.heap.live)) then none
      else some ({ jobs := { state.jobs with manager := result.manager }
                   heap := result.events.foldl CoeHeap.observe state.heap },
        .task manager env args)
  | .job op =>
      -- requests come from `rga_task_submit` only
      if op.isTask then none
      else (state.jobs.step kind op).map fun (jobs, event) =>
        ({ jobs := jobs, heap := event.handed.foldl CoeHeap.handOver state.heap }, .job event)

/-- A request waits in a job, or in a record that is being submitted. -/
def JobState.Pending {τ : Type} (state : JobState τ) (req : τ) : Prop :=
  ∃ ptr, ((∃ handle, ⟨handle, ptr⟩ ∈ state.manager.jobMap) ∨
      ∃ thread command, state.pc thread = .submitting ptr command) ∧
    req ∈ (state.manager.userRequest ptr 0).tasks

/-- Every block is freed once at most and waits for no one but pending requests, and no pending
request has lost its block. -/
structure CoefficientsOwned (state : GaussState) : Prop where
  faultless : state.heap.faults = 0
  carried : ∀ ptr ∈ state.heap.live,
    ∃ req, state.jobs.Pending req ∧ req.gaussConfig.coePtr = ptr
  alive : ∀ req, state.jobs.Pending req → req.gaussConfig.coePtr ≠ 0 →
    req.gaussConfig.coePtr ∈ state.heap.live

/-- Where a Gaussian task meets its own clean-up: it is built by the blit builder, and no job
takes its request. -/
def GaussSafe (session : RgaSession) (manager : JobManager RgaReq) (env : TaskEnv)
    (args : TaskArgs) : Prop :=
  has args.usage imGauss = true → ∀ buffers mode, Accepted session args buffers mode →
    lacksFence args = false ∧ (taskPath args = .blit ∨ taskPath args = .blend) ∧
      ¬ BuilderRefuses session (taskPath args) (taskSetup env args buffers mode) ∧
      ¬ StaleReturn session args ∧
      ¬(0 < args.jobHandle ∧ JobRoom manager args.jobHandle 1)

def GaussEvent.Safe (session : RgaSession) : GaussEvent → Prop
  | task manager env args => GaussSafe session manager env args
  | job _ => True

/-! The address in a built request -/

open Result in
theorem generateBlitReq_gauss {session : RgaSession} {src dst : RgaInfo} {src1 : Option RgaInfo}
    {req : RgaReq} (built : generateBlitReq session src dst src1 = .ok req) :
    req.gaussConfig = src.gaussConfig := by
  simp only [generateBlitReq, bind_eq_ok] at built
  obtain ⟨plan, planned, built⟩ := built
  have same := (openChannel_ok (planBlit_planned planned).src).1
  simp only [blitReq, bind_eq_ok] at built
  obtain ⟨base, _, built⟩ := built
  cases built
  rw [← same]
  unfold blitReqTail setFeatureBlocks setGauss
  dsimp only
  split_ifs <;> rfl

theorem Channel.setSrc_gauss (channel : Channel) (req : RgaReq) (mode : AddressMode)
    (single : Bool) : (channel.setSrc req mode single).gaussConfig = req.gaussConfig := by
  unfold Channel.setSrc
  dsimp only
  split_ifs <;> rfl

theorem Channel.setDst_gauss (channel : Channel) (req : RgaReq) (mode : AddressMode)
    (single : Bool) (clip : Rect) :
    (channel.setDst req mode single clip).gaussConfig = req.gaussConfig := by
  unfold Channel.setDst
  dsimp only
  split_ifs <;> rfl

theorem Channel.setPat_gauss (channel : Channel) (req : RgaReq) (mode : AddressMode)
    (single : Bool) (clip : Rect) :
    (channel.setPat req mode single clip).gaussConfig = req.gaussConfig := by
  unfold Channel.setPat
  dsimp only
  split_ifs <;> rfl

open Result in
theorem fillReq_gauss {mode : AddressMode} {info : RgaInfo} {req : RgaReq}
    (built : fillReq mode info = .ok req) : req.gaussConfig = {} := by
  simp only [fillReq, bind_eq_ok] at built
  obtain ⟨addr, _, filled⟩ := built
  cases filled
  have kept (other : RgaReq) (mmu : Bool) :
      (setFillMmu other mmu).gaussConfig = other.gaussConfig := by
    unfold setFillMmu
    split_ifs <;> rfl
  dsimp only [setSchedule]
  rw [kept]
  simp only [normalRgaSetColorFillMode, normalRgaSetDstActiveInfo, Channel.setDst_gauss]

theorem paletteReqBase_gauss (session : RgaSession) (plan : PalettePlan) :
    (paletteReqBase session plan).gaussConfig = {} := by
  have kept (other : RgaReq) (mode : AddressMode) :
      (setPaletteMmu other plan mode).gaussConfig = other.gaussConfig := by
    unfold setPaletteMmu
    dsimp only
    split_ifs <;> rfl
  simp only [paletteReqBase, setSchedule, setRdModes, kept, normalRgaSetSrcActiveInfo,
    normalRgaSetDstActiveInfo, normalRgaSetPatActiveInfo, Channel.setSrc_gauss,
    Channel.setDst_gauss, Channel.setPat_gauss]

theorem paletteLutReq_gauss {session : RgaSession} {plan : PalettePlan} {req : RgaReq}
    (issued : paletteLutReq session plan = some req) : req.gaussConfig = {} := by
  unfold paletteLutReq at issued
  split at issued
  · cases issued
  · cases issued
    exact paletteReqBase_gauss session plan

theorem paletteReq_gauss (session : RgaSession) (plan : PalettePlan) :
    (paletteReq session plan).gaussConfig = {} := by
  unfold paletteReq
  cases issued : paletteLutReq session plan with
  | none => exact paletteReqBase_gauss session plan
  | some req =>
      have kept := paletteLutReq_gauss issued
      exact kept

section Task

variable {session : RgaSession} {env : TaskEnv} {manager : JobManager RgaReq} {args : TaskArgs}
  {buffers : TaskBuffers} {mode : Int32} {req : RgaReq}

theorem built_gauss (built : (taskBuilt session env args buffers mode).2 = .ok req) :
    req.gaussConfig.coePtr =
      if (taskPath args = .blit ∨ taskPath args = .blend) ∧ has args.usage imGauss = true then
        env.coePtr else 0 := by
  cases path : taskPath args with
  | fill =>
      simp only [taskBuilt, path, buildTask] at built
      simp [fillReq_gauss built]
  | palette =>
      simp only [taskBuilt, path, buildTask] at built
      obtain ⟨plan, _, same⟩ := generateColorPaletteReq_ok built
      simp [same, paletteReq_gauss]
  | blend =>
      simp only [taskBuilt, path, buildTask, taskSetup] at built
      rw [generateBlitReq_gauss built]
      by_cases gauss : has args.usage imGauss = true <;> simp [taskSrcInfo, gauss]
  | blit =>
      simp only [taskBuilt, path, buildTask, taskSetup] at built
      rw [generateBlitReq_gauss built]
      by_cases gauss : has args.usage imGauss = true <;> simp [taskSrcInfo, gauss]

theorem plain_request_gauss (plain : has args.usage imGauss = false)
    (builds : builtReq (taskBuilt session env args buffers mode).2 = some req) :
    req.gaussConfig.coePtr = 0 := by
  obtain built | ⟨_, _, _, rfl⟩ := builtReq_eq_some builds
  · rw [built_gauss built, plain]
    simp
  · rfl

theorem update_gauss (update : (taskBuilt session env args buffers mode).1 = some req) :
    req.gaussConfig.coePtr = 0 := by
  obtain ⟨_, plan, _, issued⟩ := taskBuilt_update update
  rw [paletteLutReq_gauss issued]

/-! What one call does to the heap -/

theorem foldl_observe_same {heap : CoeHeap} {events : List DriverEvent}
    (each : ∀ event ∈ events, heap.observe event = heap) :
    events.foldl CoeHeap.observe heap = heap := by
  induction events with
  | nil => rfl
  | cons event rest ih =>
      rw [List.foldl_cons, each event (by simp)]
      exact ih fun later member => each later (by simp [member])

theorem observe_blit {heap : CoeHeap} (cmd : Int32) (arg : BlitArg)
    (known : req.gaussConfig.coePtr = 0 ∨ req.gaussConfig.coePtr ∈ heap.live) :
    heap.observe (.blit cmd req arg) = heap := by
  simp only [CoeHeap.observe, CoeHeap.handOver]
  rw [if_pos known]

theorem observe_lutEvents (heap : CoeHeap) (env : TaskEnv) (args : TaskArgs)
    (buffers : TaskBuffers) (mode : Int32) :
    (lutEvents (taskBuilt session env args buffers mode).1).foldl CoeHeap.observe heap = heap := by
  cases update : (taskBuilt session env args buffers mode).1 with
  | none => rfl
  | some table => exact observe_blit rgaBlitSync (.rgaReq table) (.inl (update_gauss update))

theorem observe_branch {heap : CoeHeap}
    (known : req.gaussConfig.coePtr = 0 ∨ req.gaussConfig.coePtr ∈ heap.live) :
    (if 0 < args.jobHandle then submitJob manager args req
      else submitDirect session env manager args req).events.foldl CoeHeap.observe heap = heap := by
  refine foldl_observe_same fun event member => ?_
  split at member
  · unfold submitJob at member
    split at member
    · obtain rfl := List.mem_singleton.mp member
      rfl
    · cases member
  · unfold submitDirect at member
    split at member
    · cases member
    · have kinds : (∃ cmd arg, event = .blit cmd req arg) ∨ ∃ fd, event = .closeFence fd := by
        dsimp only at member
        split_ifs at member <;> simp_all
        obtain rfl | rfl := member <;> simp
      obtain ⟨cmd, arg, rfl⟩ | ⟨fd, rfl⟩ := kinds
      · exact observe_blit cmd arg known
      · rfl

theorem submitDirect_manager (req : RgaReq) :
    (submitDirect session env manager args req).manager = manager := by
  unfold submitDirect
  split
  · rfl
  · dsimp only
    split_ifs <;> rfl

theorem submitReq_manager (req : RgaReq) :
    (submitReq session env manager args req).manager = manager ∨
      0 < args.jobHandle ∧ ∃ ptr, manager.appendTask args.jobHandle req =
        .appended ptr (submitReq session env manager args req).manager := by
  obtain ⟨_, managed, _⟩ := submitReq_branch session env manager args req
  rw [managed]
  split
  · rename_i job
    obtain ⟨_, ptr, after, appended, same⟩ | ⟨_, same⟩ := submitJob_cases manager args req
    · rw [same]
      exact .inr ⟨job, ptr, appended⟩
    · rw [same]
      exact .inl rfl
  · exact .inl (submitDirect_manager req)

theorem submitReq_events (req : RgaReq) :
    (submitReq session env manager args req).events =
      (if 0 < args.jobHandle then submitJob manager args req
        else submitDirect session env manager args req).events ++
      if has args.usage imGauss && req.gaussConfig.coePtr != 0 then
        [.gaussFree req.gaussConfig.coePtr] else [] := by
  unfold submitReq
  dsimp only
  by_cases frees : (has args.usage imGauss && req.gaussConfig.coePtr != 0) = true
  · rw [if_pos frees, if_pos frees]
  · rw [if_neg frees, if_neg frees, List.append_nil]

theorem plain_call (plain : has args.usage imGauss = false) (heap : CoeHeap) :
    (rgaTaskSubmit session env manager args).events.foldl CoeHeap.observe heap = heap ∧
      ((rgaTaskSubmit session env manager args).manager = manager ∨
        ∃ ptr req, manager.appendTask args.jobHandle req =
            .appended ptr (rgaTaskSubmit session env manager args).manager ∧
          req.gaussConfig.coePtr = 0) := by
  have unallocated : gaussEvents env args = [] := by
    rw [gaussEvents, plain]
    rfl
  cases rgaTaskSubmit_submitted session env manager args with
  | invalid status refused same =>
      rw [same]
      exact ⟨rfl, .inl rfl⟩
  | noFence buffers mode accepted fence same =>
      rw [same, unallocated]
      exact ⟨rfl, .inl rfl⟩
  | refused buffers mode accepted fence exits same =>
      rw [same, unallocated, List.nil_append]
      exact ⟨observe_lutEvents heap env args buffers mode, .inl rfl⟩
  | built buffers mode accepted fence req builds same =>
      have zero := plain_request_gauss plain builds
      rw [same]
      constructor
      · rw [unallocated, List.nil_append, List.foldl_append, observe_lutEvents, submitReq_events,
          List.foldl_append, observe_branch (.inl zero), plain]
        rfl
      · obtain unchanged | ⟨_, ptr, appended⟩ := submitReq_manager req
        · exact .inl unchanged
        · exact .inr ⟨ptr, req, appended, zero⟩

theorem built_of_safe (safe : GaussSafe session manager env args)
    (gauss : has args.usage imGauss = true) (accepted : Accepted session args buffers mode) :
    ∃ req, (taskBuilt session env args buffers mode).2 = .ok req ∧
      req.gaussConfig.coePtr = env.coePtr := by
  obtain ⟨fence, path, accepts, fresh, _⟩ := safe gauss buffers mode accepted
  have blits : taskPath args ≠ .palette := by
    rintro palette
    rw [palette] at path
    simp at path
  cases builds : builtReq (taskBuilt session env args buffers mode).2 with
  | none => exact absurd ((built_refused_iff blits).mp builds) accepts
  | some req =>
      obtain built | ⟨exit, exits, stale, _⟩ := builtReq_eq_some builds
      · refine ⟨req, built, ?_⟩
        rw [built_gauss built, if_pos ⟨path, gauss⟩]
      · exact absurd (fillsRequest_iff.mpr fresh buffers mode exit accepted fence exits) stale

theorem unqueued_of_safe (nowhere : ¬(0 < args.jobHandle ∧ JobRoom manager args.jobHandle 1))
    (req : RgaReq) : (submitReq session env manager args req).manager = manager := by
  obtain same | ⟨job, ptr, appended⟩ := submitReq_manager req
  · exact same
  · exact absurd ⟨job, jobRoom_of_appended appended⟩ nowhere

theorem rgaTaskSubmit_manager (session : RgaSession) (env : TaskEnv)
    (manager : JobManager RgaReq) (args : TaskArgs) :
    (rgaTaskSubmit session env manager args).manager = manager ∨
      ∃ ptr req, manager.appendTask args.jobHandle req =
        .appended ptr (rgaTaskSubmit session env manager args).manager := by
  unfold rgaTaskSubmit
  split
  · exact .inl rfl
  · rename_i events req prepared
    obtain same | ⟨_, ptr, appended⟩ := submitReq_manager req
    · exact .inl same
    · exact .inr ⟨ptr, req, appended⟩

theorem gauss_call (safe : GaussSafe session manager env args)
    (gauss : has args.usage imGauss = true)
    (block : .gaussAlloc env.coePtr ∈ (rgaTaskSubmit session env manager args).events →
      env.coePtr ≠ 0) (heap : CoeHeap) :
    (rgaTaskSubmit session env manager args).events.foldl CoeHeap.observe heap = heap ∧
      (rgaTaskSubmit session env manager args).manager = manager := by
  have allocated : gaussEvents env args = [.gaussAlloc env.coePtr] := by
    rw [gaussEvents, if_pos gauss]
  cases rgaTaskSubmit_submitted session env manager args with
  | invalid status refused same =>
      rw [same]
      exact ⟨rfl, rfl⟩
  | noFence buffers mode accepted fence same =>
      rw [(safe gauss buffers mode accepted).1] at fence
      cases fence
  | refused buffers mode accepted fence exits same =>
      obtain ⟨req, built, _⟩ := built_of_safe safe gauss accepted
      rw [built] at exits
      cases exits
  | built buffers mode accepted fence req builds same =>
      obtain ⟨_, built, address⟩ := built_of_safe safe gauss accepted
      rw [built] at builds
      cases builds
      rw [same] at block ⊢
      have nonzero : env.coePtr ≠ 0 := block (by rw [allocated]; simp)
      have held : req.gaussConfig.coePtr = 0 ∨
          req.gaussConfig.coePtr ∈ (heap.observe (.gaussAlloc env.coePtr)).live :=
        .inr (by simp [address, CoeHeap.observe])
      refine ⟨?_, unqueued_of_safe (safe gauss buffers mode accepted).2.2.2.2 req⟩
      dsimp only
      rw [allocated, List.foldl_append, List.foldl_append, List.foldl_cons, List.foldl_nil,
        observe_lutEvents, submitReq_events, List.foldl_append, observe_branch held, gauss,
        address]
      simp [nonzero, CoeHeap.observe]

end Task

end LibRga

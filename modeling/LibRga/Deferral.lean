import LibRga.RequestFilled

/-!
Task calls: what runs at once and what waits in a job.
-/

namespace LibRga

variable {session : RgaSession} {env : TaskEnv} {manager : JobManager RgaReq} {args : TaskArgs}
  {buffers : TaskBuffers} {mode : Int32}

/-! The refusals of the builders -/

def BlitRefuses (session : RgaSession) (src dst : RgaInfo) (src1 : Option RgaInfo) : Prop :=
  match planBlit session src dst src1 with
  | .error exit => exit.ret < 0
  | .ok _ => has dst.colorSpaceMode fullCscMask = true ∧
      fullCscTable (dst.colorSpaceMode &&& fullCscMask) = none

def BuilderRefuses (session : RgaSession) (path : TaskPath) (setup : TaskSetup) : Prop :=
  match path with
  | .fill => ∃ exit, requireAddr (fillAddr setup.dst) = .error exit
  | .palette => ∃ exit, planPalette setup.src setup.dst setup.pat = .error exit
  | .blend => BlitRefuses session setup.src setup.dst (some setup.pat)
  | .blit => BlitRefuses session setup.src setup.dst none

theorem blitReq_error_iff {plan : BlitPlan} :
    (∃ exit, blitReq session plan = .error exit ∧ exit.ret < 0) ↔
      has plan.dst.info.colorSpaceMode fullCscMask = true ∧
        fullCscTable (plan.dst.info.colorSpaceMode &&& fullCscMask) = none := by
  simp only [blitReq, setFullCsc, normalRgaFullColorSpaceConvert]
  by_cases full : has plan.dst.info.colorSpaceMode fullCscMask = true
  · cases row : fullCscTable (plan.dst.info.colorSpaceMode &&& fullCscMask) with
    | none => simp [full, bind, Except.bind, BuildExit.ret]
    | some pair => simp [full, bind, Except.bind]
  · simp [full, bind, Except.bind]

theorem builtReq_eq_none {result : Except BuildExit RgaReq} :
    builtReq result = none ↔ ∃ exit, result = .error exit ∧ exit.ret < 0 := by
  cases result <;> simp [builtReq]

theorem blit_refused_iff {src dst : RgaInfo} {src1 : Option RgaInfo} :
    builtReq (generateBlitReq session src dst src1) = none ↔ BlitRefuses session src dst src1 := by
  rw [builtReq_eq_none, BlitRefuses]
  cases planned : planBlit session src dst src1 with
  | error exit => simp [generateBlitReq, planned, bind, Except.bind]
  | ok plan =>
      have same := (openChannel_ok (planBlit_planned planned).dst).1
      simp only [generateBlitReq, planned, bind, Except.bind]
      rw [blitReq_error_iff, same]

theorem built_refused_iff (path : taskPath args ≠ .palette) :
    builtReq (taskBuilt session env args buffers mode).2 = none ↔
      BuilderRefuses session (taskPath args) (taskSetup env args buffers mode) := by
  cases taken : taskPath args with
  | palette => exact absurd taken path
  | blend =>
      simp only [taskBuilt, taken, buildTask, BuilderRefuses]
      exact blit_refused_iff
  | blit =>
      simp only [taskBuilt, taken, buildTask, BuilderRefuses]
      exact blit_refused_iff
  | fill =>
      simp only [taskBuilt, taken, buildTask, BuilderRefuses, builtReq_eq_none]
      constructor
      · rintro ⟨exit, refused, _⟩
        exact ⟨exit, fillReq_error refused⟩
      · rintro ⟨exit, refused⟩
        have stops : generateFillReq session (taskSetup env args buffers mode).dst =
            .error exit := by
          simp [generateFillReq, fillReq, refused, bind, Except.bind]
        exact ⟨exit, stops, fill_exit_negative stops⟩

theorem palette_updates {src dst lut : RgaInfo} {plan : PalettePlan} (session : RgaSession)
    (lutRet : Int32) (planned : planPalette src dst lut = .ok plan) :
    (generateColorPaletteReq session src dst lut lutRet).1.isSome = true ∧
      (builtReq (generateColorPaletteReq session src dst lut lutRet).2).isSome =
        decide (lutRet = 0) := by
  obtain ⟨⟨_, _, handle⟩, _, _, opened, _⟩ := planPalette_ok planned
  obtain ⟨nonzero, set⟩ := ne_of_positive handle
  have addressed : plan.lut.addr.fd ≠ -1 := by
    rw [opened]
    simp [openLut, resolveAddr, nonzero, set]
  unfold generateColorPaletteReq
  rw [planned]
  dsimp only
  have update : ∃ req, paletteLutReq session plan = some req := by
    simp [paletteLutReq, addressed]
  obtain ⟨req, update⟩ := update
  rw [update]
  dsimp only
  split <;> simp_all [builtReq, BuildExit.ret]

theorem palette_planned {setup : TaskSetup} (accepts : ¬ BuilderRefuses session .palette setup) :
    ∃ plan, planPalette setup.src setup.dst setup.pat = .ok plan := by
  cases planned : planPalette setup.src setup.dst setup.pat with
  | ok plan => exact ⟨plan, rfl⟩
  | error exit => exact absurd ⟨exit, planned⟩ accepts

theorem palette_refused (path : taskPath args = .palette)
    (refuses : BuilderRefuses session .palette (taskSetup env args buffers mode)) :
    (taskBuilt session env args buffers mode).1 = none ∧
      builtReq (taskBuilt session env args buffers mode).2 = none := by
  obtain ⟨exit, planned⟩ := refuses
  simp only [taskBuilt, path, buildTask, generateColorPaletteReq, planned, true_and]
  rw [builtReq_eq_none]
  refine ⟨exit, rfl, ?_⟩
  rw [ret_negative_iff]
  rintro rfl
  exact planPalette_noAddress planned

theorem accepts_of_builtReq {req : RgaReq}
    (builds : builtReq (taskBuilt session env args buffers mode).2 = some req) :
    ¬ BuilderRefuses session (taskPath args) (taskSetup env args buffers mode) := by
  intro refuses
  have none : builtReq (taskBuilt session env args buffers mode).2 = none := by
    by_cases path : taskPath args = .palette
    · exact (palette_refused path (path ▸ refuses)).2
    · exact (built_refused_iff path).mpr refuses
  rw [builds] at none
  cases none

theorem accepts_of_built {req : RgaReq}
    (built : (taskBuilt session env args buffers mode).2 = .ok req) :
    ¬ BuilderRefuses session (taskPath args) (taskSetup env args buffers mode) :=
  accepts_of_builtReq (by rw [built]; rfl)

theorem taskBuilt_update {req : RgaReq}
    (update : (taskBuilt session env args buffers mode).1 = some req) :
    taskPath args = .palette ∧ ∃ plan, planPalette (taskSrcInfo env args buffers)
        (taskDstInfo env args buffers mode) (taskPatInfo args buffers) = .ok plan ∧
      paletteLutReq session plan = some req := by
  cases path : taskPath args with
  | fill => simp [taskBuilt, path, buildTask] at update
  | blit => simp [taskBuilt, path, buildTask] at update
  | blend => simp [taskBuilt, path, buildTask] at update
  | palette =>
      simp only [taskBuilt, path, buildTask] at update
      unfold generateColorPaletteReq at update
      split at update
      · cases update
      · rename_i plan planned
        refine ⟨rfl, plan, planned, ?_⟩
        split at update
        · cases update
        · split at update <;> simp_all

theorem fresh_of_built {req : RgaReq} (accepted : Accepted session args buffers mode)
    (built : (taskBuilt session env args buffers mode).2 = .ok req) :
    ¬ StaleReturn session args := by
  rintro ⟨_, _, blits, handles, unaddressed⟩
  obtain ⟨exit, refused, _⟩ := (blit_stale_iff env accepted blits).mpr ⟨handles, unaddressed⟩
  rw [built] at refused
  cases refused

/-! One submission -/

@[simp]
theorem blitRequests_lutEvents (update : Option RgaReq) :
    blitRequests (lutEvents update) = update.toList := by
  cases update <;> rfl

@[simp]
theorem queuedRequests_lutEvents (update : Option RgaReq) :
    queuedRequests (lutEvents update) = [] := by
  cases update <;> rfl

theorem submitReq_branch (session : RgaSession) (env : TaskEnv) (manager : JobManager RgaReq)
    (args : TaskArgs) (req : RgaReq) :
    let branch := if 0 < args.jobHandle then submitJob manager args req
      else submitDirect session env manager args req
    let result := submitReq session env manager args req
    result.status = branch.status ∧ result.manager = branch.manager ∧
      result.releaseFence = branch.releaseFence ∧
      blitRequests result.events = blitRequests branch.events ∧
      queuedRequests result.events = queuedRequests branch.events := by
  dsimp only [submitReq]
  split_ifs
  all_goals refine ⟨rfl, rfl, rfl, ?_, ?_⟩
  all_goals simp [blitRequests, queuedRequests]

theorem submitDirect_unknown (driver : session.driverType = .unknown) (req : RgaReq) :
    submitDirect session env manager args req = { status := .failed, manager := manager } := by
  simp [submitDirect, blitArg, driver]

theorem blitArg_known (driver : session.driverType ≠ .unknown) (req : RgaReq) :
    ∃ arg, blitArg session req = some arg := by
  unfold blitArg
  cases kind : session.driverType <;> simp_all

theorem submitDirect_blits (driver : session.driverType ≠ .unknown) (req : RgaReq) :
    blitRequests (submitDirect session env manager args req).events = [req] := by
  obtain ⟨arg, known⟩ := blitArg_known driver req
  simp only [submitDirect, known]
  split_ifs <;> rfl

def JobRoom (manager : JobManager RgaReq) (jobHandle : UInt32) (count : Nat) : Prop :=
  ∃ ptr, rgaMapFindJob manager.jobMap jobHandle = some ptr ∧
    (manager.records ptr).taskCount + count ≤ rgaTaskNumMax.toInt

theorem JobRoom.append {manager : JobManager RgaReq} {jobHandle : UInt32} {count : Nat}
    (room : JobRoom manager jobHandle (count + 1)) (req : RgaReq) :
    ∃ ptr after, manager.appendTask jobHandle req = .appended ptr after ∧
      JobRoom after jobHandle count := by
  obtain ⟨ptr, found, fits⟩ := room
  refine ⟨ptr, _, JobManager.appendTask_eq_appended.mpr ⟨found, by omega, rfl⟩, ptr, found, ?_⟩
  simp only [JobManager.setRecord, JobManager.appendReq, if_true]
  omega

theorem jobRoom_of_appended {manager after : JobManager RgaReq} {handle : UInt32} {req : RgaReq}
    {ptr : JobPtr} (appended : manager.appendTask handle req = .appended ptr after) :
    JobRoom manager handle 1 := by
  obtain ⟨found, below, _⟩ := JobManager.appendTask_eq_appended.mp appended
  exact ⟨ptr, found, by omega⟩

theorem submitJob_cases (manager : JobManager RgaReq) (args : TaskArgs) (req : RgaReq) :
    (JobRoom manager args.jobHandle 1 ∧
      ∃ ptr after, manager.appendTask args.jobHandle req = .appended ptr after ∧
        submitJob manager args req =
          { status := .success, events := [.queueTask args.jobHandle req], manager := after }) ∨
      ¬ JobRoom manager args.jobHandle 1 ∧
        submitJob manager args req = { status := .illegalParam, manager := manager } := by
  by_cases room : JobRoom manager args.jobHandle 1
  · obtain ⟨ptr, after, appended, _⟩ := room.append req
    exact .inl ⟨room, ptr, after, appended, by rw [submitJob, appended]⟩
  · refine .inr ⟨room, ?_⟩
    unfold submitJob
    cases appended : manager.appendTask args.jobHandle req with
    | appended ptr after => exact absurd (jobRoom_of_appended appended) room
    | missing => rfl
    | full => rfl

theorem submitJob_success_iff (req : RgaReq) :
    (submitJob manager args req).status = .success ↔ JobRoom manager args.jobHandle 1 := by
  obtain ⟨room, _, _, _, same⟩ | ⟨full, same⟩ := submitJob_cases manager args req
  · rw [same]
    exact iff_of_true rfl room
  · rw [same]
    exact iff_of_false ImStatus.noConfusion full

theorem submitDirect_success_iff (req : RgaReq) :
    (submitDirect session env manager args req).status = .success ↔
      session.driverType ≠ .unknown ∧ env.reply.ret = 0 := by
  by_cases driver : session.driverType = .unknown
  · rw [submitDirect_unknown driver]
    simp [driver]
  · obtain ⟨arg, known⟩ := blitArg_known driver req
    simp only [submitDirect, known, driver, ne_eq, not_false_eq_true, true_and]
    by_cases taken : env.reply.ret = 0
    · simp only [taken, not_true_eq_false, if_false, iff_true]
      split <;> rfl
    · simp [taken]

theorem submitReq_success_iff (req : RgaReq) :
    (submitReq session env manager args req).status = .success ↔
      if 0 < args.jobHandle then JobRoom manager args.jobHandle 1
      else session.driverType ≠ .unknown ∧ env.reply.ret = 0 := by
  rw [(submitReq_branch session env manager args req).1]
  by_cases job : 0 < args.jobHandle
  · rw [if_pos job, if_pos job]
    exact submitJob_success_iff req
  · rw [if_neg job, if_neg job]
    exact submitDirect_success_iff req

def Immediate (session : RgaSession) (env : TaskEnv) (args : TaskArgs) : Prop :=
  ∃ buffers mode, Accepted session args buffers mode ∧ lacksFence args = false ∧
    ¬ BuilderRefuses session (taskPath args) (taskSetup env args buffers mode) ∧
    (taskPath args = .palette ∨ args.jobHandle = 0 ∧ session.driverType ≠ .unknown)

def AppendsOne (manager : JobManager RgaReq) (jobHandle : UInt32) (result : SubmitResult) : Prop :=
  ∃ ptr req, manager.appendTask jobHandle req = .appended ptr result.manager ∧
    queuedRequests result.events = [req] ∧ result.status = .success

def FailsQuietly (manager : JobManager RgaReq) (result : SubmitResult) : Prop :=
  result.status.ok = false ∧ queuedRequests result.events = [] ∧ result.manager = manager

theorem submitJob_deferred (manager : JobManager RgaReq) (args : TaskArgs) (req : RgaReq) :
    blitRequests (submitJob manager args req).events = [] ∧
      (AppendsOne manager args.jobHandle (submitJob manager args req) ∨
        FailsQuietly manager (submitJob manager args req)) := by
  obtain ⟨_, ptr, after, appended, same⟩ | ⟨_, same⟩ := submitJob_cases manager args req
  · rw [same]
    exact ⟨rfl, .inl ⟨ptr, req, appended, rfl, rfl⟩⟩
  · rw [same]
    exact ⟨rfl, .inr ⟨rfl, rfl, rfl⟩⟩

theorem noUpdate_of_waits (waits : ¬ Immediate session env args)
    (accepted : Accepted session args buffers mode) (fence : lacksFence args = false) :
    (taskBuilt session env args buffers mode).1 = none := by
  cases update : (taskBuilt session env args buffers mode).1 with
  | none => rfl
  | some req =>
      obtain ⟨path, plan, planned, _⟩ := taskBuilt_update update
      refine absurd ⟨buffers, mode, accepted, fence, ?_, .inl path⟩ waits
      simp [BuilderRefuses, path, taskSetup, planned]

theorem deferred_of_not_immediate (waits : ¬ Immediate session env args)
    (manager : JobManager RgaReq) :
    let result := rgaTaskSubmit session env manager args
    blitRequests result.events = [] ∧
      (0 < args.jobHandle ∧ AppendsOne manager args.jobHandle result ∨
        FailsQuietly manager result) := by
  have gauss := gaussEvents_quiet env args
  dsimp only
  cases rgaTaskSubmit_submitted session env manager args with
  | invalid status refused same =>
      rw [same]
      exact ⟨rfl, .inr ⟨refuses_not_ok (validateTask_error refused), rfl, rfl⟩⟩
  | noFence buffers mode accepted fence same =>
      rw [same]
      exact ⟨gauss.1, .inr ⟨rfl, gauss.2, rfl⟩⟩
  | refused buffers mode accepted fence exits same =>
      simp only [same, noUpdate_of_waits waits accepted fence, blitRequests_append,
        blitRequests_lutEvents, gauss.1]
      refine ⟨rfl, .inr ⟨rfl, ?_, rfl⟩⟩
      simp [gauss.2]
  | built buffers mode accepted fence req builds same =>
      obtain ⟨status, managed, _, blits, queues⟩ :=
        submitReq_branch session env manager args req
      simp only [same, noUpdate_of_waits waits accepted fence, blitRequests_append,
        blitRequests_lutEvents, queuedRequests_append, queuedRequests_lutEvents, gauss.1, gauss.2,
        blits, queues, AppendsOne, FailsQuietly, status, managed, Option.toList_none,
        List.nil_append]
      by_cases job : 0 < args.jobHandle
      · simp only [job, if_true, true_and]
        exact submitJob_deferred manager args req
      · have zero : args.jobHandle = 0 := eq_zero_of_not_pos job
        have driver : session.driverType = .unknown := by
          by_contra known
          exact waits ⟨buffers, mode, accepted, fence, accepts_of_builtReq builds,
            .inr ⟨zero, known⟩⟩
        simp only [job, if_false, submitDirect_unknown driver, false_and, false_or]
        exact ⟨rfl, rfl, rfl, trivial⟩

theorem prepareTask_accepted (env : TaskEnv) (accepted : Accepted session args buffers mode)
    (fence : lacksFence args = false) :
    prepareTask session env args =
      (gaussEvents env args ++ lutEvents (taskBuilt session env args buffers mode).1,
        (builtReq (taskBuilt session env args buffers mode).2).elim (.error .failed) .ok) := by
  simp only [prepareTask, validateTask_ok_iff.mpr accepted, fence, Bool.false_eq_true, if_false]
  unfold taskBuilt gaussEvents
  split
  · rename_i refused
    rw [refused]
    rfl
  · rename_i req builds
    rw [builds]
    rfl

theorem blits_of_immediate (runs : Immediate session env args) (manager : JobManager RgaReq) :
    blitRequests (rgaTaskSubmit session env manager args).events ≠ [] := by
  obtain ⟨buffers, mode, accepted, fence, accepts, kind⟩ := runs
  have prepared := prepareTask_accepted env accepted fence
  by_cases path : taskPath args = .palette
  · obtain ⟨plan, planned⟩ := palette_planned (path ▸ accepts)
    have updates := (palette_updates session env.lutRet planned).1
    have issued : (taskBuilt session env args buffers mode).1.isSome = true := by
      simpa only [taskBuilt, path, buildTask, taskSetup] using updates
    obtain ⟨update, issued⟩ := Option.isSome_iff_exists.mp issued
    unfold rgaTaskSubmit
    rw [prepared, issued]
    cases builtReq (taskBuilt session env args buffers mode).2 <;> simp
  · obtain palette | ⟨zero, driver⟩ := kind
    · exact absurd palette path
    cases builds : builtReq (taskBuilt session env args buffers mode).2 with
    | none => exact absurd ((built_refused_iff path).mp builds) accepts
    | some req =>
        rw [builds] at prepared
        obtain ⟨_, _, _, blits, _⟩ := submitReq_branch session env manager args req
        have direct : ¬ (0 < args.jobHandle) := by
          rw [zero]
          decide
        rw [if_neg direct, submitDirect_blits driver] at blits
        simp [rgaTaskSubmit, prepared, blits]

theorem rgaTaskSubmit_defers_iff (session : RgaSession) (env : TaskEnv)
    (manager : JobManager RgaReq) (args : TaskArgs) :
    blitRequests (rgaTaskSubmit session env manager args).events = [] ↔
      ¬ Immediate session env args :=
  ⟨fun quiet runs => blits_of_immediate runs manager quiet,
    fun waits => (deferred_of_not_immediate waits manager).1⟩

/-! Several submissions -/

theorem submitAll_quiet (session : RgaSession) (calls : List TaskArgs)
    (waits : ∀ args ∈ calls, ∀ env, ¬ Immediate session env args) (env : Nat → TaskEnv)
    (manager : JobManager RgaReq) :
    blitRequests (submitAll session env manager calls).events = [] := by
  induction calls generalizing env manager with
  | nil => rfl
  | cons args rest ih =>
      have first := (deferred_of_not_immediate (waits args (by simp) (env 0)) manager).1
      have later := ih (fun call member => waits call (by simp [member]))
      unfold submitAll
      dsimp only
      split
      · simp only [blitRequests_append, first, later, List.append_nil]
      · exact first

theorem submitAll_stops (session : RgaSession) {env : Nat → TaskEnv} {args : TaskArgs}
    (rest : List TaskArgs) (zero : args.jobHandle = 0) (waits : ¬ Immediate session (env 0) args)
    (manager : JobManager RgaReq) :
    submitAll session env manager (args :: rest) =
      rgaTaskSubmit session (env 0) manager args := by
  obtain ⟨job, _⟩ | fails := (deferred_of_not_immediate waits manager).2
  · rw [zero] at job
    exact absurd job (by decide)
  · unfold submitAll
    dsimp only
    rw [if_neg]
    intro succeeded
    have failed := fails.1
    rw [succeeded] at failed
    cases failed

theorem submitAll_blits (session : RgaSession) {env : Nat → TaskEnv} {args : TaskArgs}
    (rest : List TaskArgs) (runs : Immediate session (env 0) args) (manager : JobManager RgaReq) :
    blitRequests (submitAll session env manager (args :: rest)).events ≠ [] := by
  have first := blits_of_immediate runs manager
  unfold submitAll
  dsimp only
  split
  · simp [first]
  · exact first

/-! The task calls -/

def ImOp.isSingle : ImOp → Bool
  | fillArray .. | rectangleArray .. | mosaicArray .. => false
  | rectangle _ _ _ thickness => thickness < 0
  | _ => true

theorem forRects_cons {call : ImRect → ApiPlan} {rect : ImRect} {rest : List ImRect}
    {first later : List TaskArgs} (made : call rect = .ok first)
    (others : forRects rest call = .ok later) :
    forRects (rect :: rest) call = .ok (first ++ later) := by
  cases mapped : rest.mapM call with
  | error status => simp [forRects, mapped, Except.map] at others
  | ok lists =>
      simp only [forRects, mapped, Except.map, Except.ok.injEq] at others
      simp [forRects, List.mapM_cons, made, mapped, bind, Except.bind, pure, Except.pure,
        Except.map, others]

theorem forRects_ok (rects : List ImRect) {call : ImRect → ApiPlan} {good : TaskArgs → Prop}
    (each : ∀ rect, ∃ calls, call rect = .ok calls ∧ ∀ args ∈ calls, good args) :
    ∃ calls, forRects rects call = .ok calls ∧ ∀ args ∈ calls, good args := by
  induction rects with
  | nil => exact ⟨[], rfl, by simp⟩
  | cons rect rest ih =>
      obtain ⟨first, made, firstGood⟩ := each rect
      obtain ⟨later, others, laterGood⟩ := ih
      refine ⟨first ++ later, forRects_cons made others, ?_⟩
      intro args member
      obtain inFirst | inLater := List.mem_append.mp member
      · exact firstGood args inFirst
      · exact laterGood args inLater

theorem rgaCheckExternal_checked (table : RgaInfoTableEntry) (src dst pat : RgaBuffer)
    (srcRect dstRect patRect : ImRect) (modeUsage : Int32) :
    (rgaCheckExternal table src dst pat srcRect dstRect patRect modeUsage).checked = true :=
  ite_checked rfl (ite_checked rfl (ite_checked rfl (rgaCheck_checked _ _ _ _ _ _ _ _)))

theorem resizeBuffer_error {table : RgaInfoTableEntry} {src dst : RgaBuffer} {fx fy : ℚ}
    {status : ImStatus} (refused : resizeBuffer table src dst fx fy = .error status) :
    status.refuses = true := by
  unfold resizeBuffer at refused
  dsimp only at refused
  generalize (if fx = 0 then 1 else fx) = horizontal at refused
  generalize (if fy = 0 then 1 else fy) = vertical at refused
  split_ifs at refused with scaled unknown yuv unchecked
  · cases refused
    rfl
  · cases refused
    exact refuses_of_checked (rgaCheckExternal_checked _ _ _ _ _ _ _ _) unchecked

structure PlainTask (jobHandle : UInt32) (args : TaskArgs) : Prop where
  handle : args.jobHandle = jobHandle
  path : taskPath args ≠ .palette
  sync : has args.usage imAsync = false

/-- The shapes of a task call: refused, one submission, or several plain ones. -/
inductive TaskPlan (jobHandle : UInt32) (single : Bool) : ApiPlan → Prop
  | refused (status : ImStatus) (failed : status.ok = false) :
      TaskPlan jobHandle single (.error status)
  | one (args : TaskArgs) (handle : args.jobHandle = jobHandle) :
      TaskPlan jobHandle single (.ok [args])
  | several (calls : List TaskArgs) (multiple : single = false)
      (each : ∀ args ∈ calls, PlainTask jobHandle args) :
      TaskPlan jobHandle single (.ok calls)

theorem forRects_plan (jobHandle : UInt32) (rects : List ImRect) {call : ImRect → ApiPlan}
    (each : ∀ rect, ∃ calls, call rect = .ok calls ∧ ∀ args ∈ calls, PlainTask jobHandle args) :
    TaskPlan jobHandle false (forRects rects call) := by
  obtain ⟨calls, made, good⟩ := forRects_ok rects each
  rw [made]
  exact .several calls rfl good

theorem imfillTask_calls (jobHandle : UInt32) (dst : RgaBuffer) (color : UInt32) (rect : ImRect) :
    ∃ calls, imfillTask jobHandle dst rect color = .ok calls ∧
      ∀ args ∈ calls, PlainTask jobHandle args := by
  refine ⟨_, rfl, ?_⟩
  simp only [List.mem_singleton]
  rintro args rfl
  have sync : has imColorFill imAsync = false := by decide
  exact ⟨rfl, by simp [taskPath, has, imColorFill], sync⟩

theorem immosaicTask_calls (jobHandle : UInt32) (dst : RgaBuffer) (mosaicMode : Int32)
    (rect : ImRect) :
    ∃ calls, immosaicTask jobHandle dst rect mosaicMode = .ok calls ∧
      ∀ args ∈ calls, PlainTask jobHandle args := by
  refine ⟨_, rfl, ?_⟩
  simp only [List.mem_singleton]
  rintro args rfl
  have path : taskPath { usage := imMosaic } ≠ .palette := by decide +kernel
  have sync : has imMosaic imAsync = false := by decide
  exact ⟨rfl, path, sync⟩

theorem task_plan (table : RgaInfoTableEntry) (jobHandle : UInt32) (op : ImOp) :
    TaskPlan jobHandle op.isSingle (op.task table jobHandle) := by
  have fills (dst : RgaBuffer) (rects : List ImRect) (color : UInt32) :
      TaskPlan jobHandle false (imfillTaskArray jobHandle dst rects color) :=
    forRects_plan jobHandle rects (imfillTask_calls jobHandle dst color)
  cases op with
  | copy | translate | palette =>
      dsimp only [ImOp.task, imcopyTask, imtranslateTask, impaletteTask]
      split
      · exact .refused _ rfl
      · exact .one _ rfl
  | resize src dst fx fy interpolation =>
      dsimp only [ImOp.task, imresizeTask]
      cases scaled : resizeBuffer table src dst fx fy with
      | error status => exact .refused status (refuses_not_ok (resizeBuffer_error scaled))
      | ok dst => exact .one _ rfl
  | fillArray dst rects color => exact fills dst rects color
  | mosaicArray dst rects mosaicMode =>
      exact forRects_plan jobHandle rects (immosaicTask_calls jobHandle dst mosaicMode)
  | rectangle dst rect color thickness =>
      dsimp only [ImOp.task, imrectangleTask, ImOp.isSingle]
      split
      · exact .one _ rfl
      · rename_i drawn
        simp only [drawn, decide_false]
        exact fills dst _ color
  | rectangleArray dst rects color thickness =>
      refine forRects_plan jobHandle rects fun rect => ?_
      unfold imrectangleTask
      split
      · exact imfillTask_calls jobHandle dst color rect
      · exact forRects_ok _ (imfillTask_calls jobHandle dst color)
  | _ => exact .one _ rfl

/-- A task call leaves the work to the job, or fails without a trace. -/
structure Defers (session : RgaSession) (env : Nat → TaskEnv) (manager : JobManager RgaReq)
    (jobHandle : UInt32) (op : ImOp) : Prop where
  quiet : blitRequests
    (runApi session env manager (op.task session.hardwareInfo jobHandle)).events = []
  single : op.isSingle = true →
    AppendsOne manager jobHandle
        (runApi session env manager (op.task session.hardwareInfo jobHandle)) ∨
      FailsQuietly manager (runApi session env manager (op.task session.hardwareInfo jobHandle))

def firstCall : ApiPlan → Option TaskArgs
  | .ok (args :: _) => some args
  | _ => none

theorem submitAll_single (session : RgaSession) (env : Nat → TaskEnv)
    (manager : JobManager RgaReq) (args : TaskArgs) :
    let first := rgaTaskSubmit session (env 0) manager args
    let result := submitAll session env manager [args]
    result.status = first.status ∧ result.events = first.events ∧
      result.manager = first.manager := by
  simp only [submitAll]
  split
  · rename_i succeeded
    exact ⟨succeeded.symm, by simp, rfl⟩
  · exact ⟨rfl, rfl, rfl⟩

def importedBuffer (handle : UInt32) : RgaBuffer :=
  { handle := handle, width := 64, height := 64, wstride := 64, hstride := 64 }

end LibRga

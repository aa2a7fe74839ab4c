import LibRga.Gauss

/-!
The coefficient blocks over whole runs: what pending requests name, what every
safe call keeps, and what the first unsafe one breaks.
-/

namespace LibRga

/-! Pending requests -/

section Pending

variable {τ : Type} {state : JobState τ} {req : τ}

theorem setPc_submitting {thread other : Thread} {pc : JobPc} {ptr : JobPtr} {command : Int32}
    (elsewhere : pc ≠ .submitting ptr command)
    (submits : (state.setPc thread pc).pc other = .submitting ptr command) :
    state.pc other = .submitting ptr command := by
  simp only [JobState.setPc] at submits
  split at submits
  · exact absurd submits elsewhere
  · exact submits

theorem JobState.Pending.of_setPc {manager : JobManager τ} {thread : Thread} {pc : JobPc}
    (pending : ({ state with manager := manager }.setPc thread pc).Pending req)
    (entries : manager.jobMap ⊆ state.manager.jobMap)
    (records : manager.records = state.manager.records)
    (holds : ∀ ptr command, pc = .submitting ptr command →
      ∃ handle, ⟨handle, ptr⟩ ∈ state.manager.jobMap) : state.Pending req := by
  obtain ⟨ptr, used, member⟩ := pending
  refine ⟨ptr, ?_, ?_⟩
  · obtain ⟨handle, entry⟩ | ⟨other, command, submits⟩ := used
    · exact .inl ⟨handle, entries entry⟩
    · by_cases taken : pc = .submitting ptr command
      · exact .inl (holds ptr command taken)
      · exact .inr ⟨other, command, setPc_submitting taken submits⟩
  · have same : (manager.userRequest ptr 0).tasks = (state.manager.userRequest ptr 0).tasks := by
      simp only [JobManager.userRequest, records]
    rw [← same]
    exact member

theorem transition_pending [Inhabited τ] {kind : JobMapKind} {after : JobState τ}
    {event : JobEvent τ} (taken : JobState.Transition kind state event after)
    (untouched : ∀ thread handle ptr task, event ≠ .accepted thread handle ptr task)
    (pending : after.Pending req) : state.Pending req := by
  cases taken with
  | createFailed | configIoctl | refused => exact pending
  | driverCreated | alreadyExists | noMemory | cancelMissing | cancelIoctl =>
      exact pending.of_setPc (List.Subset.refl _) rfl (by simp)
  | created thread handle ptr waiting fresh unused =>
      obtain ⟨block, used, member⟩ := pending
      by_cases new : block = ptr
      · -- the record was cleared when it was created
        simp [new, JobState.setPc, JobManager.insertJob, JobManager.setRecord,
          JobManager.userRequest] at member
      · refine ⟨block, ?_, ?_⟩
        · obtain ⟨other, entry⟩ | ⟨other, command, submits⟩ := used
          · have inserted := (rgaMapInsertJob_perm kind ptr fresh).subset entry
            rcases List.mem_cons.mp inserted with same | old
            · cases same
              exact absurd rfl new
            · exact .inl ⟨other, old⟩
          · exact .inr ⟨other, command, setPc_submitting (by simp) submits⟩
        · simpa [new, JobState.setPc, JobManager.insertJob, JobManager.setRecord,
            JobManager.setAllocated, JobManager.userRequest] using member
  | cancelled thread handle ptr waiting found =>
      exact pending.of_setPc (List.kerase_sublist handle _).subset rfl (by simp)
  | detached thread handle ptr command idle found =>
      refine pending.of_setPc (List.kerase_sublist handle _).subset rfl ?_
      intro block other same
      cases same
      exact ⟨handle, List.of_mem_dlookup found⟩
  | submitIoctl thread ptr command succeeds waiting =>
      exact pending.of_setPc (List.Subset.refl _) rfl (by simp)
  | accepted thread handle ptr task idle found room =>
      exact absurd rfl (untouched thread handle ptr task)

theorem appendTask_pending {handle : UInt32} {task : τ} {ptr : JobPtr} {after : JobManager τ}
    (appended : state.manager.appendTask handle task = .appended ptr after)
    (pending : ({ state with manager := after } : JobState τ).Pending req) :
    state.Pending req ∨ req = task := by
  obtain ⟨_, _, rfl⟩ := JobManager.appendTask_eq_appended.mp appended
  obtain ⟨block, used, member⟩ := pending
  by_cases same : block = ptr
  · subst same
    simp only [JobManager.userRequest, JobManager.setRecord, JobManager.appendReq, if_true,
      List.mem_map, List.mem_range] at member
    obtain ⟨index, below, read⟩ := member
    by_cases last : index = (state.manager.records block).taskCount.toNat
    · rw [if_pos last] at read
      exact .inr read.symm
    · rw [if_neg last] at read
      refine .inl ⟨block, used, ?_⟩
      simp only [JobManager.userRequest, List.mem_map, List.mem_range]
      exact ⟨index, by omega, read⟩
  · refine .inl ⟨block, used, ?_⟩
    simpa [same, JobManager.userRequest, JobManager.setRecord] using member

theorem step_isTask [Inhabited τ] {kind : JobMapKind} {after : JobState τ} {op : JobOp τ}
    {thread : Thread} {handle : UInt32} {ptr : JobPtr} {task : τ}
    (taken : state.step kind op = some (after, .accepted thread handle ptr task)) :
    op.isTask = true := by
  cases op with
  | taskLock => rfl
  | createIoctl other reply =>
      simp only [JobState.step] at taken
      cases reply <;> split at taken <;> simp at taken
  | createLock other block =>
      simp only [JobState.step, JobState.createLock] at taken
      split at taken
      · split at taken
        · simp at taken
        · split at taken
          · simp at taken
          · split at taken <;> simp at taken
      · simp at taken
  | cancelLock other name =>
      simp only [JobState.step, JobState.cancelLock] at taken
      split at taken
      · split at taken <;> simp at taken
      · simp at taken
  | cancelIoctl other succeeds =>
      simp only [JobState.step] at taken
      split at taken <;> simp at taken
  | submitLock other name syncMode =>
      simp only [JobState.step, JobState.submitLock] at taken
      split at taken
      · split at taken <;> simp at taken
      · simp at taken
  | submitIoctl other succeeds =>
      simp only [JobState.step, JobState.submitIoctl] at taken
      split at taken <;> simp at taken
  | configLock other name syncMode succeeds =>
      simp only [JobState.step, JobState.configLock] at taken
      split at taken
      · split at taken <;> simp at taken
      · simp at taken

theorem transition_handed [Inhabited τ] {kind : JobMapKind} {after : JobState τ}
    {event : JobEvent τ} (taken : JobState.Transition kind state event after)
    (handed : req ∈ event.handed) : state.Pending req := by
  cases taken with
  | submitIoctl thread ptr command succeeds waiting =>
      exact ⟨ptr, .inr ⟨thread, command, waiting⟩, handed⟩
  | configIoctl thread handle ptr command succeeds idle found =>
      exact ⟨ptr, .inl ⟨handle, List.of_mem_dlookup found⟩, handed⟩
  | _ => cases handed

end Pending

/-! Runs -/

/-- Between two safe calls no block is in use and no pending request names one. -/
structure GaussState.Clean (state : GaussState) : Prop where
  heap : state.heap = {}
  unnamed : ∀ req, state.jobs.Pending req → req.gaussConfig.coePtr = 0

theorem GaussState.Clean.owned {state : GaussState} (clean : state.Clean) :
    CoefficientsOwned state := by
  obtain ⟨heap, unnamed⟩ := clean
  refine ⟨?_, ?_, ?_⟩
  · rw [heap]
  · intro ptr live
    rw [heap] at live
    cases live
  · intro req pending named
    exact absurd (unnamed req pending) named

theorem foldl_handOver_same {heap : CoeHeap} {reqs : List RgaReq}
    (each : ∀ req ∈ reqs, req.gaussConfig.coePtr = 0) :
    reqs.foldl CoeHeap.handOver heap = heap := by
  induction reqs with
  | nil => rfl
  | cons req rest ih =>
      have first : heap.handOver req = heap := by
        simp only [CoeHeap.handOver]
        rw [if_pos (.inl (each req (by simp)))]
      rw [List.foldl_cons, first]
      exact ih fun later member => each later (by simp [member])

theorem job_clean {kind : JobMapKind} {state : GaussState} {jobs : JobState RgaReq}
    {op : JobOp RgaReq} {event : JobEvent RgaReq} (clean : state.Clean)
    (other : op.isTask = false) (taken : state.jobs.step kind op = some (jobs, event)) :
    GaussState.Clean
      { jobs := jobs, heap := event.handed.foldl CoeHeap.handOver state.heap } := by
  have transition := JobState.step_transition taken
  constructor
  · dsimp only
    rw [foldl_handOver_same, clean.heap]
    intro req handed
    exact clean.unnamed req (transition_handed transition handed)
  · intro req pending
    refine clean.unnamed req (transition_pending transition ?_ pending)
    rintro thread handle ptr task rfl
    rw [step_isTask taken] at other
    cases other

theorem task_clean {session : RgaSession} {state : GaussState} {env : TaskEnv} {args : TaskArgs}
    (clean : state.Clean) (safe : GaussSafe session state.jobs.manager env args)
    (block : .gaussAlloc env.coePtr ∈
        (rgaTaskSubmit session env state.jobs.manager args).events → env.coePtr ≠ 0) :
    let result := rgaTaskSubmit session env state.jobs.manager args
    GaussState.Clean
      { jobs := { state.jobs with manager := result.manager }
        heap := result.events.foldl CoeHeap.observe state.heap } := by
  dsimp only
  by_cases gauss : has args.usage imGauss = true
  · obtain ⟨heap, managed⟩ := gauss_call safe gauss block state.heap
    rw [heap, managed]
    exact clean
  · rw [Bool.not_eq_true] at gauss
    obtain ⟨heap, managed | ⟨ptr, task, appended, zero⟩⟩ :=
      @plain_call session env state.jobs.manager args gauss state.heap
    · rw [heap, managed]
      exact clean
    · rw [heap]
      refine ⟨clean.heap, ?_⟩
      intro req pending
      obtain before | rfl := appendTask_pending appended pending
      · exact clean.unnamed req before
      · exact zero

/-- A step makes a task call, with a block where it allocates one, or a step of the jobs. -/
theorem gaussStep_cases {kind : JobMapKind} {session : RgaSession} {state after : GaussState}
    {op : GaussOp} {event : GaussEvent}
    (taken : state.step kind session op = some (after, event)) :
    (∃ env args, event = .task state.jobs.manager env args ∧
      (.gaussAlloc env.coePtr ∈ (rgaTaskSubmit session env state.jobs.manager args).events →
        env.coePtr ≠ 0) ∧
      after =
        { jobs := { state.jobs with
            manager := (rgaTaskSubmit session env state.jobs.manager args).manager }
          heap := (rgaTaskSubmit session env state.jobs.manager args).events.foldl
            CoeHeap.observe state.heap }) ∨
    ∃ op jobs jobEvent, op.isTask = false ∧ state.jobs.step kind op = some (jobs, jobEvent) ∧
      event = .job jobEvent ∧
      after = { jobs := jobs, heap := jobEvent.handed.foldl CoeHeap.handOver state.heap } := by
  cases op with
  | task thread env args =>
      simp only [GaussState.step] at taken
      split at taken
      · cases taken
      · rename_i proceeds
        cases taken
        refine .inl ⟨env, args, rfl, ?_, rfl⟩
        rintro allocates zero
        exact proceeds (.inr ⟨allocates, .inl zero⟩)
  | job op =>
      simp only [GaussState.step] at taken
      split at taken
      · cases taken
      · rename_i other
        rw [Bool.not_eq_true] at other
        cases performed : state.jobs.step kind op with
        | none => simp [performed] at taken
        | some outcome =>
            obtain ⟨jobs, jobEvent⟩ := outcome
            rw [performed, Option.map_some, Option.some.injEq] at taken
            cases taken
            exact .inr ⟨op, jobs, jobEvent, other, performed, rfl, rfl⟩

theorem step_clean {kind : JobMapKind} {session : RgaSession} {state after : GaussState}
    {op : GaussOp} {event : GaussEvent} (clean : state.Clean)
    (taken : state.step kind session op = some (after, event)) (safe : event.Safe session) :
    after.Clean := by
  obtain ⟨env, args, rfl, block, rfl⟩ | ⟨jobOp, jobs, jobEvent, other, performed, rfl, rfl⟩ :=
    gaussStep_cases taken
  · exact task_clean clean safe block
  · exact job_clean clean other performed

def initialGaussState (records : JobPtr → ImRgaJob RgaReq) : GaussState :=
  { jobs := initialJobState records }

theorem initial_clean (records : JobPtr → ImRgaJob RgaReq) : (initialGaussState records).Clean := by
  refine ⟨rfl, ?_⟩
  rintro req ⟨ptr, ⟨handle, entry⟩ | ⟨thread, command, submits⟩, _⟩
  · cases entry
  · cases submits

/-! The condition is exact -/

theorem appendTask_mem_pending {state : JobState RgaReq} {handle : UInt32} {task : RgaReq}
    {ptr : JobPtr} {after : JobManager RgaReq} (consistent : state.manager.Consistent)
    (appended : state.manager.appendTask handle task = .appended ptr after) :
    ({ state with manager := after } : JobState RgaReq).Pending task := by
  obtain ⟨found, _, rfl⟩ := JobManager.appendTask_eq_appended.mp appended
  have started := (consistent.found_bounded found).1
  refine ⟨ptr, .inl ⟨handle, List.of_mem_dlookup found⟩, ?_⟩
  simp only [JobManager.userRequest, JobManager.setRecord, JobManager.appendReq, if_true,
    List.mem_map, List.mem_range]
  exact ⟨(state.manager.records ptr).taskCount.toNat, by omega, if_pos rfl⟩

theorem appendTask_consistent {manager after : JobManager RgaReq} {handle : UInt32}
    {task : RgaReq} {ptr : JobPtr} (consistent : manager.Consistent)
    (appended : manager.appendTask handle task = .appended ptr after) : after.Consistent := by
  obtain ⟨found, _, rfl⟩ := JobManager.appendTask_eq_appended.mp appended
  exact consistent.appendReq task (consistent.found_bounded found).1 (by omega)

section Exact

variable {session : RgaSession} {env : TaskEnv} {args : TaskArgs} {buffers : TaskBuffers}
  {mode : Int32} {jobs : JobState RgaReq}

theorem leaked {ptr : UInt64} {manager : JobManager RgaReq} {heap : CoeHeap}
    (nonzero : ptr ≠ 0) (kept : ptr ∈ heap.live)
    (unnamed : ∀ req, ({ jobs with manager := manager } : JobState RgaReq).Pending req →
      req.gaussConfig.coePtr = 0) :
    ¬ CoefficientsOwned { jobs := { jobs with manager := manager }, heap := heap } := by
  intro owned
  obtain ⟨req, pending, names⟩ := owned.carried ptr kept
  rw [unnamed req pending] at names
  exact nonzero names.symm

theorem unnamed_request_leaks {req : RgaReq} (nonzero : env.coePtr ≠ 0)
    (unnamed : ∀ other, jobs.Pending other → other.gaussConfig.coePtr = 0)
    (zero : req.gaussConfig.coePtr = 0) :
    let result := submitReq session env jobs.manager args req
    ¬ CoefficientsOwned
      { jobs := { jobs with manager := result.manager }
        heap := result.events.foldl CoeHeap.observe { live := [env.coePtr] } } := by
  dsimp only
  refine leaked nonzero ?_ ?_
  · rw [submitReq_events, List.foldl_append, observe_branch (.inl zero), zero]
    simp
  · intro other pending
    obtain same | ⟨_, ptr, appended⟩ := submitReq_manager req
    · rw [same] at pending
      exact unnamed other pending
    · obtain before | rfl := appendTask_pending appended pending
      · exact unnamed other before
      · exact zero

theorem queued_request_dangles {req : RgaReq} (consistent : jobs.manager.Consistent)
    (gauss : has args.usage imGauss = true) (nonzero : env.coePtr ≠ 0)
    (address : req.gaussConfig.coePtr = env.coePtr) (job : 0 < args.jobHandle)
    (room : JobRoom jobs.manager args.jobHandle 1) :
    let result := submitReq session env jobs.manager args req
    ¬ CoefficientsOwned
      { jobs := { jobs with manager := result.manager }
        heap := result.events.foldl CoeHeap.observe { live := [env.coePtr] } } := by
  dsimp only
  intro owned
  obtain ⟨ptr, after, appended, _⟩ := JobRoom.append room req
  have queued : submitReq session env jobs.manager args req =
      { status := .success, manager := after
        events := [.queueTask args.jobHandle req, .gaussFree env.coePtr] } := by
    simp [submitReq, submitJob, job, appended, gauss, address, nonzero]
  have pending := appendTask_mem_pending consistent appended
  have alive := owned.alive req
  simp only [queued, address] at alive
  have freed := alive pending nonzero
  simp [CoeHeap.observe] at freed

end Exact

theorem task_owned_only {session : RgaSession} {state : GaussState} {env : TaskEnv}
    {args : TaskArgs} (clean : state.Clean) (consistent : state.jobs.manager.Consistent)
    (block : .gaussAlloc env.coePtr ∈
        (rgaTaskSubmit session env state.jobs.manager args).events → env.coePtr ≠ 0)
    (owned : CoefficientsOwned
      { jobs := { state.jobs with
          manager := (rgaTaskSubmit session env state.jobs.manager args).manager }
        heap := (rgaTaskSubmit session env state.jobs.manager args).events.foldl
          CoeHeap.observe state.heap }) :
    GaussSafe session state.jobs.manager env args := by
  intro gauss buffers mode accepted
  have allocated : gaussEvents env args = [.gaussAlloc env.coePtr] := by
    rw [gaussEvents, if_pos gauss]
  rw [clean.heap] at owned
  cases rgaTaskSubmit_submitted session env state.jobs.manager args with
  | invalid status refused same =>
      rw [validateTask_ok_iff.mpr accepted] at refused
      cases refused
  | noFence _ _ _ fence same =>
      rw [same, allocated] at block owned
      exact absurd owned (leaked (block (by simp)) (by simp [CoeHeap.observe]) clean.unnamed)
  | refused _ _ _ fence exits same =>
      rw [same, allocated] at block owned
      rw [List.foldl_append, observe_lutEvents] at owned
      exact absurd owned (leaked (block (by simp)) (by simp [CoeHeap.observe]) clean.unnamed)
  | built buffers' mode' accepted' fence req builds same =>
      obtain ⟨rfl, rfl⟩ := accepted.unique accepted'
      rw [same, allocated] at block owned
      have nonzero : env.coePtr ≠ 0 := block (by simp)
      dsimp only at owned
      rw [List.foldl_append, List.foldl_append, observe_lutEvents] at owned
      have named : req.gaussConfig.coePtr ≠ 0 :=
        fun zero => unnamed_request_leaks nonzero clean.unnamed zero owned
      obtain built | ⟨_, _, _, rfl⟩ := builtReq_eq_some builds
      · have address := built_gauss built
        by_cases path : taskPath args = .blit ∨ taskPath args = .blend
        · rw [if_pos ⟨path, gauss⟩] at address
          refine ⟨fence, path, accepts_of_builtReq builds, fresh_of_built accepted built, ?_⟩
          rintro ⟨job, room⟩
          exact queued_request_dangles consistent gauss nonzero address job room owned
        · rw [if_neg (fun both => path both.1)] at address
          exact absurd address named
      · exact absurd rfl named

theorem step_consistent {kind : JobMapKind} {session : RgaSession} {state after : GaussState}
    {op : GaussOp} {event : GaussEvent} (consistent : state.jobs.manager.Consistent)
    (taken : state.step kind session op = some (after, event)) :
    after.jobs.manager.Consistent := by
  obtain ⟨env, args, _, _, rfl⟩ | ⟨_, _, _, _, performed, _, rfl⟩ := gaussStep_cases taken
  · dsimp only
    obtain same | ⟨ptr, req, appended⟩ :=
      rgaTaskSubmit_manager session env state.jobs.manager args
    · rw [same]
      exact consistent
    · exact appendTask_consistent consistent appended
  · exact transition_consistent (JobState.step_transition performed) consistent

theorem step_owned_only {kind : JobMapKind} {session : RgaSession} {state after : GaussState}
    {op : GaussOp} {event : GaussEvent} (clean : state.Clean)
    (consistent : state.jobs.manager.Consistent)
    (taken : state.step kind session op = some (after, event))
    (owned : CoefficientsOwned after) : event.Safe session := by
  obtain ⟨env, args, rfl, block, rfl⟩ | ⟨_, _, _, _, _, rfl, _⟩ := gaussStep_cases taken
  · exact task_owned_only clean consistent block owned
  · trivial

theorem run_clean {kind : JobMapKind} {session : RgaSession}
    {records : JobPtr → ImRgaJob RgaReq} {trace : List GaussEvent} {state : GaussState}
    (run : Machine.Run (GaussState.step kind session) (initialGaussState records) trace state)
    (safe : ∀ event ∈ trace, event.Safe session) :
    state.Clean ∧ state.jobs.manager.Consistent := by
  have kept : (∀ event ∈ trace, event.Safe session) →
      state.Clean ∧ state.jobs.manager.Consistent := by
    refine run.invariant (P := fun past state =>
      (∀ event ∈ past, event.Safe session) → state.Clean ∧ state.jobs.manager.Consistent) ?_ ?_
    · exact fun _ => ⟨initial_clean records, rfl, List.nodupKeys_nil,
        by simp [initialGaussState, initialJobState]⟩
    · intro past before op after event _ kept taken safe
      obtain ⟨clean, consistent⟩ := kept fun earlier member => safe earlier (by simp [member])
      exact ⟨step_clean clean taken (safe event (by simp)), step_consistent consistent taken⟩
  exact kept safe

theorem run_task {kind : JobMapKind} {session : RgaSession} {start state : GaussState}
    {trace : List GaussEvent} {env : TaskEnv}
    (run : Machine.Run (GaussState.step kind session) start trace state) (thread : Thread)
    (args : TaskArgs) (idle : state.jobs.pc thread = .idle) (block : env.coePtr ≠ 0)
    (fresh : env.coePtr ∉ state.heap.live) :
    ∃ after, state.step kind session (.task thread env args) =
        some (after, .task state.jobs.manager env args) ∧
      Machine.Run (GaussState.step kind session) start
        (.task state.jobs.manager env args :: trace) after := by
  have proceeds (sent : Prop) : ¬(state.jobs.pc thread ≠ .idle ∨
      (sent ∧ (env.coePtr = 0 ∨ env.coePtr ∈ state.heap.live))) := by
    rintro (busy | ⟨_, zero | live⟩)
    · exact busy idle
    · exact block zero
    · exact fresh live
  have taken : ∃ after, state.step kind session (.task thread env args) =
      some (after, .task state.jobs.manager env args) := by
    simp only [GaussState.step, proceeds, if_false]
    exact ⟨_, rfl⟩
  obtain ⟨after, taken⟩ := taken
  exact ⟨after, taken, run.next taken⟩

/-- The row of the RK3506, which has the Gaussian feature. -/
def rk3506Session : RgaSession :=
  { hardwareInfo :=
      { version := 0x40
        inputResolution := ⟨1280, 8192⟩
        outputResolution := ⟨1280, 4096⟩
        byteStride := 4
        scaleLimit := 16
        inputFormat := 0x4dfe6
        outputFormat := 0xeaae
        feature := 0x4066
        scaleVerBicubicLimit := 600 } }

def blurArgs : TaskArgs :=
  { src := importedBuffer 1, dst := importedBuffer 2, usage := imGauss
    opt := some { version := 0x010a0500, gaussConfig := { ksizeWidth := 3, ksizeHeight := 3 } } }

def blurEnv : TaskEnv :=
  { coePtr := 0x2000 }

def zeroRecords : JobPtr → ImRgaJob RgaReq :=
  fun _ => { req := fun _ => {}, id := 0 }

theorem blur_built : ∃ buffers mode req, Accepted rk3506Session blurArgs buffers mode ∧
    (taskBuilt rk3506Session blurEnv blurArgs buffers mode).2 = .ok req := by
  obtain ⟨⟨buffers, mode⟩, validated, built⟩ := Result.exists_ok_of_any
    (validateTask rk3506Session blurArgs)
    (fun pair => (taskBuilt rk3506Session blurEnv blurArgs pair.1 pair.2).2.toOption.any
      fun _ => true) (by decide +kernel)
  obtain ⟨req, filled, _⟩ := Result.exists_ok_of_any _ _ built
  exact ⟨buffers, mode, req, validateTask_ok_iff.mp validated, filled⟩

/-- A blur that asks for a release fence without a place for it, and a blur queued in a job. -/
def leakyBlur : TaskArgs :=
  { blurArgs with usage := imGauss ||| imAsync }

def queuedBlur : TaskArgs :=
  { blurArgs with jobHandle := 7 }

theorem blurs_accepted : (∃ buffers mode, Accepted rk3506Session leakyBlur buffers mode) ∧
    ∃ buffers mode, Accepted rk3506Session queuedBlur buffers mode := by
  constructor
  · obtain ⟨⟨buffers, mode⟩, validated, _⟩ := Result.exists_ok_of_any
      (validateTask rk3506Session leakyBlur) (fun _ => true) (by decide +kernel)
    exact ⟨buffers, mode, validateTask_ok_iff.mp validated⟩
  · obtain ⟨⟨buffers, mode⟩, validated, _⟩ := Result.exists_ok_of_any
      (validateTask rk3506Session queuedBlur) (fun _ => true) (by decide +kernel)
    exact ⟨buffers, mode, validateTask_ok_iff.mp validated⟩

end LibRga

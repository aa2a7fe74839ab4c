import LibRga.Modes
import Mathlib.Data.List.Sigma
import Mathlib.Data.List.Sort

/-!
The job map and manager of `im2d_job.cpp`, and the job functions of
`im2d_impl.cpp` split at their critical sections and ioctls.

`τ` is the type of a queued request. Records live in memory: a pointer that is
kept after its block has been freed would read whatever is stored there later.
-/

namespace LibRga

abbrev JobPtr := UInt64

/-- `task_count` stays within `RGA_TASK_NUM_MAX`, so an unbounded integer holds it. -/
structure ImRgaJob (τ : Type) where
  req : Nat → τ
  taskCount : Int := 0
  id : Int32

abbrev RgaJobMap := List (Sigma fun _ : UInt32 => JobPtr)

/-- The two branches of `IM2D_JOB_USE_MAP`. -/
inductive JobMapKind where
  | stdMap
  | linkedList
deriving DecidableEq, Repr

/-- `std::map` keeps its entries in key order; the list appends at its tail. -/
def rgaMapInsertJob (kind : JobMapKind) (jobMap : RgaJobMap) (handle : UInt32) (job : JobPtr) :
    RgaJobMap :=
  if (jobMap.dlookup handle).isSome then jobMap
  else
    match kind with
    | .stdMap => jobMap.orderedInsert (fun left right => left.1 ≤ right.1) ⟨handle, job⟩
    | .linkedList => jobMap ++ [⟨handle, job⟩]

def rgaMapDeleteJob (jobMap : RgaJobMap) (handle : UInt32) : RgaJobMap :=
  jobMap.kerase handle

def rgaMapFindJob (jobMap : RgaJobMap) (handle : UInt32) : Option JobPtr :=
  jobMap.dlookup handle

/-- `job_count` counts records of more than `2 ^ 17` bytes each, so it cannot overflow. -/
structure JobManager (τ : Type) where
  jobMap : RgaJobMap := []
  jobCount : Int := 0
  records : JobPtr → ImRgaJob τ
  allocated : JobPtr → Bool := fun _ => false

/-- What an ioctl copies out of a record: `req[0]` to `req[task_num - 1]`. -/
structure RgaUserRequest (τ : Type) where
  id : UInt32
  tasks : List τ
  taskNum : Int
  syncMode : Int32

namespace JobManager

variable {τ : Type}

def setRecord (manager : JobManager τ) (ptr : JobPtr) (job : ImRgaJob τ) : JobManager τ :=
  { manager with records := fun other => if other = ptr then job else manager.records other }

def setAllocated (manager : JobManager τ) (ptr : JobPtr) (live : Bool) : JobManager τ :=
  { manager with allocated := fun other => if other = ptr then live else manager.allocated other }

def insertJob [Inhabited τ] (manager : JobManager τ) (kind : JobMapKind) (handle : UInt32)
    (ptr : JobPtr) : JobManager τ :=
  let manager := manager.setAllocated ptr true
  let manager := manager.setRecord ptr { req := fun _ => default, id := handle.toInt32 }
  { manager with
    jobMap := rgaMapInsertJob kind manager.jobMap handle ptr
    jobCount := manager.jobCount + 1 }

def removeJob (manager : JobManager τ) (handle : UInt32) : JobManager τ :=
  { manager with
    jobMap := rgaMapDeleteJob manager.jobMap handle
    jobCount := manager.jobCount - 1 }

/-- `job->req[job->task_count] = req; job->task_count++` -/
def appendReq (job : ImRgaJob τ) (req : τ) : ImRgaJob τ :=
  { job with
    req := fun index => if index = job.taskCount.toNat then req else job.req index
    taskCount := job.taskCount + 1 }

inductive AppendResult (τ : Type) where
  | missing
  | full
  | appended (ptr : JobPtr) (manager : JobManager τ)

def appendTask (manager : JobManager τ) (handle : UInt32) (req : τ) : AppendResult τ :=
  match rgaMapFindJob manager.jobMap handle with
  | none => .missing
  | some ptr =>
      let job := manager.records ptr
      if rgaTaskNumMax.toInt ≤ job.taskCount then .full
      else .appended ptr (manager.setRecord ptr (appendReq job req))

theorem appendTask_eq_appended {manager after : JobManager τ} {handle : UInt32} {req : τ}
    {ptr : JobPtr} :
    manager.appendTask handle req = .appended ptr after ↔
      rgaMapFindJob manager.jobMap handle = some ptr ∧
        (manager.records ptr).taskCount < rgaTaskNumMax.toInt ∧
        manager.setRecord ptr (appendReq (manager.records ptr) req) = after := by
  unfold appendTask
  cases found : rgaMapFindJob manager.jobMap handle with
  | none => simp
  | some block =>
      by_cases full : rgaTaskNumMax.toInt ≤ (manager.records block).taskCount
      · simp only [full, if_true, reduceCtorEq, Option.some.injEq, false_iff]
        rintro ⟨rfl, room, _⟩
        omega
      · simp only [full, if_false, AppendResult.appended.injEq, Option.some.injEq]
        constructor
        · rintro ⟨rfl, same⟩
          exact ⟨rfl, by omega, same⟩
        · rintro ⟨rfl, _, same⟩
          exact ⟨rfl, same⟩

def userRequest (manager : JobManager τ) (ptr : JobPtr) (syncMode : Int32) : RgaUserRequest τ :=
  let job := manager.records ptr
  { id := job.id.toUInt32
    tasks := (List.range job.taskCount.toNat).map job.req
    taskNum := job.taskCount
    syncMode := syncMode }

def queued (manager : JobManager τ) (handle : UInt32) : Option (List τ) :=
  (rgaMapFindJob manager.jobMap handle).map fun ptr => (manager.userRequest ptr 0).tasks

end JobManager

/-! Threads -/

abbrev Thread := Nat

inductive JobPc where
  | idle
  /-- `rga_job_create` after a successful ioctl, before its critical section. -/
  | created (handle : UInt32)
  /-- `rga_job_create` on its error path, about to call `rga_job_cancel`. -/
  | mustCancel (handle : UInt32)
  /-- `rga_job_cancel` after its critical section. -/
  | cancelling (handle : UInt32)
  /-- `rga_job_submit` after its critical section, holding the detached record. -/
  | submitting (ptr : JobPtr) (syncMode : Int32)
deriving DecidableEq, Repr

structure JobState (τ : Type) where
  manager : JobManager τ
  pc : Thread → JobPc := fun _ => .idle

inductive JobOp (τ : Type) where
  | createIoctl (thread : Thread) (reply : Option UInt32)
  | createLock (thread : Thread) (block : Option JobPtr)
  | cancelLock (thread : Thread) (handle : UInt32)
  | cancelIoctl (thread : Thread) (succeeds : Bool)
  | submitLock (thread : Thread) (handle : UInt32) (syncMode : Int32)
  | submitIoctl (thread : Thread) (succeeds : Bool)
  | configLock (thread : Thread) (handle : UInt32) (syncMode : Int32) (succeeds : Bool)
  | taskLock (thread : Thread) (handle : UInt32) (req : τ)

inductive JobEvent (τ : Type) where
  | createFailed (thread : Thread)
  | driverCreated (thread : Thread) (handle : UInt32)
  | created (thread : Thread) (handle : UInt32) (ptr : JobPtr)
  | alreadyExists (thread : Thread) (handle : UInt32)
  | noMemory (thread : Thread) (handle : UInt32)
  | cancelled (thread : Thread) (handle : UInt32) (ptr : Option JobPtr)
  | cancelIoctl (thread : Thread) (handle : UInt32) (succeeds : Bool)
  | detached (thread : Thread) (handle : UInt32) (ptr : JobPtr)
  | submitIoctl (thread : Thread) (ptr : JobPtr) (request : RgaUserRequest τ) (succeeds : Bool)
  | configIoctl (thread : Thread) (handle : UInt32) (ptr : JobPtr) (request : RgaUserRequest τ)
      (succeeds : Bool)
  | accepted (thread : Thread) (handle : UInt32) (ptr : JobPtr) (req : τ)
  /-- An operation that returns an error without touching anything. -/
  | refused (thread : Thread) (handle : UInt32)

/-- The mode words `rga_job_submit` and `rga_job_config` accept, as ioctl commands. -/
def jobSyncMode (syncMode : Int32) : Option Int32 :=
  if syncMode = imSync then some rgaBlitSync
  else if syncMode = imAsync then some rgaBlitAsync
  else none

namespace JobState

variable {τ : Type}

def setPc (state : JobState τ) (thread : Thread) (pc : JobPc) : JobState τ :=
  { state with pc := fun other => if other = thread then pc else state.pc other }

def createLock [Inhabited τ] (kind : JobMapKind) (state : JobState τ) (thread : Thread)
    (handle : UInt32) (block : Option JobPtr) : Option (JobState τ × JobEvent τ) :=
  match rgaMapFindJob state.manager.jobMap handle with
  | some _ => some (state.setPc thread (.mustCancel handle), .alreadyExists thread handle)
  | none =>
      match block with
      | none => some (state.setPc thread (.mustCancel handle), .noMemory thread handle)
      | some ptr =>
          -- `malloc` never returns a block that is still in use
          if state.manager.allocated ptr then none
          else some ({ state with manager := state.manager.insertJob kind handle ptr }.setPc
            thread .idle, .created thread handle ptr)

def cancelLock (state : JobState τ) (thread : Thread) (handle : UInt32) :
    JobState τ × JobEvent τ :=
  match rgaMapFindJob state.manager.jobMap handle with
  | none => (state.setPc thread (.cancelling handle), .cancelled thread handle none)
  | some ptr =>
      let manager := (state.manager.removeJob handle).setAllocated ptr false
      ({ state with manager := manager }.setPc thread (.cancelling handle),
        .cancelled thread handle (some ptr))

def submitLock (state : JobState τ) (thread : Thread) (handle : UInt32) (syncMode : Int32) :
    JobState τ × JobEvent τ :=
  match jobSyncMode syncMode, rgaMapFindJob state.manager.jobMap handle with
  | some command, some ptr =>
      ({ state with manager := state.manager.removeJob handle }.setPc thread
        (.submitting ptr command), .detached thread handle ptr)
  | _, _ => (state, .refused thread handle)

def submitIoctl (state : JobState τ) (thread : Thread) (ptr : JobPtr) (command : Int32)
    (succeeds : Bool) : JobState τ × JobEvent τ :=
  ({ state with manager := state.manager.setAllocated ptr false }.setPc thread .idle,
    .submitIoctl thread ptr (state.manager.userRequest ptr command) succeeds)

def configLock (state : JobState τ) (thread : Thread) (handle : UInt32) (syncMode : Int32)
    (succeeds : Bool) : JobState τ × JobEvent τ :=
  match jobSyncMode syncMode, rgaMapFindJob state.manager.jobMap handle with
  | some command, some ptr =>
      (state, .configIoctl thread handle ptr (state.manager.userRequest ptr command) succeeds)
  | _, _ => (state, .refused thread handle)

def taskLock (state : JobState τ) (thread : Thread) (handle : UInt32) (req : τ) :
    JobState τ × JobEvent τ :=
  match state.manager.appendTask handle req with
  | .appended ptr manager => ({ state with manager := manager }, .accepted thread handle ptr req)
  | _ => (state, .refused thread handle)

/-- One atomic step; `none` when the thread does not stand where the step begins. -/
def step [Inhabited τ] (kind : JobMapKind) (state : JobState τ) :
    JobOp τ → Option (JobState τ × JobEvent τ)
  | .createIoctl thread reply =>
      if state.pc thread = .idle then
        match reply with
        | none => some (state, .createFailed thread)
        | some handle => some (state.setPc thread (.created handle), .driverCreated thread handle)
      else none
  | .createLock thread block =>
      match state.pc thread with
      | .created handle => createLock kind state thread handle block
      | _ => none
  | .cancelLock thread handle =>
      if state.pc thread = .idle ∨ state.pc thread = .mustCancel handle then
        some (cancelLock state thread handle)
      else none
  | .cancelIoctl thread succeeds =>
      match state.pc thread with
      | .cancelling handle =>
          some (state.setPc thread .idle, .cancelIoctl thread handle succeeds)
      | _ => none
  | .submitLock thread handle syncMode =>
      if state.pc thread = .idle then some (submitLock state thread handle syncMode) else none
  | .submitIoctl thread succeeds =>
      match state.pc thread with
      | .submitting ptr command => some (submitIoctl state thread ptr command succeeds)
      | _ => none
  | .configLock thread handle syncMode succeeds =>
      if state.pc thread = .idle then some (configLock state thread handle syncMode succeeds)
      else none
  | .taskLock thread handle req =>
      -- with handle 0 `rga_task_submit` does not come to the job branch
      if state.pc thread = .idle ∧ handle ≠ 0 then some (taskLock state thread handle req)
      else none

end JobState

/-- The library after its constructor has run; memory holds anything. -/
def initialJobState {τ : Type} (records : JobPtr → ImRgaJob τ) : JobState τ :=
  { manager := { records := records } }

end LibRga

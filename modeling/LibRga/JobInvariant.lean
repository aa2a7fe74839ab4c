import LibRga.Job
import LibRga.Library.Run

/-!
What one step of the job functions can do, and what every reachable manager
satisfies whatever the callers pass and the driver answers.
-/

namespace LibRga

variable {τ : Type}

theorem rgaMapInsertJob_perm (kind : JobMapKind) {jobMap : RgaJobMap} {handle : UInt32}
    (ptr : JobPtr) (fresh : rgaMapFindJob jobMap handle = none) :
    (rgaMapInsertJob kind jobMap handle ptr).Perm (⟨handle, ptr⟩ :: jobMap) := by
  unfold rgaMapFindJob at fresh
  cases kind with
  | stdMap => simp [rgaMapInsertJob, fresh, List.perm_orderedInsert]
  | linkedList => simp [rgaMapInsertJob, fresh, List.perm_append_singleton]

theorem rgaMapInsertJob_nodupKeys (kind : JobMapKind) {jobMap : RgaJobMap} {handle : UInt32}
    (ptr : JobPtr) (distinct : jobMap.NodupKeys) (fresh : rgaMapFindJob jobMap handle = none) :
    (rgaMapInsertJob kind jobMap handle ptr).NodupKeys := by
  rw [List.perm_nodupKeys (rgaMapInsertJob_perm kind ptr fresh), List.nodupKeys_cons]
  exact ⟨List.dlookup_eq_none.mp fresh, distinct⟩

theorem rgaMapFindJob_insert (kind : JobMapKind) {jobMap : RgaJobMap} {handle : UInt32}
    (ptr : JobPtr) (distinct : jobMap.NodupKeys) (fresh : rgaMapFindJob jobMap handle = none)
    (other : UInt32) :
    rgaMapFindJob (rgaMapInsertJob kind jobMap handle ptr) other =
      if other = handle then some ptr else rgaMapFindJob jobMap other := by
  have inserted := rgaMapInsertJob_nodupKeys kind ptr distinct fresh
  have lookups := List.perm_dlookup other inserted (rgaMapInsertJob_perm kind ptr fresh)
  unfold rgaMapFindJob
  rw [lookups]
  by_cases same : other = handle
  · subst other
    simp
  · rw [List.dlookup_cons_ne jobMap ⟨handle, ptr⟩ same, if_neg same]

theorem rgaMapFindJob_delete {jobMap : RgaJobMap} (distinct : jobMap.NodupKeys)
    (handle other : UInt32) :
    rgaMapFindJob (rgaMapDeleteJob jobMap handle) other =
      if other = handle then none else rgaMapFindJob jobMap other := by
  unfold rgaMapFindJob rgaMapDeleteJob
  by_cases same : other = handle
  · subst other
    simpa using List.dlookup_kerase _ distinct
  · simp [same, List.dlookup_kerase_ne same]

theorem rgaMapDeleteJob_length {jobMap : RgaJobMap} {handle : UInt32} {ptr : JobPtr}
    (found : rgaMapFindJob jobMap handle = some ptr) :
    (rgaMapDeleteJob jobMap handle).length + 1 = jobMap.length := by
  have present : handle ∈ jobMap.keys := by
    rw [← List.dlookup_isSome]
    simp_all [rgaMapFindJob]
  obtain ⟨value, before, after, _, split, erased⟩ := List.exists_of_kerase present
  simp only [rgaMapDeleteJob, erased]
  simp only [split, List.length_append, List.length_cons]
  omega

namespace JobState

/-- Everything a step can do, with its guards. -/
inductive Transition [Inhabited τ] (kind : JobMapKind) (state : JobState τ) :
    JobEvent τ → JobState τ → Prop
  | createFailed (thread) : state.pc thread = .idle →
      Transition kind state (.createFailed thread) state
  | driverCreated (thread handle) : state.pc thread = .idle →
      Transition kind state (.driverCreated thread handle) (state.setPc thread (.created handle))
  | alreadyExists (thread handle ptr) : state.pc thread = .created handle →
      rgaMapFindJob state.manager.jobMap handle = some ptr →
      Transition kind state (.alreadyExists thread handle)
        (state.setPc thread (.mustCancel handle))
  | noMemory (thread handle) : state.pc thread = .created handle →
      rgaMapFindJob state.manager.jobMap handle = none →
      Transition kind state (.noMemory thread handle) (state.setPc thread (.mustCancel handle))
  | created (thread handle ptr) : state.pc thread = .created handle →
      rgaMapFindJob state.manager.jobMap handle = none → state.manager.allocated ptr = false →
      Transition kind state (.created thread handle ptr)
        ({ state with manager := state.manager.insertJob kind handle ptr }.setPc thread .idle)
  | cancelMissing (thread handle) :
      state.pc thread = .idle ∨ state.pc thread = .mustCancel handle →
      rgaMapFindJob state.manager.jobMap handle = none →
      Transition kind state (.cancelled thread handle none)
        (state.setPc thread (.cancelling handle))
  | cancelled (thread handle ptr) :
      state.pc thread = .idle ∨ state.pc thread = .mustCancel handle →
      rgaMapFindJob state.manager.jobMap handle = some ptr →
      Transition kind state (.cancelled thread handle (some ptr))
        ({ state with
            manager := (state.manager.removeJob handle).setAllocated ptr false }.setPc
          thread (.cancelling handle))
  | cancelIoctl (thread handle succeeds) : state.pc thread = .cancelling handle →
      Transition kind state (.cancelIoctl thread handle succeeds) (state.setPc thread .idle)
  | detached (thread handle ptr command) : state.pc thread = .idle →
      rgaMapFindJob state.manager.jobMap handle = some ptr →
      Transition kind state (.detached thread handle ptr)
        ({ state with manager := state.manager.removeJob handle }.setPc thread
          (.submitting ptr command))
  | submitIoctl (thread ptr command succeeds) : state.pc thread = .submitting ptr command →
      Transition kind state
        (.submitIoctl thread ptr (state.manager.userRequest ptr command) succeeds)
        ({ state with manager := state.manager.setAllocated ptr false }.setPc thread .idle)
  | configIoctl (thread handle ptr command succeeds) :
      state.pc thread = .idle →
      rgaMapFindJob state.manager.jobMap handle = some ptr →
      Transition kind state
        (.configIoctl thread handle ptr (state.manager.userRequest ptr command) succeeds) state
  | accepted (thread handle ptr req) : state.pc thread = .idle →
      rgaMapFindJob state.manager.jobMap handle = some ptr →
      (state.manager.records ptr).taskCount < rgaTaskNumMax.toInt →
      Transition kind state (.accepted thread handle ptr req)
        { state with
          manager := state.manager.setRecord ptr
            (JobManager.appendReq (state.manager.records ptr) req) }
  | refused (thread handle) : state.pc thread = .idle →
      Transition kind state (.refused thread handle) state

theorem step_transition [Inhabited τ] {kind : JobMapKind} {state after : JobState τ}
    {op : JobOp τ} {event : JobEvent τ} (taken : step kind state op = some (after, event)) :
    Transition kind state event after := by
  cases op with
  | createIoctl thread reply =>
      simp only [step] at taken
      split at taken
      · rename_i idle
        cases reply with
        | none => cases taken; exact .createFailed thread idle
        | some handle => cases taken; exact .driverCreated thread handle idle
      · contradiction
  | createLock thread block =>
      simp only [step] at taken
      split at taken
      · rename_i handle waiting
        simp only [createLock] at taken
        split at taken
        · cases taken
          exact .alreadyExists thread handle _ waiting (by assumption)
        · split at taken
          · cases taken
            exact .noMemory thread handle waiting (by assumption)
          · split at taken
            · contradiction
            · cases taken
              exact .created thread handle _ waiting (by assumption) (by simp_all)
      · contradiction
  | cancelLock thread handle =>
      simp only [step] at taken
      split at taken
      · rename_i waiting
        simp only [cancelLock] at taken
        split at taken
        · cases taken
          exact .cancelMissing thread handle waiting (by assumption)
        · cases taken
          exact .cancelled thread handle _ waiting (by assumption)
      · contradiction
  | cancelIoctl thread succeeds =>
      simp only [step] at taken
      split at taken
      · cases taken
        exact .cancelIoctl thread _ succeeds (by assumption)
      · contradiction
  | submitLock thread handle syncMode =>
      simp only [step] at taken
      split at taken
      · rename_i idle
        simp only [submitLock] at taken
        split at taken
        · cases taken
          exact .detached thread handle _ _ idle (by assumption)
        · cases taken
          exact .refused thread handle idle
      · contradiction
  | submitIoctl thread succeeds =>
      simp only [step] at taken
      split at taken
      · cases taken
        exact .submitIoctl thread _ _ succeeds (by assumption)
      · contradiction
  | configLock thread handle syncMode succeeds =>
      simp only [step] at taken
      split at taken
      · rename_i idle
        simp only [configLock] at taken
        split at taken
        · cases taken
          exact .configIoctl thread handle _ _ succeeds idle (by assumption)
        · cases taken
          exact .refused thread handle idle
      · contradiction
  | taskLock thread handle req =>
      simp only [step] at taken
      split at taken
      · rename_i idle
        simp only [taskLock, JobManager.appendTask] at taken
        split at taken
        · rename_i ptr manager appended
          cases taken
          split at appended
          · contradiction
          · split at appended
            · contradiction
            · rename_i room
              cases appended
              exact .accepted thread handle _ req idle.1 (by assumption) (by omega)
        · cases taken
          exact .refused thread handle idle.1
      · contradiction

end JobState

/-! The manager -/

structure JobManager.Consistent (manager : JobManager τ) : Prop where
  counted : manager.jobCount = manager.jobMap.length
  distinct : manager.jobMap.NodupKeys
  bounded : ∀ entry ∈ manager.jobMap, 0 ≤ (manager.records entry.2).taskCount ∧
    (manager.records entry.2).taskCount ≤ rgaTaskNumMax.toInt

namespace JobManager.Consistent

variable {manager : JobManager τ}

theorem insertJob [Inhabited τ] (kind : JobMapKind) {handle : UInt32} {ptr : JobPtr}
    (consistent : manager.Consistent) (fresh : rgaMapFindJob manager.jobMap handle = none) :
    (manager.insertJob kind handle ptr).Consistent := by
  have inserted := rgaMapInsertJob_perm kind ptr fresh
  refine ⟨?_, rgaMapInsertJob_nodupKeys kind ptr consistent.distinct fresh, ?_⟩
  · have grown := inserted.length_eq
    have counted := consistent.counted
    simp only [JobManager.insertJob, setRecord, setAllocated, List.length_cons] at grown ⊢
    omega
  · intro entry member
    simp only [JobManager.insertJob, setRecord, setAllocated] at member ⊢
    by_cases new : entry.2 = ptr
    · simp [new, show rgaTaskNumMax.toInt = 256 by decide]
    · simp only [new, if_false]
      rcases List.mem_cons.mp (inserted.subset member) with same | old
      · simp [same] at new
      · exact consistent.bounded entry old

theorem removeJob {handle : UInt32} {ptr : JobPtr} (consistent : manager.Consistent)
    (found : rgaMapFindJob manager.jobMap handle = some ptr) :
    (manager.removeJob handle).Consistent := by
  refine ⟨?_, consistent.distinct.kerase handle, ?_⟩
  · have shrunk := rgaMapDeleteJob_length found
    have counted := consistent.counted
    simp only [JobManager.removeJob]
    omega
  · intro entry member
    exact consistent.bounded entry ((List.kerase_sublist handle manager.jobMap).subset member)

theorem appendReq {ptr : JobPtr} (req : τ) (consistent : manager.Consistent)
    (started : 0 ≤ (manager.records ptr).taskCount)
    (room : (manager.records ptr).taskCount < rgaTaskNumMax.toInt) :
    (manager.setRecord ptr (JobManager.appendReq (manager.records ptr) req)).Consistent := by
  refine ⟨consistent.counted, consistent.distinct, ?_⟩
  intro entry member
  by_cases same : entry.2 = ptr
  · simp only [setRecord, same, if_true, JobManager.appendReq]
    omega
  · simp only [setRecord, same, if_false]
    exact consistent.bounded entry member

theorem setAllocated (ptr : JobPtr) (live : Bool) (consistent : manager.Consistent) :
    (manager.setAllocated ptr live).Consistent :=
  ⟨consistent.counted, consistent.distinct, consistent.bounded⟩

theorem found_bounded {handle : UInt32} {ptr : JobPtr} (consistent : manager.Consistent)
    (found : rgaMapFindJob manager.jobMap handle = some ptr) :
    0 ≤ (manager.records ptr).taskCount ∧
      (manager.records ptr).taskCount ≤ rgaTaskNumMax.toInt :=
  consistent.bounded ⟨handle, ptr⟩ (List.of_mem_dlookup found)

end JobManager.Consistent

theorem transition_consistent [Inhabited τ] {kind : JobMapKind} {state after : JobState τ}
    {event : JobEvent τ} (taken : JobState.Transition kind state event after)
    (consistent : state.manager.Consistent) : after.manager.Consistent := by
  cases taken with
  | created thread handle ptr waiting fresh unused => exact consistent.insertJob kind fresh
  | cancelled thread handle ptr waiting found =>
      exact (consistent.removeJob found).setAllocated ptr false
  | detached thread handle ptr command idle found => exact consistent.removeJob found
  | submitIoctl thread ptr command succeeds waiting => exact consistent.setAllocated ptr false
  | accepted thread handle ptr req idle found room =>
      exact consistent.appendReq req (consistent.found_bounded found).1 room
  | _ => exact consistent

theorem run_consistent [Inhabited τ] {kind : JobMapKind} {records : JobPtr → ImRgaJob τ}
    {trace : List (JobEvent τ)} {state : JobState τ}
    (run : Machine.Run (JobState.step kind) (initialJobState records) trace state) :
    state.manager.Consistent := by
  refine run.invariant (P := fun _ state => state.manager.Consistent) ?_ ?_
  · exact ⟨rfl, List.nodupKeys_nil, by simp [initialJobState]⟩
  · intro past state op after event _ consistent taken
    exact transition_consistent (JobState.step_transition taken) consistent

theorem jobManager_invariant [Inhabited τ] (kind : JobMapKind) (records : JobPtr → ImRgaJob τ)
    {trace : List (JobEvent τ)} {state : JobState τ}
    (run : Machine.Run (JobState.step kind) (initialJobState records) trace state) :
    state.manager.jobCount = state.manager.jobMap.length ∧ 0 ≤ state.manager.jobCount ∧
      state.manager.jobMap.NodupKeys ∧
      ∀ entry ∈ state.manager.jobMap, 0 ≤ (state.manager.records entry.2).taskCount ∧
        (state.manager.records entry.2).taskCount ≤ rgaTaskNumMax.toInt := by
  have consistent := run_consistent run
  have counted := consistent.counted
  exact ⟨counted, by omega, consistent.distinct, consistent.bounded⟩

/-- Two jobs, one of which has taken a task, with the other being cancelled. -/
def sampleJobOps : List (JobOp Nat) :=
  [.createIoctl 0 (some 7), .createIoctl 1 (some 8), .createLock 1 (some 0x2000),
    .createLock 0 (some 0x1000), .taskLock 1 7 41, .taskLock 0 7 42, .cancelLock 1 8]

theorem jobManager_invariant_sample :
    ∃ trace state, Machine.Run (JobState.step .stdMap)
        (initialJobState fun _ => { req := fun _ => (0 : Nat), id := 0 }) trace state ∧
      state.manager.jobMap = [⟨7, 0x1000⟩] ∧ state.manager.jobCount = 1 ∧
      state.manager.jobCount = state.manager.jobMap.length := by
  have run := Machine.Run.of_exec (JobState.step .stdMap)
    (initialJobState fun _ => { req := fun _ => (0 : Nat), id := 0 }) sampleJobOps rfl
  exact ⟨_, _, run, rfl, rfl, (jobManager_invariant .stdMap _ run).1⟩

end LibRga

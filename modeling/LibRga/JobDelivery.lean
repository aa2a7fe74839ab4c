import LibRga.JobInvariant

/-!
What the submit and config ioctls carry, read against the trace of a run.
-/

namespace LibRga

variable {τ : Type}

namespace JobEvent

def thread : JobEvent τ → Thread
  | createFailed thread => thread
  | driverCreated thread _ => thread
  | created thread _ _ => thread
  | alreadyExists thread _ => thread
  | noMemory thread _ => thread
  | cancelled thread _ _ => thread
  | cancelIoctl thread _ _ => thread
  | detached thread _ _ => thread
  | submitIoctl thread _ _ _ => thread
  | configIoctl thread _ _ _ _ => thread
  | accepted thread _ _ _ => thread
  | refused thread _ => thread

def Allocates (ptr : JobPtr) : JobEvent τ → Prop
  | created _ _ block => block = ptr
  | _ => False

def Removes (ptr : JobPtr) : JobEvent τ → Prop
  | cancelled _ _ block => block = some ptr
  | detached _ _ block => block = ptr
  | _ => False

def Finds (handle : UInt32) (ptr : JobPtr) : JobEvent τ → Prop
  | cancelled _ given block => given = handle ∧ block = some ptr
  | detached _ given block => given = handle ∧ block = ptr
  | configIoctl _ given block _ _ => given = handle ∧ block = ptr
  | accepted _ given block _ => given = handle ∧ block = ptr
  | _ => False

def Reads (ptr : JobPtr) : JobEvent τ → Prop
  | submitIoctl _ block _ _ => block = ptr
  | configIoctl _ _ block _ _ => block = ptr
  | _ => False

end JobEvent

/-- The requests accepted for a handle since it was last created, in order. -/
def acceptedSince : List (JobEvent τ) → UInt32 → List τ
  | [], _ => []
  | .created _ given _ :: past, handle =>
      if given = handle then [] else acceptedSince past handle
  | .accepted _ given _ req :: past, handle =>
      if given = handle then acceptedSince past handle ++ [req] else acceptedSince past handle
  | _ :: past, handle => acceptedSince past handle

inductive RecordUse where
  | free
  | queued (handle : UInt32)
  | held (thread : Thread)
deriving DecidableEq, Repr

def recordUse : List (JobEvent τ) → JobPtr → RecordUse
  | [], _ => .free
  | .created _ handle block :: past, ptr =>
      if block = ptr then .queued handle else recordUse past ptr
  | .cancelled _ _ (some block) :: past, ptr =>
      if block = ptr then .free else recordUse past ptr
  | .detached thread _ block :: past, ptr =>
      if block = ptr then .held thread else recordUse past ptr
  | .submitIoctl _ block _ _ :: past, ptr =>
      if block = ptr then .free else recordUse past ptr
  | _ :: past, ptr => recordUse past ptr

example (past : List (JobEvent τ)) (thread : Thread) (handle : UInt32) (ptr : JobPtr) :
    recordUse (.created thread handle ptr :: past) ptr = .queued handle := by
  simp [recordUse]

example (past : List (JobEvent τ)) (thread : Thread) (handle : UInt32) (ptr : JobPtr) :
    acceptedSince (.created thread handle ptr :: past) handle = [] := by
  simp [acceptedSince]

structure Carries (job : ImRgaJob τ) (handle : UInt32) (tasks : List τ) : Prop where
  named : job.id = handle.toInt32
  counted : job.taskCount = tasks.length
  stored : (List.range tasks.length).map job.req = tasks

theorem carries_new [Inhabited τ] (handle : UInt32) :
    Carries { req := fun _ => (default : τ), id := handle.toInt32 } handle [] :=
  ⟨rfl, rfl, rfl⟩

theorem Carries.appendReq {job : ImRgaJob τ} {handle : UInt32} {tasks : List τ} (req : τ)
    (carries : Carries job handle tasks) :
    Carries (JobManager.appendReq job req) handle (tasks ++ [req]) := by
  have index : job.taskCount.toNat = tasks.length := by
    rw [carries.counted]
    omega
  refine ⟨carries.named, ?_, ?_⟩
  · simp [JobManager.appendReq, carries.counted]
  · have kept : (List.range tasks.length).map (JobManager.appendReq job req).req =
        (List.range tasks.length).map job.req := by
      refine List.map_congr_left fun position member => ?_
      have below : position < tasks.length := List.mem_range.mp member
      have older : position ≠ job.taskCount.toNat := by omega
      simp only [JobManager.appendReq, older, if_false]
    have last : (JobManager.appendReq job req).req tasks.length = req := by
      simp [JobManager.appendReq, index]
    rw [List.length_append, List.length_singleton, List.range_succ, List.map_append, kept,
      carries.stored, List.map_singleton, last]

theorem Carries.userRequest {manager : JobManager τ} {ptr : JobPtr} {handle : UInt32}
    {tasks : List τ} (carries : Carries (manager.records ptr) handle tasks) (command : Int32) :
    (manager.userRequest ptr command).id = handle ∧
      (manager.userRequest ptr command).tasks = tasks ∧
      (manager.userRequest ptr command).taskNum = tasks.length := by
  refine ⟨?_, ?_, carries.counted⟩
  · simp [JobManager.userRequest, carries.named]
  · have index : (manager.records ptr).taskCount.toNat = tasks.length := by
      rw [carries.counted]
      omega
    simp only [JobManager.userRequest, index]
    exact carries.stored

/-- A thread inside `rga_job_submit` holds the record of the job it has detached. -/
def Holds (trace : List (JobEvent τ)) (job : ImRgaJob τ) (thread : Thread) (ptr : JobPtr) :
    Prop :=
  ∃ since handle earlier, trace = since ++ .detached thread handle ptr :: earlier ∧
    (∀ event ∈ since, event.thread ≠ thread) ∧ Carries job handle (acceptedSince earlier handle)

theorem Holds.extend {trace : List (JobEvent τ)} {job : ImRgaJob τ} {thread : Thread}
    {ptr : JobPtr} {event : JobEvent τ} (holds : Holds trace job thread ptr)
    (other : event.thread ≠ thread) : Holds (event :: trace) job thread ptr := by
  obtain ⟨since, handle, earlier, split, quiet, carries⟩ := holds
  refine ⟨event :: since, handle, earlier, by simp [split], ?_, carries⟩
  intro seen member
  rcases List.mem_cons.mp member with same | old
  · exact same ▸ other
  · exact quiet seen old

structure Delivery (trace : List (JobEvent τ)) (state : JobState τ) : Prop where
  allocated : ∀ ptr, recordUse trace ptr ≠ .free → state.manager.allocated ptr = true
  queued : ∀ handle ptr, rgaMapFindJob state.manager.jobMap handle = some ptr →
    recordUse trace ptr = .queued handle ∧
      Carries (state.manager.records ptr) handle (acceptedSince trace handle)
  held : ∀ thread ptr command, state.pc thread = .submitting ptr command →
    recordUse trace ptr = .held thread ∧
      Holds trace (state.manager.records ptr) thread ptr

@[simp]
theorem setPc_pc (state : JobState τ) (thread other : Thread) (pc : JobPc) :
    (state.setPc thread pc).pc other = if other = thread then pc else state.pc other :=
  rfl

@[simp]
theorem setPc_manager (state : JobState τ) (thread : Thread) (pc : JobPc) :
    (state.setPc thread pc).manager = state.manager :=
  rfl

theorem transition_submitting [Inhabited τ] {kind : JobMapKind} {state after : JobState τ}
    {event : JobEvent τ} {thread : Thread} {ptr : JobPtr} {command : Int32}
    (taken : JobState.Transition kind state event after)
    (holding : after.pc thread = .submitting ptr command) :
    (∃ handle, event = .detached thread handle ptr) ∨
      event.thread ≠ thread ∧ state.pc thread = .submitting ptr command := by
  cases taken with
  | detached acting handle block command idle found =>
      by_cases same : thread = acting
      · simp only [setPc_pc, same, if_true, JobPc.submitting.injEq] at holding
        exact Or.inl ⟨handle, by rw [same, holding.1]⟩
      · simp only [setPc_pc, same, if_false] at holding
        exact Or.inr ⟨Ne.symm same, holding⟩
  | createFailed acting idle | configIoctl acting _ _ _ _ idle | accepted acting _ _ _ idle
  | refused acting _ idle =>
      refine Or.inr ⟨?_, holding⟩
      rintro rfl
      simp_all [JobEvent.thread]
  | driverCreated acting | alreadyExists acting | noMemory acting | created acting
  | cancelMissing acting | cancelled acting | cancelIoctl acting | submitIoctl acting =>
      by_cases same : thread = acting
      · simp [same] at holding
      · simp only [setPc_pc, same, if_false] at holding
        exact Or.inr ⟨Ne.symm same, holding⟩

namespace Delivery

variable {past : List (JobEvent τ)} {state : JobState τ}

theorem block_ne (delivery : Delivery past state) {handle : UInt32} {ptr block : JobPtr}
    (found : rgaMapFindJob state.manager.jobMap handle = some block)
    (other : recordUse past ptr ≠ .queued handle) : block ≠ ptr := by
  rintro rfl
  exact other (delivery.queued handle block found).1

theorem quiet [Inhabited τ] {kind : JobMapKind} {after : JobState τ} {event : JobEvent τ}
    (delivery : Delivery past state) (taken : JobState.Transition kind state event after)
    (manager : after.manager = state.manager)
    (uses : ∀ ptr, recordUse (event :: past) ptr = recordUse past ptr)
    (tasks : ∀ handle, acceptedSince (event :: past) handle = acceptedSince past handle)
    (keeps : ∀ thread handle ptr, event ≠ .detached thread handle ptr) :
    Delivery (event :: past) after := by
  refine ⟨?_, ?_, ?_⟩
  · intro ptr used
    rw [uses] at used
    rw [manager]
    exact delivery.allocated ptr used
  · intro handle ptr found
    rw [manager] at found ⊢
    rw [uses, tasks]
    exact delivery.queued handle ptr found
  · intro thread ptr command holding
    rcases transition_submitting taken holding with ⟨handle, detached⟩ | ⟨other, before⟩
    · exact absurd detached (keeps thread handle ptr)
    · have held := delivery.held thread ptr command before
      rw [uses, manager]
      exact ⟨held.1, held.2.extend other⟩

theorem unused_free (delivery : Delivery past state) {ptr : JobPtr}
    (unused : state.manager.allocated ptr = false) : recordUse past ptr = .free := by
  by_contra used
  simp [delivery.allocated ptr used] at unused

theorem created [Inhabited τ] (kind : JobMapKind) {thread : Thread} {handle : UInt32}
    {ptr : JobPtr} (delivery : Delivery past state) (consistent : state.manager.Consistent)
    (waiting : state.pc thread = .created handle)
    (fresh : rgaMapFindJob state.manager.jobMap handle = none)
    (unused : state.manager.allocated ptr = false) :
    Delivery (.created thread handle ptr :: past)
      ({ state with manager := state.manager.insertJob kind handle ptr }.setPc thread .idle) := by
  have free := delivery.unused_free unused
  have taken : JobState.Transition kind state _ _ :=
    .created thread handle ptr waiting fresh unused
  refine ⟨?_, ?_, ?_⟩
  · intro block used
    by_cases same : ptr = block
    · simp [JobManager.insertJob, JobManager.setRecord, JobManager.setAllocated, same]
    · simp only [recordUse, same, if_false] at used
      simpa [JobManager.insertJob, JobManager.setRecord, JobManager.setAllocated, Ne.symm same]
        using delivery.allocated block used
  · intro other block found
    simp only [setPc_manager, JobManager.insertJob, JobManager.setRecord,
      JobManager.setAllocated, rgaMapFindJob_insert kind ptr consistent.distinct fresh] at found
    split at found
    · rename_i same
      cases found
      subst other
      simp [recordUse, acceptedSince, JobManager.insertJob, JobManager.setRecord, carries_new]
    · rename_i different
      have apart : block ≠ ptr := delivery.block_ne found (by simp [free])
      have queued := delivery.queued other block found
      simp only [recordUse, Ne.symm apart, Ne.symm different, if_false, acceptedSince,
        setPc_manager, JobManager.insertJob, JobManager.setRecord, apart]
      exact queued
  · intro other block command holding
    rcases transition_submitting taken holding with ⟨_, impossible⟩ | ⟨quiet, before⟩
    · contradiction
    · have held := delivery.held other block command before
      have apart : block ≠ ptr := by
        rintro rfl
        simp [free] at held
      simp only [recordUse, Ne.symm apart, if_false, setPc_manager, JobManager.insertJob,
        JobManager.setRecord, apart]
      exact ⟨held.1, held.2.extend quiet⟩

theorem queued_after_remove (delivery : Delivery past state)
    (consistent : state.manager.Consistent) {handle other : UInt32} {ptr block : JobPtr}
    (found : rgaMapFindJob state.manager.jobMap handle = some ptr)
    (remains : rgaMapFindJob (state.manager.removeJob handle).jobMap other = some block) :
    block ≠ ptr ∧ recordUse past block = .queued other ∧
      Carries (state.manager.records block) other (acceptedSince past other) := by
  simp only [JobManager.removeJob, rgaMapFindJob_delete consistent.distinct] at remains
  split at remains
  · contradiction
  · rename_i different
    refine ⟨?_, delivery.queued other block remains⟩
    rintro rfl
    have first := (delivery.queued handle block found).1
    have second := (delivery.queued other block remains).1
    rw [first] at second
    exact different (RecordUse.queued.inj second).symm

theorem held_ne_queued (delivery : Delivery past state) {thread : Thread} {handle : UInt32}
    {ptr block : JobPtr} {command : Int32}
    (found : rgaMapFindJob state.manager.jobMap handle = some ptr)
    (holding : state.pc thread = .submitting block command) : block ≠ ptr := by
  rintro rfl
  have first := (delivery.queued handle block found).1
  have second := (delivery.held thread block command holding).1
  simp [first] at second

theorem cancelled [Inhabited τ] (kind : JobMapKind) {thread : Thread} {handle : UInt32}
    {ptr : JobPtr} (delivery : Delivery past state) (consistent : state.manager.Consistent)
    (waiting : state.pc thread = .idle ∨ state.pc thread = .mustCancel handle)
    (found : rgaMapFindJob state.manager.jobMap handle = some ptr) :
    Delivery (.cancelled thread handle (some ptr) :: past)
      ({ state with
          manager := (state.manager.removeJob handle).setAllocated ptr false }.setPc
        thread (.cancelling handle)) := by
  have taken : JobState.Transition kind state _ _ :=
    .cancelled thread handle ptr waiting found
  refine ⟨?_, ?_, ?_⟩
  · intro block used
    by_cases same : ptr = block
    · simp [recordUse, same] at used
    · simp only [recordUse, same, if_false] at used
      simpa [JobManager.removeJob, JobManager.setAllocated, Ne.symm same]
        using delivery.allocated block used
  · intro other block remains
    have queued := delivery.queued_after_remove consistent found remains
    simp only [recordUse, Ne.symm queued.1, if_false, acceptedSince]
    exact queued.2
  · intro other block command holding
    rcases transition_submitting taken holding with ⟨_, impossible⟩ | ⟨quiet, before⟩
    · contradiction
    · have held := delivery.held other block command before
      have apart := delivery.held_ne_queued found before
      simp only [recordUse, Ne.symm apart, if_false]
      exact ⟨held.1, held.2.extend quiet⟩

theorem detached [Inhabited τ] (kind : JobMapKind) {thread : Thread} {handle : UInt32}
    {ptr : JobPtr} (command : Int32) (delivery : Delivery past state)
    (consistent : state.manager.Consistent) (idle : state.pc thread = .idle)
    (found : rgaMapFindJob state.manager.jobMap handle = some ptr) :
    Delivery (.detached thread handle ptr :: past)
      ({ state with manager := state.manager.removeJob handle }.setPc thread
        (.submitting ptr command)) := by
  have taken : JobState.Transition kind state _ _ :=
    .detached thread handle ptr command idle found
  have mine := delivery.queued handle ptr found
  refine ⟨?_, ?_, ?_⟩
  · intro block used
    by_cases same : ptr = block
    · subst block
      exact delivery.allocated ptr (by simp [mine.1])
    · simp only [recordUse, same, if_false] at used
      exact delivery.allocated block used
  · intro other block remains
    have queued := delivery.queued_after_remove consistent found remains
    simp only [recordUse, Ne.symm queued.1, if_false, acceptedSince]
    exact queued.2
  · intro other block given holding
    rcases transition_submitting taken holding with ⟨_, now⟩ | ⟨quiet, before⟩
    · cases now
      refine ⟨by simp [recordUse], [], handle, past, rfl, by simp, mine.2⟩
    · have held := delivery.held other block given before
      have apart := delivery.held_ne_queued found before
      simp only [recordUse, Ne.symm apart, if_false]
      exact ⟨held.1, held.2.extend quiet⟩

theorem submitted [Inhabited τ] (kind : JobMapKind) {thread : Thread} {ptr : JobPtr}
    {command : Int32} (succeeds : Bool) (delivery : Delivery past state)
    (waiting : state.pc thread = .submitting ptr command) :
    Delivery
      (.submitIoctl thread ptr (state.manager.userRequest ptr command) succeeds :: past)
      ({ state with manager := state.manager.setAllocated ptr false }.setPc thread .idle) := by
  have taken : JobState.Transition kind state _ _ :=
    .submitIoctl thread ptr command succeeds waiting
  have mine := (delivery.held thread ptr command waiting).1
  refine ⟨?_, ?_, ?_⟩
  · intro block used
    by_cases same : ptr = block
    · simp [recordUse, same] at used
    · simp only [recordUse, same, if_false] at used
      simpa [JobManager.setAllocated, Ne.symm same] using delivery.allocated block used
  · intro other block found
    have apart : block ≠ ptr := delivery.block_ne found (by simp [mine])
    simp only [recordUse, Ne.symm apart, if_false, acceptedSince]
    exact delivery.queued other block found
  · intro other block given holding
    rcases transition_submitting taken holding with ⟨_, impossible⟩ | ⟨quiet, before⟩
    · contradiction
    · have held := delivery.held other block given before
      have apart : block ≠ ptr := by
        rintro rfl
        rw [mine] at held
        exact quiet (RecordUse.held.inj held.1)
      simp only [recordUse, Ne.symm apart, if_false]
      exact ⟨held.1, held.2.extend quiet⟩

theorem accepted [Inhabited τ] (kind : JobMapKind) {thread : Thread} {handle : UInt32}
    {ptr : JobPtr} (req : τ) (delivery : Delivery past state) (idle : state.pc thread = .idle)
    (found : rgaMapFindJob state.manager.jobMap handle = some ptr)
    (room : (state.manager.records ptr).taskCount < rgaTaskNumMax.toInt) :
    Delivery (.accepted thread handle ptr req :: past)
      { state with
        manager := state.manager.setRecord ptr
          (JobManager.appendReq (state.manager.records ptr) req) } := by
  have taken : JobState.Transition kind state _ _ :=
    .accepted thread handle ptr req idle found room
  have mine := delivery.queued handle ptr found
  refine ⟨delivery.allocated, ?_, ?_⟩
  · intro other block present
    have queued := delivery.queued other block present
    refine ⟨queued.1, ?_⟩
    by_cases same : handle = other
    · subst other
      have block_eq : block = ptr := Option.some.inj (present.symm.trans found)
      simp only [acceptedSince, if_true, JobManager.setRecord, block_eq]
      exact mine.2.appendReq req
    · have apart : block ≠ ptr := by
        refine delivery.block_ne present ?_
        rw [mine.1]
        exact fun equal => same (RecordUse.queued.inj equal)
      simp only [acceptedSince, same, if_false, JobManager.setRecord, apart]
      exact queued.2
  · intro other block command holding
    rcases transition_submitting taken holding with ⟨_, impossible⟩ | ⟨quiet, before⟩
    · contradiction
    · have held := delivery.held other block command before
      have apart := delivery.held_ne_queued found before
      simp only [JobManager.setRecord, apart, if_false]
      exact ⟨held.1, held.2.extend quiet⟩

end Delivery

theorem transition_delivery [Inhabited τ] {kind : JobMapKind} {past : List (JobEvent τ)}
    {state after : JobState τ} {event : JobEvent τ} (delivery : Delivery past state)
    (consistent : state.manager.Consistent)
    (taken : JobState.Transition kind state event after) : Delivery (event :: past) after := by
  have step := taken
  cases taken with
  | created thread handle ptr waiting fresh unused =>
      exact delivery.created kind consistent waiting fresh unused
  | cancelled thread handle ptr waiting found =>
      exact delivery.cancelled kind consistent waiting found
  | detached thread handle ptr command idle found =>
      exact delivery.detached kind command consistent idle found
  | submitIoctl thread ptr command succeeds waiting =>
      exact delivery.submitted kind succeeds waiting
  | accepted thread handle ptr req idle found room =>
      exact delivery.accepted kind req idle found room
  | _ => exact delivery.quiet step rfl (fun _ => rfl) (fun _ => rfl) (by simp)

theorem run_delivery [Inhabited τ] {kind : JobMapKind} {records : JobPtr → ImRgaJob τ}
    {trace : List (JobEvent τ)} {state : JobState τ}
    (run : Machine.Run (JobState.step kind) (initialJobState records) trace state) :
    Delivery trace state := by
  refine run.invariant (P := Delivery) ?_ ?_
  · refine ⟨?_, ?_, ?_⟩ <;> simp [initialJobState, recordUse, rgaMapFindJob]
  · intro past state op after event before delivery taken
    exact transition_delivery delivery (run_consistent before) (JobState.step_transition taken)

theorem recordUse_after_removal {since earlier : List (JobEvent τ)} {removal : JobEvent τ}
    {ptr : JobPtr} (removes : removal.Removes ptr)
    (kept : ∀ event ∈ since, ¬ event.Allocates ptr) (handle : UInt32) :
    recordUse (since ++ removal :: earlier) ptr ≠ .queued handle := by
  induction since with
  | nil =>
      cases removal with
      | cancelled thread given block =>
          simp only [JobEvent.Removes] at removes
          simp [recordUse, removes]
      | detached thread given block =>
          simp only [JobEvent.Removes] at removes
          simp [recordUse, removes]
      | _ => exact absurd removes (by simp [JobEvent.Removes])
  | cons event since ih =>
      have later := ih fun seen member => kept seen (List.mem_cons_of_mem event member)
      have first := kept event List.mem_cons_self
      rw [List.cons_append]
      cases event with
      | created thread given block =>
          simp only [JobEvent.Allocates] at first
          simpa [recordUse, first] using later
      | cancelled thread given block =>
          cases block with
          | none => exact later
          | some block =>
              simp only [recordUse]
              split
              · simp
              · exact later
      | detached thread given block =>
          simp only [recordUse]
          split
          · simp
          · exact later
      | submitIoctl thread block request succeeds =>
          simp only [recordUse]
          split
          · simp
          · exact later
      | _ => exact later

theorem transition_finds [Inhabited τ] {kind : JobMapKind} {state after : JobState τ}
    {event : JobEvent τ} (taken : JobState.Transition kind state event after)
    {handle : UInt32} {ptr : JobPtr} (finds : event.Finds handle ptr) :
    rgaMapFindJob state.manager.jobMap handle = some ptr := by
  cases taken with
  | cancelled _ _ _ _ found | detached _ _ _ _ _ found | configIoctl _ _ _ _ _ _ found
  | accepted _ _ _ _ _ found => simp_all [JobEvent.Finds]
  | _ => simp [JobEvent.Finds] at finds

theorem transition_records [Inhabited τ] {kind : JobMapKind} {state after : JobState τ}
    {event : JobEvent τ} (taken : JobState.Transition kind state event after) {ptr : JobPtr}
    (placed : ¬ event.Allocates ptr) (unfound : ∀ handle, ¬ event.Finds handle ptr) :
    after.manager.records ptr = state.manager.records ptr := by
  cases taken with
  | created thread handle block =>
      have apart : ptr ≠ block := fun same => placed same.symm
      simp [JobManager.insertJob, JobManager.setRecord, apart, JobManager.setAllocated]
  | accepted thread handle block req =>
      have apart : ptr ≠ block := fun same => unfound handle ⟨rfl, same.symm⟩
      simp [JobManager.setRecord, apart]
  | _ => rfl

theorem transition_reads_allocated [Inhabited τ] {kind : JobMapKind}
    {past : List (JobEvent τ)} {state after : JobState τ} {event : JobEvent τ}
    (delivery : Delivery past state) (taken : JobState.Transition kind state event after)
    {ptr : JobPtr} (reads : event.Reads ptr) : state.manager.allocated ptr = true := by
  cases taken with
  | submitIoctl thread block command succeeds waiting =>
      cases reads
      exact delivery.allocated ptr (by simp [(delivery.held _ _ _ waiting).1])
  | configIoctl thread handle block command succeeds idle found =>
      cases reads
      exact delivery.allocated ptr (by simp [(delivery.queued _ _ found).1])
  | _ => simp [JobEvent.Reads] at reads

theorem jobRequests_delivered [Inhabited τ] (kind : JobMapKind) (records : JobPtr → ImRgaJob τ)
    {past : List (JobEvent τ)} {state after : JobState τ} {op : JobOp τ} {event : JobEvent τ}
    (run : Machine.Run (JobState.step kind) (initialJobState records) past state)
    (taken : JobState.step kind state op = some (after, event)) :
    (∀ thread handle ptr request succeeds,
      event = .configIoctl thread handle ptr request succeeds →
        request.id = handle ∧ request.tasks = acceptedSince past handle ∧
          request.taskNum = (acceptedSince past handle).length) ∧
    (∀ thread ptr request succeeds, event = .submitIoctl thread ptr request succeeds →
      ∃ since handle earlier, past = since ++ .detached thread handle ptr :: earlier ∧
        (∀ seen ∈ since, seen.thread ≠ thread) ∧
        request.id = handle ∧ request.tasks = acceptedSince earlier handle ∧
          request.taskNum = (acceptedSince earlier handle).length) ∧
    (∀ ptr, event.Reads ptr → state.manager.allocated ptr = true) ∧
    (∀ since removal earlier ptr, past = since ++ removal :: earlier → removal.Removes ptr →
      (∀ seen ∈ since, ¬ seen.Allocates ptr) →
        (∀ handle, ¬ event.Finds handle ptr) ∧
          (¬ event.Allocates ptr →
            after.manager.records ptr = state.manager.records ptr)) := by
  have delivery := run_delivery run
  have transition := JobState.step_transition taken
  refine ⟨?_, ?_, ?_, ?_⟩
  · rintro thread handle ptr request succeeds rfl
    cases transition with
    | configIoctl _ _ _ command _ idle found =>
        exact (delivery.queued handle ptr found).2.userRequest command
  · rintro thread ptr request succeeds rfl
    cases transition with
    | submitIoctl _ _ command _ waiting =>
        obtain ⟨since, handle, earlier, split, quiet, carries⟩ :=
          (delivery.held thread ptr command waiting).2
        exact ⟨since, handle, earlier, split, quiet, carries.userRequest command⟩
  · intro ptr reads
    exact transition_reads_allocated delivery transition reads
  · rintro since removal earlier ptr rfl removes kept
    have unfound : ∀ handle, ¬ event.Finds handle ptr := by
      intro handle finds
      exact recordUse_after_removal removes kept handle
        (delivery.queued handle ptr (transition_finds transition finds)).1
    exact ⟨unfound, fun placed => transition_records transition placed unfound⟩

/-- Handle 7 is submitted, and is in use again before the ioctl is made. -/
def reusedHandleOps : List (JobOp Nat) :=
  [.createIoctl 0 (some 7), .createLock 0 (some 0x1000), .taskLock 1 7 41, .taskLock 0 7 42,
    .submitLock 0 7 imSync, .createIoctl 1 (some 7), .createLock 1 (some 0x2000),
    .taskLock 1 7 43]

theorem jobRequests_delivered_reused :
    ∃ past state after request,
      Machine.Run (JobState.step .linkedList)
        (initialJobState fun _ => { req := fun _ => (0 : Nat), id := 0 }) past state ∧
      JobState.step .linkedList state (.submitIoctl 0 true) =
        some (after, .submitIoctl 0 0x1000 request true) ∧
      request.tasks = [41, 42] ∧ acceptedSince past 7 = [43] ∧
      ∃ since handle earlier, past = since ++ .detached 0 handle 0x1000 :: earlier ∧
        (∀ seen ∈ since, seen.thread ≠ 0) ∧
        request.id = handle ∧ request.tasks = acceptedSince earlier handle ∧
          request.taskNum = (acceptedSince earlier handle).length := by
  have performed : ∃ past state, Machine.exec (JobState.step .linkedList) reusedHandleOps
      ([], initialJobState fun _ => { req := fun _ => (0 : Nat), id := 0 }) =
        some (past, state) ∧
      ∃ after request, JobState.step .linkedList state (.submitIoctl 0 true) =
          some (after, .submitIoctl 0 0x1000 request true) ∧
        request.tasks = [41, 42] ∧ acceptedSince past 7 = [43] :=
    ⟨_, _, rfl, _, _, rfl, rfl, rfl⟩
  obtain ⟨past, state, performed, after, request, taken, tasks, reused⟩ := performed
  have run := Machine.Run.of_exec _ _ _ performed
  exact ⟨past, state, after, request, run, taken, tasks, reused,
    (jobRequests_delivered .linkedList _ run taken).2.1 0 0x1000 request true rfl⟩

end LibRga

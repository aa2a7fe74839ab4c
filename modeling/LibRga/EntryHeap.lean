import LibRga.JobRefinement

/-!
The heap under the entry points, whatever the threads are doing.
-/

namespace LibRga.Entry

open Interaction

/-- What is freed is live, and what the driver copies is in a live block, as it is sent. -/
def HeapSound : ProcessEvent → Prop
  | .exchanged _ before ⟨.free ptr, _⟩ _ => before.heap ptr = true
  | .exchanged _ before ⟨.unlockJobs manager, _⟩ _ =>
      ∀ ptr, before.jobs.allocated ptr = true → manager.allocated ptr = false →
        before.heap ptr = true
  | .exchanged _ before ⟨.requestSubmit request _, _⟩ _
  | .exchanged _ before ⟨.requestConfig request _, _⟩ _ =>
      ∃ ptr, before.heap ptr = true ∧ before.jobs.userRequest ptr request.syncMode = request
  | _ => True

section Moves

variable {kind : JobMapKind} {records : JobPtr → ImRgaJob RgaReq} {past : List (JobEvent RgaReq)}
  {state after : ProcessState} {phases : Phases} {jobs : JobState RgaReq} {thread : Thread}
  {phase later : Phase} {holder : Option Thread} {request : SysCall}
  {proposed answer : SysCall.Reply request}

theorem Refines.mapped_live
    (run : Machine.Run (JobState.step kind) (initialJobState records) past jobs)
    (refines : Refines state phases jobs) {handle : UInt32} {ptr : JobPtr}
    (found : rgaMapFindJob state.jobs.jobMap handle = some ptr) : state.heap ptr = true := by
  have delivery := run_delivery run
  rw [← refines.alike.jobMap] at found
  exact refines.heap.records ptr
    (delivery.allocated ptr (by simp [(delivery.queued handle ptr found).1]))

theorem jobMove_heapSound {before coming : JobPhase} {coe : Option UInt64} {acquired : Bool}
    (run : Machine.Run (JobState.step kind) (initialJobState records) past jobs)
    (refines : Refines state phases jobs) (guarded : MutexHeld state phases holder)
    (now : phases thread = some ⟨before, .out, coe, acquired⟩)
    (moved : JobMove kind before ⟨request, answer⟩ coming) :
    HeapSound (.exchanged thread state ⟨request, answer⟩ after) := by
  cases moved with
  | freed ptr =>
      have mine : ptr ∈ Phase.blocks ⟨.submitted ptr, .out, coe, acquired⟩ := by
        simp [Phase.blocks, JobPhase.blocks]
      exact (refines.heap.blocks thread _ ptr now mine).1
  | cancelled pc handle manager ptr begins found =>
      obtain ⟨_, _, rfl⟩ := guarded.holds now rfl
      intro other before freed
      by_cases same : other = ptr
      · rw [same]
        exact refines.mapped_live run found
      · simp only [JobManager.setAllocated, JobManager.removeJob, same, if_false] at freed
        rw [before] at freed
        cases freed
  | submitted ptr command sent acquireFenceFd reply =>
      obtain ⟨named, next, mirrored⟩ := refines.mirrored
      have delivery := run_delivery run
      have holding : jobs.pc (named thread) = .submitting ptr command := mirrored.pc thread _ now
      have captured := mirrored.captured thread _ ptr command sent now rfl
      refine ⟨ptr, ?_, ?_⟩
      · exact refines.heap.records ptr
          (delivery.allocated ptr (by simp [(delivery.held _ ptr command holding).1]))
      · rw [← captured, ← refines.alike.userRequest]
        rfl
  | configIoctl handle manager ptr syncMode command acquireFenceFd reply accepted found =>
      obtain ⟨_, _, rfl⟩ := guarded.holds now rfl
      exact ⟨ptr, refines.mapped_live run found, rfl⟩
  | refused handle manager | cancelMissing pc handle manager | unchanged manager =>
      obtain ⟨_, _, rfl⟩ := guarded.holds now rfl
      intro ptr before freed
      rw [before] at freed
      cases freed
  | created handle manager ptr fresh =>
      obtain ⟨_, _, rfl⟩ := guarded.holds now rfl
      intro other before freed
      simp only [JobManager.insertJob, JobManager.setRecord, JobManager.setAllocated] at freed
      split at freed
      · cases freed
      · rw [before] at freed
        cases freed
  | detached handle manager ptr syncMode command accepted found =>
      obtain ⟨_, _, rfl⟩ := guarded.holds now rfl
      intro other before freed
      have kept : state.jobs.allocated other = false := freed
      rw [before] at kept
      cases kept
  | accepted handle manager req ptr inserted nonzero appended =>
      obtain ⟨_, _, rfl⟩ := guarded.holds now rfl
      obtain ⟨_, _, rfl⟩ := JobManager.appendTask_eq_appended.mp appended
      intro other before freed
      have kept : state.jobs.allocated other = false := freed
      rw [before] at kept
      cases kept
  | _ => trivial

theorem move_heapSound
    (run : Machine.Run (JobState.step kind) (initialJobState records) past jobs)
    (refines : Refines state phases jobs) (guarded : MutexHeld state phases holder)
    (now : phases thread = some phase) (moved : Move kind phase ⟨request, answer⟩ later) :
    HeapSound (.exchanged thread state ⟨request, answer⟩ after) := by
  cases moved with
  | job before coming coe acquired _ moved =>
      exact jobMove_heapSound run refines guarded now moved
  | session pc before coming coe acquired opened _ moved => cases moved <;> trivial
  | released ptr acquired =>
      exact (refines.heap.blocks thread _ ptr now (by simp [Phase.blocks])).1
  | plain pc coe acquired _ _ _ =>
      cases request <;> trivial
  | _ => trivial

end Moves

/-- No call frees a block that is not live or reads one for the driver, and the records of the jobs
that are waiting are live. -/
theorem process_heap (kind : JobMapKind) (records : JobPtr → ImRgaJob RgaReq)
    {trace : List ProcessEvent} {state : Process}
    (run : Machine.Run (Process.step kind) (Process.start records) trace state) :
    (∀ event ∈ trace, HeapSound event) ∧
      ∀ handle ptr, rgaMapFindJob state.shared.jobs.jobMap handle = some ptr →
        state.shared.heap ptr = true := by
  have refined := jobsRefined_kept kind records
  have kept := refined.events (fun _ _ => trivial) (fun past state phases thread phase later request
      proposed answer after holds now served moved => by
    obtain ⟨held, trace, jobs, done, _, refines⟩ := holds
    obtain ⟨holder, guarded⟩ := held.mutex
    exact move_heapSound done refines guarded now moved) fun _ _ _ => trivial
  obtain ⟨phases, _, ⟨_, past, jobs, done, _, refines⟩, sound⟩ := kept.run entryPoint_follows
    ⟨⟨locksHeld_start records, jobsRefined_start kind records⟩, List.forall_mem_nil _⟩
    (fun _ => rfl) run
  exact ⟨sound, fun _ _ => refines.mapped_live done⟩

theorem process_heap_sample :
    ∃ trace state, Machine.Run (Process.step .stdMap)
        (Process.start fun _ => { req := fun _ => default, id := 0 }) trace state ∧
      state.shared.heap 0x1000 = true ∧ ∀ event ∈ trace, HeapSound event := by
  have run := Machine.Run.of_exec (Process.step .stdMap)
    (Process.start fun _ => { req := fun _ => default, id := 0 }) sampleProcessOps rfl
  exact ⟨_, _, run, rfl, (process_heap .stdMap _ run).1⟩

end LibRga.Entry

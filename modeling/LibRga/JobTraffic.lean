import LibRga.JobRefinement

/-!
How often a job goes to the driver: not more often than the driver has made it,
however many threads submit it.
-/

namespace LibRga

open Entry

namespace Entry.JobIo

variable {τ : Type}

/-- `RGA_IOC_REQUEST_CREATE` has given this handle. -/
def creates (handle : UInt32) : JobIo τ → Bool
  | create (some given) => given = handle
  | _ => false

def submits (handle : UInt32) : JobIo τ → Bool
  | submit request _ => request.id = handle
  | _ => false

end Entry.JobIo

namespace JobEvent

variable {τ : Type}

def gives (handle : UInt32) : JobEvent τ → Bool
  | driverCreated _ given => given = handle
  | _ => false

def inserts (handle : UInt32) : JobEvent τ → Bool
  | created _ given _ => given = handle
  | _ => false

def detaches (handle : UInt32) : JobEvent τ → Bool
  | detached _ given _ => given = handle
  | _ => false

def sends (handle : UInt32) : JobEvent τ → Bool
  | submitIoctl _ _ request _ => request.id = handle
  | _ => false

theorem io_creates (event : JobEvent τ) (handle : UInt32) :
    event.io.countP (JobIo.creates handle) = if event.gives handle then 1 else 0 := by
  cases event <;> simp [io, JobIo.creates, gives, List.countP_cons]

theorem io_submits (event : JobEvent τ) (handle : UInt32) :
    event.io.countP (JobIo.submits handle) = if event.sends handle then 1 else 0 := by
  cases event <;> simp [io, JobIo.submits, sends, List.countP_cons]

end JobEvent

theorem countP_flatMap_io {τ : Type} {p : JobIo τ → Bool} {q : JobEvent τ → Bool}
    (each : ∀ event, (JobEvent.io event).countP p = if q event then 1 else 0)
    (trace : List (JobEvent τ)) : (trace.flatMap JobEvent.io).countP p = trace.countP q := by
  induction trace with
  | nil => rfl
  | cons event rest ih =>
      rw [List.flatMap_cons, List.countP_append, ih, each, List.countP_cons]
      omega

section Runs

variable {τ : Type} [Inhabited τ] {kind : JobMapKind} {records : JobPtr → ImRgaJob τ}
  {trace past : List (JobEvent τ)} {state after : JobState τ} {event : JobEvent τ}

/-- The record that the thread has detached is the one of this job. -/
def Holding (state : JobState τ) (handle : UInt32) (thread : Thread) : Prop :=
  ∃ ptr command, state.pc thread = .submitting ptr command ∧
    (state.manager.records ptr).id.toUInt32 = handle

theorem transition_inserts (taken : JobState.Transition kind state event after) {handle : UInt32} :
    (event.inserts handle = true → state.pc event.thread = .created handle ∧
      after.pc event.thread ≠ .created handle) ∧
    (after.pc event.thread = .created handle →
      state.pc event.thread = .created handle ∨ event.gives handle = true) := by
  cases taken <;> simp_all [JobEvent.inserts, JobEvent.gives, JobEvent.thread]

/-- Jobs that are put into the map come from the driver. -/
theorem inserts_le_gives (handle : UInt32)
    (run : Machine.Run (JobState.step kind) (initialJobState records) trace state) :
    trace.countP (JobEvent.inserts handle) ≤ trace.countP (JobEvent.gives handle) := by
  have in_flight := run.in_flight (JobEvent.gives handle) (JobEvent.inserts handle) JobEvent.thread
    fun state thread => state.pc thread = .created handle
  obtain ⟨threads, _, _, count⟩ := in_flight (by simp [initialJobState])
    (fun past state op after event _ taken thread other => by
      rw [transition_pc (JobState.step_transition taken) other.symm])
    (fun past state op after event _ taken =>
      (transition_inserts (JobState.step_transition taken)).1)
    (fun past state op after event _ taken =>
      (transition_inserts (JobState.step_transition taken)).2)
  omega

def listed (state : JobState τ) (handle : UInt32) : Nat :=
  if (rgaMapFindJob state.manager.jobMap handle).isSome then 1 else 0

theorem transition_listed (distinct : state.manager.jobMap.NodupKeys)
    (taken : JobState.Transition kind state event after) (handle : UInt32) :
    (if event.detaches handle then 1 else 0) + listed after handle ≤
      listed state handle + if event.inserts handle then 1 else 0 := by
  unfold listed
  cases taken with
  | created thread given ptr waiting fresh unused =>
      simp only [setPc_manager, JobManager.insertJob, JobManager.setRecord, JobManager.setAllocated,
        rgaMapFindJob_insert kind ptr distinct fresh, JobEvent.inserts, JobEvent.detaches]
      by_cases same : handle = given
      · simp [same]
      · simp [same, Ne.symm same]
  | cancelled thread given ptr waiting found =>
      simp only [setPc_manager, JobManager.removeJob, JobManager.setAllocated,
        rgaMapFindJob_delete distinct, JobEvent.inserts, JobEvent.detaches]
      by_cases same : handle = given <;> simp [same]
  | detached thread given ptr command idle found =>
      simp only [setPc_manager, JobManager.removeJob, rgaMapFindJob_delete distinct,
        JobEvent.inserts, JobEvent.detaches]
      by_cases same : handle = given
      · simp [same, found]
      · simp [same, Ne.symm same]
  | _ => exact le_of_eq (Nat.zero_add _)

/-- A job is detached while it is in the map, and that takes it out. -/
theorem detaches_le_inserts (handle : UInt32)
    (run : Machine.Run (JobState.step kind) (initialJobState records) trace state) :
    trace.countP (JobEvent.detaches handle) + listed state handle ≤
      trace.countP (JobEvent.inserts handle) := by
  refine run.invariant (P := fun trace state => trace.countP (JobEvent.detaches handle) +
    listed state handle ≤ trace.countP (JobEvent.inserts handle)) ?_ ?_
  · simp [initialJobState, rgaMapFindJob, listed]
  · intro past state op after event before count taken
    have step := transition_listed (run_consistent before).distinct
      (JobState.step_transition taken) handle
    rw [List.countP_cons, List.countP_cons]
    omega

theorem holding_other (delivery : Delivery past state)
    (taken : JobState.Transition kind state event after) (handle : UInt32) {thread : Thread}
    (other : event.thread ≠ thread) :
    Holding after handle thread ↔ Holding state handle thread := by
  unfold Holding
  rw [transition_pc taken other]
  constructor
  · rintro ⟨ptr, command, holding, named⟩
    rw [transition_held_records delivery taken holding] at named
    exact ⟨ptr, command, holding, named⟩
  · rintro ⟨ptr, command, holding, named⟩
    rw [← transition_held_records delivery taken holding] at named
    exact ⟨ptr, command, holding, named⟩

theorem transition_sends (taken : JobState.Transition kind state event after) (handle : UInt32)
    (sends : event.sends handle = true) :
    Holding state handle event.thread ∧ ¬Holding after handle event.thread := by
  cases taken with
  | submitIoctl thread ptr command succeeds waiting =>
      refine ⟨⟨ptr, command, waiting, of_decide_eq_true sends⟩, ?_⟩
      rintro ⟨block, later, holding, _⟩
      simp [JobEvent.thread] at holding
  | _ => cases sends

theorem transition_detaches (delivery : Delivery past state)
    (taken : JobState.Transition kind state event after) (handle : UInt32)
    (holds : Holding after handle event.thread) :
    Holding state handle event.thread ∨ event.detaches handle = true := by
  obtain ⟨block, command, holding, named⟩ := holds
  obtain ⟨given, detached⟩ :=
    (transition_submitting taken holding).resolve_right fun other => other.1 rfl
  cases taken with
  | detached thread given ptr command idle found =>
      cases detached
      have carries := (delivery.queued given block found).2
      have id : (state.manager.records block).id.toUInt32 = given := by
        rw [carries.named, UInt32.toUInt32_toInt32]
      exact .inr (decide_eq_true (id.symm.trans named))
  | _ => cases detached

theorem sends_le_detaches (handle : UInt32)
    (run : Machine.Run (JobState.step kind) (initialJobState records) trace state) :
    trace.countP (JobEvent.sends handle) ≤ trace.countP (JobEvent.detaches handle) := by
  have in_flight := run.in_flight (JobEvent.detaches handle) (JobEvent.sends handle) JobEvent.thread
    fun state thread => Holding state handle thread
  obtain ⟨threads, _, _, count⟩ := in_flight (by simp [initialJobState, Holding])
    (fun past state op after event before taken thread other =>
      holding_other (run_delivery before) (JobState.step_transition taken) handle other.symm)
    (fun past state op after event _ taken =>
      transition_sends (JobState.step_transition taken) handle)
    (fun past state op after event before taken =>
      transition_detaches (run_delivery before) (JobState.step_transition taken) handle)
  omega

end Runs

namespace Entry

/-- Under any interleaving of calls of the API, a job goes to the driver as often as the driver has
made it at most: threads that submit the same job do not submit it twice. -/
theorem process_submits_once (kind : JobMapKind) (records : JobPtr → ImRgaJob RgaReq)
    {trace : List ProcessEvent} {state : Process}
    (run : Machine.Run (Process.step kind) (Process.start records) trace state) (handle : UInt32) :
    (trace.flatMap processIo).countP (JobIo.submits handle) ≤
      (trace.flatMap processIo).countP (JobIo.creates handle) := by
  obtain ⟨past, jobs, done, same, _⟩ := jobsRefined_run kind records run
  rw [← same, countP_flatMap_io (JobEvent.io_submits · handle),
    countP_flatMap_io (JobEvent.io_creates · handle)]
  have sent := sends_le_detaches handle done
  have detached := detaches_le_inserts handle done
  have inserted := inserts_le_gives handle done
  omega

/-- Two threads submit the same job. -/
theorem process_submits_once_race :
    ∃ trace state, Machine.Run (Process.step .linkedList)
        (Process.start fun _ => { req := fun _ => default, id := 0 }) trace state ∧
      (trace.flatMap processIo).countP (JobIo.submits 7) = 1 ∧
      (trace.flatMap processIo).countP (JobIo.submits 7) ≤
        (trace.flatMap processIo).countP (JobIo.creates 7) := by
  have run := Machine.Run.of_exec (Process.step .linkedList)
    (Process.start fun _ => { req := fun _ => default, id := 0 })
    (.enter 0 (.handle (.rgaJobCreate 0)) :: List.replicate 8 (.answer 0 sampleReply) ++
      [.enter 1 (.status (.rgaJobSubmit 7 imSync (-1) false)),
        .enter 2 (.status (.rgaJobSubmit 7 imSync (-1) false)), .answer 1 sampleReply,
        .answer 2 sampleReply, .answer 1 sampleReply, .answer 1 sampleReply, .answer 2 sampleReply,
        .answer 2 sampleReply, .leave 2, .answer 1 sampleReply, .answer 1 sampleReply]) rfl
  exact ⟨_, _, run, rfl, process_submits_once .linkedList _ run 7⟩

end Entry

end LibRga

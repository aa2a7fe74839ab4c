import LibRga.JobDelivery

/-!
The job map against the driver's view of the ids, when the driver hands out
only ids that are not live and a handle is ended once, by its creator.
-/

namespace LibRga

variable {τ Client : Type}

namespace JobEvent

def obtains (handle : UInt32) : JobEvent τ → Bool
  | driverCreated _ given => given = handle
  | _ => false

def frees (handle : UInt32) : JobEvent τ → Bool
  | cancelIoctl _ given succeeds => succeeds && given = handle
  | submitIoctl _ _ request succeeds => succeeds && request.id = handle
  | _ => false

/-- The id becomes the creating client's to end: its own, or that of the failed create. -/
def gains (handle : UInt32) : JobEvent τ → Bool
  | created _ given _ => given = handle
  | noMemory _ given => given = handle
  | alreadyExists _ given => given = handle
  | _ => false

def ends (handle : UInt32) : JobEvent τ → Bool
  | cancelled _ given _ => given = handle
  | detached _ given _ => given = handle
  | _ => false

end JobEvent

/-- Live from a successful create until a successful cancel or submit. -/
def driverLive : List (JobEvent τ) → UInt32 → Bool
  | [], _ => false
  | event :: past, handle =>
      event.obtains handle || driverLive past handle && !event.frees handle

/-- The client that has created the handle and not ended it. -/
def holder (client : Thread → Client) : List (JobEvent τ) → UInt32 → Option Client
  | [], _ => none
  | event :: past, handle =>
      if event.gains handle then some (client event.thread)
      else if event.ends handle then none
      else holder client past handle

def FreshIds : List (JobEvent τ) → Prop
  | [] => True
  | event :: past =>
      (∀ handle, event.obtains handle = true → driverLive past handle = false) ∧ FreshIds past

/-- Every handle is ended at most once, and by the client that created it. -/
def EndsOwn (client : Thread → Client) : List (JobEvent τ) → Prop
  | [] => True
  | event :: past =>
      (∀ handle, event.ends handle = true →
        holder client past handle = some (client event.thread)) ∧ EndsOwn client past

/-- The thread is between a step on the handle at the driver and one on the map. -/
def Busy (state : JobState τ) (thread : Thread) (handle : UInt32) : Prop :=
  match state.pc thread with
  | .created given => given = handle
  | .cancelling given => given = handle
  | .submitting ptr _ => (state.manager.records ptr).id = handle.toInt32
  | _ => False

theorem busy_of_pc {state after : JobState τ} {thread : Thread} {handle : UInt32}
    (pc : after.pc thread = state.pc thread)
    (names : ∀ ptr command, state.pc thread = .submitting ptr command →
      (after.manager.records ptr).id = (state.manager.records ptr).id) :
    Busy after thread handle ↔ Busy state thread handle := by
  unfold Busy
  rw [pc]
  split
  · rfl
  · rfl
  · rename_i ptr command submitting
    rw [names ptr command submitting]
  · rfl

section Steps

variable [Inhabited τ] {kind : JobMapKind} {past : List (JobEvent τ)} {state after : JobState τ}
  {event : JobEvent τ}

theorem transition_pc (taken : JobState.Transition kind state event after) {thread : Thread}
    (other : event.thread ≠ thread) : after.pc thread = state.pc thread := by
  have different : thread ≠ event.thread := Ne.symm other
  cases taken with
  | createFailed | configIoctl | accepted | refused => rfl
  | _ => exact if_neg different

theorem transition_names (delivery : Delivery past state)
    (taken : JobState.Transition kind state event after) {thread : Thread} {ptr : JobPtr}
    {command : Int32} (holding : state.pc thread = .submitting ptr command) :
    (after.manager.records ptr).id = (state.manager.records ptr).id := by
  have held := (delivery.held thread ptr command holding).1
  cases taken with
  | created acting handle block waiting fresh unused =>
      have apart : ptr ≠ block := by
        rintro rfl
        simp [delivery.unused_free unused] at held
      simp [JobManager.insertJob, JobManager.setRecord, apart, JobManager.setAllocated]
  | accepted acting handle block req idle found room =>
      have apart := delivery.held_ne_queued found holding
      simp [JobManager.setRecord, apart]
  | _ => rfl

theorem transition_busy (delivery : Delivery past state)
    (taken : JobState.Transition kind state event after) {thread : Thread} {handle : UInt32}
    (busy : Busy after thread handle) :
    (event.thread = thread ∧ (event.obtains handle = true ∨ event.ends handle = true)) ∨
      (event.thread ≠ thread ∧ Busy state thread handle) := by
  by_cases acting : event.thread = thread
  · refine Or.inl ⟨acting, ?_⟩
    subst thread
    cases taken with
    | detached acting given ptr command idle found =>
        have named := (delivery.queued given ptr found).2.named
        simp only [Busy, JobEvent.thread, setPc_pc, if_true, setPc_manager,
          JobManager.removeJob, named] at busy
        have same : given = handle := by
          rw [← UInt32.toUInt32_toInt32 given, busy, UInt32.toUInt32_toInt32]
        simp [JobEvent.ends, same]
    | _ => simp_all [Busy, JobEvent.thread, JobEvent.obtains, JobEvent.ends]
  · refine Or.inr ⟨acting, (busy_of_pc (transition_pc taken acting) ?_).mp busy⟩
    intro ptr command holding
    exact transition_names delivery taken holding

theorem transition_gains (taken : JobState.Transition kind state event after)
    {handle : UInt32} (gains : event.gains handle = true) : Busy state event.thread handle := by
  cases taken <;> simp_all [JobEvent.gains, Busy, JobEvent.thread]

theorem transition_frees (delivery : Delivery past state)
    (taken : JobState.Transition kind state event after) {handle : UInt32}
    (frees : event.frees handle = true) : Busy state event.thread handle := by
  cases taken with
  | submitIoctl thread ptr command succeeds waiting =>
      obtain ⟨since, given, earlier, split, quiet, carries⟩ :=
        (delivery.held thread ptr command waiting).2
      simp only [JobEvent.frees, (carries.userRequest command).1, Bool.and_eq_true,
        decide_eq_true_eq] at frees
      simp [Busy, JobEvent.thread, waiting, carries.named, frees.2]
  | _ => simp_all [JobEvent.frees, Busy, JobEvent.thread]

theorem transition_mapped (delivery : Delivery past state)
    (consistent : state.manager.Consistent)
    (taken : JobState.Transition kind state event after) {handle : UInt32} {ptr : JobPtr}
    (found : rgaMapFindJob after.manager.jobMap handle = some ptr) :
    (∃ thread, event = .created thread handle ptr) ∨
      (rgaMapFindJob state.manager.jobMap handle = some ptr ∧ event.ends handle = false ∧
        ¬ event.Allocates ptr) := by
  cases taken with
  | created thread given block waiting fresh unused =>
      simp only [setPc_manager, JobManager.insertJob, JobManager.setRecord,
        JobManager.setAllocated,
        rgaMapFindJob_insert kind block consistent.distinct fresh] at found
      split at found
      · rename_i same
        cases found
        exact Or.inl ⟨thread, by rw [same]⟩
      · have apart := delivery.block_ne found
          (by rw [delivery.unused_free unused]; exact RecordUse.noConfusion)
        exact Or.inr ⟨found, rfl, fun same => apart same.symm⟩
  | cancelled thread given block waiting present =>
      simp only [setPc_manager, JobManager.setAllocated, JobManager.removeJob,
        rgaMapFindJob_delete consistent.distinct] at found
      split at found
      · contradiction
      · rename_i different
        exact Or.inr ⟨found, by simp [JobEvent.ends, Ne.symm different], id⟩
  | detached thread given block command idle present =>
      simp only [setPc_manager, JobManager.removeJob,
        rgaMapFindJob_delete consistent.distinct] at found
      split at found
      · contradiction
      · rename_i different
        exact Or.inr ⟨found, by simp [JobEvent.ends, Ne.symm different], id⟩
  | cancelMissing thread given waiting missing =>
      refine Or.inr ⟨found, ?_, id⟩
      have different : given ≠ handle := by
        rintro rfl
        simp_all
      simp [JobEvent.ends, different]
  | _ => exact Or.inr ⟨found, rfl, id⟩

end Steps

def CreatedBy (client : Thread → Client) (trace : List (JobEvent τ)) (handle : UInt32)
    (ptr : JobPtr) (owner : Client) : Prop :=
  ∃ since creator earlier, trace = since ++ .created creator handle ptr :: earlier ∧
    (∀ seen ∈ since, ¬ seen.Allocates ptr) ∧ client creator = owner

theorem CreatedBy.extend {client : Thread → Client} {trace : List (JobEvent τ)}
    {handle : UInt32} {ptr : JobPtr} {owner : Client} {event : JobEvent τ}
    (created : CreatedBy client trace handle ptr owner) (kept : ¬ event.Allocates ptr) :
    CreatedBy client (event :: trace) handle ptr owner := by
  obtain ⟨since, creator, earlier, split, quiet, own⟩ := created
  refine ⟨event :: since, creator, earlier, by simp [split], ?_, own⟩
  intro seen member
  rcases List.mem_cons.mp member with same | old
  · exact same ▸ kept
  · exact quiet seen old

/-- Each id is free, on its way to or from the map with one thread, or some client's. -/
structure Ownership (client : Thread → Client) (trace : List (JobEvent τ))
    (state : JobState τ) : Prop where
  live : ∀ handle owner, holder client trace handle = some owner →
    driverLive trace handle = true
  mapped : ∀ handle ptr, rgaMapFindJob state.manager.jobMap handle = some ptr →
    ∃ owner, holder client trace handle = some owner ∧
      CreatedBy client trace handle ptr owner
  busy : ∀ thread handle, Busy state thread handle →
    driverLive trace handle = true ∧ holder client trace handle = none
  alone : ∀ first second handle, Busy state first handle → Busy state second handle →
    first = second

theorem JobEvent.gains_excludes {event : JobEvent τ} {handle : UInt32}
    (gains : event.gains handle = true) :
    event.frees handle = false ∧ event.ends handle = false := by
  cases event <;> simp_all [JobEvent.gains, JobEvent.frees, JobEvent.ends]

theorem JobEvent.obtains_excludes {event : JobEvent τ} {handle : UInt32}
    (obtains : event.obtains handle = true) :
    event.gains handle = false ∧ event.ends handle = false := by
  cases event <;> simp_all [JobEvent.obtains, JobEvent.gains, JobEvent.ends]

theorem JobEvent.ends_excludes {event : JobEvent τ} {handle : UInt32}
    (ends : event.ends handle = true) :
    event.gains handle = false ∧ event.frees handle = false := by
  cases event <;> simp_all [JobEvent.ends, JobEvent.gains, JobEvent.frees]

theorem Ownership.busy_unmapped {client : Thread → Client} {past : List (JobEvent τ)}
    {state : JobState τ} (ownership : Ownership client past state) {thread : Thread}
    {handle : UInt32} (busy : Busy state thread handle) :
    rgaMapFindJob state.manager.jobMap handle = none := by
  cases found : rgaMapFindJob state.manager.jobMap handle with
  | none => rfl
  | some ptr =>
      obtain ⟨owner, held, _⟩ := ownership.mapped handle ptr found
      simp [(ownership.busy thread handle busy).2] at held

theorem Ownership.next_idle {client : Thread → Client} {past : List (JobEvent τ)}
    {state : JobState τ} {event : JobEvent τ} (ownership : Ownership client past state)
    (fresh : ∀ handle, event.obtains handle = true → driverLive past handle = false)
    (own : ∀ handle, event.ends handle = true →
      holder client past handle = some (client event.thread)) {thread : Thread}
    {handle : UInt32} (starts : event.obtains handle = true ∨ event.ends handle = true) :
    ¬ Busy state thread handle := by
  intro busy
  have old := ownership.busy thread handle busy
  rcases starts with obtains | ends
  · simp [fresh handle obtains] at old
  · simp [own handle ends] at old

section Invariant

variable [Inhabited τ] {kind : JobMapKind} {client : Thread → Client}
  {past : List (JobEvent τ)} {state after : JobState τ} {event : JobEvent τ}

theorem Ownership.never_alreadyExists (ownership : Ownership client past state)
    (taken : JobState.Transition kind state event after) (thread : Thread) (handle : UInt32) :
    event ≠ .alreadyExists thread handle := by
  rintro rfl
  cases taken with
  | alreadyExists _ _ ptr waiting found =>
      have busy : Busy state thread handle := by simp [Busy, waiting]
      simp [ownership.busy_unmapped busy] at found

theorem transition_live (delivery : Delivery past state)
    (taken : JobState.Transition kind state event after) {handle : UInt32}
    (live : driverLive past handle = true)
    (quiet : ∀ thread, Busy state thread handle → event.thread ≠ thread) :
    driverLive (event :: past) handle = true := by
  have kept : event.frees handle = false := by
    by_contra frees
    have busy := transition_frees delivery taken (Bool.eq_true_of_not_eq_false frees)
    exact quiet event.thread busy rfl
  simp [driverLive, live, kept]

namespace Ownership

theorem next_live (ownership : Ownership client past state) (delivery : Delivery past state)
    (taken : JobState.Transition kind state event after) {handle : UInt32} {owner : Client}
    (held : holder client (event :: past) handle = some owner) :
    driverLive (event :: past) handle = true := by
  simp only [holder] at held
  split at held
  · rename_i gains
    have busy := ownership.busy _ handle (transition_gains taken gains)
    simp [driverLive, busy.1, (JobEvent.gains_excludes gains).1]
  · split at held
    · contradiction
    · refine transition_live delivery taken (ownership.live handle owner held) ?_
      intro thread busy
      simp [(ownership.busy thread handle busy).2] at held

theorem next_busy (ownership : Ownership client past state) (delivery : Delivery past state)
    (fresh : ∀ handle, event.obtains handle = true → driverLive past handle = false)
    (own : ∀ handle, event.ends handle = true →
      holder client past handle = some (client event.thread))
    (taken : JobState.Transition kind state event after) {thread : Thread} {handle : UInt32}
    (busy : Busy after thread handle) :
    driverLive (event :: past) handle = true ∧ holder client (event :: past) handle = none := by
  rcases transition_busy delivery taken busy with ⟨_, obtains | ends⟩ | ⟨other, before⟩
  · have unheld : holder client past handle = none := by
      by_contra held
      obtain ⟨owner, held⟩ := Option.ne_none_iff_exists'.mp held
      have live := ownership.live handle owner held
      simp [fresh handle obtains] at live
    have excludes := JobEvent.obtains_excludes obtains
    simp [driverLive, obtains, holder, excludes.1, excludes.2, unheld]
  · have excludes := JobEvent.ends_excludes ends
    have live := ownership.live handle _ (own handle ends)
    simp [driverLive, live, holder, excludes.1, excludes.2, ends]
  · have old := ownership.busy thread handle before
    refine ⟨transition_live delivery taken old.1 ?_, ?_⟩
    · intro second busy
      rw [ownership.alone second thread handle busy before]
      exact other
    · have lost : event.gains handle = false := by
        by_contra gains
        have second := transition_gains taken (Bool.eq_true_of_not_eq_false gains)
        exact other (ownership.alone _ thread handle second before)
      simp [holder, lost, old.2]

theorem next_mapped (ownership : Ownership client past state) (delivery : Delivery past state)
    (consistent : state.manager.Consistent)
    (taken : JobState.Transition kind state event after) {handle : UInt32} {ptr : JobPtr}
    (found : rgaMapFindJob after.manager.jobMap handle = some ptr) :
    ∃ owner, holder client (event :: past) handle = some owner ∧
      CreatedBy client (event :: past) handle ptr owner := by
  rcases transition_mapped delivery consistent taken found with
    ⟨creator, rfl⟩ | ⟨before, kept, placed⟩
  · refine ⟨client creator, ?_, [], creator, past, rfl, by simp, rfl⟩
    simp [holder, JobEvent.gains, JobEvent.thread]
  · obtain ⟨owner, held, created⟩ := ownership.mapped handle ptr before
    have lost : event.gains handle = false := by
      by_contra gains
      have busy := transition_gains taken (Bool.eq_true_of_not_eq_false gains)
      simp [ownership.busy_unmapped busy] at before
    exact ⟨owner, by simp [holder, lost, kept, held], created.extend placed⟩

end Ownership

theorem transition_ownership (ownership : Ownership client past state)
    (delivery : Delivery past state) (consistent : state.manager.Consistent)
    (fresh : ∀ handle, event.obtains handle = true → driverLive past handle = false)
    (own : ∀ handle, event.ends handle = true →
      holder client past handle = some (client event.thread))
    (taken : JobState.Transition kind state event after) :
    Ownership client (event :: past) after := by
  refine ⟨fun _ _ => ownership.next_live delivery taken,
    fun _ _ => ownership.next_mapped delivery consistent taken,
    fun _ _ => ownership.next_busy delivery fresh own taken, ?_⟩
  intro first second handle busyFirst busySecond
  rcases transition_busy delivery taken busyFirst with ⟨actsFirst, starts⟩ | ⟨_, firstBefore⟩
  · rcases transition_busy delivery taken busySecond with ⟨actsSecond, _⟩ | ⟨_, secondBefore⟩
    · exact actsFirst.symm.trans actsSecond
    · exact absurd secondBefore (ownership.next_idle fresh own starts)
  · rcases transition_busy delivery taken busySecond with ⟨_, starts⟩ | ⟨_, secondBefore⟩
    · exact absurd firstBefore (ownership.next_idle fresh own starts)
    · exact ownership.alone first second handle firstBefore secondBefore

end Invariant

theorem run_ownership [Inhabited τ] {kind : JobMapKind} {records : JobPtr → ImRgaJob τ}
    (client : Thread → Client) {trace : List (JobEvent τ)} {state : JobState τ}
    (run : Machine.Run (JobState.step kind) (initialJobState records) trace state)
    (fresh : FreshIds trace) (own : EndsOwn client trace) :
    Ownership client trace state ∧ ∀ thread handle, .alreadyExists thread handle ∉ trace := by
  revert fresh own
  refine run.invariant
    (P := fun trace state => FreshIds trace → EndsOwn client trace →
      Ownership client trace state ∧ ∀ thread handle, .alreadyExists thread handle ∉ trace) ?_ ?_
  · intro _ _
    refine ⟨⟨?_, ?_, ?_, ?_⟩, ?_⟩ <;> simp [initialJobState, holder, rgaMapFindJob, Busy]
  · intro past state op after event before ih taken fresh own
    obtain ⟨ownership, absent⟩ := ih fresh.2 own.2
    have transition := JobState.step_transition taken
    refine ⟨transition_ownership ownership (run_delivery before) (run_consistent before)
      fresh.1 own.1 transition, ?_⟩
    intro thread handle member
    rcases List.mem_cons.mp member with now | earlier
    · exact ownership.never_alreadyExists transition thread handle now.symm
    · exact absent thread handle earlier

theorem FreshIds.earlier {later past : List (JobEvent τ)} (fresh : FreshIds (later ++ past)) :
    FreshIds past := by
  induction later with
  | nil => exact fresh
  | cons event later ih => exact ih fresh.2

theorem EndsOwn.earlier {client : Thread → Client} {later past : List (JobEvent τ)}
    (own : EndsOwn client (later ++ past)) : EndsOwn client past := by
  induction later with
  | nil => exact own
  | cons event later ih => exact ih own.2

theorem Ownership.removes_own [Inhabited τ] {kind : JobMapKind} {client : Thread → Client}
    {past : List (JobEvent τ)} {state after : JobState τ} {event : JobEvent τ}
    (ownership : Ownership client past state)
    (own : ∀ handle, event.ends handle = true →
      holder client past handle = some (client event.thread))
    (taken : JobState.Transition kind state event after) {ptr : JobPtr}
    (removes : event.Removes ptr) :
    ∃ handle, CreatedBy client past handle ptr (client event.thread) := by
  cases taken with
  | cancelled thread handle block waiting found =>
      obtain ⟨owner, held, created⟩ := ownership.mapped handle block found
      have mine := own handle (by simp [JobEvent.ends])
      cases removes
      rw [held] at mine
      exact ⟨handle, Option.some.inj mine ▸ created⟩
  | detached thread handle block command idle found =>
      obtain ⟨owner, held, created⟩ := ownership.mapped handle block found
      have mine := own handle (by simp [JobEvent.ends])
      cases removes
      rw [held] at mine
      exact ⟨handle, Option.some.inj mine ▸ created⟩
  | cancelMissing => simp [JobEvent.Removes] at removes
  | _ => exact absurd removes id

theorem jobMap_agrees_with_driver [Inhabited τ] (kind : JobMapKind)
    (records : JobPtr → ImRgaJob τ) (client : Thread → Client) {trace : List (JobEvent τ)}
    {state : JobState τ}
    (run : Machine.Run (JobState.step kind) (initialJobState records) trace state)
    (fresh : FreshIds trace) (own : EndsOwn client trace) :
    (∀ entry ∈ state.manager.jobMap, driverLive trace entry.1 = true) ∧
    (∀ thread handle, .alreadyExists thread handle ∉ trace) ∧
    (∀ later past event ptr, trace = later ++ event :: past → event.Removes ptr →
      ∃ since creator handle earlier, past = since ++ .created creator handle ptr :: earlier ∧
        (∀ seen ∈ since, ¬ seen.Allocates ptr) ∧ client creator = client event.thread) := by
  obtain ⟨ownership, absent⟩ := run_ownership client run fresh own
  refine ⟨?_, absent, ?_⟩
  · intro entry member
    have found := List.mem_dlookup (run_consistent run).distinct member
    obtain ⟨owner, held, _⟩ := ownership.mapped entry.1 entry.2 found
    exact ownership.live entry.1 owner held
  · rintro later past event ptr rfl removes
    obtain ⟨before, op, after, earlierRun, taken⟩ := run.at_event rfl
    obtain ⟨pastFresh, pastOwn⟩ := And.intro fresh.earlier own.earlier
    obtain ⟨pastOwnership, _⟩ := run_ownership client earlierRun pastFresh.2 pastOwn.2
    obtain ⟨handle, since, creator, earlier, split, kept, mine⟩ :=
      pastOwnership.removes_own pastOwn.1 (JobState.step_transition taken) removes
    exact ⟨since, creator, handle, earlier, split, kept, mine⟩

/-- Id 7 goes to a second client between the first one's cancel and a late lookup of it. -/
def reusedIdOps : List (JobOp Nat) :=
  [.createIoctl 0 (some 7), .createLock 0 (some 0x1000), .cancelLock 0 7, .cancelIoctl 0 true,
    .createIoctl 1 (some 7), .createLock 1 (some 0x1000), .submitLock 0 7 0,
    .createIoctl 0 (some 8), .createLock 0 none, .taskLock 1 7 40]

theorem jobMap_agrees_with_driver_reused :
    ∃ trace state, Machine.Run (JobState.step .stdMap)
        (initialJobState fun _ => { req := fun _ => (0 : Nat), id := 0 }) trace state ∧
      FreshIds trace ∧ EndsOwn (fun thread => thread) trace ∧
      state.manager.jobMap = [⟨7, 0x1000⟩] ∧ state.pc 0 = .mustCancel 8 ∧
      ∀ entry ∈ state.manager.jobMap, driverLive trace entry.1 = true := by
  have performed : ∃ trace state, Machine.exec (JobState.step .stdMap) reusedIdOps
      ([], initialJobState fun _ => { req := fun _ => (0 : Nat), id := 0 }) =
        some (trace, state) ∧ FreshIds trace ∧ EndsOwn (fun thread => thread) trace ∧
      state.manager.jobMap = [⟨7, 0x1000⟩] ∧ state.pc 0 = .mustCancel 8 := by
    refine ⟨_, _, rfl, ?_, ?_, rfl, rfl⟩
    · simp [FreshIds, JobEvent.obtains, driverLive, JobEvent.frees]
    · simp [EndsOwn, JobEvent.ends, holder, JobEvent.gains, JobEvent.thread]
  obtain ⟨trace, state, performed, fresh, own, mapped, pc⟩ := performed
  have run := Machine.Run.of_exec _ _ _ performed
  exact ⟨trace, state, run, fresh, own, mapped, pc,
    (jobMap_agrees_with_driver .stdMap _ (fun thread => thread) run fresh own).1⟩

end LibRga

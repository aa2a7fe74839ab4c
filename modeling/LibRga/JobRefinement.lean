import LibRga.EntryLocks
import LibRga.JobOwnership

/-!
The threads in the im2d API refine the job machine.

Each call stands for a thread of the job machine, and for another one after it has
given up a job that it should have cancelled. The step of a critical section is
taken where the mutex is released, or at its ioctl; the ioctls are the same, in
the same order.
-/

namespace LibRga.Entry

open Interaction

namespace JobPhase

def pc : JobPhase → JobPc
  | outside pc | inside pc _ => pc
  | holding handle _ _ => .created handle
  | submitting ptr command _ => .submitting ptr command
  | submitted _ => .idle

def blocks : JobPhase → List UInt64
  | holding _ _ ptr | submitted ptr => [ptr]
  | _ => []

end JobPhase

/-- The blocks that only this call knows of. -/
def Phase.blocks (phase : Phase) : List UInt64 :=
  phase.coe.toList ++ phase.job.blocks

theorem Phase.blocks_none {phase : Phase} (none : phase.job.blocks = []) :
    phase.blocks = phase.coe.toList := by
  rw [blocks, none, List.append_nil]

theorem Phase.blocks_coe {phase : Phase} {ptr : UInt64} (nodup : phase.blocks.Nodup)
    (owns : phase.job.blocks = [ptr]) :
    ∀ other ∈ phase.coe.toList, other ∈ phase.blocks ∧ other ≠ ptr := by
  intro other member
  refine ⟨List.mem_append_left _ member, ?_⟩
  rintro rfl
  rw [blocks, owns] at nodup
  exact (List.disjoint_of_nodup_append nodup) member List.mem_cons_self

theorem nodup_toList (block : Option UInt64) : block.toList.Nodup := by
  cases block with
  | none => exact List.nodup_nil
  | some ptr => exact List.nodup_singleton ptr

/-! Managers that differ in the blocks in use only -/

structure Alike (left right : JobManager RgaReq) : Prop where
  jobMap : left.jobMap = right.jobMap
  jobCount : left.jobCount = right.jobCount
  records : left.records = right.records

namespace Alike

variable {left right : JobManager RgaReq}

theorem insertJob (alike : Alike left right) (kind : JobMapKind) (handle : UInt32) (ptr : JobPtr) :
    Alike (left.insertJob kind handle ptr) (right.insertJob kind handle ptr) := by
  obtain ⟨jobMap, jobCount, records⟩ := alike
  constructor <;>
    simp only [JobManager.insertJob, JobManager.setRecord, JobManager.setAllocated, jobMap,
      jobCount, records]

theorem removeJob (alike : Alike left right) (handle : UInt32) :
    Alike (left.removeJob handle) (right.removeJob handle) := by
  obtain ⟨jobMap, jobCount, records⟩ := alike
  constructor <;> simp only [JobManager.removeJob, jobMap, jobCount, records]

theorem setAllocated (alike : Alike left right) (ptr : JobPtr) (live : Bool) :
    Alike (left.setAllocated ptr live) right :=
  ⟨alike.jobMap, alike.jobCount, alike.records⟩

theorem userRequest (alike : Alike left right) (ptr : JobPtr) (command : Int32) :
    left.userRequest ptr command = right.userRequest ptr command := by
  simp only [JobManager.userRequest, alike.records]

theorem appendTask (alike : Alike left right) {handle : UInt32} {req : RgaReq} {ptr : JobPtr}
    {after : JobManager RgaReq} (appended : right.appendTask handle req = .appended ptr after) :
    ∃ here, left.appendTask handle req = .appended ptr here ∧ Alike here after ∧
      here.allocated = left.allocated := by
  obtain ⟨found, room, rfl⟩ := JobManager.appendTask_eq_appended.mp appended
  refine ⟨_, JobManager.appendTask_eq_appended.mpr ⟨?_, ?_, rfl⟩, ?_, rfl⟩
  · rw [alike.jobMap]
    exact found
  · rw [alike.records]
    exact room
  · constructor <;>
      simp only [JobManager.setRecord, alike.jobMap, alike.jobCount, alike.records]

end Alike

theorem phases_forget {phases : Phases} {thread other : Thread} {phase : Phase}
    (there : Function.update phases thread none other = some phase) :
    phases other = some phase := by
  by_cases acting : other = thread
  · rw [acting, Function.update_self] at there
    cases there
  · rwa [Function.update_of_ne acting] at there

/-! The heap -/

/-- `allocated` is what the job machine knows of the heap. -/
structure HeapOwned (heap : UInt64 → Bool) (phases : Phases) (allocated : JobPtr → Bool) :
    Prop where
  records : ∀ ptr, allocated ptr = true → heap ptr = true
  blocks : ∀ thread phase ptr, phases thread = some phase → ptr ∈ phase.blocks →
    heap ptr = true ∧ allocated ptr = false
  nodup : ∀ thread phase, phases thread = some phase → phase.blocks.Nodup
  apart : ∀ thread other phase another ptr, phases thread = some phase →
    phases other = some another → ptr ∈ phase.blocks → ptr ∈ another.blocks → thread = other

namespace HeapOwned

variable {heap changed : UInt64 → Bool} {phases : Phases} {allocated known : JobPtr → Bool}
  {thread : Thread} {phase later : Phase}

theorem change (owned : HeapOwned heap phases allocated) (now : phases thread = some phase)
    (records : ∀ ptr, known ptr = true → changed ptr = true)
    (others : ∀ ptr, ptr ∉ phase.blocks → heap ptr = true → allocated ptr = false →
      changed ptr = true ∧ known ptr = false)
    (mine : ∀ ptr ∈ later.blocks, changed ptr = true ∧ known ptr = false)
    (nodup : later.blocks.Nodup)
    (own : ∀ ptr ∈ later.blocks, ptr ∈ phase.blocks ∨ heap ptr = false ∨ allocated ptr = true) :
    HeapOwned changed (Function.update phases thread (some later)) known := by
  have unshared {other : Thread} {another : Phase} {ptr : UInt64} (different : other ≠ thread)
      (there : phases other = some another) (member : ptr ∈ another.blocks) :
      ptr ∉ later.blocks := by
    intro also
    obtain ⟨live, unknown⟩ := owned.blocks other another ptr there member
    rcases own ptr also with old | dead | record
    · exact different (owned.apart _ _ _ _ ptr there now member old)
    · rw [live] at dead
      cases dead
    · rw [unknown] at record
      cases record
  constructor
  · exact records
  · intro other another ptr there member
    by_cases acting : other = thread
    · rw [acting, Function.update_self] at there
      cases there
      exact mine ptr member
    · rw [Function.update_of_ne acting] at there
      obtain ⟨live, unknown⟩ := owned.blocks other another ptr there member
      refine others ptr (fun old => ?_) live unknown
      exact acting (owned.apart _ _ _ _ ptr there now member old)
  · intro other another there
    by_cases acting : other = thread
    · rw [acting, Function.update_self] at there
      cases there
      exact nodup
    · rw [Function.update_of_ne acting] at there
      exact owned.nodup other another there
  · intro first second one two ptr there here member also
    by_cases acting : first = thread
    · by_cases both : second = thread
      · rw [acting, both]
      · rw [acting, Function.update_self] at there
        rw [Function.update_of_ne both] at here
        cases there
        exact absurd member (unshared both here also)
    · rw [Function.update_of_ne acting] at there
      by_cases both : second = thread
      · rw [both, Function.update_self] at here
        cases here
        exact absurd also (unshared acting there member)
      · rw [Function.update_of_ne both] at here
        exact owned.apart first second one two ptr there here member also

theorem move (owned : HeapOwned heap phases allocated) (now : phases thread = some phase)
    (same : later.blocks = phase.blocks) :
    HeapOwned heap (Function.update phases thread (some later)) allocated := by
  refine owned.change now owned.records (fun ptr _ live unknown => ⟨live, unknown⟩) ?_ ?_ ?_
  · rw [same]
    exact fun ptr => owned.blocks thread phase ptr now
  · rw [same]
    exact owned.nodup thread phase now
  · rw [same]
    exact fun ptr => .inl

/-- Blocks that the call forgets without freeing them. -/
theorem lose (owned : HeapOwned heap phases allocated) (now : phases thread = some phase)
    (empty : later.blocks = []) :
    HeapOwned heap (Function.update phases thread (some later)) allocated := by
  refine owned.change now owned.records (fun ptr _ live unknown => ⟨live, unknown⟩) ?_ ?_ ?_ <;>
    simp [empty]

theorem gain (owned : HeapOwned heap phases allocated) (now : phases thread = some phase)
    {block : UInt64} (free : heap block = false)
    (each : ∀ ptr ∈ later.blocks, ptr = block ∨ ptr ∈ phase.blocks)
    (nodup : later.blocks.Nodup) :
    HeapOwned (fun ptr => if ptr = block then true else heap ptr)
      (Function.update phases thread (some later)) allocated := by
  have unknown : allocated block = false := by
    by_contra record
    rw [owned.records block (by simpa using record)] at free
    cases free
  refine owned.change now ?_ ?_ ?_ nodup ?_
  · intro ptr record
    rw [owned.records ptr record, ite_self]
  · intro ptr _ live other
    exact ⟨by rw [live, ite_self], other⟩
  · intro ptr member
    rcases each ptr member with rfl | old
    · exact ⟨if_pos rfl, unknown⟩
    · obtain ⟨live, other⟩ := owned.blocks thread phase ptr now old
      exact ⟨by rw [live, ite_self], other⟩
  · intro ptr member
    rcases each ptr member with rfl | old
    · exact .inr (.inl free)
    · exact .inl old

theorem drop (owned : HeapOwned heap phases allocated) (now : phases thread = some phase)
    {block : UInt64} (mine : block ∈ phase.blocks)
    (each : ∀ ptr ∈ later.blocks, ptr ∈ phase.blocks ∧ ptr ≠ block)
    (nodup : later.blocks.Nodup) :
    HeapOwned (fun ptr => if ptr = block then false else heap ptr)
      (Function.update phases thread (some later)) allocated := by
  refine owned.change now ?_ ?_ ?_ nodup fun ptr member => .inl (each ptr member).1
  · intro ptr record
    have other : ptr ≠ block := by
      rintro rfl
      rw [(owned.blocks thread phase ptr now mine).2] at record
      cases record
    rw [if_neg other]
    exact owned.records ptr record
  · intro ptr foreign live unknown
    have other : ptr ≠ block := by
      rintro rfl
      exact foreign mine
    exact ⟨by rw [if_neg other, live], unknown⟩
  · intro ptr member
    obtain ⟨old, other⟩ := each ptr member
    rw [if_neg other]
    exact owned.blocks thread phase ptr now old

/-- A block becomes a record of the job machine. -/
theorem publish (owned : HeapOwned heap phases allocated) (now : phases thread = some phase)
    {block : UInt64} (mine : block ∈ phase.blocks)
    (each : ∀ ptr ∈ later.blocks, ptr ∈ phase.blocks ∧ ptr ≠ block)
    (nodup : later.blocks.Nodup) :
    HeapOwned heap (Function.update phases thread (some later))
      (fun ptr => if ptr = block then true else allocated ptr) := by
  refine owned.change now ?_ ?_ ?_ nodup fun ptr member => .inl (each ptr member).1
  · intro ptr record
    split at record
    · rename_i this
      rw [this]
      exact (owned.blocks thread phase block now mine).1
    · exact owned.records ptr record
  · intro ptr foreign live unknown
    have other : ptr ≠ block := by
      rintro rfl
      exact foreign mine
    exact ⟨live, by rw [if_neg other, unknown]⟩
  · intro ptr member
    obtain ⟨old, other⟩ := each ptr member
    rw [if_neg other]
    exact owned.blocks thread phase ptr now old

/-- A record that only the call knows of from now on. -/
theorem withdraw (owned : HeapOwned heap phases allocated) (now : phases thread = some phase)
    {block : UInt64} (record : allocated block = true)
    (each : ∀ ptr ∈ later.blocks, ptr = block ∨ ptr ∈ phase.blocks)
    (nodup : later.blocks.Nodup) :
    HeapOwned heap (Function.update phases thread (some later))
      (fun ptr => if ptr = block then false else allocated ptr) := by
  refine owned.change now ?_ ?_ ?_ nodup ?_
  · intro ptr known
    split at known
    · cases known
    · exact owned.records ptr known
  · intro ptr _ live unknown
    exact ⟨live, by rw [unknown, ite_self]⟩
  · intro ptr member
    rcases each ptr member with rfl | old
    · exact ⟨owned.records ptr record, if_pos rfl⟩
    · obtain ⟨live, unknown⟩ := owned.blocks thread phase ptr now old
      exact ⟨live, by rw [unknown, ite_self]⟩
  · intro ptr member
    rcases each ptr member with rfl | old
    · exact .inr (.inr record)
    · exact .inl old

/-- A record that is freed where it is. -/
theorem free (owned : HeapOwned heap phases allocated) (now : phases thread = some phase)
    {block : UInt64} (record : allocated block = true) (same : later.blocks = phase.blocks)
    (kept : ∀ ptr, ptr ≠ block → changed ptr = heap ptr) :
    HeapOwned changed (Function.update phases thread (some later))
      (fun ptr => if ptr = block then false else allocated ptr) := by
  have apart {ptr : UInt64} (unknown : allocated ptr = false) : ptr ≠ block := by
    rintro rfl
    rw [unknown] at record
    cases record
  refine owned.change now ?_ ?_ ?_ ?_ ?_
  · intro ptr known
    split at known
    · cases known
    · rename_i other
      rw [kept ptr other]
      exact owned.records ptr known
  · intro ptr _ live unknown
    exact ⟨by rw [kept ptr (apart unknown), live], by rw [unknown, ite_self]⟩
  · intro ptr member
    rw [same] at member
    obtain ⟨live, unknown⟩ := owned.blocks thread phase ptr now member
    exact ⟨by rw [kept ptr (apart unknown), live], by rw [unknown, ite_self]⟩
  · rw [same]
    exact owned.nodup thread phase now
  · rw [same]
    exact fun ptr => .inl

theorem forget (owned : HeapOwned heap phases allocated) (thread : Thread) :
    HeapOwned heap (Function.update phases thread none) allocated := by
  refine ⟨owned.records, ?_, ?_, ?_⟩
  · intro other another ptr there
    exact owned.blocks other another ptr (phases_forget there)
  · intro other another there
    exact owned.nodup other another (phases_forget there)
  · intro first second one two ptr there here
    exact owned.apart first second one two ptr (phases_forget there) (phases_forget here)

theorem enter (owned : HeapOwned heap phases allocated)
    (empty : later.blocks = []) :
    HeapOwned heap (Function.update phases thread (some later)) allocated := by
  have none_mine {other : Thread} {another : Phase} {ptr : UInt64}
      (there : Function.update phases thread (some later) other = some another)
      (member : ptr ∈ another.blocks) : phases other = some another := by
    by_cases acting : other = thread
    · rw [acting, Function.update_self] at there
      cases there
      rw [empty] at member
      cases member
    · rwa [Function.update_of_ne acting] at there
  refine ⟨owned.records, ?_, ?_, ?_⟩
  · intro other another ptr there member
    exact owned.blocks other another ptr (none_mine there member) member
  · intro other another there
    by_cases acting : other = thread
    · rw [acting, Function.update_self] at there
      cases there
      rw [empty]
      exact List.nodup_nil
    · rw [Function.update_of_ne acting] at there
      exact owned.nodup other another there
  · intro first second one two ptr there here member also
    exact owned.apart first second one two ptr (none_mine there member) (none_mine here also)
      member also

end HeapOwned

/-! The job machine -/

section Records

variable {τ : Type} [Inhabited τ] {kind : JobMapKind} {past : List (JobEvent τ)}
  {state after : JobState τ} {event : JobEvent τ}

/-- Nothing writes to a record that has been detached. -/
theorem transition_held_records (delivery : Delivery past state)
    (taken : JobState.Transition kind state event after) {thread : Thread} {ptr : JobPtr}
    {command : Int32} (holding : state.pc thread = .submitting ptr command) :
    after.manager.records ptr = state.manager.records ptr := by
  have held := (delivery.held thread ptr command holding).1
  refine transition_records taken ?_ ?_
  · intro allocates
    cases taken with
    | created acting handle block waiting fresh unused =>
        cases allocates
        rw [delivery.unused_free unused] at held
        cases held
    | _ => exact allocates
  · intro handle finds
    have found := transition_finds taken finds
    rw [(delivery.queued handle ptr found).1] at held
    cases held

end Records

/-- The thread of the job machine that each call stands for; those from `next` on are unused. -/
structure Mirrored (phases : Phases) (jobs : JobState RgaReq) (named : Thread → Thread)
    (next : Thread) : Prop where
  pc : ∀ thread phase, phases thread = some phase → jobs.pc (named thread) = phase.job.pc
  below : ∀ thread phase, phases thread = some phase → named thread < next
  apart : ∀ thread other phase another, phases thread = some phase → phases other = some another →
    named thread = named other → thread = other
  fresh : ∀ unused, next ≤ unused → jobs.pc unused = .idle
  /-- What was read under the mutex is what the driver reads at the ioctl. -/
  captured : ∀ thread phase ptr command request, phases thread = some phase →
    phase.job = .submitting ptr command request → jobs.manager.userRequest ptr command = request

namespace Mirrored

variable {kind : JobMapKind} {past : List (JobEvent RgaReq)} {phases : Phases}
  {jobs after : JobState RgaReq} {event : JobEvent RgaReq} {named : Thread → Thread}
  {next thread : Thread} {phase later : Phase}

theorem step (mirrored : Mirrored phases jobs named next) (delivery : Delivery past jobs)
    (taken : JobState.Transition kind jobs event after) (now : phases thread = some phase)
    (acting : event.thread = named thread) (pc : after.pc (named thread) = later.job.pc)
    (captured : ∀ ptr command request, later.job = .submitting ptr command request →
      after.manager.userRequest ptr command = request) :
    Mirrored (Function.update phases thread (some later)) after named next := by
  have was {other : Thread} {another : Phase}
      (there : Function.update phases thread (some later) other = some another) :
      ∃ before, phases other = some before := by
    by_cases same : other = thread
    · exact ⟨phase, same ▸ now⟩
    · exact ⟨another, by rwa [Function.update_of_ne same] at there⟩
  constructor
  · intro other another there
    by_cases same : other = thread
    · rw [same, Function.update_self] at there
      cases there
      rw [same]
      exact pc
    · rw [Function.update_of_ne same] at there
      rw [transition_pc taken fun moved => same
        (mirrored.apart _ _ _ _ there now (moved.symm.trans acting))]
      exact mirrored.pc other another there
  · intro other another there
    obtain ⟨before, there⟩ := was there
    exact mirrored.below other before there
  · intro first second one two there here
    obtain ⟨one, there⟩ := was there
    obtain ⟨two, here⟩ := was here
    exact mirrored.apart first second one two there here
  · intro unused beyond
    have apart : event.thread ≠ unused := by
      rw [acting]
      exact (lt_of_lt_of_le (mirrored.below thread phase now) beyond).ne
    rw [transition_pc taken apart]
    exact mirrored.fresh unused beyond
  · intro other another ptr command request there submits
    by_cases same : other = thread
    · rw [same, Function.update_self] at there
      cases there
      exact captured ptr command request submits
    · rw [Function.update_of_ne same] at there
      have holding : jobs.pc (named other) = .submitting ptr command := by
        rw [mirrored.pc other another there, submits]
        rfl
      rw [← mirrored.captured other another ptr command request there submits]
      unfold JobManager.userRequest
      rw [transition_held_records delivery taken holding]

/-- A move that the job machine does not take part in. -/
theorem move (mirrored : Mirrored phases jobs named next) (now : phases thread = some phase)
    (same : later.job.pc = phase.job.pc)
    (quiet : ∀ ptr command request, later.job ≠ .submitting ptr command request) :
    Mirrored (Function.update phases thread (some later)) jobs named next := by
  have was {other : Thread} {another : Phase}
      (there : Function.update phases thread (some later) other = some another) :
      ∃ before, phases other = some before ∧ before.job.pc = another.job.pc := by
    by_cases acting : other = thread
    · rw [acting, Function.update_self] at there
      cases there
      exact ⟨phase, acting ▸ now, same.symm⟩
    · exact ⟨another, by rwa [Function.update_of_ne acting] at there, rfl⟩
  refine ⟨?_, ?_, ?_, mirrored.fresh, ?_⟩
  · intro other another there
    obtain ⟨before, there, pc⟩ := was there
    rw [← pc]
    exact mirrored.pc other before there
  · intro other another there
    obtain ⟨before, there, _⟩ := was there
    exact mirrored.below other before there
  · intro first second one two there here
    obtain ⟨one, there, _⟩ := was there
    obtain ⟨two, here, _⟩ := was here
    exact mirrored.apart first second one two there here
  · intro other another ptr command request there submits
    by_cases acting : other = thread
    · rw [acting, Function.update_self] at there
      cases there
      exact absurd submits (quiet ptr command request)
    · rw [Function.update_of_ne acting] at there
      exact mirrored.captured other another ptr command request there submits

/-- A call that begins, or that gives up what it owed, stands for a thread of its own. -/
theorem renew (mirrored : Mirrored phases jobs named next) (idle : later.job = .outside .idle) :
    Mirrored (Function.update phases thread (some later)) jobs (Function.update named thread next)
      (next + 1) := by
  have old {other : Thread} {another : Phase} (different : other ≠ thread)
      (there : Function.update phases thread (some later) other = some another) :
      phases other = some another ∧ Function.update named thread next other = named other := by
    rw [Function.update_of_ne different] at there
    exact ⟨there, Function.update_of_ne different ..⟩
  have apart {other : Thread} {another : Phase} (different : other ≠ thread)
      (there : Function.update phases thread (some later) other = some another) :
      Function.update named thread next other < next := by
    obtain ⟨there, same⟩ := old different there
    rw [same]
    exact mirrored.below other another there
  constructor
  · intro other another there
    by_cases acting : other = thread
    · rw [acting, Function.update_self] at there
      cases there
      rw [acting, Function.update_self, idle]
      exact mirrored.fresh next (le_refl next)
    · obtain ⟨there, same⟩ := old acting there
      rw [same]
      exact mirrored.pc other another there
  · intro other another there
    by_cases acting : other = thread
    · rw [acting, Function.update_self]
      exact Nat.lt_succ_self next
    · exact Nat.lt_succ_of_lt (apart acting there)
  · intro first second one two there here same
    by_cases acting : first = thread
    · by_cases both : second = thread
      · rw [acting, both]
      · rw [acting, Function.update_self] at same
        exact absurd same (apart both here).ne'
    · by_cases both : second = thread
      · rw [both, Function.update_self] at same
        exact absurd same (apart acting there).ne
      · obtain ⟨there, named_first⟩ := old acting there
        obtain ⟨here, named_second⟩ := old both here
        rw [named_first, named_second] at same
        exact mirrored.apart first second one two there here same
  · intro unused beyond
    exact mirrored.fresh unused (Nat.le_of_succ_le beyond)
  · intro other another ptr command request there submits
    by_cases acting : other = thread
    · rw [acting, Function.update_self] at there
      cases there
      rw [idle] at submits
      cases submits
    · exact mirrored.captured other another ptr command request (old acting there).1 submits

theorem forget (mirrored : Mirrored phases jobs named next) (thread : Thread) :
    Mirrored (Function.update phases thread none) jobs named next := by
  refine ⟨?_, ?_, ?_, mirrored.fresh, ?_⟩
  · intro other another there
    exact mirrored.pc other another (phases_forget there)
  · intro other another there
    exact mirrored.below other another (phases_forget there)
  · intro first second one two there here
    exact mirrored.apart first second one two (phases_forget there) (phases_forget here)
  · intro other another ptr command request there
    exact mirrored.captured other another ptr command request (phases_forget there)

end Mirrored

/-! The relation -/

structure Refines (state : ProcessState) (phases : Phases) (jobs : JobState RgaReq) : Prop where
  heap : HeapOwned state.heap phases jobs.manager.allocated
  alike : Alike jobs.manager state.jobs
  mirrored : ∃ named next, Mirrored phases jobs named next

/-- The job machine has done what the calls have, with the same ioctls. -/
def JobsRefined (kind : JobMapKind) (records : JobPtr → ImRgaJob RgaReq) (trace : List ProcessEvent)
    (state : ProcessState) (phases : Phases) : Prop :=
  ∃ past jobs, Machine.Run (JobState.step kind) (initialJobState records) past jobs ∧
    past.flatMap JobEvent.io = trace.flatMap processIo ∧ Refines state phases jobs

section Exchanges

variable {kind : JobMapKind} {records : JobPtr → ImRgaJob RgaReq} {trace : List ProcessEvent}
  {past : List (JobEvent RgaReq)} {state after : ProcessState} {phases : Phases}
  {jobs : JobState RgaReq} {thread : Thread} {phase later : Phase}
  {before coming : JobPhase} {coe : Option UInt64} {acquired : Bool}
  {exchange : Sigma SysCall.Reply}
  {request : SysCall} {proposed answer : SysCall.Reply request}

/-- A request that the job machine knows nothing of. -/
theorem JobsRefined.stay {event : ProcessEvent}
    (run : Machine.Run (JobState.step kind) (initialJobState records) past jobs)
    (same : past.flatMap JobEvent.io = trace.flatMap processIo) (silent : processIo event = [])
    (refines : Refines after phases jobs) :
    JobsRefined kind records (event :: trace) after phases :=
  ⟨past, jobs, run, by rw [List.flatMap_cons, silent, same]; rfl, refines⟩

theorem JobsRefined.advance {event : ProcessEvent} {op : JobOp RgaReq} {next : JobState RgaReq}
    {made : JobEvent RgaReq}
    (run : Machine.Run (JobState.step kind) (initialJobState records) past jobs)
    (same : past.flatMap JobEvent.io = trace.flatMap processIo)
    (taken : JobState.step kind jobs op = some (next, made)) (io : made.io = processIo event)
    (refines : Refines after phases next) :
    JobsRefined kind records (event :: trace) after phases :=
  ⟨made :: past, next, run.next taken, by rw [List.flatMap_cons, List.flatMap_cons, io, same],
    refines⟩

/-- With the job machine at rest, a move that changes neither the mutex nor the heap. -/
theorem Refines.move (refines : Refines state phases jobs) (now : phases thread = some phase)
    (blocks : later.blocks = phase.blocks)
    (pc : later.job.pc = phase.job.pc)
    (quiet : ∀ ptr command request, later.job ≠ .submitting ptr command request) :
    Refines state (Function.update phases thread (some later)) jobs := by
  obtain ⟨heap, alike, named, next, mirrored⟩ := refines
  exact ⟨heap.move now blocks, alike, named, next,
    mirrored.move now pc quiet⟩

section Steps

variable (run : Machine.Run (JobState.step kind) (initialJobState records) past jobs)
  (same : past.flatMap JobEvent.io = trace.flatMap processIo) (refines : Refines state phases jobs)
  {holder : Option Thread} (guarded : MutexHeld state phases holder)

include run same refines guarded

theorem created_refined {handle : UInt32} {manager : JobManager RgaReq} {ptr : JobPtr}
    (now : phases thread = some ⟨.holding handle manager ptr, .out, coe, acquired⟩)
    (fresh : rgaMapFindJob manager.jobMap handle = none) :
    JobsRefined kind records
      (.exchanged thread state ⟨.unlockJobs (manager.insertJob kind handle ptr), ()⟩
        (state.unlockJobs (manager.insertJob kind handle ptr)) :: trace)
      (state.unlockJobs (manager.insertJob kind handle ptr))
      (Function.update phases thread (some ⟨.outside .idle, .out, coe, acquired⟩)) := by
  obtain ⟨heap, alike, named, next, mirrored⟩ := refines
  obtain ⟨_, _, rfl⟩ := guarded.holds now rfl
  have mine : ptr ∈ Phase.blocks ⟨.holding handle state.jobs ptr, .out, coe, acquired⟩ := by
    simp [Phase.blocks, JobPhase.blocks]
  obtain ⟨live, unused⟩ := heap.blocks thread _ ptr now mine
  have nodup := heap.nodup thread _ now
  have taken : JobState.step kind jobs (.createLock (named thread) (some ptr)) =
      some ({ jobs with manager := jobs.manager.insertJob kind handle ptr }.setPc
        (named thread) .idle, .created (named thread) handle ptr) := by
    simp only [JobState.step, mirrored.pc thread _ now, JobPhase.pc, JobState.createLock,
      alike.jobMap, fresh, unused, Bool.false_eq_true, if_false]
  refine .advance run same taken rfl ⟨?_,
    alike.insertJob kind handle ptr, named, next,
    mirrored.step (run_delivery run) (JobState.step_transition taken) now rfl ?_ (by simp)⟩
  · have kept : (state.unlockJobs (state.jobs.insertJob kind handle ptr)).heap = state.heap := by
      refine ProcessState.unlockJobs_heap fun other before => ?_
      simp [JobManager.insertJob, JobManager.setRecord, JobManager.setAllocated, before]
    rw [kept]
    refine heap.publish now mine ?_ ?_
    · rw [Phase.blocks_none rfl]
      exact Phase.blocks_coe nodup rfl
    · rw [Phase.blocks_none rfl]
      exact nodup_toList coe
  · simp [JobPhase.pc]

theorem cancelled_refined {pc : JobPc} {handle : UInt32} {manager : JobManager RgaReq}
    {ptr : JobPtr}
    (now : phases thread = some ⟨.inside pc manager, .out, coe, acquired⟩)
    (begins : pc = .idle ∨ pc = .mustCancel handle)
    (found : rgaMapFindJob manager.jobMap handle = some ptr) :
    JobsRefined kind records
      (.exchanged thread state
        ⟨.unlockJobs ((manager.removeJob handle).setAllocated ptr false), ()⟩
        (state.unlockJobs ((manager.removeJob handle).setAllocated ptr false)) :: trace)
      (state.unlockJobs ((manager.removeJob handle).setAllocated ptr false))
      (Function.update phases thread
        (some ⟨.outside (.cancelling handle), .out, coe, acquired⟩)) := by
  obtain ⟨heap, alike, named, next, mirrored⟩ := refines
  obtain ⟨_, _, rfl⟩ := guarded.holds now rfl
  have delivery := run_delivery run
  have waiting : jobs.pc (named thread) = .idle ∨ jobs.pc (named thread) = .mustCancel handle := by
    rw [mirrored.pc thread _ now]
    exact begins
  rw [← alike.jobMap] at found
  have taken : JobState.step kind jobs (.cancelLock (named thread) handle) =
      some ({ jobs with
          manager := (jobs.manager.removeJob handle).setAllocated ptr false }.setPc
        (named thread) (.cancelling handle), .cancelled (named thread) handle (some ptr)) := by
    simp only [JobState.step, waiting, if_true, JobState.cancelLock, found]
  refine .advance run same taken rfl ⟨?_, ?_, named, next,
    mirrored.step delivery (JobState.step_transition taken) now rfl ?_ (by simp)⟩
  · have record : jobs.manager.allocated ptr = true :=
      delivery.allocated ptr (by simp [(delivery.queued handle ptr found).1])
    refine heap.free now record rfl fun other different => ?_
    simp [ProcessState.unlockJobs, JobManager.setAllocated, JobManager.removeJob, different]
  · obtain ⟨jobMap, jobCount, records⟩ := alike.removeJob handle
    exact ⟨jobMap, jobCount, records⟩
  · simp [JobPhase.pc]

theorem cancelMissing_refined {pc : JobPc} {handle : UInt32} {manager : JobManager RgaReq}
    (now : phases thread = some ⟨.inside pc manager, .out, coe, acquired⟩)
    (begins : pc = .idle ∨ pc = .mustCancel handle)
    (missing : rgaMapFindJob manager.jobMap handle = none) :
    JobsRefined kind records
      (.exchanged thread state ⟨.unlockJobs manager, ()⟩ (state.unlockJobs manager) :: trace)
      (state.unlockJobs manager)
      (Function.update phases thread
        (some ⟨.outside (.cancelling handle), .out, coe, acquired⟩)) := by
  obtain ⟨heap, alike, named, next, mirrored⟩ := refines
  obtain ⟨_, _, rfl⟩ := guarded.holds now rfl
  have waiting : jobs.pc (named thread) = .idle ∨ jobs.pc (named thread) = .mustCancel handle := by
    rw [mirrored.pc thread _ now]
    exact begins
  rw [← alike.jobMap] at missing
  have taken : JobState.step kind jobs (.cancelLock (named thread) handle) =
      some (jobs.setPc (named thread) (.cancelling handle),
        .cancelled (named thread) handle none) := by
    simp only [JobState.step, waiting, if_true, JobState.cancelLock, missing]
  refine .advance run same taken rfl ⟨?_, alike, named, next,
    mirrored.step (run_delivery run) (JobState.step_transition taken) now rfl ?_ (by simp)⟩
  · rw [ProcessState.unlockJobs_heap fun _ => id]
    exact heap.move now rfl
  · simp [JobPhase.pc]

theorem refused_refined {handle : UInt32} {manager : JobManager RgaReq}
    (now : phases thread = some ⟨.inside (.created handle) manager, .out, coe, acquired⟩) :
    JobsRefined kind records
      (.exchanged thread state ⟨.unlockJobs manager, ()⟩ (state.unlockJobs manager) :: trace)
      (state.unlockJobs manager)
      (Function.update phases thread
        (some ⟨.outside (.mustCancel handle), .out, coe, acquired⟩)) := by
  obtain ⟨heap, alike, named, next, mirrored⟩ := refines
  obtain ⟨_, _, rfl⟩ := guarded.holds now rfl
  -- the job machine need not know whether the handle was there or there was no memory
  have taken : ∃ event, event.io = [] ∧ event.thread = named thread ∧
      JobState.step kind jobs (.createLock (named thread) none) =
        some (jobs.setPc (named thread) (.mustCancel handle), event) := by
    simp only [JobState.step, mirrored.pc thread _ now, JobPhase.pc, JobState.createLock]
    split
    · exact ⟨_, rfl, rfl, rfl⟩
    · exact ⟨_, rfl, rfl, rfl⟩
  obtain ⟨event, silent, acting, taken⟩ := taken
  refine .advance run same taken silent ⟨?_, alike, named,
    next, mirrored.step (run_delivery run) (JobState.step_transition taken) now acting ?_ (by simp)⟩
  · rw [ProcessState.unlockJobs_heap fun _ => id]
    exact heap.move now rfl
  · simp [JobPhase.pc]

theorem detached_refined {handle : UInt32} {manager : JobManager RgaReq} {ptr : JobPtr}
    {syncMode command : Int32}
    (now : phases thread = some ⟨.inside .idle manager, .out, coe, acquired⟩)
    (accepted : jobSyncMode syncMode = some command)
    (found : rgaMapFindJob manager.jobMap handle = some ptr) :
    JobsRefined kind records
      (.exchanged thread state ⟨.unlockJobs (manager.removeJob handle), ()⟩
        (state.unlockJobs (manager.removeJob handle)) :: trace)
      (state.unlockJobs (manager.removeJob handle))
      (Function.update phases thread
        (some ⟨.submitting ptr command (manager.userRequest ptr command), .out, coe,
          acquired⟩)) := by
  obtain ⟨heap, alike, named, next, mirrored⟩ := refines
  obtain ⟨_, _, rfl⟩ := guarded.holds now rfl
  have idle := mirrored.pc thread _ now
  rw [← alike.jobMap] at found
  have taken : JobState.step kind jobs (.submitLock (named thread) handle syncMode) =
      some ({ jobs with manager := jobs.manager.removeJob handle }.setPc (named thread)
        (.submitting ptr command), .detached (named thread) handle ptr) := by
    simp only [JobState.step, idle, JobPhase.pc, if_true, JobState.submitLock, accepted, found]
  refine .advance run same taken rfl ⟨?_,
    alike.removeJob handle, named, next,
    mirrored.step (run_delivery run) (JobState.step_transition taken) now rfl ?_ ?_⟩
  · have kept : (state.unlockJobs (state.jobs.removeJob handle)).heap = state.heap :=
      ProcessState.unlockJobs_heap fun _ => id
    rw [kept]
    exact heap.move now rfl
  · simp [JobPhase.pc]
  · rintro _ _ _ ⟨⟩
    exact alike.userRequest ptr command

omit guarded in
theorem submitted_refined {ptr : JobPtr} {command acquireFenceFd : Int32}
    {sent : RgaUserRequest RgaReq} (reply : IoctlReply)
    (now : phases thread = some ⟨.submitting ptr command sent, .out, coe, acquired⟩) :
    JobsRefined kind records
      (.exchanged thread state ⟨.requestSubmit sent acquireFenceFd, reply⟩ state :: trace) state
      (Function.update phases thread (some ⟨.submitted ptr, .out, coe, acquired⟩)) := by
  obtain ⟨heap, alike, named, next, mirrored⟩ := refines
  have delivery := run_delivery run
  have holding : jobs.pc (named thread) = .submitting ptr command := mirrored.pc thread _ now
  have record : jobs.manager.allocated ptr = true :=
    delivery.allocated ptr (by simp [(delivery.held _ ptr command holding).1])
  have unowned : ptr ∉ coe.toList := by
    intro member
    have owned : ptr ∈ Phase.blocks ⟨.submitting ptr command sent, .out, coe, acquired⟩ :=
      List.mem_append_left _ member
    rw [(heap.blocks thread _ ptr now owned).2] at record
    cases record
  have taken : JobState.step kind jobs (.submitIoctl (named thread) (0 ≤ reply.ret)) =
      some ({ jobs with manager := jobs.manager.setAllocated ptr false }.setPc (named thread) .idle,
        .submitIoctl (named thread) ptr sent (0 ≤ reply.ret)) := by
    simp only [JobState.step, holding, JobState.submitIoctl,
      mirrored.captured thread _ ptr command sent now rfl]
  refine .advance run same taken rfl ⟨?_,
    alike.setAllocated ptr false, named, next,
    mirrored.step delivery (JobState.step_transition taken) now rfl ?_ (by simp)⟩
  · refine heap.withdraw now record ?_ ?_
    · intro other member
      simp only [Phase.blocks, JobPhase.blocks, List.mem_append, List.mem_singleton] at member ⊢
      tauto
    · simp only [Phase.blocks, JobPhase.blocks]
      exact (nodup_toList coe).append (List.nodup_singleton ptr) (by simpa using unowned)
  · simp [JobPhase.pc]

theorem accepted_refined {handle : UInt32} {manager inserted : JobManager RgaReq} {req : RgaReq}
    {ptr : JobPtr}
    (now : phases thread = some ⟨.inside .idle manager, .out, coe, acquired⟩) (nonzero : handle ≠ 0)
    (appended : manager.appendTask handle req = .appended ptr inserted) :
    JobsRefined kind records
      (.exchanged thread state ⟨.unlockJobs inserted, ()⟩ (state.unlockJobs inserted) :: trace)
      (state.unlockJobs inserted)
      (Function.update phases thread (some ⟨.outside .idle, .out, coe, acquired⟩)) := by
  obtain ⟨heap, alike, named, next, mirrored⟩ := refines
  obtain ⟨_, _, rfl⟩ := guarded.holds now rfl
  have idle : jobs.pc (named thread) = .idle := mirrored.pc thread _ now
  obtain ⟨here, queued, later, blocks⟩ := alike.appendTask appended
  have taken : JobState.step kind jobs (.taskLock (named thread) handle req) =
      some ({ jobs with manager := here }, .accepted (named thread) handle ptr req) := by
    simp only [JobState.step, idle, nonzero, ne_eq, not_false_eq_true, and_self, if_true,
      JobState.taskLock, queued]
  have unfreed : inserted.allocated = state.jobs.allocated := by
    obtain ⟨_, _, rfl⟩ := JobManager.appendTask_eq_appended.mp appended
    rfl
  refine .advance run same taken rfl ⟨?_, later, named, next,
    mirrored.step (run_delivery run) (JobState.step_transition taken) now rfl idle (by simp)⟩
  rw [ProcessState.unlockJobs_heap (unfreed ▸ fun _ => id), blocks]
  exact heap.move now rfl

theorem jobMove_refined (now : phases thread = some ⟨before, .out, coe, acquired⟩)
    (served : state.serve request proposed = some (answer, after))
    (moved : JobMove kind before ⟨request, answer⟩ coming) :
    JobsRefined kind records (.exchanged thread state ⟨request, answer⟩ after :: trace) after
      (Function.update phases thread (some ⟨coming, .out, coe, acquired⟩)) := by
  obtain ⟨heap, alike, named, next, mirrored⟩ := id refines
  have standing := mirrored.pc thread _ now
  cases moved with
  | createFailed flags =>
      cases served
      have taken : JobState.step kind jobs (.createIoctl (named thread) none) =
          some (jobs, .createFailed (named thread)) := by
        simp only [JobState.step, standing, JobPhase.pc, if_true]
      exact .advance run same taken rfl (refines.move now rfl rfl (by simp))
  | driverCreated flags handle =>
      cases served
      have taken : JobState.step kind jobs (.createIoctl (named thread) (some handle)) =
          some (jobs.setPc (named thread) (.created handle),
            .driverCreated (named thread) handle) := by
        simp only [JobState.step, standing, JobPhase.pc, if_true]
      refine .advance run same taken rfl ⟨heap.move now rfl, alike,
        named, next, mirrored.step (run_delivery run) (JobState.step_transition taken) now rfl ?_
          (by simp)⟩
      simp [JobPhase.pc]
  | lock pc manager =>
      obtain ⟨_, rfl, rfl⟩ := ProcessState.serve_lockJobs served
      exact .stay run same rfl ⟨heap.move now rfl,
        ⟨alike.jobMap, alike.jobCount, alike.records⟩, named, next, mirrored.move now rfl (by simp)⟩
  | noBlock handle manager =>
      obtain ⟨_, rfl⟩ | ⟨_, given, _⟩ := ProcessState.serve_malloc served
      swap
      · cases given
      exact .stay run same rfl (refines.move now rfl rfl (by simp))
  | block handle manager ptr fresh =>
      obtain ⟨none, _⟩ | ⟨_, given, _, free, rfl⟩ := ProcessState.serve_malloc served
      · cases none
      cases given
      refine .stay run same rfl ⟨heap.gain now free ?_ ?_, alike,
        named, next, mirrored.move now rfl (by simp)⟩
      · intro other member
        simp only [Phase.blocks, JobPhase.blocks, List.mem_append, List.mem_singleton] at member ⊢
        tauto
      · have unowned : ptr ∉ coe.toList := by
          intro member
          have owned : ptr ∈
              Phase.blocks ⟨.inside (.created handle) manager, .out, coe, acquired⟩ :=
            List.mem_append_left _ member
          rw [(heap.blocks thread _ ptr now owned).1] at free
          cases free
        simp only [Phase.blocks, JobPhase.blocks]
        exact (nodup_toList coe).append (List.nodup_singleton ptr) (by simpa using unowned)
  | refused handle manager =>
      cases served
      exact refused_refined run same refines guarded now
  | created handle manager ptr fresh =>
      cases served
      exact created_refined run same refines guarded now fresh
  | cancelMissing pc handle manager begins missing =>
      cases served
      exact cancelMissing_refined run same refines guarded now begins missing
  | cancelled pc handle manager ptr begins found =>
      cases served
      exact cancelled_refined run same refines guarded now begins found
  | cancelIoctl dropped handle succeeds =>
      cases served
      have taken : JobState.step kind jobs (.cancelIoctl (named thread) succeeds) =
          some (jobs.setPc (named thread) .idle,
            .cancelIoctl (named thread) handle succeeds) := by
        simp only [JobState.step, standing, JobPhase.pc]
      refine .advance run same taken rfl ⟨heap.move now rfl, alike,
        named, next, mirrored.step (run_delivery run) (JobState.step_transition taken) now rfl ?_
          (by simp)⟩
      simp [JobPhase.pc]
  | detached handle manager ptr syncMode command accepted found =>
      cases served
      exact detached_refined run same refines guarded now accepted found
  | submitted ptr command sent acquireFenceFd reply =>
      cases served
      exact submitted_refined run same refines reply now
  | freed ptr =>
      cases served
      have mine : ptr ∈ Phase.blocks ⟨.submitted ptr, .out, coe, acquired⟩ := by
        simp [Phase.blocks, JobPhase.blocks]
      refine .stay run same rfl ⟨heap.drop now mine ?_ ?_, alike,
        named, next, mirrored.move now rfl (by simp)⟩
      · rw [Phase.blocks_none rfl]
        exact Phase.blocks_coe (heap.nodup thread _ now) rfl
      · rw [Phase.blocks_none rfl]
        exact nodup_toList coe
  | configIoctl handle manager ptr syncMode command acquireFenceFd reply accepted found =>
      cases served
      obtain ⟨_, _, rfl⟩ := guarded.holds now rfl
      rw [← alike.jobMap] at found
      have taken : JobState.step kind jobs
          (.configLock (named thread) handle syncMode (0 ≤ reply.ret)) =
            some (jobs, .configIoctl (named thread) handle ptr
              (state.jobs.userRequest ptr command) (0 ≤ reply.ret)) := by
        simp only [JobState.step, standing, JobPhase.pc, if_true, JobState.configLock, accepted,
          found, alike.userRequest]
      exact .advance run same taken rfl (refines.move now rfl rfl (by simp))
  | accepted handle manager req ptr inserted nonzero appended =>
      cases served
      exact accepted_refined run same refines guarded now nonzero appended
  | unchanged manager =>
      cases served
      obtain ⟨_, _, rfl⟩ := guarded.holds now rfl
      refine .stay run same rfl ⟨?_, alike, named, next,
        mirrored.move now rfl (by simp)⟩
      rw [ProcessState.unlockJobs_heap fun _ => id]
      exact heap.move now rfl

end Steps

/-- What concerns neither jobs nor the heap leaves them as they are. -/
theorem Refines.apart (refines : Refines state phases jobs)
    (served : state.serve request proposed = some (answer, after))
    (apart : request.ofJobs = false) : Refines after phases jobs := by
  obtain ⟨jobsSame, _, heapSame⟩ := ProcessState.serve_apart served apart
  obtain ⟨heap, alike, mirrored⟩ := refines
  exact ⟨heapSame ▸ heap, jobsSame ▸ alike, mirrored⟩

theorem SessionMove.silent {standing reached : SessionPhase} {opened : Bool}
    (moved : SessionMove standing exchange reached opened) : exchangeIo exchange = [] := by
  cases moved <;> rfl

theorem plain_silent (plain : request.plain = true) : exchangeIo ⟨request, answer⟩ = [] := by
  cases request <;> first
    | rfl
    | cases plain

theorem move_refined (refined : JobsRefined kind records trace state phases)
    {holder : Option Thread} (guarded : MutexHeld state phases holder)
    (now : phases thread = some phase)
    (served : state.serve request proposed = some (answer, after))
    (moved : Move kind phase ⟨request, answer⟩ later) :
    JobsRefined kind records (.exchanged thread state ⟨request, answer⟩ after :: trace) after
      (Function.update phases thread (some later)) := by
  obtain ⟨past, jobs, run, same, refines⟩ := refined
  cases moved with
  | job before coming coe acquired _ moved =>
      exact jobMove_refined run same refines guarded now served moved
  | session pc before coming coe acquired opened _ moved =>
      have apart := refines.apart served moved.apart
      exact .stay run same moved.silent (apart.move now rfl rfl (by simp))
  | abandoned pc session reply coe acquired failed =>
      obtain ⟨heap, alike, named, next, mirrored⟩ := refines.apart served rfl
      exact .stay run same rfl ⟨heap.move now rfl, alike, _, _,
        mirrored.renew rfl⟩
  | coefficients coe acquired block =>
      obtain ⟨heap, alike, named, next, mirrored⟩ := refines
      obtain ⟨rfl, rfl⟩ | ⟨ptr, rfl, _, free, rfl⟩ := ProcessState.serve_malloc served
      · exact .stay run same rfl ⟨heap.lose now rfl, alike, named,
          next, mirrored.move now rfl (by simp)⟩
      · refine .stay run same rfl ⟨heap.gain now free ?_ ?_, alike,
          named, next, mirrored.move now rfl (by simp)⟩
        · simp [Phase.blocks, JobPhase.blocks]
        · rw [Phase.blocks_none rfl]
          exact nodup_toList (some ptr)
  | released ptr acquired =>
      obtain ⟨heap, alike, named, next, mirrored⟩ := refines
      cases served
      refine .stay run same rfl ⟨heap.drop now ?_ ?_ ?_, alike,
        named, next, mirrored.move now rfl (by simp)⟩
      · simp [Phase.blocks]
      · simp [Phase.blocks, JobPhase.blocks]
      · simp [Phase.blocks, JobPhase.blocks]
  | plain pc coe acquired _ _ plain =>
      have apart := refines.apart served (plain_apart plain)
      exact .stay run same (plain_silent plain) (apart.move now rfl rfl (by simp))

theorem jobsRefined_kept (kind : JobMapKind) (records : JobPtr → ImRgaJob RgaReq) :
    KeptAlong ProcessState.serve (Move kind) AtRest.ends {}
      fun (trace : List ProcessEvent) state phases =>
        LocksHeld state phases ∧ JobsRefined kind records trace state phases := by
  have locks := locksHeld_kept kind
  constructor
  · rintro past state phases thread entry ⟨held, trace, jobs, run, same, refines⟩ fresh
    obtain ⟨heap, alike, named, next, mirrored⟩ := refines
    exact ⟨locks.entered [] state phases thread entry held fresh,
      .stay run same rfl ⟨heap.enter rfl, alike, _, _, mirrored.renew rfl⟩⟩
  · rintro past state phases thread phase later request proposed answer after ⟨held, refined⟩ now
      served moved
    obtain ⟨holder, guarded⟩ := held.mutex
    exact ⟨locks.exchanged [] state phases thread phase later request proposed answer after held now
      served moved, move_refined refined guarded now served moved⟩
  · rintro past state phases thread phase calls result ⟨held, trace, jobs, run, same, refines⟩ now
      ended
    obtain ⟨heap, alike, named, next, mirrored⟩ := refines
    exact ⟨locks.returned [] state phases thread phase calls result held now ended,
      .stay run same rfl ⟨heap.forget thread, alike, named, next, mirrored.forget thread⟩⟩

theorem jobsRefined_start (kind : JobMapKind) (records : JobPtr → ImRgaJob RgaReq) :
    JobsRefined kind records [] (Process.start records).shared fun _ => none := by
  refine ⟨[], initialJobState records, .init, rfl, ?_, ⟨rfl, rfl, rfl⟩, fun _ => 0, 0, ?_⟩
  · constructor <;> simp [Process.start, initialJobState]
  · constructor <;> simp [initialJobState]

end Exchanges

theorem jobsRefined_run (kind : JobMapKind) (records : JobPtr → ImRgaJob RgaReq)
    {trace : List ProcessEvent} {state : Process}
    (run : Machine.Run (Process.step kind) (Process.start records) trace state) :
    ∃ past jobs, Machine.Run (JobState.step kind) (initialJobState records) past jobs ∧
      past.flatMap JobEvent.io = trace.flatMap processIo ∧
        Alike jobs.manager state.shared.jobs := by
  have kept := jobsRefined_kept kind records
  obtain ⟨phases, _, _, past, jobs, done, same, refines⟩ := kept.run entryPoint_follows
    ⟨locksHeld_start records, jobsRefined_start kind records⟩ (fun _ => rfl) run
  exact ⟨past, jobs, done, same, refines.alike⟩

/-- Every interleaving of calls of the API is a run of the job machine, with the same ioctls in
the same order and the same jobs at the end. -/
theorem process_refines_jobs (kind : JobMapKind) (records : JobPtr → ImRgaJob RgaReq)
    {trace : List ProcessEvent} {state : Process}
    (run : Machine.Run (Process.step kind) (Process.start records) trace state) :
    ∃ past jobs, Machine.Run (JobState.step kind) (initialJobState records) past jobs ∧
      past.flatMap JobEvent.io = trace.flatMap processIo ∧
      jobs.manager.jobMap = state.shared.jobs.jobMap ∧
      jobs.manager.jobCount = state.shared.jobs.jobCount ∧
      jobs.manager.records = state.shared.jobs.records := by
  obtain ⟨past, jobs, done, same, alike⟩ := jobsRefined_run kind records run
  exact ⟨past, jobs, done, same, alike.jobMap, alike.jobCount, alike.records⟩

theorem process_refines_jobs_sample :
    ∃ trace state, Machine.Run (Process.step .stdMap)
        (Process.start fun _ => { req := fun _ => default, id := 0 }) trace state ∧
      (∃ request, trace.flatMap processIo =
        [.cancel 7 true, .submit request true, .create (some 7)]) ∧
      ∃ past jobs, Machine.Run (JobState.step .stdMap)
          (initialJobState fun _ => { req := fun _ => default, id := 0 }) past jobs ∧
        past.flatMap JobEvent.io = trace.flatMap processIo := by
  have run := Machine.Run.of_exec (Process.step .stdMap)
    (Process.start fun _ => { req := fun _ => default, id := 0 }) sampleProcessOps rfl
  obtain ⟨past, jobs, done, same, _⟩ := process_refines_jobs .stdMap _ run
  exact ⟨_, _, run, ⟨_, rfl⟩, past, jobs, done, same⟩

end LibRga.Entry

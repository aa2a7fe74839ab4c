import LibRga.EntryProtocol
import LibRga.Library.Progress

/-!
The job mutex and the lock of the session, whatever the threads are doing.

No call waits for one of them with the other one held, so that no interleaving
comes to a deadlock.
-/

namespace LibRga.Entry

open Interaction

/-- What the critical section has found, for a call that is in it. -/
def JobPhase.found : JobPhase → Option (JobManager RgaReq)
  | inside _ manager | holding _ manager _ => some manager
  | _ => none

def SessionPhase.found : SessionPhase → Option SessionData
  | writing session | tried session _ => some session
  | _ => none

abbrev Phases := Thread → Option Phase

abbrev MutexHeld (state : ProcessState) (phases : Phases) (holder : Option Thread) : Prop :=
  Guarded (fun phase => phase.job.found) state.jobsLocked state.jobs phases holder

abbrev SessionHeld (state : ProcessState) (phases : Phases) (writer : Option Thread) : Prop :=
  Guarded (fun phase => phase.session.found) state.sessionLocked state.session phases writer

structure LocksHeld (state : ProcessState) (phases : Phases) : Prop where
  mutex : ∃ holder, MutexHeld state phases holder
  session : ∃ writer, SessionHeld state phases writer

section Moves

variable {kind : JobMapKind} {state after : ProcessState} {phases : Phases} {thread : Thread}
  {phase later : Phase} {holder : Option Thread} {request : SysCall}
  {proposed answer : SysCall.Reply request}

theorem MutexHeld.frame (guarded : MutexHeld state phases holder)
    (served : state.serve request proposed = some (answer, after))
    (apart : request.ofJobs = false) : MutexHeld after phases holder := by
  obtain ⟨jobs, locked, _⟩ := ProcessState.serve_apart served apart
  unfold MutexHeld
  rw [jobs, locked]
  exact guarded

theorem SessionMove.apart {standing reached : SessionPhase} {opened : Bool}
    (moved : SessionMove standing ⟨request, answer⟩ reached opened) : request.ofJobs = false := by
  cases moved <;> rfl

theorem plain_apart (plain : request.plain = true) : request.ofJobs = false := by
  cases request <;> first
    | rfl
    | cases plain

theorem jobMove_mutex {before coming : JobPhase} {coe : Option UInt64} {acquired : Bool}
    (guarded : MutexHeld state phases holder)
    (now : phases thread = some ⟨before, .out, coe, acquired⟩)
    (served : state.serve request proposed = some (answer, after))
    (moved : JobMove kind before ⟨request, answer⟩ coming) :
    ∃ holder, MutexHeld after
      (Function.update phases thread (some ⟨coming, .out, coe, acquired⟩)) holder := by
  cases moved with
  | lock pc manager =>
      obtain ⟨free, rfl, rfl⟩ := ProcessState.serve_lockJobs served
      have guarded : Guarded (fun phase : Phase => phase.job.found) false state.jobs phases
          holder := free ▸ guarded
      exact ⟨some thread, guarded.take rfl⟩
  | refused | created | cancelMissing | cancelled | detached | accepted | unchanged =>
      cases served
      exact ⟨none, guarded.release now rfl rfl _⟩
  | noBlock handle manager | block handle manager ptr =>
      obtain ⟨_, rfl⟩ | ⟨_, _, _, _, rfl⟩ := ProcessState.serve_malloc served
      · exact ⟨holder, guarded.move now rfl⟩
      · exact ⟨holder, guarded.move now rfl⟩
  | createFailed | driverCreated | cancelIoctl | submitted | freed | configIoctl =>
      cases served
      exact ⟨holder, guarded.move now rfl⟩

theorem move_mutex (guarded : MutexHeld state phases holder) (now : phases thread = some phase)
    (served : state.serve request proposed = some (answer, after))
    (moved : Move kind phase ⟨request, answer⟩ later) :
    ∃ holder, MutexHeld after (Function.update phases thread (some later)) holder := by
  cases moved with
  | job before coming coe acquired _ moved => exact jobMove_mutex guarded now served moved
  | session pc before coming coe acquired opened _ moved =>
      have guarded := guarded.frame served moved.apart
      exact ⟨holder, guarded.move now rfl⟩
  | abandoned pc session reply coe acquired failed =>
      have guarded := guarded.frame served rfl
      exact ⟨holder, guarded.move now rfl⟩
  | coefficients coe acquired block =>
      obtain ⟨_, rfl⟩ | ⟨_, _, _, _, rfl⟩ := ProcessState.serve_malloc served
      · exact ⟨holder, guarded.move now rfl⟩
      · exact ⟨holder, guarded.move now rfl⟩
  | released ptr acquired =>
      cases served
      exact ⟨holder, guarded.move now rfl⟩
  | plain pc coe acquired _ _ plain =>
      have guarded := guarded.frame served (plain_apart plain)
      exact ⟨holder, guarded.move now rfl⟩

theorem sessionMove_writer {before coming : SessionPhase} {pc : JobPc} {coe : Option UInt64}
    {acquired opened : Bool} {writer : Option Thread} (guarded : SessionHeld state phases writer)
    (now : phases thread = some ⟨.outside pc, before, coe, acquired⟩)
    (served : state.serve request proposed = some (answer, after))
    (moved : SessionMove before ⟨request, answer⟩ coming opened) :
    ∃ writer, SessionHeld after (Function.update phases thread
      (some ⟨.outside pc, coming, coe, opened || acquired⟩)) writer := by
  cases moved with
  | found | missed =>
      obtain ⟨_, _, rfl⟩ := ProcessState.serve_readSession served
      exact ⟨writer, guarded.move now rfl⟩
  | lockFound session opened =>
      obtain ⟨free, rfl, rfl⟩ := ProcessState.serve_lockSession served
      have kept : state.lockSession.sessionLocked = state.sessionLocked := by
        rw [free]
        simpa [ProcessState.lockSession] using opened
      refine ⟨writer, ?_⟩
      unfold SessionHeld
      rw [kept]
      exact guarded.move now rfl
  | lock session closed =>
      obtain ⟨free, rfl, rfl⟩ := ProcessState.serve_lockSession served
      have taken : state.lockSession.sessionLocked = true := by
        simpa [ProcessState.lockSession] using closed
      have guarded : Guarded (fun phase : Phase => phase.session.found) false state.session phases
          writer := free ▸ guarded
      refine ⟨some thread, ?_⟩
      unfold SessionHeld
      rw [taken]
      exact guarded.take rfl
  | init asker session reply =>
      obtain ⟨_, rfl⟩ := ProcessState.serve_initSession served
      exact ⟨writer, guarded.move now rfl⟩
  | unlock session reply succeeded =>
      cases served
      exact ⟨none, guarded.release now rfl rfl _⟩

theorem SessionHeld.frame {writer : Option Thread} (guarded : SessionHeld state phases writer)
    (served : state.serve request proposed = some (answer, after))
    (elsewhere : request.ofSession = false) : SessionHeld after phases writer := by
  obtain ⟨session, locked, _⟩ := ProcessState.serve_elsewhere served elsewhere
  unfold SessionHeld
  rw [session, locked]
  exact guarded

theorem JobMove.elsewhere {standing reached : JobPhase}
    (moved : JobMove kind standing ⟨request, answer⟩ reached) : request.ofSession = false := by
  cases moved <;> rfl

theorem plain_elsewhere (plain : request.plain = true) : request.ofSession = false := by
  cases request <;> first
    | rfl
    | cases plain

theorem move_writer {writer : Option Thread} (guarded : SessionHeld state phases writer)
    (now : phases thread = some phase)
    (served : state.serve request proposed = some (answer, after))
    (moved : Move kind phase ⟨request, answer⟩ later) :
    ∃ writer, SessionHeld after (Function.update phases thread (some later)) writer := by
  cases moved with
  | job before coming coe acquired _ moved =>
      have guarded := guarded.frame served moved.elsewhere
      exact ⟨writer, guarded.move now rfl⟩
  | session pc before coming coe acquired opened _ moved =>
      exact sessionMove_writer guarded now served moved
  | abandoned pc session reply coe acquired failed =>
      cases served
      exact ⟨none, guarded.release now rfl rfl _⟩
  | coefficients coe acquired block =>
      have guarded := guarded.frame served rfl
      exact ⟨writer, guarded.move now rfl⟩
  | released ptr acquired =>
      have guarded := guarded.frame served rfl
      exact ⟨writer, guarded.move now rfl⟩
  | plain pc coe acquired _ _ plain =>
      have guarded := guarded.frame served (plain_elsewhere plain)
      exact ⟨writer, guarded.move now rfl⟩

end Moves

theorem locksHeld_start (records : JobPtr → ImRgaJob RgaReq) :
    LocksHeld (Process.start records).shared fun _ => none :=
  ⟨⟨none, .start _⟩, none, .start _⟩

theorem locksHeld_kept (kind : JobMapKind) :
    KeptAlong ProcessState.serve (Move kind) AtRest.ends {}
      fun (_ : List ProcessEvent) => LocksHeld := by
  constructor
  · rintro _ state phases thread entry ⟨⟨holder, mutex⟩, writer, session⟩ fresh
    have nowhere {δ : Type} {view : Phase → Option δ} (phase : Phase)
        (there : phases thread = some phase) : view phase = none := by
      rw [fresh] at there
      cases there
    refine ⟨⟨holder, mutex.turn nowhere ?_⟩, writer, session.turn nowhere ?_⟩
    · rintro _ ⟨⟩
      rfl
    · rintro _ ⟨⟩
      rfl
  · rintro _ state phases thread phase later request proposed answer after
      ⟨⟨holder, mutex⟩, writer, session⟩ now served moved
    exact ⟨move_mutex mutex now served moved, move_writer session now served moved⟩
  · rintro _ state phases thread phase calls result ⟨⟨holder, mutex⟩, writer, session⟩ now ended
    refine ⟨⟨holder, mutex.turn ?_ ?_⟩, writer, session.turn ?_ ?_⟩
    · intro other there
      rw [now] at there
      cases there
      rw [ended.job]
      rfl
    · rintro _ ⟨⟩
    · intro other there
      rw [now] at there
      cases there
      rw [ended.session]
      rfl
    · rintro _ ⟨⟩

/-! Progress -/

/-- A call in no critical section. -/
def Unlocked (phase : Phase) : Prop :=
  phase.job.found = none ∧ phase.session.found = none

/-- With one of the locks no call asks for either. -/
theorem Move.inside {kind : JobMapKind} {phase later : Phase} {request : SysCall}
    {answer : SysCall.Reply request} (moved : Move kind phase ⟨request, answer⟩ later)
    (inside : ¬Unlocked phase) :
    request ≠ .readSession ∧ request ≠ .lockSession ∧ request ≠ .lockJobs := by
  cases moved with
  | job before coming coe acquired _ moved =>
      cases moved with
      | lock pc manager => exact absurd ⟨rfl, rfl⟩ inside
      | _ => exact ⟨by simp, by simp, by simp⟩
  | session pc before coming coe acquired opened _ moved =>
      cases moved with
      | found | missed | lockFound | lock => exact absurd ⟨rfl, rfl⟩ inside
      | _ => exact ⟨by simp, by simp, by simp⟩
  | abandoned | coefficients | released => exact ⟨by simp, by simp, by simp⟩
  | plain pc coe acquired _ _ plain => exact absurd ⟨rfl, rfl⟩ inside

theorem serve_free {state : ProcessState} (jobsFree : state.jobsLocked = false)
    (sessionFree : state.sessionLocked = false) (request : SysCall) :
    Ready ProcessState.serve state request := by
  refine ⟨request.anyReply, ?_⟩
  cases request with
  | readSession => simp [ProcessState.serve, sessionFree]
  | lockSession => simp [ProcessState.serve, sessionFree]
  | lockJobs => simp [ProcessState.serve, jobsFree]
  | _ => rfl

theorem locks_progressive (kind : JobMapKind) :
    Progressive (EntryPoint.program kind) ProcessState.serve (Move kind) AtRest.ends {}
      (fun (state : ProcessState) (phases : Phases) => LocksHeld state phases) Unlocked where
  follows := entryPoint_follows
  kept := locksHeld_kept kind
  ended := by
    rintro phase result ⟨job, session⟩
    rw [Unlocked, job, session]
    exact ⟨rfl, rfl⟩
  busy := by
    intro state phases thread phase request _ _ inside asks
    obtain ⟨later, moved⟩ := asks request.anyReply
    exact state.serve_ready (moved.inside inside)
  calm := by
    rintro state phases thread phase request ⟨⟨holder, mutex⟩, writer, session⟩ now others asks
    obtain ⟨later, moved⟩ := asks request.anyReply
    by_cases inside : Unlocked phase
    · have all : ∀ other another, phases other = some another → Unlocked another := by
        intro other another there
        by_cases same : other = thread
        · rw [same, now] at there
          cases there
          exact inside
        · exact others other another same there
      have jobsFree := mutex.free fun other another there => (all other another there).1
      have sessionFree := session.free fun other another there => (all other another there).2
      exact serve_free jobsFree sessionFree request
    · exact state.serve_ready (moved.inside inside)

end LibRga.Entry

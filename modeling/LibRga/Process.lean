import LibRga.EntryPoints
import LibRga.Library.Progress
import LibRga.SessionAccounting

/-!
The threads of a process in the im2d API at the same time.

What they share is the job manager under its mutex, the session under its lock,
the heap and the fds of the device. The driver, the log and the context of a
thread answer as they like.
-/

namespace LibRga.Entry

open Interaction

/-- The requests that reach the jobs or the heap. -/
def SysCall.ofJobs : SysCall → Bool
  | lockJobs | unlockJobs _ | malloc | free _ => true
  | _ => false

/-- An answer that the environment can give. -/
def SysCall.anyReply : (request : SysCall) → SysCall.Reply request
  | lockJobs => { records := fun _ => { req := fun _ => default, id := 0 } }
  | loadUapiVersion => .unknown
  | initSession _ _ => { fd := -1 }
  | malloc => none
  | readSession | lockSession | importBuffer _ | requestCreate _ | requestSubmit _ _
  | requestConfig _ _ | blit _ _ _ | modernSyncMerge _ _ _ | legacySyncMerge _ _ _ | strayRead _ _
  | loadContext | logEnabled | updateLog | loadIsDebug | releaseBuffer _ | requestCancel _ _
  | poll _ | unlockSession _ | unlockJobs _ | free _ | close _ | storeUapiVersion _ => default

/-- The requests that reach the session. -/
def SysCall.ofSession : SysCall → Bool
  | readSession | lockSession | initSession _ _ | unlockSession _ => true
  | _ => false

structure ProcessState where
  jobs : JobManager RgaReq
  jobsLocked : Bool := false
  /-- The blocks that `malloc` has given and that are not free. -/
  heap : UInt64 → Bool := fun _ => false
  session : SessionData := {}
  /-- Held for writing. -/
  sessionLocked : Bool := false
  ledger : DeviceLedger := {}
  uapiVersion : Fenced.UapiVersion := .unknown

namespace ProcessState

def setHeap (state : ProcessState) (ptr : UInt64) (live : Bool) : ProcessState :=
  { state with heap := fun other => if other = ptr then live else state.heap other }

/-- The mutex taken; the blocks in use are noted, so that the critical section can free some. -/
def lockJobs (state : ProcessState) : ProcessState :=
  { state with jobs := { state.jobs with allocated := state.heap }, jobsLocked := true }

def unlockJobs (state : ProcessState) (manager : JobManager RgaReq) : ProcessState :=
  { state with
    jobs := manager
    jobsLocked := false
    heap := fun ptr =>
      state.heap ptr && !(state.jobs.allocated ptr && !manager.allocated ptr) }

/-- `pthread_rwlock_wrlock` where the session is tested again: it is kept only to initialise. -/
def lockSession (state : ProcessState) : ProcessState :=
  { state with sessionLocked := !decide (0 < state.session.rgaDevFd) }

/-- A request with the answer it gets; none where the thread has to wait, and for an answer that
the system does not give. -/
def serve (state : ProcessState) :
    (request : SysCall) → SysCall.Reply request → Option (SysCall.Reply request × ProcessState)
  | .readSession, _ => if state.sessionLocked then none else some (state.session, state)
  | .lockSession, _ => if state.sessionLocked then none else some (state.session, state.lockSession)
  | .initSession _ session, reply =>
      -- `open` does not return an fd that is open
      if 0 ≤ reply.fd ∧ reply.fd ∈ state.ledger.fds then none
      else some (reply, { state with
        ledger := state.ledger.replay (session.rgaSessionInit reply).2.2 })
  | .unlockSession session, _ =>
      some ((), { state with session := session, sessionLocked := false })
  | .lockJobs, _ => if state.jobsLocked then none else some (state.lockJobs.jobs, state.lockJobs)
  | .unlockJobs manager, _ => some ((), state.unlockJobs manager)
  | .malloc, block =>
      match block with
      | none => some (none, state)
      | some ptr =>
          -- `malloc` never returns a block that is still in use
          if ptr = 0 ∨ state.heap ptr then none else some (some ptr, state.setHeap ptr true)
  | .free ptr, _ => some ((), state.setHeap ptr false)
  | .loadUapiVersion, _ => some (state.uapiVersion, state)
  | .storeUapiVersion version, _ => some ((), { state with uapiVersion := version })
  | .strayRead _ _, session => some (session, state)
  | .logEnabled, enabled => some (enabled, state)
  | .updateLog, enabled => some (enabled, state)
  | .loadIsDebug, enabled => some (enabled, state)
  | .loadContext, context => some (context, state)
  | .importBuffer _, reply => some (reply, state)
  | .releaseBuffer _, reply => some (reply, state)
  | .requestCreate _, reply => some (reply, state)
  | .requestCancel _ _, reply => some (reply, state)
  | .requestSubmit _ _, reply => some (reply, state)
  | .requestConfig _ _, reply => some (reply, state)
  | .blit _ _ _, reply => some (reply, state)
  | .poll _, reply => some (reply, state)
  | .close _, _ => some ((), state)
  | .modernSyncMerge _ _ _, reply => some (reply, state)
  | .legacySyncMerge _ _ _, reply => some (reply, state)

example (state : ProcessState) (fd : Int32) : state.serve (.close fd) () = some ((), state) := by
  simp only [serve]

section Serve

variable {state after : ProcessState}

theorem serve_lockJobs {proposed answer : JobManager RgaReq}
    (served : state.serve .lockJobs proposed = some (answer, after)) :
    state.jobsLocked = false ∧ answer = state.lockJobs.jobs ∧ after = state.lockJobs := by
  simp only [serve] at served
  split at served
  · cases served
  · rename_i free
    cases served
    exact ⟨Bool.eq_false_iff.mpr free, rfl, rfl⟩

theorem serve_malloc {proposed block : Option UInt64}
    (served : state.serve .malloc proposed = some (block, after)) :
    block = none ∧ after = state ∨
      ∃ ptr, block = some ptr ∧ ptr ≠ 0 ∧ state.heap ptr = false ∧
        after = state.setHeap ptr true := by
  cases proposed with
  | none =>
      cases served
      exact .inl ⟨rfl, rfl⟩
  | some ptr =>
      simp only [serve] at served
      split at served
      · cases served
      · rename_i unused
        cases served
        obtain ⟨nonnull, free⟩ := not_or.mp unused
        exact .inr ⟨ptr, rfl, nonnull, Bool.eq_false_iff.mpr free, rfl⟩

theorem serve_readSession {proposed answer : SessionData}
    (served : state.serve .readSession proposed = some (answer, after)) :
    state.sessionLocked = false ∧ answer = state.session ∧ after = state := by
  simp only [serve] at served
  split at served
  · cases served
  · rename_i free
    cases served
    exact ⟨Bool.eq_false_iff.mpr free, rfl, rfl⟩

theorem serve_lockSession {proposed answer : SessionData}
    (served : state.serve .lockSession proposed = some (answer, after)) :
    state.sessionLocked = false ∧ answer = state.session ∧ after = state.lockSession := by
  simp only [serve] at served
  split at served
  · cases served
  · rename_i free
    cases served
    exact ⟨Bool.eq_false_iff.mpr free, rfl, rfl⟩

theorem serve_initSession {asker : Asker} {session : SessionData} {proposed reply : SessionReply}
    (served : state.serve (.initSession asker session) proposed = some (reply, after)) :
    ¬(0 ≤ reply.fd ∧ reply.fd ∈ state.ledger.fds) ∧
      after = { state with ledger := state.ledger.replay (session.rgaSessionInit reply).2.2 } := by
  simp only [serve] at served
  split at served
  · cases served
  · rename_i unused
    cases served
    exact ⟨unused, rfl⟩

theorem serve_apart {request : SysCall} {proposed answer : SysCall.Reply request}
    (served : state.serve request proposed = some (answer, after))
    (apart : request.ofJobs = false) :
    after.jobs = state.jobs ∧ after.jobsLocked = state.jobsLocked ∧ after.heap = state.heap := by
  cases request with
  | lockJobs | unlockJobs manager | malloc | free ptr => cases apart
  | readSession =>
      obtain ⟨_, _, rfl⟩ := serve_readSession served
      exact ⟨rfl, rfl, rfl⟩
  | lockSession =>
      obtain ⟨_, _, rfl⟩ := serve_lockSession served
      exact ⟨rfl, rfl, rfl⟩
  | initSession asker session =>
      obtain ⟨_, rfl⟩ := serve_initSession served
      exact ⟨rfl, rfl, rfl⟩
  | _ =>
      cases served
      exact ⟨rfl, rfl, rfl⟩

theorem serve_elsewhere {request : SysCall} {proposed answer : SysCall.Reply request}
    (served : state.serve request proposed = some (answer, after))
    (elsewhere : request.ofSession = false) :
    after.session = state.session ∧ after.sessionLocked = state.sessionLocked ∧
      after.ledger = state.ledger := by
  cases request with
  | readSession | lockSession | initSession asker session | unlockSession session => cases elsewhere
  | lockJobs =>
      obtain ⟨_, _, rfl⟩ := serve_lockJobs served
      exact ⟨rfl, rfl, rfl⟩
  | malloc =>
      obtain ⟨_, rfl⟩ | ⟨_, _, _, _, rfl⟩ := serve_malloc served
      · exact ⟨rfl, rfl, rfl⟩
      · exact ⟨rfl, rfl, rfl⟩
  | _ =>
      cases served
      exact ⟨rfl, rfl, rfl⟩

/-- A request that waits for no lock has some answer. -/
theorem serve_ready (state : ProcessState) {request : SysCall}
    (unlocked : request ≠ .readSession ∧ request ≠ .lockSession ∧ request ≠ .lockJobs) :
    Ready serve state request := by
  refine ⟨request.anyReply, ?_⟩
  cases request with
  | readSession => exact absurd rfl unlocked.1
  | lockSession => exact absurd rfl unlocked.2.1
  | lockJobs => exact absurd rfl unlocked.2.2
  | _ => rfl

/-- A critical section that frees nothing. -/
theorem unlockJobs_heap {manager : JobManager RgaReq}
    (kept : ∀ ptr, state.jobs.allocated ptr = true → manager.allocated ptr = true) :
    (state.unlockJobs manager).heap = state.heap := by
  funext ptr
  simp only [unlockJobs]
  cases before : state.jobs.allocated ptr with
  | false => rw [Bool.false_and, Bool.not_false, Bool.and_true]
  | true => rw [kept ptr before, Bool.not_true, Bool.and_false, Bool.not_false, Bool.and_true]

end Serve

end ProcessState

/-- Each thread makes one call of the API at a time. -/
abbrev Process := Interleaved Thread SysCall SysCall.Reply Returned ProcessState

abbrev ProcessOp := InterleavedOp Thread EntryPoint SysCall SysCall.Reply

abbrev ProcessEvent :=
  InterleavedEvent Thread EntryPoint SysCall SysCall.Reply Returned ProcessState

namespace Process

def step (kind : JobMapKind) (state : Process) (op : ProcessOp) : Option (Process × ProcessEvent) :=
  state.serveStep (EntryPoint.program kind) ProcessState.serve op

/-- After the constructors have run; memory holds anything. -/
def start (records : JobPtr → ImRgaJob RgaReq) : Process where
  shared := { jobs := { records := records } }
  underway _ := none

end Process

def sampleReply : (request : SysCall) → SysCall.Reply request
  | .initSession _ _ => rk3588Reply 3
  | .requestCreate _ => some 7
  | .malloc => some 0x1000
  | .requestCancel _ _ => true
  | request => request.anyReply

/-- A job that one thread cancels while another one submits it. -/
def sampleProcessOps : List ProcessOp :=
  .enter 0 (.handle (.rgaJobCreate 0)) :: List.replicate 8 (.answer 0 sampleReply) ++
    [.leave 0, .enter 0 (.status (.rgaJobCancel 7)),
      .enter 1 (.status (.rgaJobSubmit 7 imSync (-1) false)), .answer 1 sampleReply,
      .answer 1 sampleReply, .answer 0 sampleReply, .answer 1 sampleReply, .answer 0 sampleReply,
      .answer 1 sampleReply, .answer 0 sampleReply, .answer 0 sampleReply, .leave 0]

/-! What the driver is asked for jobs -/

inductive JobIo (τ : Type) where
  | create (reply : Option UInt32)
  | cancel (handle : UInt32) (succeeds : Bool)
  | submit (request : RgaUserRequest τ) (succeeds : Bool)
  | config (request : RgaUserRequest τ) (succeeds : Bool)

def exchangeIo : Sigma SysCall.Reply → List (JobIo RgaReq)
  | ⟨.requestCreate _, reply⟩ => [.create reply]
  | ⟨.requestCancel _ handle, succeeds⟩ => [.cancel handle succeeds]
  | ⟨.requestSubmit request _, reply⟩ => [.submit request (0 ≤ reply.ret)]
  | ⟨.requestConfig request _, reply⟩ => [.config request (0 ≤ reply.ret)]
  | _ => []

def processIo : ProcessEvent → List (JobIo RgaReq)
  | .exchanged _ _ exchange _ => exchangeIo exchange
  | _ => []

end LibRga.Entry

namespace LibRga

def JobEvent.io {τ : Type} : JobEvent τ → List (Entry.JobIo τ)
  | createFailed _ => [.create none]
  | driverCreated _ handle => [.create (some handle)]
  | cancelIoctl _ handle succeeds => [.cancel handle succeeds]
  | submitIoctl _ _ request succeeds => [.submit request succeeds]
  | configIoctl _ _ _ request succeeds => [.config request succeeds]
  | _ => []

end LibRga

import LibRga.Gauss
import LibRga.Process

/-!
The protocol of the entry points: what a call has locked, holds or owes at each
of its requests.

No call asks for the session with the job mutex held, a job is detached before it
is submitted and what has been detached is freed by the call that did it.
-/

namespace LibRga.Entry

open Interaction

inductive JobPhase where
  | outside (pc : JobPc)
  /-- With the mutex; `manager` is what it found. -/
  | inside (pc : JobPc) (manager : JobManager RgaReq)
  /-- With the mutex, in `rga_job_create` after `malloc`. -/
  | holding (handle : UInt32) (manager : JobManager RgaReq) (ptr : JobPtr)
  | submitting (ptr : JobPtr) (command : Int32) (request : RgaUserRequest RgaReq)
  /-- Before the record is freed. -/
  | submitted (ptr : JobPtr)

inductive SessionPhase where
  | out
  | missed
  | writing (session : SessionData)
  | tried (session : SessionData) (reply : SessionReply)

structure Phase where
  job : JobPhase := .outside .idle
  session : SessionPhase := .out
  /-- The Gaussian coefficients of the submission under way. -/
  coe : Option UInt64 := none
  /-- The session has been found or initialised. -/
  acquired : Bool := false

inductive JobMove (kind : JobMapKind) : JobPhase → Sigma SysCall.Reply → JobPhase → Prop
  | createFailed (flags) :
      JobMove kind (.outside .idle) ⟨.requestCreate flags, none⟩ (.outside .idle)
  | driverCreated (flags handle) :
      JobMove kind (.outside .idle) ⟨.requestCreate flags, some handle⟩ (.outside (.created handle))
  | lock (pc manager) : JobMove kind (.outside pc) ⟨.lockJobs, manager⟩ (.inside pc manager)
  | noBlock (handle manager) :
      JobMove kind (.inside (.created handle) manager) ⟨.malloc, none⟩
        (.inside (.created handle) manager)
  | block (handle manager ptr) : rgaMapFindJob manager.jobMap handle = none →
      JobMove kind (.inside (.created handle) manager) ⟨.malloc, some ptr⟩
        (.holding handle manager ptr)
  | refused (handle manager) :
      JobMove kind (.inside (.created handle) manager) ⟨.unlockJobs manager, ()⟩
        (.outside (.mustCancel handle))
  | created (handle manager ptr) : rgaMapFindJob manager.jobMap handle = none →
      JobMove kind (.holding handle manager ptr)
        ⟨.unlockJobs (manager.insertJob kind handle ptr), ()⟩ (.outside .idle)
  | cancelMissing (pc handle manager) : pc = .idle ∨ pc = .mustCancel handle →
      rgaMapFindJob manager.jobMap handle = none →
      JobMove kind (.inside pc manager) ⟨.unlockJobs manager, ()⟩ (.outside (.cancelling handle))
  | cancelled (pc handle manager ptr) : pc = .idle ∨ pc = .mustCancel handle →
      rgaMapFindJob manager.jobMap handle = some ptr →
      JobMove kind (.inside pc manager)
        ⟨.unlockJobs ((manager.removeJob handle).setAllocated ptr false), ()⟩
        (.outside (.cancelling handle))
  | cancelIoctl (dropped handle succeeds) :
      JobMove kind (.outside (.cancelling handle)) ⟨.requestCancel dropped handle, succeeds⟩
        (.outside .idle)
  | detached (handle manager ptr syncMode command) : jobSyncMode syncMode = some command →
      rgaMapFindJob manager.jobMap handle = some ptr →
      JobMove kind (.inside .idle manager) ⟨.unlockJobs (manager.removeJob handle), ()⟩
        (.submitting ptr command (manager.userRequest ptr command))
  | submitted (ptr command request acquireFenceFd reply) :
      JobMove kind (.submitting ptr command request) ⟨.requestSubmit request acquireFenceFd, reply⟩
        (.submitted ptr)
  | freed (ptr) : JobMove kind (.submitted ptr) ⟨.free ptr, ()⟩ (.outside .idle)
  | configIoctl (handle manager ptr syncMode command acquireFenceFd reply) :
      jobSyncMode syncMode = some command → rgaMapFindJob manager.jobMap handle = some ptr →
      JobMove kind (.inside .idle manager)
        ⟨.requestConfig (manager.userRequest ptr command) acquireFenceFd, reply⟩
        (.inside .idle manager)
  | accepted (handle manager req ptr after) : handle ≠ 0 →
      manager.appendTask handle req = .appended ptr after →
      JobMove kind (.inside .idle manager) ⟨.unlockJobs after, ()⟩ (.outside .idle)
  | unchanged (manager) :
      JobMove kind (.inside .idle manager) ⟨.unlockJobs manager, ()⟩ (.outside .idle)

/-- The flag says whether the session is there now. -/
inductive SessionMove : SessionPhase → Sigma SysCall.Reply → SessionPhase → Bool → Prop
  | found (session) : 0 < session.rgaDevFd → SessionMove .out ⟨.readSession, session⟩ .out true
  | missed (session) : ¬0 < session.rgaDevFd →
      SessionMove .out ⟨.readSession, session⟩ .missed false
  | lockFound (session) : 0 < session.rgaDevFd →
      SessionMove .missed ⟨.lockSession, session⟩ .out true
  | lock (session) : ¬0 < session.rgaDevFd →
      SessionMove .missed ⟨.lockSession, session⟩ (.writing session) false
  | init (asker session reply) :
      SessionMove (.writing session) ⟨.initSession asker session, reply⟩ (.tried session reply)
        false
  | unlock (session reply) : (session.rgaSessionInit reply).1 = .success →
      SessionMove (.tried session reply) ⟨.unlockSession (session.rgaSessionInit reply).2.1, ()⟩
        .out true

/-- The requests that concern neither locks nor jobs nor the heap. -/
def SysCall.plain : SysCall → Bool
  | readSession | lockSession | initSession _ _ | unlockSession _ | lockJobs | unlockJobs _
  | malloc | free _ | requestCreate _ | requestCancel _ _ | requestSubmit _ _ | requestConfig _ _ =>
      false
  | _ => true

/-- The ioctls on the fd of the session. -/
def SysCall.onDevice : SysCall → Bool
  | importBuffer _ | releaseBuffer _ | requestCreate _ | requestCancel _ _ | requestSubmit _ _
  | requestConfig _ _ | blit _ _ _ => true
  | _ => false

inductive Move (kind : JobMapKind) : Phase → Sigma SysCall.Reply → Phase → Prop
  | job (before after coe acquired exchange) : JobMove kind before exchange after →
      (exchange.1.onDevice = true → acquired = true) →
      Move kind ⟨before, .out, coe, acquired⟩ exchange ⟨after, .out, coe, acquired⟩
  | session (pc before after coe acquired opened exchange) :
      SessionMove before exchange after opened →
      Move kind ⟨.outside pc, before, coe, acquired⟩ exchange
        ⟨.outside pc, after, coe, opened || acquired⟩
  /-- A session that cannot be initialised makes the caller give up what it owed. -/
  | abandoned (pc session reply coe acquired) : (session.rgaSessionInit reply).1 ≠ .success →
      Move kind ⟨.outside pc, .tried session reply, coe, acquired⟩
        ⟨.unlockSession (session.rgaSessionInit reply).2.1, ()⟩
        ⟨.outside .idle, .out, coe, acquired⟩
  /-- What was there is lost. -/
  | coefficients (coe acquired block) :
      Move kind ⟨.outside .idle, .out, coe, acquired⟩ ⟨.malloc, block⟩
        ⟨.outside .idle, .out, block, acquired⟩
  | released (ptr acquired) :
      Move kind ⟨.outside .idle, .out, some ptr, acquired⟩ ⟨.free ptr, ()⟩
        ⟨.outside .idle, .out, none, acquired⟩
  | plain (pc coe acquired request answer) : request.plain = true →
      (request.onDevice = true → acquired = true) →
      Move kind ⟨.outside pc, .out, coe, acquired⟩ ⟨request, answer⟩
        ⟨.outside pc, .out, coe, acquired⟩

/-- Nothing locked and nothing owed. -/
structure AtRest (phase : Phase) : Prop where
  job : phase.job = .outside .idle
  session : phase.session = .out

def AtRest.ends (phase : Phase) (_ : Returned) : Prop :=
  AtRest phase

/-- At rest, and with the session if it was there before. -/
structure Resting (acquired : Bool) (later : Phase) : Prop where
  job : later.job = .outside .idle
  session : later.session = .out
  kept : acquired = true → later.acquired = true

theorem Resting.atRest {acquired : Bool} {later : Phase} (resting : Resting acquired later) :
    AtRest later :=
  ⟨resting.job, resting.session⟩

/-- A program that begins and ends at rest. -/
def Restful {α : Type} (kind : JobMapKind) (prog : Program α) : Prop :=
  ∀ phase, AtRest phase →
    prog.Follows (Move kind) (fun later _ => Resting phase.acquired later) phase

variable {kind : JobMapKind}

namespace Restful

variable {α β : Type}

theorem done (result : α) : Restful kind (pure result : Program α) :=
  fun _ rest => ⟨rest.job, rest.session, id⟩

theorem after {prog : Program α} (restful : Restful kind prog) {acquired : Bool} {phase : Phase}
    (before : Resting acquired phase) :
    prog.Follows (Move kind) (fun later _ => Resting acquired later) phase :=
  (restful phase before.atRest).mono fun _ _ later =>
    ⟨later.job, later.session, fun there => later.kept (before.kept there)⟩

theorem bind {prog : Program α} {next : α → Program β} (first : Restful kind prog)
    (rest : ∀ result, Restful kind (next result)) : Restful kind (prog >>= next) :=
  fun phase start => Prog.Follows.bind (first phase start) fun _ result => (rest result).after

theorem ite {condition : Prop} [Decidable condition] {yes no : Program α}
    (holds : condition → Restful kind yes) (otherwise : ¬condition → Restful kind no) :
    Restful kind (if condition then yes else no) := by
  split
  · exact holds ‹_›
  · exact otherwise ‹_›

theorem map {prog : Program α} {f : α → β} (follows : Restful kind prog) :
    Restful kind (f <$> prog) :=
  fun phase start => Prog.Follows.map (follows phase start)

theorem plain {request : SysCall} (quiet : request.plain = true)
    (elsewhere : request.onDevice = false) : Restful kind (call request) := by
  rintro ⟨_, _, coe, acquired⟩ ⟨rfl, rfl⟩ answer
  refine ⟨_, .plain .idle coe acquired request answer quiet fun device => ?_, rfl, rfl, id⟩
  rw [elsewhere] at device
  cases device

theorem interpret {κ' : Type} {ρ' : κ' → Type} {handler : ∀ request, Program (ρ' request)}
    (handled : ∀ request, Restful kind (handler request)) (prog : Prog κ' ρ' α) :
    Restful kind (prog.interpret handler) := by
  intro phase start
  exact Prog.Follows.interpret (fun request _ => (handled request).after) prog
    (⟨start.job, start.session, id⟩ : Resting phase.acquired phase)

end Restful

/-! The session -/

section Session

variable {α : Type} {asker : Asker} {pc : JobPc} {coe : Option UInt64} {acquired : Bool}
  {ends : Phase → α → Prop}

theorem call_follows {phase : Phase} {request : SysCall}
    {next : SysCall.Reply request → Program α}
    (moves : ∀ answer, ∃ later, Move kind phase ⟨request, answer⟩ later ∧
      (next answer).Follows (Move kind) ends later) :
    (call request >>= next).Follows (Move kind) ends phase :=
  moves

theorem getRgaSession_follows (asker : Asker) (pc : JobPc) (coe : Option UInt64)
    (acquired : Bool) :
    (getRgaSession asker).Follows (Move kind) (fun later ptr =>
      (∃ session, ptr = .object session ∧ later = ⟨.outside pc, .out, coe, true⟩) ∨
        ptr = .errPtr .noSession ∧ later = ⟨.outside .idle, .out, coe, acquired⟩)
      ⟨.outside pc, .out, coe, acquired⟩ := by
  unfold getRgaSession
  refine call_follows fun found => ?_
  split
  · rename_i opened
    exact ⟨_, .session pc _ _ coe _ _ _ (.found found opened), .inl ⟨_, rfl, rfl⟩⟩
  rename_i closed
  refine ⟨_, .session pc _ _ coe _ _ _ (.missed found closed), ?_⟩
  refine call_follows fun locked => ?_
  split
  · rename_i opened
    exact ⟨_, .session pc _ _ coe _ _ _ (.lockFound locked opened), .inl ⟨_, rfl, rfl⟩⟩
  rename_i closed
  refine ⟨_, .session pc _ _ coe _ _ _ (.lock locked closed), ?_⟩
  refine call_follows fun reply => ⟨_, .session pc _ _ coe _ _ _ (.init asker locked reply), ?_⟩
  refine call_follows fun _ => ?_
  split
  · rename_i failed
    exact ⟨_, .abandoned pc locked reply coe _ failed, .inr ⟨rfl, rfl⟩⟩
  · rename_i succeeded
    refine ⟨_, .session pc _ _ coe _ _ _ (.unlock locked reply (not_not.mp succeeded)), ?_⟩
    exact .inl ⟨_, rfl, rfl⟩

theorem withSession_follows {failed : ImStatus → α} {body : RgaSession → Program α}
    (refused : ends ⟨.outside .idle, .out, coe, acquired⟩ (failed .noSession))
    (accepted : ∀ session,
      (body session).Follows (Move kind) ends ⟨.outside pc, .out, coe, true⟩) :
    (withSession asker failed body).Follows (Move kind) ends
      ⟨.outside pc, .out, coe, acquired⟩ := by
  refine (getRgaSession_follows asker pc coe acquired).bind ?_
  rintro later ptr (⟨session, rfl, rfl⟩ | ⟨rfl, rfl⟩)
  · exact accepted session
  · exact refused

/-- With the session, the device can be asked. -/
def WithSession (kind : JobMapKind) (prog : Program α) : Prop :=
  ∀ coe, prog.Follows (Move kind) (fun later _ => Resting true later)
    ⟨.outside .idle, .out, coe, true⟩

theorem Restful.withSession {prog : Program α} (restful : Restful kind prog) :
    WithSession kind prog :=
  fun coe => restful ⟨.outside .idle, .out, coe, true⟩ ⟨rfl, rfl⟩

theorem withSession_restful {failed : ImStatus → α} {body : RgaSession → Program α}
    (accepted : ∀ session, WithSession kind (body session)) :
    Restful kind (withSession asker failed body) := by
  rintro ⟨_, _, coe, acquired⟩ ⟨rfl, rfl⟩
  refine withSession_follows ⟨rfl, rfl, id⟩ fun session => ?_
  refine (accepted session coe).mono fun _ _ later => ?_
  exact ⟨later.job, later.session, fun _ => later.kept rfl⟩

theorem getRgaSession_restful (asker : Asker) : Restful kind (getRgaSession asker) := by
  rintro ⟨_, _, coe, acquired⟩ ⟨rfl, rfl⟩
  refine (getRgaSession_follows asker .idle coe acquired).mono ?_
  rintro later ptr (⟨_, _, rfl⟩ | ⟨_, rfl⟩)
  · exact ⟨rfl, rfl, fun _ => rfl⟩
  · exact ⟨rfl, rfl, id⟩

theorem read_restful (asker : Asker) (ptr : SessionPtr) : Restful kind (ptr.read asker) := by
  cases ptr with
  | object session => exact .done session
  | errPtr err => exact .plain rfl rfl

end Session

/-! Queries, checks and buffers -/

theorem getDebugState_restful : Restful kind getDebugState := by
  refine (getRgaSession_restful .getDebugState).bind fun ptr => ?_
  exact (read_restful .getDebugState ptr).bind fun _ => .plain rfl rfl

theorem isDebugEn_restful : Restful kind isDebugEn := by
  refine (getRgaSession_restful .isDebugEn).bind fun ptr => ?_
  exact (read_restful .isDebugEn ptr).bind fun _ => .plain rfl rfl

theorem querystring_restful (name : Int32) : Restful kind (querystring name) := by
  refine (getRgaSession_restful .querystring).bind fun ptr => ?_
  refine .ite (fun _ => .done _) fun _ => ?_
  refine .ite (fun _ => .done _) fun _ => ?_
  refine .ite (fun _ => .done _) fun _ => ?_
  exact (read_restful .querystring ptr).bind fun session => .done _

theorem logQuery_restful (name : Int32) : Restful kind (logQuery name) := by
  refine (querystring_restful name).bind fun _ => ?_
  refine (Restful.plain rfl rfl).bind fun _ => ?_
  exact .ite (fun _ => (querystring_restful name).bind fun _ => .done ()) fun _ => .done ()

theorem rgaCheck_restful (src dst pat : RgaBuffer) (srcRect dstRect patRect : ImRect)
    (modeUsage : Int32) :
    Restful kind (rgaCheck src dst pat srcRect dstRect patRect modeUsage) := by
  refine withSession_restful fun session => Restful.withSession ?_
  dsimp only
  split
  · exact (logQuery_restful _).bind fun _ => .done _
  · exact .done _

theorem rgaCheckExternal_restful (src dst pat : RgaBuffer) (srcRect dstRect patRect : ImRect)
    (modeUsage : Int32) :
    Restful kind (rgaCheckExternal src dst pat srcRect dstRect patRect modeUsage) := by
  refine .ite (fun _ => .done _) fun _ => ?_
  refine .ite (fun _ => .done _) fun _ => ?_
  refine .ite (fun _ => .done _) fun _ => ?_
  exact rgaCheck_restful _ _ _ _ _ _ _

/-- An ioctl that is neither of the session nor of a job. -/
theorem device_follows {α : Type} {ends : Phase → α → Prop} {coe : Option UInt64}
    {request : SysCall} {next : SysCall.Reply request → Program α} (quiet : request.plain = true)
    (rest : ∀ answer, (next answer).Follows (Move kind) ends ⟨.outside .idle, .out, coe, true⟩) :
    (call request >>= next).Follows (Move kind) ends ⟨.outside .idle, .out, coe, true⟩ :=
  call_follows fun answer => ⟨_, .plain .idle coe true _ answer quiet fun _ => rfl, rest answer⟩

theorem rgaImportBuffers_restful (pool : Option (List RgaExternalBuffer)) :
    Restful kind (rgaImportBuffers pool) := by
  refine withSession_restful fun _ coe => ?_
  cases pool with
  | none => exact ⟨rfl, rfl, id⟩
  | some buffers =>
      refine device_follows rfl fun reply => ?_
      cases reply with
      | none => exact ⟨rfl, rfl, id⟩
      | some handles => exact ⟨rfl, rfl, id⟩

theorem importOne_restful (buffer : RgaExternalBuffer) : Restful kind (importOne buffer) := by
  refine (rgaImportBuffers_restful _).bind fun imported => ?_
  exact .ite (fun _ => .done _) fun _ => .done _

theorem rgaImportBufferParam_restful (memory : UInt64) (type : Int32) (param : ImHandleParam) :
    Restful kind (rgaImportBufferParam memory type param) :=
  .ite (fun _ => .done _) fun _ => importOne_restful _

theorem rgaReleaseBuffers_restful (pool : Option (List RgaExternalBuffer)) :
    Restful kind (rgaReleaseBuffers pool) := by
  refine withSession_restful fun _ coe => ?_
  cases pool with
  | none => exact ⟨rfl, rfl, id⟩
  | some buffers => exact device_follows rfl fun _ => ⟨rfl, rfl, id⟩

/-! Jobs -/

/-- A step of a job by a call that has the session. -/
theorem job_follows {α : Type} {ends : Phase → α → Prop} {before : JobPhase}
    {coe : Option UInt64} {request : SysCall} {next : SysCall.Reply request → Program α}
    (moves : ∀ answer, ∃ after, JobMove kind before ⟨request, answer⟩ after ∧
      (next answer).Follows (Move kind) ends ⟨after, .out, coe, true⟩) :
    (call request >>= next).Follows (Move kind) ends ⟨before, .out, coe, true⟩ := by
  refine call_follows fun answer => ?_
  obtain ⟨after, moved, rest⟩ := moves answer
  exact ⟨_, .job before after coe true _ moved fun _ => rfl, rest⟩

/-- Also as a step of `rga_job_create`, which has a handle to get rid of. -/
theorem rgaJobCancel_follows (dropped : Bool) (handle : UInt32) {pc : JobPc}
    (begins : pc = .idle ∨ pc = .mustCancel handle) (coe : Option UInt64) (acquired : Bool) :
    (rgaJobCancel dropped handle).Follows (Move kind) (fun later _ => Resting acquired later)
      ⟨.outside pc, .out, coe, acquired⟩ := by
  refine withSession_follows ⟨rfl, rfl, id⟩ fun _ => ?_
  refine job_follows fun manager => ⟨_, .lock pc manager, ?_⟩
  have closing : (do
      let cancelled : Bool ← call (.requestCancel dropped handle)
      return if cancelled then .success else .failed : Program ImStatus).Follows (Move kind)
        (fun later _ => Resting acquired later) ⟨.outside (.cancelling handle), .out, coe, true⟩ :=
    job_follows fun succeeds =>
      ⟨_, .cancelIoctl dropped handle succeeds, rfl, rfl, fun _ => rfl⟩
  cases found : rgaMapFindJob manager.jobMap handle with
  | some ptr =>
      exact job_follows fun _ => ⟨_, .cancelled pc handle manager ptr begins found, closing⟩
  | none => exact job_follows fun _ => ⟨_, .cancelMissing pc handle manager begins found, closing⟩

theorem rgaJobCancel_restful (dropped : Bool) (handle : UInt32) :
    Restful kind (rgaJobCancel dropped handle) := by
  rintro ⟨_, _, coe, acquired⟩ ⟨rfl, rfl⟩
  exact rgaJobCancel_follows dropped handle (.inl rfl) coe acquired

theorem errorCancelJob_follows (handle : UInt32) (manager : JobManager RgaReq)
    (coe : Option UInt64) :
    (errorCancelJob manager handle).Follows (Move kind) (fun later _ => Resting true later)
      ⟨.inside (.created handle) manager, .out, coe, true⟩ := by
  refine job_follows fun _ => ⟨_, .refused handle manager, ?_⟩
  exact (rgaJobCancel_follows true handle (.inr rfl) coe true).bind fun _ _ rest => rest

theorem rgaJobCreate_restful (flags : UInt32) : Restful kind (rgaJobCreate kind flags) := by
  refine withSession_restful fun _ coe => ?_
  refine job_follows fun reply => ?_
  cases reply with
  | none => exact ⟨_, .createFailed flags, rfl, rfl, id⟩
  | some handle =>
      refine ⟨_, .driverCreated flags handle, ?_⟩
      refine job_follows fun manager => ⟨_, .lock _ manager, ?_⟩
      split
      · exact errorCancelJob_follows handle manager coe
      · rename_i fresh
        refine job_follows fun block => ?_
        cases block with
        | none => exact ⟨_, .noBlock handle manager, errorCancelJob_follows handle manager coe⟩
        | some ptr =>
            refine ⟨_, .block handle manager ptr fresh, ?_⟩
            exact job_follows fun _ => ⟨_, .created handle manager ptr fresh, rfl, rfl, id⟩

theorem unlock_follows {α : Type} (manager : JobManager RgaReq) (coe : Option UInt64)
    (result : α) : (do
      call (.unlockJobs manager)
      return result : Program α).Follows (Move kind) (fun later _ => Resting true later)
      ⟨.inside .idle manager, .out, coe, true⟩ :=
  job_follows fun _ => ⟨_, .unchanged manager, rfl, rfl, id⟩

theorem rgaJobSubmit_restful (handle : UInt32) (syncMode acquireFenceFd : Int32)
    (releaseFence : Bool) :
    Restful kind (rgaJobSubmit handle syncMode acquireFenceFd releaseFence) := by
  refine withSession_restful fun _ coe => ?_
  cases accepted : jobSyncMode syncMode with
  | none => exact ⟨rfl, rfl, id⟩
  | some command =>
      refine job_follows fun manager => ⟨_, .lock _ manager, ?_⟩
      split
      · exact unlock_follows manager coe _
      · rename_i ptr found
        refine job_follows fun _ => ⟨_, .detached handle manager ptr _ command accepted found, ?_⟩
        refine job_follows fun reply => ⟨_, .submitted ptr command _ _ reply, ?_⟩
        refine job_follows fun _ => ⟨_, .freed ptr, ?_⟩
        refine .ite (fun _ => ⟨rfl, rfl, id⟩) fun _ => ?_
        exact .ite (fun _ => ⟨rfl, rfl, id⟩) fun _ => ⟨rfl, rfl, id⟩

theorem rgaJobConfig_restful (handle : UInt32) (syncMode acquireFenceFd : Int32)
    (releaseFence : Bool) :
    Restful kind (rgaJobConfig handle syncMode acquireFenceFd releaseFence) := by
  refine withSession_restful fun _ coe => ?_
  cases accepted : jobSyncMode syncMode with
  | none => exact ⟨rfl, rfl, id⟩
  | some command =>
      refine job_follows fun manager => ⟨_, .lock _ manager, ?_⟩
      split
      · exact unlock_follows manager coe _
      · rename_i ptr found
        refine job_follows fun reply =>
          ⟨_, .configIoctl handle manager ptr _ command _ reply accepted found, ?_⟩
        refine job_follows fun _ => ⟨_, .unchanged manager, ?_⟩
        refine .ite (fun _ => ⟨rfl, rfl, id⟩) fun _ => ?_
        exact .ite (fun _ => ⟨rfl, rfl, id⟩) fun _ => ⟨rfl, rfl, id⟩

/-! Submissions -/

section Submission

variable {args : TaskArgs} {coe : Option UInt64}

/-- What a program with the session keeps that comes back to where it started, coefficients
included. -/
def Neutral {α : Type} (kind : JobMapKind) (coe : Option UInt64) (prog : Program α)
    (post : α → Prop) : Prop :=
  prog.Follows (Move kind)
    (fun later result => later = ⟨.outside .idle, .out, coe, true⟩ ∧ post result)
    ⟨.outside .idle, .out, coe, true⟩

theorem generateReq_neutral (args : TaskArgs) (setup : TaskSetup) :
    Neutral kind coe (generateReq args setup) fun built =>
      ∀ req, built = some req →
        ∃ session lutRet,
          builtReq (buildTask session (taskPath args) setup lutRet).2 = some req := by
  refine withSession_follows ⟨rfl, fun req none => by cases none⟩ fun session => ?_
  split
  · exact ⟨rfl, fun req built => ⟨session, 0, built⟩⟩
  · exact device_follows rfl fun reply => ⟨rfl, fun req built => ⟨session, reply.ret, built⟩⟩

theorem queueTask_neutral (queued : 0 < args.jobHandle) (req : RgaReq) :
    Neutral kind coe (queueTask args req) fun _ => True := by
  have nonzero : args.jobHandle ≠ 0 := by
    rintro same
    rw [same] at queued
    exact absurd queued (by decide)
  refine job_follows fun manager => ⟨_, .lock _ manager, ?_⟩
  split
  · rename_i ptr after appended
    exact job_follows fun _ => ⟨_, .accepted _ manager req ptr after nonzero appended, rfl, trivial⟩
  · exact job_follows fun _ => ⟨_, .unchanged manager, rfl, trivial⟩

theorem blitTask_neutral (session : RgaSession) (args : TaskArgs) (req : RgaReq) :
    Neutral kind coe (blitTask session args req) fun _ => True := by
  unfold blitTask
  split
  · exact ⟨rfl, trivial⟩
  · refine device_follows rfl fun reply => ?_
    refine .ite (fun _ => ⟨rfl, trivial⟩) fun _ => ?_
    refine .ite (fun _ => ?_) fun _ => ⟨rfl, trivial⟩
    split
    · exact device_follows rfl fun _ => ⟨rfl, trivial⟩
    · exact ⟨rfl, trivial⟩

/-- The block that is freed is the one that was allocated for this submission. -/
theorem submitReq_follows (session : RgaSession) (args : TaskArgs) (req : RgaReq)
    (owned : has args.usage imGauss = true → req.gaussConfig.coePtr ≠ 0 →
      coe = some req.gaussConfig.coePtr) :
    (submitReq session args req).Follows (Move kind) (fun later _ => Resting true later)
      ⟨.outside .idle, .out, coe, true⟩ := by
  have rest {later : Phase} (reply : FenceReply)
      (there : later = ⟨.outside .idle, .out, coe, true⟩) : (do
        if has args.usage imGauss ∧ req.gaussConfig.coePtr ≠ 0 then
          call (.free req.gaussConfig.coePtr)
        return reply : Program FenceReply).Follows (Move kind) (fun later _ => Resting true later)
          later := by
    rw [there]
    split
    · rename_i frees
      obtain ⟨gauss, nonzero⟩ := frees
      rw [owned gauss nonzero]
      exact call_follows fun _ => ⟨_, .released _ true, rfl, rfl, id⟩
    · exact ⟨rfl, rfl, id⟩
  unfold submitReq
  dsimp only
  by_cases queued : 0 < args.jobHandle
  · rw [if_pos queued]
    exact (queueTask_neutral queued req).bind fun later reply there => rest reply there.1
  · rw [if_neg queued]
    exact (blitTask_neutral session args req).bind fun later reply there => rest reply there.1

theorem built_coefficients {session : RgaSession} {context : ImContext} {block : Option UInt64}
    {buffers : TaskBuffers} {mode lutRet : Int32} {req : RgaReq}
    (built : builtReq (buildTask session (taskPath args)
      (taskSetup { context := context, coePtr := block.getD 0 } args buffers mode) lutRet).2 =
        some req) (nonzero : req.gaussConfig.coePtr ≠ 0) : block = some req.gaussConfig.coePtr := by
  obtain made | ⟨_, _, _, rfl⟩ := builtReq_eq_some built
  · let env : TaskEnv := { context := context, coePtr := block.getD 0, lutRet := lutRet }
    have task : (taskBuilt session env args buffers mode).2 = .ok req := made
    have address := built_gauss task
    split at address
    · cases block with
      | none => exact absurd address nonzero
      | some ptr => rw [address]; rfl
    · exact absurd address nonzero
  · exact absurd rfl nonzero

theorem buildAndSubmit_withSession (session : RgaSession) (args : TaskArgs) (buffers : TaskBuffers)
    (mode : Int32) : WithSession kind (buildAndSubmit session args buffers mode) := by
  have rest (block coe : Option UInt64)
      (owned : has args.usage imGauss = true → coe = block) (sent : Option RgaReq → _)
      (fails : sent none = pure { status := .failed })
      (sends : ∀ req, sent (some req) = submitReq session args req) : (do
      if lacksFence args then return { status := .illegalParam }
      let context : ImContext ← call .loadContext
      let env : TaskEnv := { context := context, coePtr := block.getD 0 }
      generateReq args (taskSetup env args buffers mode) >>= sent : Program FenceReply).Follows
        (Move kind) (fun later _ => Resting true later) ⟨.outside .idle, .out, coe, true⟩ := by
    refine .ite (fun _ => ⟨rfl, rfl, id⟩) fun _ => ?_
    refine device_follows rfl fun context => ?_
    refine (generateReq_neutral args _).bind ?_
    rintro later built ⟨rfl, made⟩
    cases built with
    | none => exact fails ▸ ⟨rfl, rfl, id⟩
    | some req =>
        rw [sends]
        obtain ⟨_, _, from_builder⟩ := made req rfl
        refine submitReq_follows session args req fun gauss nonzero => ?_
        rw [owned gauss]
        exact built_coefficients from_builder nonzero
  intro coe
  unfold buildAndSubmit
  dsimp only
  by_cases gauss : has args.usage imGauss = true
  · rw [if_pos gauss]
    exact call_follows fun block =>
      ⟨_, .coefficients coe true block, rest block block (fun _ => rfl) _ rfl fun _ => rfl⟩
  · rw [if_neg gauss]
    exact rest none coe (fun gaussian => absurd gaussian gauss) _ rfl fun _ => rfl

theorem rgaTaskSubmit_restful (args : TaskArgs) : Restful kind (rgaTaskSubmit args) := by
  refine withSession_restful fun session coe => ?_
  have start : Resting true ⟨.outside .idle, .out, coe, true⟩ := ⟨rfl, rfl, id⟩
  refine (getDebugState_restful.after start).bind fun _ _ start => ?_
  refine (isDebugEn_restful.after start).bind fun _ _ start => ?_
  refine .ite (fun _ => start) fun _ => ?_
  split
  · exact start
  refine ((rgaCheck_restful _ _ _ _ _ _ _).after start).bind fun later status start => ?_
  refine .ite (fun _ => start) fun _ => ?_
  split
  · exact start
  refine .ite (fun _ => start) fun _ => ?_
  obtain ⟨_, _, coe, acquired⟩ := later
  obtain ⟨rfl, rfl, there⟩ := start
  obtain rfl : acquired = true := there rfl
  exact buildAndSubmit_withSession session args _ _ coe

end Submission

/-! Wrappers -/

theorem submitAll_restful (calls : List TaskArgs) : Restful kind (submitAll calls) := by
  induction calls with
  | nil => exact .done _
  | cons args rest ih =>
      refine (rgaTaskSubmit_restful args).bind fun reply => ?_
      exact .ite (fun _ => .done _) fun _ => ih

theorem runApi_restful (plan : ApiPlan) : Restful kind (runApi plan) := by
  cases plan with
  | error status => exact .done status
  | ok calls => exact submitAll_restful calls

theorem resizeTo_restful (src dst : RgaBuffer) (fx fy : ℚ) (submit : RgaBuffer → ApiPlan) :
    Restful kind (resizeTo src dst fx fy submit) := by
  have resized : Restful kind (resizeBuffer src dst fx fy) := by
    refine .ite (fun _ => ?_) fun _ => .done _
    refine .ite (fun _ => .done _) fun _ => ?_
    refine .ite (fun _ => ?_) fun _ => .done _
    refine (rgaCheckExternal_restful _ _ _ _ _ _ _).bind fun status => ?_
    exact .ite (fun _ => .done _) fun _ => .done _
  refine resized.bind fun result => ?_
  cases result with
  | error status => exact .done status
  | ok dst => exact runApi_restful _

theorem answerFenced_restful (request : Fenced.Call) : Restful kind (answerFenced request) := by
  cases request with
  | rgaSingleTaskSubmit args => exact rgaTaskSubmit_restful _
  | _ => exact .plain rfl rfl

theorem runFenced_restful (prog : Fenced.Program Fenced.ArrayResult) :
    Restful kind (runFenced prog) :=
  .map (.interpret answerFenced_restful prog)

theorem direct_restful (sync acquireFenceFd : Int32) (slot : Option Int32) (op : ImOp) :
    Restful kind (direct sync acquireFenceFd slot op) := by
  cases op <;> unfold direct <;> first
    | exact runApi_restful _
    | exact resizeTo_restful _ _ _ _ _
    | exact runFenced_restful _

theorem task_restful (jobHandle : UInt32) (op : ImOp) : Restful kind (task jobHandle op) := by
  unfold task
  split
  · exact resizeTo_restful _ _ _ _ _
  · exact runApi_restful _

theorem improcessCtx_restful (args : TaskArgs) (acquireFenceFd : Int32) (releaseFence : Bool)
    (ctxId : UInt32) : Restful kind (improcessCtx args acquireFenceFd releaseFence ctxId) := by
  refine (rgaTaskSubmit_restful _).bind fun reply => ?_
  refine .ite (fun _ => .done _) fun _ => ?_
  exact (rgaJobConfig_restful _ _ _ _).bind fun _ => .done _

theorem imsync_restful (fenceFd : Int32) : Restful kind (imsync fenceFd) := by
  refine .ite (fun _ => .done _) fun _ => ?_
  exact (Restful.plain rfl rfl).bind fun _ => (Restful.plain rfl rfl).bind fun _ => .done _

theorem borderTask_restful (src dst : RgaBuffer) (handle : UInt32) (task : BorderTask) :
    Restful kind (borderTask src dst handle task) := by
  cases task <;> unfold borderTask <;> exact runApi_restful _

theorem answerBorder_restful (src dst : RgaBuffer) (known : Bool) (request : BorderCall) :
    Restful kind (answerBorder kind src dst known request) := by
  cases request with
  | improcess drect acquireFenceFd => exact rgaTaskSubmit_restful _
  | imbeginJob => exact rgaJobCreate_restful 0
  | task handle task => exact borderTask_restful src dst handle task
  | imendJob handle syncMode acquireFenceFd release => exact rgaJobSubmit_restful _ _ _ _
  | imcancelJob handle => exact rgaJobCancel_restful _ _
  | imsync fenceFd => exact imsync_restful fenceFd

theorem immakeBorder_restful (src dst : RgaBuffer) (args : BorderArgs) :
    Restful kind (immakeBorder kind src dst args) :=
  .map (.interpret (answerBorder_restful src dst _) _)

theorem handleEntry_restful (entry : HandleEntry) : Restful kind (entry.program kind) := by
  cases entry with
  | rgaJobCreate flags => exact rgaJobCreate_restful flags
  | imbegin flags => exact rgaJobCreate_restful flags
  | imbeginJob flags => exact rgaJobCreate_restful _
  | rgaImportBuffer memory type size => exact importOne_restful _
  | rgaImportBufferParam memory type param => exact rgaImportBufferParam_restful memory type param

theorem statusEntry_restful (entry : StatusEntry) : Restful kind (entry.program kind) := by
  cases entry with
  | direct sync acquireFenceFd slot op => exact direct_restful sync acquireFenceFd slot op
  | task jobHandle op => exact task_restful jobHandle op
  | improcessCtx args acquireFenceFd releaseFence ctxId => exact improcessCtx_restful _ _ _ _
  | immakeBorder src dst args => exact immakeBorder_restful src dst args
  | rgaTaskSubmit args => exact .map (rgaTaskSubmit_restful args)
  | rgaSingleTaskSubmit args => exact .map (rgaTaskSubmit_restful _)
  | imcheck src dst pat srcRect dstRect patRect modeUsage =>
      exact rgaCheckExternal_restful _ _ _ _ _ _ _
  | imsync fenceFd => exact imsync_restful fenceFd
  | rgaImportBuffers pool => exact .map (rgaImportBuffers_restful pool)
  | rgaReleaseBuffers pool => exact rgaReleaseBuffers_restful pool
  | rgaReleaseBuffer handle => exact rgaReleaseBuffers_restful (some [{ handle := handle }])
  | rgaJobCancel handle => exact rgaJobCancel_restful false handle
  | rgaJobSubmit handle syncMode acquireFenceFd releaseFence =>
      exact .map (rgaJobSubmit_restful _ _ _ _)
  | rgaJobConfig handle syncMode acquireFenceFd releaseFence =>
      exact .map (rgaJobConfig_restful _ _ _ _)

/-- Every entry point follows the protocol. -/
theorem entryPoint_follows (entry : EntryPoint) :
    (entry.program kind).Follows (Move kind) AtRest.ends {} := by
  have restful : Restful kind (entry.program kind) := by
    cases entry with
    | handle entry => exact .map (handleEntry_restful entry)
    | status entry => exact .map (statusEntry_restful entry)
    | querystring name => exact .map (querystring_restful name)
    | getDebugState => exact .map getDebugState_restful
    | isDebugEn => exact .map isDebugEn_restful
  exact (restful {} ⟨rfl, rfl⟩).mono fun _ _ => Resting.atRest

end LibRga.Entry

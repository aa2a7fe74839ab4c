import LibRga.EntryPoints
import LibRga.Submission

/-!
What the functions under the entry points report of a missing session and of
failed ioctls.

A run is summarised by its incidents. Each step is read as giving a status, which
is honest when it says what the incidents so far call for. It stays so through a
step after one that succeeded, and through one that only cleans up.
-/

namespace LibRga.Entry

open Interaction

/-- The status this function returns without a session is that of the entry point. -/
def Asker.passesOn : Asker → Bool
  | rgaCheck | rgaImportBuffers | rgaReleaseBuffers | rgaTaskSubmit | rgaJobSubmit | rgaJobConfig =>
      true
  | rgaJobCancel dropped => !dropped
  | _ => false

/-- The pointer is tested with `IS_ERR`. -/
def Asker.tests : Asker → Bool
  | querystring | getDebugState | isDebugEn => false
  | _ => true

inductive Incident where
  /-- The session could not be initialised. -/
  | missed (asker : Asker)
  | wild
  /-- An ioctl. -/
  | failed
  /-- An ioctl whose result does not reach the status: a cancel on the way out, or a merge. -/
  | lost
  | unfenced
  | blitted
  | granted (handle : UInt32)
deriving DecidableEq, Repr

namespace Incident

def missing : Incident → Bool
  | missed _ => true
  | _ => false

def crashes : Incident → Bool
  | missed asker => !asker.tests
  | _ => false

def refuses : Incident → Bool
  | missed asker => asker.passesOn
  | _ => false

/-- Tested, but what is returned is not `IM_STATUS_NO_SESSION`. -/
def misreported : Incident → Bool
  | missed asker => asker.tests && !asker.passesOn
  | _ => false

def asks : Incident → Bool
  | missed _ | wild => true
  | _ => false

def reported : Incident → Bool
  | lost => false
  | _ => true

end Incident

def note : Sigma SysCall.Reply → List Incident
  | ⟨.initSession asker session, (reply : SessionReply)⟩ =>
      if (session.rgaSessionInit reply).1 ≠ .success then [.missed asker] else []
  | ⟨.strayRead _ _, _⟩ => [.wild]
  | ⟨.importBuffer _, (reply : Option (List UInt32))⟩ =>
      match reply with
      | none => [.failed]
      | some handles => [.granted (handles.headD 0)]
  | ⟨.releaseBuffer _, (released : Bool)⟩ => if released then [] else [.failed]
  | ⟨.requestCreate _, (reply : Option UInt32)⟩ =>
      match reply with
      | none => [.failed]
      | some handle => [.granted handle]
  | ⟨.requestCancel dropped _, (cancelled : Bool)⟩ =>
      if cancelled then [] else if dropped then [.lost] else [.failed]
  | ⟨.requestSubmit request _, (reply : IoctlReply)⟩ =>
      if reply.ret < 0 then [.failed]
      else if request.syncMode = rgaBlitAsync ∧ reply.outFenceFd ≤ 0 then [.unfenced]
      else []
  | ⟨.requestConfig _ _, (reply : IoctlReply)⟩ => if reply.ret < 0 then [.failed] else []
  | ⟨.blit _ _ _, (reply : IoctlReply)⟩ => if reply.ret ≠ 0 then [.failed] else [.blitted]
  | ⟨.modernSyncMerge _ _ _, (reply : Fenced.MergeReply)⟩ =>
      if reply.fence < 0 ∧ reply.enotty = false then [.lost] else []
  | ⟨.legacySyncMerge _ _ _, (reply : Fenced.MergeReply)⟩ => if reply.fence < 0 then [.lost] else []
  | _ => []

/-! Honest statuses -/

structure Honest (allowed : Incident → Bool) (status : ImStatus) (notes : List Incident) :
    Prop where
  only : ∀ incident ∈ notes, allowed incident = true
  wild : .wild ∈ notes ↔ notes.any Incident.crashes = true
  refused : status = .noSession ↔ notes.any Incident.refuses = true
  failed : .failed ∈ notes → status.ok = false

section Honest

variable {allowed wider : Incident → Bool} {status later : ImStatus} {notes rest : List Incident}

theorem Honest.nil (answers : status ≠ .noSession) : Honest allowed status [] := by
  constructor <;> simp [answers]

theorem Honest.change (honest : Honest allowed status notes) (before : status ≠ .noSession)
    (after : later ≠ .noSession) (worse : later.ok = true → status.ok = true) :
    Honest allowed later notes := by
  refine ⟨honest.only, honest.wild, ?_, ?_⟩
  · rw [← honest.refused]
    exact iff_of_false after before
  · intro failing
    have unsettled := honest.failed failing
    by_contra settled
    rw [worse (by simpa using settled)] at unsettled
    cases unsettled

theorem Honest.mono (honest : Honest allowed status notes)
    (included : ∀ incident, allowed incident = true → wider incident = true) :
    Honest wider status notes :=
  ⟨fun incident member => included incident (honest.only incident member), honest.wild,
    honest.refused, honest.failed⟩

theorem wild_append (first : .wild ∈ notes ↔ notes.any Incident.crashes = true)
    (second : .wild ∈ rest ↔ rest.any Incident.crashes = true) :
    .wild ∈ notes ++ rest ↔ (notes ++ rest).any Incident.crashes = true := by
  rw [List.mem_append, List.any_append, Bool.or_eq_true, first, second]

theorem Honest.quiet (honest : Honest allowed status notes) (passed : status.ok = true) :
    notes.any Incident.refuses = false ∧ .failed ∉ notes := by
  constructor
  · rw [← Bool.not_eq_true, ← honest.refused]
    rintro rfl
    cases passed
  · intro failing
    rw [honest.failed failing] at passed
    cases passed

theorem only_append (first : ∀ incident ∈ notes, allowed incident = true)
    (second : ∀ incident ∈ rest, allowed incident = true) :
    ∀ incident ∈ notes ++ rest, allowed incident = true := by
  intro incident member
  rcases List.mem_append.mp member with early | late
  · exact first incident early
  · exact second incident late

theorem Honest.andThen (first : Honest allowed status notes) (passed : status.ok = true)
    (second : Honest allowed later rest) : Honest allowed later (notes ++ rest) := by
  obtain ⟨answered, worked⟩ := first.quiet passed
  refine ⟨only_append first.only second.only, wild_append first.wild second.wild, ?_, ?_⟩
  · rw [List.any_append, answered, Bool.false_or]
    exact second.refused
  · intro failing
    exact second.failed ((List.mem_append.mp failing).resolve_left worked)

theorem Honest.keep (first : Honest allowed status notes) (second : Honest allowed later rest)
    (passed : later.ok = true) : Honest allowed status (notes ++ rest) := by
  obtain ⟨answered, worked⟩ := second.quiet passed
  refine ⟨only_append first.only second.only, wild_append first.wild second.wild, ?_, ?_⟩
  · rw [List.any_append, answered, Bool.or_false]
    exact first.refused
  · intro failing
    exact first.failed ((List.mem_append.mp failing).resolve_right worked)

end Honest

/-! The session -/

section Session

variable {α : Type} {asker : Asker} {post : List Incident → α → Prop}

theorem call_reports (request : SysCall) :
    (call request).Reports note fun notes answer => notes = note ⟨request, answer⟩ := by
  refine .call fun answer => .done ?_
  rw [List.append_nil]

theorem silent_reports {request : SysCall} {next : SysCall.Reply request → Program α}
    (silent : ∀ answer, note ⟨request, answer⟩ = [])
    (rest : ∀ answer, (next answer).Reports note post) :
    (call request >>= next).Reports note post := by
  refine (call_reports request).bind ?_
  intro notes answer exchanged
  rw [exchanged, silent answer]
  exact rest answer

theorem getRgaSession_reports (asker : Asker) :
    (getRgaSession asker).Reports note fun notes ptr =>
      (∃ session, ptr = .object session ∧ notes = []) ∨
        ptr = .errPtr .noSession ∧ notes = [.missed asker] := by
  unfold getRgaSession
  refine silent_reports (fun _ => rfl) fun found => ?_
  split
  · exact .done (.inl ⟨_, rfl, rfl⟩)
  refine silent_reports (fun _ => rfl) fun locked => ?_
  split
  · exact .done (.inl ⟨_, rfl, rfl⟩)
  refine (call_reports _).bind ?_
  rintro notes reply exchanged
  refine silent_reports (fun _ => rfl) fun _ => ?_
  split
  · rename_i failed
    refine .done (.inr ⟨rfl, ?_⟩)
    rw [exchanged, note, if_pos failed, List.append_nil]
  · rename_i succeeded
    refine .done (.inl ⟨_, rfl, ?_⟩)
    rw [exchanged, note, if_neg succeeded, List.append_nil]

theorem withSession_reports {failed : ImStatus → α} {body : RgaSession → Program α}
    (refused : post [.missed asker] (failed .noSession))
    (accepted : ∀ session, (body session).Reports note post) :
    (withSession asker failed body).Reports note post := by
  refine (getRgaSession_reports asker).bind ?_
  rintro notes ptr (⟨session, rfl, rfl⟩ | ⟨rfl, rfl⟩)
  · exact accepted session
  · refine .done ?_
    exact refused

theorem untested_reports (asker : Asker) {next : RgaSession → Program α}
    (found : ∀ session, (next session).Reports note post)
    (missed : ∀ session, (next session).Reports note fun notes result =>
      post (.missed asker :: .wild :: notes) result) :
    (do
      let ptr ← getRgaSession asker
      let session ← ptr.read asker
      next session : Program α).Reports note post := by
  refine (getRgaSession_reports asker).bind ?_
  rintro notes ptr (⟨session, rfl, rfl⟩ | ⟨rfl, rfl⟩)
  · exact found session
  · refine (call_reports _).bind ?_
    rintro _ session rfl
    exact missed session

end Session

theorem missed_honest {asker : Asker} (passesOn : asker.passesOn = true) :
    Honest Incident.asks .noSession [.missed asker] := by
  have tests : asker.tests = true := by
    cases asker <;> first | rfl | cases passesOn
  constructor <;> simp [Incident.asks, Incident.crashes, Incident.refuses, passesOn, tests]

theorem misreported_honest {asker : Asker} (tests : asker.tests = true)
    (kept : asker.passesOn = false) : Honest Incident.asks .success [.missed asker] := by
  constructor <;> simp [Incident.asks, Incident.crashes, Incident.refuses, kept, tests]

theorem stray_honest {asker : Asker} (untested : asker.tests = false) :
    Honest Incident.asks .success [.missed asker, .wild] := by
  have kept : asker.passesOn = false := by
    cases asker <;> first | rfl | cases untested
  constructor <;> simp [Incident.asks, Incident.crashes, Incident.refuses, kept, untested]

def Untested (asker : Asker) (notes : List Incident) : Prop :=
  notes = [] ∨ notes = [.missed asker, .wild]

theorem Untested.honest {asker : Asker} {notes : List Incident} (read : Untested asker notes)
    (untested : asker.tests = false) : Honest Incident.asks .success notes := by
  rcases read with rfl | rfl
  · exact .nil (by simp)
  · exact stray_honest untested

theorem getDebugState_reports :
    getDebugState.Reports note fun notes _ => Untested .getDebugState notes := by
  refine untested_reports .getDebugState (fun _ => ?_) fun _ => ?_
  · exact (call_reports .updateLog).mono fun _ _ exchanged => .inl exchanged
  · exact (call_reports .updateLog).mono fun _ _ exchanged => .inr (by rw [exchanged]; rfl)

theorem isDebugEn_reports : isDebugEn.Reports note fun notes _ => Untested .isDebugEn notes := by
  refine untested_reports .isDebugEn (fun _ => ?_) fun _ => ?_
  · exact (call_reports .loadIsDebug).mono fun _ _ exchanged => .inl exchanged
  · exact (call_reports .loadIsDebug).mono fun _ _ exchanged => .inr (by rw [exchanged]; rfl)

/-! `querystring` and the checks -/

/-- The names whose text is made from the table. -/
def Reads (name : Int32) : Prop :=
  rgaVendor < name ∧ name ≤ rgaAll

instance (name : Int32) : Decidable (Reads name) :=
  inferInstanceAs (Decidable (_ ∧ _))

theorem querystring_reports (name : Int32) :
    (querystring name).Reports note fun notes text => text ≠ .noSession ∧
      (notes = [] ∨ ∃ rest, notes = .missed .querystring :: rest ∧
        (Reads name → rest = [.wild])) := by
  unfold querystring
  refine (getRgaSession_reports .querystring).bind ?_
  intro notes ptr answered
  have nonzero : ptr.isNull = false := by
    rcases answered with ⟨session, rfl, _⟩ | ⟨rfl, _⟩ <;> rfl
  rw [if_neg (by simp [nonzero])]
  have unread {text : QueryText} (other : text ≠ .noSession) (outside : ¬Reads name) :
      text ≠ .noSession ∧ (notes ++ [] = [] ∨ ∃ rest, notes ++ [] = .missed .querystring :: rest ∧
        (Reads name → rest = [.wild])) := by
    refine ⟨other, ?_⟩
    rcases answered with ⟨_, _, rfl⟩ | ⟨_, rfl⟩
    · exact .inl rfl
    · exact .inr ⟨[], rfl, fun reads => absurd reads outside⟩
  split
  · rename_i vendor
    refine .done (unread (by simp) fun reads => ?_)
    rw [vendor] at reads
    exact absurd reads.1 (Int32.lt_irrefl)
  split
  · rename_i beyond
    refine .done (unread (by simp) fun reads => ?_)
    rcases beyond with below | above
    · exact Int32.lt_asymm below reads.1
    · exact Int32.not_le.mpr above reads.2
  rcases answered with ⟨session, rfl, rfl⟩ | ⟨rfl, rfl⟩
  · exact .done ⟨by simp, .inl rfl⟩
  · refine (call_reports _).bind ?_
    rintro _ session rfl
    exact .done ⟨by simp, .inr ⟨_, rfl, fun _ => rfl⟩⟩

theorem logQuery_reports {name : Int32} (reads : Reads name) :
    (logQuery name).Reports note fun notes _ => Honest Incident.asks .success notes := by
  have once : (querystring name).Reports note fun notes _ =>
      Honest Incident.asks .success notes := by
    refine (querystring_reports name).mono ?_
    rintro notes text ⟨_, rfl | ⟨rest, rfl, wild⟩⟩
    · exact .nil (by decide)
    · rw [wild reads]
      exact stray_honest rfl
  refine once.bind fun notes _ first => ?_
  refine silent_reports (fun _ => rfl) fun enabled => ?_
  split
  · exact once.bind fun later _ second => .done (first.andThen rfl (by simpa using second))
  · exact .done (by simpa using first)

theorem rgaCheckImageQuery_some {name query : Int32} {info : RgaBuffer} {rect : ImRect}
    {resolution : RgaInfoResolution} {formatUsage : UInt32} {modeUsage : Int32}
    (asked : rgaCheckImageQuery name info rect resolution formatUsage modeUsage = some query) :
    query = name := by
  unfold rgaCheckImageQuery rgaCheckFormatQuery at asked
  split at asked
  · cases asked
  split at asked
  · cases asked
    rfl
  split at asked
  · cases asked
    rfl
  · cases asked

theorem rgaCheckQuery_reads {table : RgaInfoTableEntry} {src dst pat : RgaBuffer}
    {srcRect dstRect patRect : ImRect} {modeUsage name : Int32}
    (asked : rgaCheckQuery table src dst pat srcRect dstRect patRect modeUsage = some name) :
    Reads name := by
  unfold rgaCheckQuery at asked
  dsimp only at asked
  split at asked
  · cases asked
    decide
  split at asked
  · rw [rgaCheckImageQuery_some asked]
    decide
  split at asked
  · cases asked
  split at asked
  · rw [rgaCheckImageQuery_some asked]
    decide
  · rw [rgaCheckImageQuery_some asked]
    decide

/-- A check is honest and does not give `IM_STATUS_SUCCESS`. -/
structure Vetted (status : ImStatus) (notes : List Incident) : Prop where
  honest : Honest Incident.asks status notes
  verdict : status = .noError ∨ status.ok = false

theorem Vetted.of_checked {status : ImStatus} {notes : List Incident}
    (checked : status.checked = true) (quiet : Honest Incident.asks .success notes) :
    Vetted status notes := by
  have known : status ≠ .noSession := by
    rintro rfl
    cases checked
  refine ⟨quiet.change (by decide) known fun _ => rfl, ?_⟩
  by_cases passed : status = .noError
  · exact .inl passed
  · exact .inr (refuses_not_ok (refuses_of_checked checked passed))

theorem rgaCheck_reports (src dst pat : RgaBuffer) (srcRect dstRect patRect : ImRect)
    (modeUsage : Int32) :
    (rgaCheck src dst pat srcRect dstRect patRect modeUsage).Reports note fun notes status =>
      Vetted status notes := by
  refine withSession_reports ⟨missed_honest rfl, .inr rfl⟩ fun session => ?_
  have checked := rgaCheck_checked session.hardwareInfo src dst pat srcRect dstRect patRect
    modeUsage
  dsimp only
  split
  · rename_i asked
    refine (logQuery_reports (rgaCheckQuery_reads asked)).bind fun notes _ quiet => .done ?_
    rw [List.append_nil]
    exact .of_checked checked quiet
  · exact .done (.of_checked checked (.nil (by decide)))

theorem rgaCheckExternal_reports (src dst pat : RgaBuffer) (srcRect dstRect patRect : ImRect)
    (modeUsage : Int32) :
    (rgaCheckExternal src dst pat srcRect dstRect patRect modeUsage).Reports note
      fun notes status => Vetted status notes := by
  have refused : Vetted .notSupported [] := .of_checked rfl (.nil (by decide))
  refine .ite (fun _ => .done refused) fun _ => ?_
  refine .ite (fun _ => .done refused) fun _ => ?_
  refine .ite (fun _ => .done refused) fun _ => ?_
  exact rgaCheck_reports _ _ _ _ _ _ _

/-! Buffers -/

def Incident.plain : Incident → Bool
  | lost | unfenced => false
  | _ => true

theorem asks_plain (incident : Incident) (asks : incident.asks = true) :
    incident.plain = true := by
  cases incident <;> first | rfl | cases asks

theorem failed_honest {allowed : Incident → Bool} {status : ImStatus}
    (may : allowed .failed = true) (answers : status ≠ .noSession) (failed : status.ok = false) :
    Honest allowed status [.failed] := by
  constructor <;> simp [Incident.crashes, Incident.refuses, may, answers, failed]

/-- The ioctl says nothing about the session, nor does it fail. -/
theorem passed_honest {allowed : Incident → Bool} {incident : Incident} {status : ImStatus}
    (may : allowed incident = true) (asked : incident.asks = false) (worked : incident ≠ .failed)
    (answers : status ≠ .noSession) : Honest allowed status [incident] := by
  have quiet : incident.crashes = false ∧ incident.refuses = false ∧ incident ≠ .wild := by
    cases incident <;> simp_all [Incident.asks, Incident.crashes, Incident.refuses]
  constructor <;> simp [may, answers, quiet, worked.symm, quiet.2.2.symm]

inductive Imported : ImStatus × List UInt32 → List Incident → Prop
  | missed : Imported (.noSession, []) [.missed .rgaImportBuffers]
  | nullPool : Imported (.failed, []) []
  | failed : Imported (.failed, []) [.failed]
  | granted (handles : List UInt32) : Imported (.success, handles) [.granted (handles.headD 0)]

theorem Imported.honest {result : ImStatus × List UInt32} {notes : List Incident}
    (imported : Imported result notes) : Honest Incident.plain result.1 notes := by
  cases imported with
  | missed => exact (missed_honest rfl).mono asks_plain
  | nullPool => exact .nil (by simp)
  | failed => exact failed_honest rfl (by simp) rfl
  | granted handles => exact passed_honest rfl rfl (by simp) (by simp)

theorem rgaImportBuffers_reports (pool : Option (List RgaExternalBuffer)) :
    (rgaImportBuffers pool).Reports note fun notes result => Imported result notes := by
  refine withSession_reports .missed fun _ => ?_
  cases pool with
  | none => exact .done .nullPool
  | some buffers =>
      refine (call_reports _).bind ?_
      rintro _ reply rfl
      cases reply with
      | none => exact .done .failed
      | some handles => exact .done (.granted handles)

theorem rgaReleaseBuffers_reports (pool : Option (List RgaExternalBuffer)) :
    (rgaReleaseBuffers pool).Reports note fun notes status =>
      Honest Incident.plain status notes := by
  refine withSession_reports ((missed_honest rfl).mono asks_plain) fun _ => ?_
  cases pool with
  | none => exact .done (.nil (by simp))
  | some buffers =>
      refine (call_reports _).bind ?_
      rintro _ released rfl
      cases released with
      | false => exact .done (failed_honest rfl (by simp) rfl)
      | true => exact .done (.nil (by simp))

/-! Jobs -/

/-- A cancel answers for itself, but a failure that its caller drops is lost. -/
theorem rgaJobCancel_reports (dropped : Bool) (handle : UInt32) :
    (rgaJobCancel dropped handle).Reports note fun notes status =>
      (notes = [.missed (.rgaJobCancel dropped)] ∧ status = .noSession) ∨
      (notes = [if dropped then .lost else .failed] ∧ status = .failed) ∨
      (notes = [] ∧ status = .success) := by
  refine withSession_reports (.inl ⟨rfl, rfl⟩) fun _ => ?_
  refine silent_reports (fun _ => rfl) fun manager => ?_
  have rest : (do
      let cancelled : Bool ← call (.requestCancel dropped handle)
      return if cancelled then .success else .failed : Program ImStatus).Reports note
        fun notes status =>
          (notes = [.missed (.rgaJobCancel dropped)] ∧ status = .noSession) ∨
          (notes = [if dropped then .lost else .failed] ∧ status = .failed) ∨
          (notes = [] ∧ status = .success) := by
    refine (call_reports _).bind ?_
    rintro _ cancelled rfl
    refine .done (.inr ?_)
    cases cancelled with
    | true => exact .inr ⟨rfl, rfl⟩
    | false => cases dropped <;> exact .inl ⟨rfl, rfl⟩
  dsimp only
  cases rgaMapFindJob manager.jobMap handle with
  | none => exact silent_reports (fun _ => rfl) fun _ => rest
  | some ptr => exact silent_reports (fun _ => rfl) fun _ => rest

theorem cancel_honest {allowed : Incident → Bool} {status : ImStatus} {notes : List Incident}
    (included : ∀ incident, incident.plain = true → allowed incident = true)
    (cancelled : (notes = [.missed (.rgaJobCancel false)] ∧ status = .noSession) ∨
      (notes = [.failed] ∧ status = .failed) ∨ (notes = [] ∧ status = .success)) :
    Honest allowed status notes := by
  rcases cancelled with ⟨rfl, rfl⟩ | ⟨rfl, rfl⟩ | ⟨rfl, rfl⟩
  · exact (missed_honest rfl).mono fun incident asks => included _ (asks_plain incident asks)
  · exact failed_honest (included _ rfl) (by simp) rfl
  · exact .nil (by simp)

def Dropped (notes : List Incident) : Prop :=
  notes = [.missed (.rgaJobCancel true)] ∨ notes = [.lost] ∨ notes = []

theorem rgaJobCancel_dropped (handle : UInt32) :
    (rgaJobCancel true handle).Reports note fun notes _ => Dropped notes := by
  refine (rgaJobCancel_reports true handle).mono ?_
  rintro notes status (⟨missed, _⟩ | ⟨lost, _⟩ | ⟨quiet, _⟩)
  · exact .inl missed
  · exact .inr (.inl lost)
  · exact .inr (.inr quiet)

theorem Dropped.honest {allowed : Incident → Bool} {notes : List Incident}
    (dropped : Dropped notes) (all : ∀ incident, allowed incident = true) :
    Honest allowed .success notes := by
  rcases dropped with rfl | rfl | rfl
  · exact (misreported_honest rfl rfl).mono fun incident _ => all incident
  · exact passed_honest (all _) rfl (by simp) (by simp)
  · exact .nil (by simp)

/-- Without a session the handle is the status as an unsigned integer. -/
inductive Created : UInt32 → List Incident → Prop
  | missed : Created 0xfffffffa [.missed .rgaJobCreate]
  | failed : Created 0 [.failed]
  | cancelled (handle : UInt32) {notes : List Incident} (dropped : Dropped notes) :
      Created 0 (.granted handle :: notes)
  | granted (handle : UInt32) : Created handle [.granted handle]

theorem rgaJobCreate_reports (kind : JobMapKind) (flags : UInt32) :
    (rgaJobCreate kind flags).Reports note fun notes handle => Created handle notes := by
  have cancels (manager : JobManager RgaReq) (handle : UInt32) :
      (errorCancelJob manager handle).Reports note fun notes result =>
        Created result (.granted handle :: notes) := by
    refine silent_reports (fun _ => rfl) fun _ => ?_
    refine (rgaJobCancel_dropped handle).bind fun notes _ dropped => .done ?_
    rw [List.append_nil]
    exact .cancelled handle dropped
  refine withSession_reports .missed fun _ => ?_
  refine (call_reports _).bind ?_
  rintro _ reply rfl
  cases reply with
  | none => exact .done .failed
  | some handle =>
      refine silent_reports (fun _ => rfl) fun manager => ?_
      cases rgaMapFindJob manager.jobMap handle with
      | some _ => exact cancels manager handle
      | none =>
          refine silent_reports (fun _ => rfl) fun block => ?_
          cases block with
          | none => exact cancels manager handle
          | some ptr => exact silent_reports (fun _ => rfl) fun _ => .done (.granted handle)

structure JobSubmitted (syncMode : Int32) (releaseFence : Bool) (reply : FenceReply)
    (notes : List Incident) : Prop where
  honest : Honest Incident.reported reply.status notes
  verdict : reply.status = .success ∨ reply.status.ok = false
  unfenced : (syncMode = imAsync → releaseFence = true) →
    (.unfenced ∈ notes ↔ reply.status = .success ∧ syncMode = imAsync ∧ reply.fence ≤ 0)

theorem asks_reported (incident : Incident) (asks : incident.asks = true) :
    incident.reported = true := by
  cases incident <;> first | rfl | cases asks

theorem jobSyncMode_async {syncMode command : Int32}
    (accepted : jobSyncMode syncMode = some command) :
    command = rgaBlitAsync ↔ syncMode = imAsync := by
  unfold jobSyncMode at accepted
  split at accepted
  · rename_i sync
    cases accepted
    rw [sync]
    decide
  split at accepted
  · rename_i async
    cases accepted
    exact iff_of_true rfl async
  · cases accepted

theorem rgaJobSubmit_reports (handle : UInt32) (syncMode acquireFenceFd : Int32)
    (releaseFence : Bool) :
    (rgaJobSubmit handle syncMode acquireFenceFd releaseFence).Reports note fun notes reply =>
      JobSubmitted syncMode releaseFence reply notes := by
  have illegal : JobSubmitted syncMode releaseFence { status := .illegalParam } [] :=
    ⟨.nil (by simp), .inr rfl, by simp⟩
  refine withSession_reports ⟨(missed_honest rfl).mono asks_reported, .inr rfl, by simp⟩
    fun _ => ?_
  cases accepted : jobSyncMode syncMode with
  | none => exact .done illegal
  | some command =>
      have mode := jobSyncMode_async accepted
      refine silent_reports (fun _ => rfl) fun manager => ?_
      cases rgaMapFindJob manager.jobMap handle with
      | none => exact silent_reports (fun _ => rfl) fun _ => .done illegal
      | some ptr =>
          refine silent_reports (fun _ => rfl) fun _ => ?_
          refine (call_reports _).bind ?_
          rintro _ reply rfl
          refine silent_reports (fun _ => rfl) fun _ => ?_
          have same : (manager.userRequest ptr command).syncMode = command := rfl
          simp only [note, same, mode]
          by_cases failed : reply.ret < 0
          · rw [if_pos failed, if_pos failed]
            exact .done ⟨failed_honest rfl (by simp) rfl, .inr rfl, by simp⟩
          rw [if_neg failed, if_neg failed]
          by_cases placed : syncMode = imAsync ∧ releaseFence = true
          · rw [if_pos placed]
            refine .done ⟨?_, .inl rfl, fun _ => ?_⟩
            · split
              · exact passed_honest rfl rfl (by simp) (by simp)
              · exact .nil (by simp)
            · by_cases open' : reply.outFenceFd ≤ 0 <;> simp [placed.1, open']
          · rw [if_neg placed]
            refine .done ⟨?_, .inl rfl, fun given => ?_⟩
            · split
              · exact passed_honest rfl rfl (by simp) (by simp)
              · exact .nil (by simp)
            · have sync : syncMode ≠ imAsync := fun async => placed ⟨async, given async⟩
              simp [sync]

theorem rgaJobConfig_reports (handle : UInt32) (syncMode acquireFenceFd : Int32)
    (releaseFence : Bool) :
    (rgaJobConfig handle syncMode acquireFenceFd releaseFence).Reports note fun notes reply =>
      Honest Incident.plain reply.status notes := by
  have illegal : Honest Incident.plain .illegalParam [] := .nil (by simp)
  refine withSession_reports ((missed_honest rfl).mono asks_plain) fun _ => ?_
  cases jobSyncMode syncMode with
  | none => exact .done illegal
  | some command =>
      refine silent_reports (fun _ => rfl) fun manager => ?_
      cases rgaMapFindJob manager.jobMap handle with
      | none => exact silent_reports (fun _ => rfl) fun _ => .done illegal
      | some ptr =>
          refine (call_reports _).bind ?_
          rintro _ reply rfl
          refine silent_reports (fun _ => rfl) fun _ => ?_
          rw [note]
          by_cases failed : reply.ret < 0
          · rw [if_pos failed, if_pos failed]
            exact .done (failed_honest rfl (by simp) rfl)
          · rw [if_neg failed, if_neg failed]
            exact .ite (fun _ => .done (.nil (by simp))) fun _ => .done (.nil (by simp))

/-! Submissions -/

/-- One operation on the device counts as carried out when its ioctl succeeds. -/
structure TaskSubmitted (args : TaskArgs) (status : ImStatus) (notes : List Incident) : Prop where
  honest : Honest Incident.plain status notes
  verdict : status = .success ∧ lacksFence args = false ∨ status.ok = false
  carried : args.jobHandle = 0 → taskPath args ≠ .palette →
    notes.count .blitted = if status = .success then 1 else 0

theorem asks_count {notes : List Incident}
    (asked : ∀ incident ∈ notes, incident.asks = true) : notes.count .blitted = 0 := by
  rw [List.count_eq_zero]
  intro member
  cases asked _ member

theorem TaskSubmitted.refused {args : TaskArgs} {status : ImStatus} {notes : List Incident}
    (honest : Honest Incident.asks status notes) (failed : status.ok = false) :
    TaskSubmitted args status notes := by
  refine ⟨honest.mono asks_plain, .inr failed, fun _ _ => ?_⟩
  rw [asks_count honest.only, if_neg]
  rintro rfl
  cases failed

theorem TaskSubmitted.placed {args : TaskArgs} {status : ImStatus} {notes : List Incident}
    (submitted : TaskSubmitted args status notes) (succeeded : status = .success) :
    lacksFence args = false := by
  rcases submitted.verdict with ⟨_, placed⟩ | failed
  · exact placed
  · rw [succeeded] at failed
    cases failed

theorem TaskSubmitted.after {args : TaskArgs} {before status : ImStatus}
    {notes rest : List Incident} (submitted : TaskSubmitted args status rest)
    (first : Honest Incident.asks before notes) (passed : before.ok = true) :
    TaskSubmitted args status (notes ++ rest) := by
  refine ⟨(first.mono asks_plain).andThen passed submitted.honest, submitted.verdict,
    fun direct path => ?_⟩
  rw [List.count_append, asks_count first.only, Nat.zero_add]
  exact submitted.carried direct path

/-- The palette table is the only request a builder hands out itself. -/
structure Generated (args : TaskArgs) (built : Option RgaReq) (notes : List Incident) :
    Prop where
  honest : Honest Incident.plain (if built.isSome then .success else .failed) notes
  asks : taskPath args ≠ .palette → ∀ incident ∈ notes, incident.asks = true

theorem buildTask_update {session : RgaSession} {path : TaskPath} {setup : TaskSetup}
    {lutRet : Int32} {update : RgaReq} (updates : (buildTask session path setup lutRet).1 =
      some update) : path = .palette := by
  cases path <;> first | rfl | cases updates

theorem buildTask_failed {session : RgaSession} {path : TaskPath} {setup : TaskSetup}
    {lutRet : Int32} {update : RgaReq} (updates : (buildTask session path setup 0).1 =
      some update) (failed : lutRet ≠ 0) :
    builtReq (buildTask session path setup lutRet).2 = none := by
  obtain rfl := buildTask_update updates
  unfold buildTask generateColorPaletteReq at updates ⊢
  dsimp only at updates ⊢
  cases planned : planPalette setup.src setup.dst setup.pat with
  | error exit =>
      rw [planned] at updates
      cases updates
  | ok plan =>
      rw [planned] at updates
      dsimp only at updates ⊢
      cases table : paletteLutReq session plan with
      | none =>
          rw [table] at updates
          cases updates
      | some lut =>
          dsimp only
          rw [if_pos failed]
          rfl

theorem generateReq_reports (args : TaskArgs) (setup : TaskSetup) :
    (generateReq args setup).Reports note fun notes built => Generated args built notes := by
  have quiet (built : Option RgaReq) : Generated args built [] := by
    refine ⟨.nil ?_, fun _ _ member => absurd member (List.not_mem_nil)⟩
    cases built <;> simp
  refine withSession_reports ?_ fun session => ?_
  · refine ⟨((misreported_honest rfl rfl).mono asks_plain).change (by simp) (by simp)
      fun _ => rfl, fun _ incident member => ?_⟩
    rw [List.mem_singleton.mp member]
    rfl
  · cases updates : (buildTask session (taskPath args) setup 0).1 with
    | none => exact .done (quiet _)
    | some update =>
        refine (call_reports _).bind ?_
        rintro _ reply rfl
        refine .done ?_
        have path := buildTask_update updates
        rw [note]
        by_cases failed : reply.ret ≠ 0
        · rw [if_pos failed, buildTask_failed updates failed]
          exact ⟨failed_honest rfl (by simp) rfl, fun other => absurd path other⟩
        · rw [if_neg failed]
          refine ⟨passed_honest rfl rfl (by simp) ?_, fun other => absurd path other⟩
          split <;> simp

section Tasks

variable {args : TaskArgs}

theorem queueTask_reports (placed : lacksFence args = false) (req : RgaReq)
    (queued : 0 < args.jobHandle) :
    (queueTask args req).Reports note fun notes reply =>
      TaskSubmitted args reply.status notes := by
  have refused : TaskSubmitted args .illegalParam [] := .refused (.nil (by simp)) rfl
  refine silent_reports (fun _ => rfl) fun manager => ?_
  cases manager.appendTask args.jobHandle req with
  | missing => exact silent_reports (fun _ => rfl) fun _ => .done refused
  | full => exact silent_reports (fun _ => rfl) fun _ => .done refused
  | appended ptr after =>
      refine silent_reports (fun _ => rfl) fun _ => .done ?_
      refine ⟨.nil (by simp), .inl ⟨rfl, placed⟩, fun direct => ?_⟩
      rw [direct] at queued
      exact absurd queued (by decide)

theorem blitTask_reports (placed : lacksFence args = false) (session : RgaSession)
    (req : RgaReq) :
    (blitTask session args req).Reports note fun notes reply =>
      TaskSubmitted args reply.status notes := by
  unfold blitTask
  cases blitArg session req with
  | none => exact .done (.refused (.nil (by simp)) rfl)
  | some arg =>
      refine (call_reports _).bind ?_
      rintro _ reply rfl
      rw [note]
      by_cases failed : reply.ret ≠ 0
      · rw [if_pos failed, if_pos failed]
        exact .done ⟨failed_honest rfl (by simp) rfl, .inr rfl, fun _ _ => by simp⟩
      rw [if_neg failed, if_neg failed]
      have carried : TaskSubmitted args .success ([.blitted] ++ []) :=
        ⟨passed_honest rfl rfl (by simp) (by simp), .inl ⟨rfl, placed⟩, fun _ _ => by simp⟩
      refine .ite (fun _ => ?_) fun _ => .done carried
      exact .ite (fun _ => silent_reports (fun _ => rfl) fun _ => .done carried)
        fun _ => .done carried

theorem submitReq_reports (placed : lacksFence args = false) (session : RgaSession)
    (req : RgaReq) :
    (submitReq session args req).Reports note fun notes reply =>
      TaskSubmitted args reply.status notes := by
  have freed (notes : List Incident) (reply : FenceReply)
      (submitted : TaskSubmitted args reply.status notes) : (do
      if has args.usage imGauss ∧ req.gaussConfig.coePtr ≠ 0 then
        call (.free req.gaussConfig.coePtr)
      return reply : Program FenceReply).Reports note fun later reply =>
        TaskSubmitted args reply.status (notes ++ later) := by
    rw [← List.append_nil notes] at submitted
    exact .ite (fun _ => silent_reports (fun _ => rfl) fun _ => .done submitted)
      fun _ => .done submitted
  unfold submitReq
  refine .ite (fun queued => ?_) fun _ => ?_
  · exact (queueTask_reports placed req queued).bind freed
  · exact (blitTask_reports placed session req).bind freed

theorem generated_reports (placed : lacksFence args = false) (session : RgaSession)
    (setup : TaskSetup) {next : Option RgaReq → Program FenceReply}
    (refused : next none = return { status := .failed })
    (filled : ∀ req, next (some req) = submitReq session args req) :
    (generateReq args setup >>= next).Reports note fun notes reply =>
      TaskSubmitted args reply.status notes := by
  refine (generateReq_reports args setup).bind fun notes built generated => ?_
  cases built with
  | none =>
      rw [refused]
      refine .done ⟨?_, .inr rfl, fun _ path => ?_⟩
      · rw [List.append_nil]
        exact generated.honest
      · rw [List.append_nil, if_neg (by simp)]
        exact asks_count (generated.asks path)
  | some req =>
      rw [filled]
      refine (submitReq_reports placed session req).mono fun later reply submitted => ?_
      refine ⟨generated.honest.andThen rfl submitted.honest, submitted.verdict,
        fun direct path => ?_⟩
      rw [List.count_append, asks_count (generated.asks path), Nat.zero_add]
      exact submitted.carried direct path

theorem buildAndSubmit_reports (session : RgaSession) (buffers : TaskBuffers) (mode : Int32) :
    (buildAndSubmit session args buffers mode).Reports note fun notes reply =>
      TaskSubmitted args reply.status notes := by
  unfold buildAndSubmit
  refine .ite (fun _ => silent_reports (fun _ => rfl) fun block => ?_) fun _ => ?_
  all_goals
    refine .ite (fun _ => .done (.refused (.nil (by simp)) rfl)) fun fenced => ?_
    have placed : lacksFence args = false := by simpa using fenced
    refine silent_reports (fun _ => rfl) fun context => ?_
    exact generated_reports placed session _ rfl fun _ => rfl

theorem rgaTaskSubmit_reports (args : TaskArgs) :
    (rgaTaskSubmit args).Reports note fun notes reply =>
      TaskSubmitted args reply.status notes := by
  refine withSession_reports (.refused (missed_honest rfl) rfl) fun session => ?_
  refine getDebugState_reports.bind fun first _ quiet => ?_
  refine isDebugEn_reports.bind fun second _ still => ?_
  have debugged : Honest Incident.asks .success (first ++ second) :=
    (quiet.honest rfl).andThen rfl (still.honest rfl)
  simp only [← List.append_assoc]
  have refused {status : ImStatus} {notes : List Incident} (refuses : status.refuses = true)
      (honest : Honest Incident.asks .success notes) :
      TaskSubmitted args status (notes ++ []) := by
    rw [List.append_nil]
    have known : status ≠ .noSession := by
      rintro rfl
      cases refuses
    exact .refused (honest.change (by simp) known fun _ => rfl) (refuses_not_ok refuses)
  refine .ite (fun unset => .done (refused (bufferInfo_refuses unset) debugged)) fun _ => ?_
  cases settled : settleBuffers args with
  | error status => exact .done (refused (settleBuffers_error settled) debugged)
  | ok buffers =>
      refine (rgaCheck_reports _ _ _ _ _ _ _).bind fun third status vetted => ?_
      simp only [← List.append_assoc]
      refine .ite (fun failed => .done ?_) fun passed => ?_
      · rw [List.append_nil]
        exact .refused (debugged.andThen rfl vetted.honest) (vetted.verdict.resolve_left failed)
      have checked : Honest Incident.asks .success (first ++ second ++ third) := by
        refine debugged.andThen rfl (vetted.honest.change ?_ (by simp) fun _ => ?_)
        all_goals
          rw [not_not.mp passed]
          simp [ImStatus.ok]
      cases coloured : taskColorSpaceMode session.hardwareInfo buffers.src buffers.dst
          buffers.pat with
      | error status => exact .done (refused (taskColorSpaceMode_error coloured) checked)
      | ok mode =>
          refine .ite (fun gauss => .done (refused (gaussStatus_refuses gauss.2) checked))
            fun _ => ?_
          exact (buildAndSubmit_reports session buffers mode).mono
            fun rest reply submitted => submitted.after checked rfl

end Tasks

end LibRga.Entry

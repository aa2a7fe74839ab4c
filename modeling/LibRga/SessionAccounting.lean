import LibRga.Session

/-!
The device fds of the session: one at most, none after a failure, and no second
opening once an initialisation has gone through.

`get_rga_session` takes an fd for valid from 1 on, `rga_device_exit` from 0 on. So
all of this holds as long as no initialisation goes through on fd 0.
-/

namespace LibRga

variable {state : SessionState} {session : SessionData} {reply : SessionReply}

def deviceCalls (trace : List SessionEvent) : List DeviceCall :=
  trace.reverse.flatMap SessionEvent.calls

def SessionEvent.Succeeded : SessionEvent → Prop
  | initialised _ _ _ _ => True
  | _ => False

structure SessionAccounted (trace : List SessionEvent) (state : SessionState) : Prop where
  single : ∀ calls, calls <+: deviceCalls trace →
    (DeviceLedger.replay {} calls).fds.length ≤ 1
  failed : ∀ thread session reply calls past, trace = .refused thread session reply calls :: past →
    (DeviceLedger.replay {} (deviceCalls trace)).fds = []
  settled : (∃ event ∈ trace, event.Succeeded) → ∀ thread,
    (state.pc thread = .idle → state.step (.readLock thread) = some (state, .found thread)) ∧
    (state.pc thread = .missed → ∀ reply, ∃ after, after.session = state.session ∧
      state.step (.writeLock thread reply) = some (after, .found thread))

def SessionData.completes (session : SessionData) (reply : SessionReply) : Bool :=
  let asked := session.queryVersions reply
  asked.2 && rgaCheckDriver asked.1.driverVersion ≠ .errorVersion &&
    (rgaGetInfo asked.1.coreVersion asked.1.hardwareInfo).1 = .success

/-- An attempt that gets fd 0 stops at a later stage. -/
def SessionEvent.Safe : SessionEvent → Prop
  | initialised _ session reply _ | refused _ session reply _ =>
      reply.fd = 0 → session.completes reply = false
  | _ => True

instance (event : SessionEvent) : Decidable event.Safe :=
  match event with
  | .initialised _ session reply _ | .refused _ session reply _ =>
      inferInstanceAs (Decidable (reply.fd = 0 → session.completes reply = false))
  | .found _ | .missed _ => inferInstanceAs (Decidable True)

/-! One initialisation -/

theorem setDriverFeature_frame (session : SessionData) :
    session.setDriverFeature.coreVersion = session.coreVersion ∧
      session.setDriverFeature.hardwareInfo = session.hardwareInfo := by
  unfold SessionData.setDriverFeature
  split <;> exact ⟨rfl, rfl⟩

theorem queryVersions_fd (session : SessionData) (reply : SessionReply) :
    (session.queryVersions reply).1.rgaDevFd = session.rgaDevFd := by
  unfold SessionData.queryVersions
  split <;> split <;> rfl

theorem rgaDeviceInit_cases (session : SessionData) (reply : SessionReply)
    (opened : 0 ≤ reply.fd) :
    (session.completes reply = false ∧ ∃ status after, status ≠ .success ∧
      after.rgaDevFd = session.rgaDevFd ∧
      session.rgaDeviceInit reply = (status, after, [.openFd reply.fd, .closeFd reply.fd])) ∨
    ∃ after, after.rgaDevFd = reply.fd ∧
      (session.completes reply =
        decide ((rgaGetInfo after.coreVersion after.hardwareInfo).1 = .success)) ∧
      session.rgaDeviceInit reply = (.success, after, [.openFd reply.fd]) := by
  have nonnegative : ¬reply.fd < 0 := Int32.not_lt.mpr opened
  have sameFd := queryVersions_fd session reply
  obtain ⟨sameCore, sameInfo⟩ := setDriverFeature_frame (session.queryVersions reply).1
  unfold SessionData.rgaDeviceInit
  by_cases answered : (session.queryVersions reply).2 = false
  · refine .inl ⟨by simp [SessionData.completes, answered], .failed, _, by decide, sameFd, ?_⟩
    simp [nonnegative, answered]
  by_cases refused : rgaCheckDriver (session.queryVersions reply).1.driverVersion = .errorVersion
  · refine .inl ⟨by simp [SessionData.completes, refused], .errorVersion, _, by decide, sameFd, ?_⟩
    simp [nonnegative, answered, refused]
  · refine .inr ⟨{ (session.queryVersions reply).1.setDriverFeature with rgaDevFd := reply.fd },
      rfl, ?_, ?_⟩
    · simp [SessionData.completes, answered, refused, sameCore, sameInfo]
    · simp [nonnegative, answered, refused]

theorem rgaSessionInit_cases (session : SessionData) (reply : SessionReply) :
    (reply.fd < 0 ∧ session.rgaSessionInit reply = (.failed, session, [])) ∨
    (0 ≤ reply.fd ∧ session.completes reply = false ∧
      ∃ status after, status ≠ .success ∧
        (after.rgaDevFd = session.rgaDevFd ∨ after.rgaDevFd = -1) ∧
        session.rgaSessionInit reply =
          (status, after, [.openFd reply.fd, .closeFd reply.fd])) ∨
    (0 ≤ reply.fd ∧ session.completes reply = true ∧
      ∃ after, after.rgaDevFd = reply.fd ∧
        session.rgaSessionInit reply = (.success, after, [.openFd reply.fd])) := by
  by_cases negative : reply.fd < 0
  · exact .inl ⟨negative, by simp [SessionData.rgaSessionInit, SessionData.rgaDeviceInit, negative]⟩
  have opened : 0 ≤ reply.fd := Int32.not_lt.mp negative
  refine .inr ?_
  obtain ⟨incomplete, status, after, failed, same, device⟩ | ⟨device, fd, completes, ran⟩ :=
    rgaDeviceInit_cases session reply opened
  · refine .inl ⟨opened, incomplete, status, after, failed, .inl same, ?_⟩
    simp [SessionData.rgaSessionInit, device, failed]
  · have init : session.rgaSessionInit reply =
        if (rgaGetInfo device.coreVersion device.hardwareInfo).1 = .success then
          (.success, { device with
            hardwareInfo := (rgaGetInfo device.coreVersion device.hardwareInfo).2 },
            [.openFd reply.fd])
        else ((rgaGetInfo device.coreVersion device.hardwareInfo).1,
          { device with
            hardwareInfo := (rgaGetInfo device.coreVersion device.hardwareInfo).2
            rgaDevFd := -1, driverType := .unknown, driverFeature := 0 },
          [.openFd reply.fd, .closeFd reply.fd]) := by
      simp [SessionData.rgaSessionInit, SessionData.rgaDeviceExit, ran, fd, negative]
    by_cases built : (rgaGetInfo device.coreVersion device.hardwareInfo).1 = .success
    · rw [if_pos built] at init
      exact .inr ⟨opened, by simp [completes, built], _, by exact fd, init⟩
    · rw [if_neg built] at init
      exact .inl ⟨opened, by simp [completes, built], _, _, built, by exact .inr rfl, init⟩

theorem rgaSessionInit_ledger {ledger : DeviceLedger} (empty : ledger.fds = [])
    {status : ImStatus} {after : SessionData} {calls : List DeviceCall}
    (ran : session.rgaSessionInit reply = (status, after, calls)) :
    (∀ part, part <+: calls → (ledger.replay part).fds.length ≤ 1) ∧
    (status ≠ .success → (ledger.replay calls).fds = [] ∧
      (after.rgaDevFd = session.rgaDevFd ∨ after.rgaDevFd = -1) ∧
      (reply.fd < 0 ∨ session.completes reply = false)) ∧
    (status = .success → session.completes reply = true ∧ 0 ≤ reply.fd ∧
      after.rgaDevFd = reply.fd) := by
  obtain ⟨negative, nothing⟩ | ⟨_, incomplete, status', after', failed, fd, closed⟩ |
      ⟨opened, completes, after', fd, left⟩ := rgaSessionInit_cases session reply
  · cases nothing.symm.trans ran
    refine ⟨?_, fun _ => ⟨empty, .inl rfl, .inl negative⟩, fun success => by cases success⟩
    intro part within
    rw [List.prefix_nil.mp within]
    simp [DeviceLedger.replay, empty]
  · cases closed.symm.trans ran
    refine ⟨?_, fun _ => ⟨?_, fd, .inr incomplete⟩, fun success => absurd success failed⟩
    · intro part within
      simp only [List.prefix_cons_iff, List.prefix_nil] at within
      obtain rfl | ⟨_, rfl, rfl | ⟨_, rfl, rfl⟩⟩ := within <;>
        simp [DeviceLedger.replay, DeviceLedger.apply, empty]
    · simp [DeviceLedger.replay, DeviceLedger.apply, empty]
  · cases left.symm.trans ran
    refine ⟨?_, fun failed => absurd rfl failed, fun _ => ⟨completes, opened, fd⟩⟩
    intro part within
    simp only [List.prefix_cons_iff, List.prefix_nil] at within
    obtain rfl | ⟨_, rfl, rfl⟩ := within <;>
      simp [DeviceLedger.replay, DeviceLedger.apply, empty]

/-! Whole runs -/

theorem deviceCalls_cons (event : SessionEvent) (past : List SessionEvent) :
    deviceCalls (event :: past) = deviceCalls past ++ event.calls := by
  simp [deviceCalls]

theorem replay_append (ledger : DeviceLedger) (first second : List DeviceCall) :
    ledger.replay (first ++ second) = (ledger.replay first).replay second :=
  List.foldl_append

/-- What the calls have left open, and what `rga_dev_fd` says about it. -/
structure SessionInvariant (trace : List SessionEvent) (state : SessionState) : Prop where
  ledger : state.ledger = DeviceLedger.replay {} (deviceCalls trace)
  single : ∀ calls, calls <+: deviceCalls trace →
    (DeviceLedger.replay {} calls).fds.length ≤ 1
  closed : ¬0 < state.session.rgaDevFd →
    state.ledger.fds = [] ∧ state.session.rgaDevFd < 0 ∧ ∀ event ∈ trace, ¬event.Succeeded
  failed : ∀ thread session reply calls past, trace = .refused thread session reply calls :: past →
    state.session.rgaDevFd < 0

theorem initial_session : SessionInvariant [] {} := by
  refine ⟨rfl, ?_, fun _ => ⟨rfl, by decide, by simp⟩, by simp⟩
  intro calls part
  rw [List.prefix_nil.mp part]
  exact Nat.zero_le 1

theorem single_extend {trace : List SessionEvent} {event : SessionEvent}
    (before : ∀ calls, calls <+: deviceCalls trace →
      (DeviceLedger.replay {} calls).fds.length ≤ 1)
    (inside : ∀ calls, calls <+: event.calls →
      ((DeviceLedger.replay {} (deviceCalls trace)).replay calls).fds.length ≤ 1) :
    ∀ calls, calls <+: deviceCalls (event :: trace) →
      (DeviceLedger.replay {} calls).fds.length ≤ 1 := by
  intro calls part
  rw [deviceCalls_cons] at part
  obtain earlier | ⟨rest, rfl⟩ := List.prefix_or_prefix_of_prefix part
    (List.prefix_append (deviceCalls trace) event.calls)
  · exact before calls earlier
  · rw [replay_append]
    exact inside rest ((List.prefix_append_right_inj _).mp part)

theorem sessionStep_cases {op : SessionOp} {after : SessionState} {event : SessionEvent}
    (taken : state.step op = some (after, event)) :
    (∃ thread, (event = .found thread ∨ event = .missed thread) ∧
      after.session = state.session ∧ after.ledger = state.ledger) ∨
    ∃ thread reply status session calls, ¬0 < state.session.rgaDevFd ∧
      state.session.rgaSessionInit reply = (status, session, calls) ∧
      after.session = session ∧ after.ledger = state.ledger.replay calls ∧
      (status ≠ .success ∧ event = .refused thread state.session reply calls ∨
        status = .success ∧ after.pc thread = .idle ∧
          event = .initialised thread state.session reply calls) := by
  cases op with
  | readLock thread =>
      simp only [SessionState.step] at taken
      split at taken
      · cases taken
      split at taken <;> cases taken
      · exact .inl ⟨thread, .inl rfl, rfl, rfl⟩
      · exact .inl ⟨thread, .inr rfl, rfl, rfl⟩
  | writeLock thread reply =>
      simp only [SessionState.step] at taken
      split at taken
      · cases taken
      split at taken
      · cases taken
        exact .inl ⟨thread, .inl rfl, rfl, rfl⟩
      rename_i unset
      split at taken
      · cases taken
      refine .inr ⟨thread, reply, _, _, _, unset, rfl, ?_⟩
      split at taken
      · rename_i failed
        cases taken
        exact ⟨rfl, rfl, .inl ⟨failed, rfl⟩⟩
      · rename_i succeeded
        cases taken
        exact ⟨rfl, rfl, .inr ⟨not_not.mp succeeded, if_pos rfl, rfl⟩⟩

theorem session_step {trace : List SessionEvent} {op : SessionOp} {after : SessionState}
    {event : SessionEvent} (kept : SessionInvariant trace state)
    (taken : state.step op = some (after, event)) (safe : event.Safe) :
    SessionInvariant (event :: trace) after := by
  obtain ⟨thread, quiet, session, ledger⟩ |
      ⟨thread, reply, status, session, calls, unset, ran, rfl, ledger, outcome⟩ :=
    sessionStep_cases taken
  · have silent : event.calls = [] := by
      rcases quiet with rfl | rfl <;> rfl
    have pending : ¬event.Succeeded := by
      rcases quiet with rfl | rfl <;> exact id
    have same : deviceCalls (event :: trace) = deviceCalls trace := by
      rw [deviceCalls_cons, silent, List.append_nil]
    refine ⟨by rw [ledger, same, kept.ledger], by rw [same]; exact kept.single, ?_, ?_⟩
    · rw [session, ledger]
      intro unset
      obtain ⟨empty, negative, before⟩ := kept.closed unset
      exact ⟨empty, negative, List.forall_mem_cons.mpr ⟨pending, before⟩⟩
    · rintro other session reply calls past latest
      cases latest
      rcases quiet with found | missed
      · cases found
      · cases missed
  · obtain ⟨empty, negative, before⟩ := kept.closed unset
    obtain ⟨single, failed, succeeded⟩ := rgaSessionInit_ledger empty ran
    have made : event.calls = calls := by
      rcases outcome with ⟨_, rfl⟩ | ⟨_, _, rfl⟩ <;> rfl
    have replayed : after.ledger = DeviceLedger.replay {} (deviceCalls (event :: trace)) := by
      rw [deviceCalls_cons, replay_append, ← kept.ledger, made, ledger]
    have account := single_extend kept.single (by rw [← kept.ledger, made]; exact single)
    rcases outcome with ⟨failure, rfl⟩ | ⟨success, _, rfl⟩
    · obtain ⟨closed, fd, _⟩ := failed failure
      have unset : after.session.rgaDevFd < 0 := by
        rcases fd with same | reset
        · rw [same]
          exact negative
        · rw [reset]
          decide
      exact ⟨replayed, account, fun _ => ⟨by rw [ledger, closed], unset,
        List.forall_mem_cons.mpr ⟨id, before⟩⟩, fun _ _ _ _ _ _ => unset⟩
    · refine ⟨replayed, account, fun still => ?_, by simp⟩
      obtain ⟨completes, opened, fd⟩ := succeeded success
      have zero : reply.fd = 0 := by
        rw [fd] at still
        exact Int32.le_antisymm (Int32.not_lt.mp still) opened
      rw [safe zero] at completes
      cases completes

theorem run_session {trace : List SessionEvent}
    (run : Machine.Run SessionState.step {} trace state) (safe : ∀ event ∈ trace, event.Safe) :
    SessionInvariant trace state := by
  refine run.invariant (P := fun past state =>
    (∀ event ∈ past, event.Safe) → SessionInvariant past state) (fun _ => initial_session) ?_ safe
  intro past before op after event _ kept taken safe
  obtain ⟨latest, earlier⟩ := List.forall_mem_cons.mp safe
  exact session_step (kept earlier) taken latest

theorem SessionInvariant.accounted {trace : List SessionEvent}
    (kept : SessionInvariant trace state) : SessionAccounted trace state := by
  refine ⟨kept.single, ?_, ?_⟩
  · intro thread session reply calls past same
    have unset := kept.failed thread session reply calls past same
    rw [← kept.ledger]
    exact (kept.closed (Int32.lt_asymm unset)).1
  · rintro ⟨event, member, success⟩ thread
    have set : 0 < state.session.rgaDevFd := by
      by_contra unset
      exact (kept.closed unset).2.2 event member success
    refine ⟨fun idle => ?_, fun missed reply => ⟨state.setPc thread .idle, rfl, ?_⟩⟩
    · simp [SessionState.step, idle, set]
    · simp [SessionState.step, missed, set]

theorem session_unsettled {trace : List SessionEvent} {op : SessionOp} {after : SessionState}
    {event : SessionEvent} (taken : state.step op = some (after, event)) (strands : ¬event.Safe) :
    ¬SessionAccounted (event :: trace) after := by
  intro accounted
  obtain ⟨thread, quiet, _⟩ | ⟨thread, reply, status, session, calls, _, ran, rfl, _, outcome⟩ :=
    sessionStep_cases taken
  · rcases quiet with rfl | rfl <;> exact strands trivial
  · obtain ⟨_, failed, succeeded⟩ :=
      rgaSessionInit_ledger (rfl : ({} : DeviceLedger).fds = []) ran
    rcases outcome with ⟨failure, rfl⟩ | ⟨success, idle, rfl⟩
    · refine strands fun zero => ?_
      rcases (failed failure).2.2 with negative | incomplete
      · rw [zero] at negative
        exact absurd negative (by decide)
      · exact incomplete
    · obtain ⟨_, _, fd⟩ := succeeded success
      have zero : reply.fd = 0 := by
        by_contra other
        exact strands fun zero => absurd zero other
      have returns := (accounted.settled ⟨_, List.mem_cons_self, trivial⟩ thread).1 idle
      simp [SessionState.step, idle, fd, zero] at returns

/-- As long as no attempt goes through on fd 0 the fds are accounted for in every state, and the
first one that does ends that. -/
theorem session_accounted {trace : List SessionEvent}
    (run : Machine.Run SessionState.step {} trace state) (safe : ∀ event ∈ trace, event.Safe) :
    SessionAccounted trace state ∧
      ∀ op after event, state.step op = some (after, event) →
        (SessionAccounted (event :: trace) after ↔ event.Safe) := by
  have kept := run_session run safe
  refine ⟨kept.accounted, fun op after event taken => ⟨?_, ?_⟩⟩
  · intro accounted
    by_contra strands
    exact session_unsettled taken strands accounted
  · intro step
    exact (session_step kept taken step).accounted

def rk3588Reply (fd : Int32) : SessionReply :=
  { fd := fd
    driverVersion := some ⟨1, 3, 0⟩
    hwVersions := some { version := [⟨3, 0, 0x76831⟩, ⟨3, 2, 0x63318⟩], size := 2 } }

/-- A first attempt without an answer about the hardware, a second one that goes through, and a
thread that had missed the session in between. -/
def retryOps : List SessionOp :=
  [.readLock 0, .readLock 1, .writeLock 0 { rk3588Reply 3 with hwVersions := none }, .readLock 0,
    .writeLock 0 (rk3588Reply 3), .writeLock 1 (rk3588Reply 4)]

theorem session_accounted_retry :
    ∃ trace state, Machine.Run SessionState.step {} trace state ∧
      trace.head? = some (.found 1) ∧ state.ledger.fds = [3] ∧
      SessionAccounted trace state := by
  have run := Machine.Run.of_exec SessionState.step {} retryOps rfl
  exact ⟨_, _, run, rfl, rfl, (session_accounted run (by decide +kernel)).1⟩

/-- The process has closed its standard input, and the device gets fd 0. -/
def strandedOps : List SessionOp :=
  [.readLock 0, .writeLock 0 (rk3588Reply 0), .readLock 0, .writeLock 0 (rk3588Reply 3)]

theorem session_opened_twice :
    ∃ trace state, Machine.Run SessionState.step {} trace state ∧
      (∀ event ∈ trace, event.Succeeded ∨ event = .missed 0) ∧ state.ledger.fds = [3, 0] ∧
      ¬SessionAccounted trace state := by
  have run := Machine.Run.of_exec SessionState.step {} strandedOps rfl
  refine ⟨_, _, run, by simp [SessionEvent.Succeeded], rfl, ?_⟩
  intro accounted
  have count := accounted.single _ List.prefix_rfl
  revert count
  decide +kernel

end LibRga

import LibRga.EntryLocks

/-!
The session under the entry points, whatever the threads are doing.

Once it is there the session stays as it is, and no thread asks the device for
anything before. As in the session by itself, this needs that no initialisation
goes through on fd 0.
-/

namespace LibRga.Entry

open Interaction

/-- An initialisation that gets fd 0 stops at a later stage. -/
def safeAttempt : ProcessEvent → Bool
  | .exchanged _ _ ⟨.initSession _ session, reply⟩ _ => reply.fd ≠ 0 || !session.completes reply
  | _ => true

def SessionPhase.Sound (ledger : DeviceLedger) : SessionPhase → Prop
  | out | missed => True
  | writing session => ¬0 < session.rgaDevFd ∧ ledger.fds = []
  | tried session reply => ¬0 < session.rgaDevFd ∧
      (reply.fd = 0 → session.completes reply = false) ∧
      ∃ before : DeviceLedger, before.fds = [] ∧
        ledger = before.replay (session.rgaSessionInit reply).2.2

structure SessionSound (trace : List ProcessEvent) (state : ProcessState) (phases : Phases) :
    Prop where
  closed : ¬0 < state.session.rgaDevFd → state.session.rgaDevFd < 0
  accounted : state.sessionLocked = false →
    state.ledger.fds = if 0 < state.session.rgaDevFd then [state.session.rgaDevFd] else []
  phase : ∀ thread phase, phases thread = some phase → phase.session.Sound state.ledger
  acquired : ∀ thread phase, phases thread = some phase → phase.acquired = true →
    0 < state.session.rgaDevFd
  device : ∀ thread before exchange after, .exchanged thread before exchange after ∈ trace →
    exchange.1.onDevice = true → 0 < before.session.rgaDevFd ∧ before.session = state.session

section Moves

variable {kind : JobMapKind} {trace : List ProcessEvent} {state after : ProcessState}
  {phases : Phases} {thread : Thread} {phase later : Phase} {holder writer : Option Thread}
  {request : SysCall} {proposed answer : SysCall.Reply request}

/-- A critical section of the session that belongs to another call is a contradiction. -/
theorem SessionHeld.others_out (guarded : SessionHeld state phases writer)
    (now : phases thread = some phase) {found : SessionData}
    (inside : phase.session.found = some found) {other : Thread} {another : Phase}
    (different : other ≠ thread) (there : phases other = some another) :
    another.session.found = none := by
  have held := (guarded.holds now inside).1
  have viewed := guarded.viewed other another there
  rwa [held, if_neg fun same => different (Option.some.inj same).symm] at viewed

theorem SessionPhase.Sound.of_out {phase : SessionPhase} (outside : phase.found = none)
    (ledger : DeviceLedger) : phase.Sound ledger := by
  cases phase with
  | out | missed => trivial
  | writing session | tried session reply => cases outside

/-- Neither the session nor the fds are touched. -/
theorem SessionSound.move (sound : SessionSound trace state phases)
    (now : phases thread = some phase) (session : after.session = state.session)
    (locked : after.sessionLocked = false → state.sessionLocked = false)
    (ledger : after.ledger = state.ledger)
    (same : later.session.Sound state.ledger) (acquired : later.acquired = true →
      0 < state.session.rgaDevFd) (device : request.onDevice = true → phase.acquired = true) :
    SessionSound (.exchanged thread state ⟨request, answer⟩ after :: trace) after
      (Function.update phases thread (some later)) := by
  constructor
  · rw [session]
    exact sound.closed
  · rw [session, ledger]
    exact fun free => sound.accounted (locked free)
  · intro other another there
    rw [ledger]
    by_cases acting : other = thread
    · rw [acting, Function.update_self] at there
      cases there
      exact same
    · rw [Function.update_of_ne acting] at there
      exact sound.phase other another there
  · intro other another there gained
    rw [session]
    by_cases acting : other = thread
    · rw [acting, Function.update_self] at there
      cases there
      exact acquired gained
    · rw [Function.update_of_ne acting] at there
      exact sound.acquired other another there gained
  · intro other before exchange reached member asks
    rw [session]
    rcases List.mem_cons.mp member with latest | old
    · cases latest
      exact ⟨sound.acquired thread phase now (device asks), rfl⟩
    · exact sound.device other before exchange reached old asks

/-- Before the session is there nobody has it, and nobody has asked the device for anything. -/
theorem SessionSound.turn (sound : SessionSound trace state phases)
    (guarded : SessionHeld state phases writer) (now : phases thread = some phase)
    {found : SessionData} (inside : phase.session.found = some found)
    (unset : ¬0 < found.rgaDevFd) (quiet : request.onDevice = false)
    (closed : ¬0 < after.session.rgaDevFd → after.session.rgaDevFd < 0)
    (accounted : after.sessionLocked = false →
      after.ledger.fds = if 0 < after.session.rgaDevFd then [after.session.rgaDevFd] else [])
    (here : later.session.Sound after.ledger)
    (acquired : later.acquired = true → phase.acquired = true ∨ 0 < after.session.rgaDevFd) :
    SessionSound (.exchanged thread state ⟨request, answer⟩ after :: trace) after
      (Function.update phases thread (some later)) := by
  obtain ⟨_, _, rfl⟩ := guarded.holds now inside
  refine ⟨closed, accounted, ?_, ?_, ?_⟩
  · intro other another there
    by_cases acting : other = thread
    · rw [acting, Function.update_self] at there
      cases there
      exact here
    · rw [Function.update_of_ne acting] at there
      exact .of_out (guarded.others_out now inside acting there) after.ledger
  · intro other another there gained
    by_cases acting : other = thread
    · rw [acting, Function.update_self] at there
      cases there
      rcases acquired gained with before | opened
      · exact absurd (sound.acquired thread phase now before) unset
      · exact opened
    · rw [Function.update_of_ne acting] at there
      exact absurd (sound.acquired other another there gained) unset
  · intro other before exchange reached member asks
    rcases List.mem_cons.mp member with latest | old
    · cases latest
      rw [quiet] at asks
      cases asks
    · obtain ⟨opened, same⟩ := sound.device other before exchange reached old asks
      rw [same] at opened
      exact absurd opened unset

/-- What an initialisation leaves behind when it is over. -/
theorem tried_cases {session : SessionData} {reply : SessionReply} {ledger : DeviceLedger}
    (sound : (SessionPhase.tried session reply).Sound ledger) :
    ((session.rgaSessionInit reply).1 ≠ .success ∧ ledger.fds = [] ∧
      ((session.rgaSessionInit reply).2.1.rgaDevFd = session.rgaDevFd ∨
        (session.rgaSessionInit reply).2.1.rgaDevFd = -1)) ∨
    ((session.rgaSessionInit reply).1 = .success ∧
      0 < (session.rgaSessionInit reply).2.1.rgaDevFd ∧
      ledger.fds = [(session.rgaSessionInit reply).2.1.rgaDevFd]) := by
  obtain ⟨_, safe, before, empty, replayed⟩ := sound
  obtain ⟨_, nothing⟩ | ⟨_, _, status, after, failed, fd, closed⟩ |
      ⟨opened, completes, after, fd, left⟩ := rgaSessionInit_cases session reply
  · rw [nothing] at replayed ⊢
    refine .inl ⟨by simp, ?_, .inl rfl⟩
    rw [replayed]
    exact empty
  · rw [closed] at replayed ⊢
    refine .inl ⟨failed, ?_, fd⟩
    simp [replayed, DeviceLedger.replay, DeviceLedger.apply, empty]
  · rw [left] at replayed ⊢
    have nonzero : reply.fd ≠ 0 := by
      intro zero
      rw [safe zero] at completes
      cases completes
    refine .inr ⟨rfl, ?_, ?_⟩
    · rw [fd]
      exact Int32.lt_of_le_of_ne opened nonzero.symm
    · simp [replayed, DeviceLedger.replay, DeviceLedger.apply, empty, fd]

theorem sessionMove_sound {before coming : SessionPhase} {pc : JobPc} {coe : Option UInt64}
    {acquired opened : Bool} (sound : SessionSound trace state phases)
    (guarded : SessionHeld state phases writer)
    (now : phases thread = some ⟨.outside pc, before, coe, acquired⟩)
    (served : state.serve request proposed = some (answer, after))
    (safe : safeAttempt (.exchanged thread state ⟨request, answer⟩ after) = true)
    (moved : SessionMove before ⟨request, answer⟩ coming opened) :
    SessionSound (.exchanged thread state ⟨request, answer⟩ after :: trace) after
      (Function.update phases thread
        (some ⟨.outside pc, coming, coe, opened || acquired⟩)) := by
  have had := sound.acquired thread _ now
  cases moved with
  | found session opened =>
      obtain ⟨_, rfl, rfl⟩ := ProcessState.serve_readSession served
      exact sound.move now rfl id rfl trivial (fun _ => opened) (by simp [SysCall.onDevice])
  | missed session closed =>
      obtain ⟨_, rfl, rfl⟩ := ProcessState.serve_readSession served
      exact sound.move now rfl id rfl trivial (fun gained => had (by simpa using gained))
        (by simp [SysCall.onDevice])
  | lockFound session opened =>
      obtain ⟨free, rfl, rfl⟩ := ProcessState.serve_lockSession served
      exact sound.move now rfl (fun _ => free) rfl trivial (fun _ => opened)
        (by simp [SysCall.onDevice])
  | lock session closed =>
      obtain ⟨free, rfl, rfl⟩ := ProcessState.serve_lockSession served
      have empty := sound.accounted free
      rw [if_neg closed] at empty
      exact sound.move now rfl (fun _ => free) rfl ⟨closed, empty⟩
        (fun gained => had (by simpa using gained)) (by simp [SysCall.onDevice])
  | init asker session reply =>
      obtain ⟨_, rfl⟩ := ProcessState.serve_initSession served
      have standing : (SessionPhase.writing session).Sound state.ledger := sound.phase thread _ now
      obtain ⟨unset, empty⟩ := standing
      have locked := (guarded.holds now rfl).2.1
      obtain ⟨_, _, same⟩ := guarded.holds now rfl
      refine sound.turn guarded now rfl unset rfl sound.closed ?_ ?_ ?_
      · intro free
        rw [locked] at free
        cases free
      · refine ⟨unset, fun zero => ?_, state.ledger, empty, rfl⟩
        simpa [safeAttempt, zero] using safe
      · exact fun gained => .inl (by simpa using gained)
  | unlock session reply succeeded =>
      cases served
      have standing : (SessionPhase.tried session reply).Sound state.ledger :=
        sound.phase thread _ now
      obtain ⟨failed, _⟩ | ⟨_, opened, fds⟩ := tried_cases standing
      · exact absurd succeeded failed
      refine sound.turn guarded now rfl standing.1 rfl ?_ ?_ trivial ?_
      · exact fun closed => absurd opened closed
      · intro _
        rw [if_pos opened]
        exact fds
      · exact fun _ => .inr opened

theorem move_sound (sound : SessionSound trace state phases)
    (guarded : SessionHeld state phases writer) (now : phases thread = some phase)
    (served : state.serve request proposed = some (answer, after))
    (safe : safeAttempt (.exchanged thread state ⟨request, answer⟩ after) = true)
    (moved : Move kind phase ⟨request, answer⟩ later) :
    SessionSound (.exchanged thread state ⟨request, answer⟩ after :: trace) after
      (Function.update phases thread (some later)) := by
  have had := sound.acquired thread _ now
  have elsewhere (apart : request.ofSession = false) (same : later.session.Sound state.ledger)
      (acquired : later.acquired = phase.acquired)
      (device : request.onDevice = true → phase.acquired = true) :
      SessionSound (.exchanged thread state ⟨request, answer⟩ after :: trace) after
        (Function.update phases thread (some later)) := by
    obtain ⟨session, locked, ledger⟩ := ProcessState.serve_elsewhere served apart
    exact sound.move now session (locked ▸ id) ledger same (fun gained => had (acquired ▸ gained))
      device
  cases moved with
  | job before coming coe acquired _ moved device =>
      exact elsewhere moved.elsewhere trivial rfl device
  | session pc before coming coe acquired opened _ moved =>
      exact sessionMove_sound sound guarded now served safe moved
  | abandoned pc session reply coe acquired failed =>
      cases served
      have standing : (SessionPhase.tried session reply).Sound state.ledger :=
        sound.phase thread _ now
      obtain ⟨_, empty, fd⟩ | ⟨succeeded, _⟩ := tried_cases standing
      swap
      · exact absurd succeeded failed
      obtain ⟨_, _, same⟩ := guarded.holds now rfl
      have negative : (session.rgaSessionInit reply).2.1.rgaDevFd < 0 := by
        rcases fd with kept | reset
        · rw [kept, same]
          exact sound.closed (same ▸ standing.1)
        · rw [reset]
          decide
      refine sound.turn guarded now rfl standing.1 rfl (fun _ => negative) ?_ trivial .inl
      intro _
      rw [if_neg (Int32.lt_asymm negative)]
      exact empty
  | coefficients coe acquired block => exact elsewhere rfl trivial rfl (by simp [SysCall.onDevice])
  | released ptr acquired => exact elsewhere rfl trivial rfl (by simp [SysCall.onDevice])
  | plain pc coe acquired _ _ plain device =>
      exact elsewhere (plain_elsewhere plain) trivial rfl device

/-- A call that enters or leaves. -/
theorem SessionSound.pass (sound : SessionSound trace state phases) {event : ProcessEvent}
    (still : event.move = none) {now : Option Phase}
    (fresh : ∀ phase, now = some phase → phase.session = .out ∧ phase.acquired = false) :
    SessionSound (event :: trace) state (Function.update phases thread now) := by
  refine ⟨sound.closed, sound.accounted, ?_, ?_, ?_⟩
  · intro other another there
    by_cases acting : other = thread
    · rw [acting, Function.update_self] at there
      rw [(fresh another there).1]
      trivial
    · rw [Function.update_of_ne acting] at there
      exact sound.phase other another there
  · intro other another there gained
    by_cases acting : other = thread
    · rw [acting, Function.update_self] at there
      rw [(fresh another there).2] at gained
      cases gained
    · rw [Function.update_of_ne acting] at there
      exact sound.acquired other another there gained
  · intro other before exchange reached member
    rcases List.mem_cons.mp member with latest | old
    · rw [← latest] at still
      cases still
    · exact sound.device other before exchange reached old

theorem sessionSound_kept (kind : JobMapKind) :
    KeptAlong ProcessState.serve (Move kind) AtRest.ends {}
      fun (trace : List ProcessEvent) state phases => LocksHeld state phases ∧
        ((∀ event ∈ trace, safeAttempt event = true) → SessionSound trace state phases) := by
  have locks := locksHeld_kept kind
  constructor
  · rintro past state phases thread entry ⟨held, sound⟩ fresh
    refine ⟨locks.entered [] state phases thread entry held fresh, fun safe => ?_⟩
    refine (sound (List.forall_mem_cons.mp safe).2).pass rfl ?_
    rintro _ ⟨⟩
    exact ⟨rfl, rfl⟩
  · rintro past state phases thread phase later request proposed answer after ⟨held, sound⟩ now
      served moved
    refine ⟨locks.exchanged [] state phases thread phase later request proposed answer after held
      now served moved, fun safe => ?_⟩
    obtain ⟨latest, earlier⟩ := List.forall_mem_cons.mp safe
    obtain ⟨writer, guarded⟩ := held.session
    exact move_sound (sound earlier) guarded now served latest moved
  · rintro past state phases thread phase calls result ⟨held, sound⟩ now ended
    refine ⟨locks.returned [] state phases thread phase calls result held now ended,
      fun safe => ?_⟩
    refine (sound (List.forall_mem_cons.mp safe).2).pass rfl ?_
    rintro _ ⟨⟩

end Moves

theorem SessionSound.single {trace : List ProcessEvent} {state : ProcessState} {phases : Phases}
    {writer : Option Thread} (sound : SessionSound trace state phases)
    (guarded : SessionHeld state phases writer) : state.ledger.fds.length ≤ 1 := by
  cases held : writer with
  | none =>
      have free : state.sessionLocked = false := by
        rw [guarded.locked, held]
        rfl
      rw [sound.accounted free]
      split <;> simp
  | some thread =>
      obtain ⟨phase, there⟩ := guarded.present thread held
      have inside := guarded.viewed thread phase there
      have standing := sound.phase thread phase there
      rw [if_pos held] at inside
      cases within : phase.session with
      | out | missed =>
          rw [within] at inside
          cases inside
      | writing session =>
          rw [within] at standing
          rw [standing.2]
          exact Nat.zero_le 1
      | tried session reply =>
          rw [within] at standing
          obtain ⟨_, _, before, empty, replayed⟩ := standing
          rw [replayed]
          exact (rgaSessionInit_ledger empty rfl).1 _ List.prefix_rfl

end LibRga.Entry

import LibRga.LegacyRefinement

/-!
What `NormalRga.cpp` has of the device at every instruction, and what its
operations use.
-/

namespace LibRga

open Monitor

/-- What a published context stands for. -/
def publishedLedger : Option LegacyContext → DeviceLedger
  | none => {}
  | some ctx => ⟨[ctx.ptr], [ctx.rgaFd]⟩

/-- What the thread in the critical section has of the device, at each place of it. -/
def Accounted (data : LegacyData) : LegacyPlace → Prop
  | .openMalloc | .closeCalm => data.rgaCtx = none ∧ data.ledger = {}
  | .openDevice ptr | .openFree ptr _ => data.rgaCtx = none ∧ data.ledger = ⟨[ptr], []⟩
  | .openDriverVersion ptr fd | .openHwVersion ptr fd | .openRga2Version ptr fd
  | .openRga1Version ptr fd | .openPublish ptr fd | .openClose ptr fd =>
      data.rgaCtx = none ∧ data.ledger = ⟨[ptr], [fd]⟩
  | .closeCount ctx | .closeMark ctx | .closeLoop ctx | .closeClear ctx =>
      data.rgaCtx = some ctx ∧ data.ledger = ⟨[ctx.ptr], [ctx.rgaFd]⟩
  | .closeFd ctx => data.rgaCtx = none ∧ data.ledger = ⟨[ctx.ptr], [ctx.rgaFd]⟩
  | .closeFree ctx => data.rgaCtx = none ∧ data.ledger = ⟨[ctx.ptr], []⟩
  | _ => data.ledger = publishedLedger data.rgaCtx

variable {thread : Thread} {data after : LegacyData} {place next : LegacyPlace}
  {event : LegacyEvent}

theorem Accounted.single (accounted : Accounted data place) : data.ledger.AtMostOne := by
  have published (same : data.ledger = publishedLedger data.rgaCtx) : data.ledger.AtMostOne := by
    rw [same]
    cases data.rgaCtx <;> constructor <;> simp [publishedLedger]
  cases place <;> first
    | exact published accounted
    | (rw [DeviceLedger.AtMostOne, accounted.2]; simp)

theorem update_inner {effect : LegacyData → LegacyData × LegacyPlace}
    (code : place.code = LegacyPlace.update effect)
    (inner : legacyProgram.Inner thread data place event after next) :
    after = (effect data).1 ∧ next = (effect data).2 := by
  cases inner with
  | acted _ reply _ notes _ same answered =>
      have same : LegacyPlace.update effect = .act _ := code.symm.trans same
      cases same
      cases answered
      exact ⟨rfl, rfl⟩
  | passed _ _ same _ | broadcast _ same =>
      cases code.symm.trans same

theorem ioctl_inner {succeeded failed : LegacyPlace}
    (code : place.code = LegacyPlace.ioctl succeeded failed)
    (inner : legacyProgram.Inner thread data place event after next) :
    after = data ∧ (next = succeeded ∨ next = failed) := by
  cases inner with
  | acted _ reply _ notes _ same answered =>
      have same : LegacyPlace.ioctl succeeded failed = .act _ := code.symm.trans same
      cases same
      cases answered
      refine ⟨rfl, ?_⟩
      split
      · exact .inl rfl
      · exact .inr rfl
  | passed _ _ same _ | broadcast _ same =>
      cases code.symm.trans same

theorem perform_inner {call : DeviceCall} {target : LegacyPlace}
    (code : place.code = .act fun data _ => some (data.perform call, [call], target))
    (inner : legacyProgram.Inner thread data place event after next) :
    after = data.perform call ∧ next = target := by
  cases inner with
  | acted _ reply _ notes _ same answered =>
      cases code.symm.trans same
      cases answered
      exact ⟨rfl, rfl⟩
  | passed _ _ same _ | broadcast _ same =>
      cases code.symm.trans same

theorem await_inner {blocked : LegacyData → Bool} {target : LegacyPlace}
    (code : place.code = .await blocked target)
    (inner : legacyProgram.Inner thread data place event after next) :
    blocked data = false ∧ after = data ∧ next = target := by
  cases inner with
  | acted _ _ _ _ _ same _ | broadcast _ same => cases code.symm.trans same
  | passed _ _ same goes =>
      cases code.symm.trans same
      exact ⟨goes, rfl, rfl⟩

theorem broadcast_inner {target : LegacyPlace} (code : place.code = .broadcast target)
    (inner : legacyProgram.Inner thread data place event after next) :
    after = data ∧ next = target := by
  cases inner with
  | acted _ _ _ _ _ same _ | passed _ _ same _ => cases code.symm.trans same
  | broadcast _ same =>
      cases code.symm.trans same
      exact ⟨rfl, rfl⟩

theorem inner_accounted (accounted : Accounted data place)
    (inner : legacyProgram.Inner thread data place event after next) : Accounted after next := by
  have published (none : data.rgaCtx = none) (empty : data.ledger = {}) :
      data.ledger = publishedLedger data.rgaCtx := empty.trans (none ▸ rfl)
  cases place with
  | openLoop =>
      obtain ⟨_, rfl, rfl⟩ := await_inner rfl inner
      exact accounted
  | openLookup =>
      obtain ⟨rfl, rfl⟩ := update_inner rfl inner
      have accounted : data.ledger = publishedLedger data.rgaCtx := accounted
      split
      · rename_i none
        exact ⟨none, accounted.trans (none ▸ rfl)⟩
      · exact accounted
  | openMalloc =>
      obtain ⟨none, empty⟩ := accounted
      cases inner with
      | acted _ reply _ notes _ code answered =>
          cases code
          dsimp only at answered
          split at answered
          · cases answered
            exact published none empty
          · split at answered
            · cases answered
            · cases answered
              exact ⟨none, by simp [LegacyData.perform, DeviceLedger.apply, empty]⟩
      | passed _ _ code _ | broadcast _ code => cases code
  | openDevice ptr =>
      obtain ⟨none, allocated⟩ := accounted
      cases inner with
      | acted _ reply _ notes _ code answered =>
          cases code
          dsimp only at answered
          split at answered
          · cases answered
            exact ⟨none, allocated⟩
          · split at answered
            · cases answered
            · cases answered
              exact ⟨none, by simp [LegacyData.perform, DeviceLedger.apply, allocated]⟩
      | passed _ _ code _ | broadcast _ code => cases code
  | openDriverVersion ptr fd | openHwVersion ptr fd | openRga2Version ptr fd
  | openRga1Version ptr fd =>
      obtain ⟨rfl, rfl | rfl⟩ := ioctl_inner rfl inner <;> exact accounted
  | openPublish ptr fd =>
      obtain ⟨rfl, rfl⟩ := update_inner rfl inner
      exact accounted.2
  | openClose ptr fd | closeFd ctx =>
      obtain ⟨rfl, rfl⟩ := perform_inner rfl inner
      exact ⟨accounted.1, by simp [LegacyData.perform, DeviceLedger.apply, accounted.2]⟩
  | openFree ptr ret =>
      obtain ⟨rfl, rfl⟩ := perform_inner rfl inner
      simp [Accounted, publishedLedger, LegacyData.perform, DeviceLedger.apply, accounted.1,
        accounted.2]
  | closeFree ctx =>
      obtain ⟨rfl, rfl⟩ := perform_inner rfl inner
      exact ⟨accounted.1, by simp [LegacyData.perform, DeviceLedger.apply, accounted.2]⟩
  | useTest =>
      obtain ⟨rfl, rfl⟩ := update_inner rfl inner
      split <;> exact accounted
  | endCount =>
      obtain ⟨rfl, rfl⟩ := update_inner rfl inner
      dsimp only
      split <;> exact accounted
  | debugSet operation =>
      cases inner with
      | acted _ reply _ notes _ code answered =>
          cases code
          cases answered
          split <;> exact accounted
      | passed _ _ code _ | broadcast _ code => cases code
  | closeTest arg =>
      obtain ⟨rfl, rfl⟩ := update_inner rfl inner
      have accounted : data.ledger = publishedLedger data.rgaCtx := accounted
      split
      · rename_i ctx ptr found
        split
        · exact accounted
        · split
          · exact accounted
          · exact ⟨found, accounted.trans (found ▸ rfl)⟩
      · exact accounted
  | closeCount ctx =>
      obtain ⟨rfl, rfl⟩ := update_inner rfl inner
      dsimp only
      split
      · exact accounted.2.trans (accounted.1 ▸ rfl)
      · exact accounted
  | closeMark ctx =>
      obtain ⟨rfl, rfl⟩ := update_inner rfl inner
      exact accounted
  | closeLoop ctx =>
      obtain ⟨_, rfl, rfl⟩ := await_inner rfl inner
      exact accounted
  | closeClear ctx =>
      obtain ⟨rfl, rfl⟩ := update_inner rfl inner
      exact ⟨rfl, accounted.2⟩
  | closeCalm =>
      obtain ⟨rfl, rfl⟩ := update_inner rfl inner
      exact published accounted.1 accounted.2
  | openCount ctx | useCount ctx | outRead operation =>
      obtain ⟨rfl, rfl⟩ := update_inner rfl inner
      exact accounted
  | endBroadcast | closeBroadcast =>
      obtain ⟨rfl, rfl⟩ := broadcast_inner rfl inner
      exact accounted
  | useUnlock ctx | logUnlock ctx =>
      cases inner with
      | acted _ _ _ _ _ code _ | passed _ _ code _ | broadcast _ code => cases ctx <;> cases code
  | _ =>
      cases inner with
      | acted _ _ _ _ _ code _ | passed _ _ code _ | broadcast _ code => cases code

/-- The context of another thread's operation, at each place of the critical section. -/
structure Occupied (ctx : LegacyContext) (data : LegacyData) (place : LegacyPlace) : Prop where
  published : data.rgaCtx = some ctx
  busy : match place with
    | .closeTest _ | .closeCount _ | .closeMark _ | .closeLoop _ => 0 < data.activeOperations
    | .closeClear _ => False
    | _ => True

theorem Occupied.ledger {ctx : LegacyContext} (occupied : Occupied ctx data place)
    (accounted : Accounted data place) : data.ledger = ⟨[ctx.ptr], [ctx.rgaFd]⟩ := by
  obtain ⟨found, _⟩ := occupied
  have published (same : data.ledger = publishedLedger data.rgaCtx) :
      data.ledger = ⟨[ctx.ptr], [ctx.rgaFd]⟩ := same.trans (found ▸ rfl)
  cases place with
  | openMalloc | closeCalm | openDevice _ | openFree _ _ | openDriverVersion _ _
  | openHwVersion _ _ | openRga2Version _ _ | openRga1Version _ _ | openPublish _ _
  | openClose _ _ | closeFd _ | closeFree _ => cases found.symm.trans accounted.1
  | closeCount other | closeMark other | closeLoop other | closeClear other =>
      cases found.symm.trans accounted.1
      exact accounted.2
  | _ => exact published accounted

/-- While some operation goes on, the context stays where it is. -/
theorem inner_occupied {ctx : LegacyContext} (occupied : Occupied ctx data place)
    (accounted : Accounted data place)
    (inner : legacyProgram.Inner thread data place event after next) :
    Occupied ctx after next := by
  obtain ⟨published, busy⟩ := occupied
  cases place with
  | openMalloc | closeCalm | openDevice _ | openFree _ _ | openDriverVersion _ _
  | openHwVersion _ _ | openRga2Version _ _ | openRga1Version _ _ | openPublish _ _
  | openClose _ _ | closeFd _ | closeFree _ => cases published.symm.trans accounted.1
  | openLoop =>
      obtain ⟨_, rfl, rfl⟩ := await_inner rfl inner
      exact ⟨published, trivial⟩
  | openLookup =>
      obtain ⟨rfl, rfl⟩ := update_inner rfl inner
      simp only [published]
      exact ⟨published, trivial⟩
  | openCount _ | useCount _ | outRead _ =>
      obtain ⟨rfl, rfl⟩ := update_inner rfl inner
      exact ⟨published, trivial⟩
  | useTest =>
      obtain ⟨rfl, rfl⟩ := update_inner rfl inner
      split <;> exact ⟨published, trivial⟩
  | endCount =>
      obtain ⟨rfl, rfl⟩ := update_inner rfl inner
      dsimp only
      split <;> exact ⟨published, trivial⟩
  | debugSet operation =>
      cases inner with
      | acted _ reply _ notes _ code answered =>
          cases code
          cases answered
          split <;> exact ⟨published, trivial⟩
      | passed _ _ code _ | broadcast _ code => cases code
  | closeTest arg =>
      obtain ⟨rfl, rfl⟩ := update_inner rfl inner
      split
      · split
        · exact ⟨published, trivial⟩
        · split
          · exact ⟨published, trivial⟩
          · exact ⟨published, busy⟩
      · exact ⟨published, trivial⟩
  | closeCount _ =>
      obtain ⟨rfl, rfl⟩ := update_inner rfl inner
      dsimp only
      split
      · exact ⟨published, trivial⟩
      · exact ⟨published, busy⟩
  | closeMark _ =>
      obtain ⟨rfl, rfl⟩ := update_inner rfl inner
      exact ⟨published, busy⟩
  | closeLoop _ =>
      -- the close goes past its loop only when no operation is left
      obtain ⟨drained, rfl, rfl⟩ := await_inner rfl inner
      have none : after.activeOperations = 0 := by simpa using drained
      exact absurd busy (by omega)
  | closeClear _ => exact busy.elim
  | endBroadcast | closeBroadcast =>
      obtain ⟨rfl, rfl⟩ := broadcast_inner rfl inner
      exact ⟨published, trivial⟩
  | useUnlock ctx | logUnlock ctx =>
      cases inner with
      | acted _ _ _ _ _ code _ | passed _ _ code _ | broadcast _ code => cases ctx <;> cases code
  | _ =>
      cases inner with
      | acted _ _ _ _ _ code _ | passed _ _ code _ | broadcast _ code => cases code

theorem SharedFit.published {context : ContextState} (fits : SharedFit context) :
    context.ledger = publishedLedger context.rgaCtx := by
  cases found : context.rgaCtx with
  | none => exact (fits.absent found).1
  | some ctx => exact (fits.present ctx found).1

section

variable {past : List LegacyEvent} {threads : Thread → Status LegacyPlace}
  {trace : List ContextEvent} {pc : Thread → ContextPc} {clients : List CtxPtr}
  (matched : ContextMatched past data threads trace pc clients)

include matched

theorem ContextMatched.accounted {opening : LegacyPlace}
    (opens : legacyProgram.Opens (threads thread) opening place) : Accounted data place := by
  have kept := run_invariant matched.run
  have published : data.ledger = publishedLedger data.rgaCtx := kept.shared.published
  have stands := matched.threads thread
  generalize threads thread = status at opens stands
  cases opens with
  | lock _ _ code =>
      cases opening with
      | useUnlock ctx | logUnlock ctx => cases ctx <;> cases code
      | _ => cases code <;> exact published
  | again _ =>
      generalize here : pc thread = now at stands
      cases stands with
      | openWoken since => exact published
      | closeWoken ctx =>
          have found := (kept.threads.draining thread ctx here).2
          exact ⟨found, (kept.shared.present ctx found).1⟩

theorem ContextMatched.occupied {other : Thread} {used opening : LegacyPlace} {ctx : LegacyContext}
    (running : threads other = .running used) (uses : used.used = some ctx)
    (opens : legacyProgram.Opens (threads thread) opening place) : Occupied ctx data place := by
  have kept := run_invariant matched.run
  have operating : pc other = .using ctx := (running ▸ matched.threads other).using_ctx uses
  have busy : 0 < data.activeOperations := by
    refine Nat.pos_of_ne_zero fun none => ?_
    have counted : CountsUsers (data.context pc clients).pc data.activeOperations := kept.counted
    rw [none] at counted
    exact no_users counted ctx operating
  refine ⟨kept.threads.held other ctx operating, ?_⟩
  have stands := matched.threads thread
  generalize threads thread = status at opens stands
  cases opens with
  | lock _ _ code =>
      cases opening with
      | useUnlock ctx | logUnlock ctx => cases ctx <;> cases code
      | _ => cases code <;> first | exact busy | trivial
  | again _ =>
      generalize pc thread = now at stands
      cases stands with
      | openWoken since => trivial
      | closeWoken ctx => exact busy

end

theorem used_outside {ctx : LegacyContext} (used : place.used = some ctx) :
    place.inside = false := by
  cases place <;> first | rfl | cases used

theorem path_kept {P : LegacyData → LegacyPlace → Prop} {first here : LegacyPlace}
    {seg : List LegacyEvent} (path : legacyProgram.Path thread data first seg after here)
    (base : P data first)
    (kept : ∀ now place event later next, P now place →
      legacyProgram.Inner thread now place event later next → P later next) : P after here := by
  induction path with
  | init => exact base
  | next _ inner ih => exact kept _ _ _ _ _ ih inner

theorem ledger_single {trace : List LegacyEvent} {state : LegacyState}
    (run : Machine.Run legacyProgram.step { data := {} } trace state)
    (disciplined : Disciplined trace) : state.data.ledger.AtMostOne := by
  obtain ⟨_, between⟩ := legacy_between run disciplined
  generalize trace.filter Event.guarded = history at between
  cases between with
  | free free matched =>
      obtain ⟨past, pc, clients, matched⟩ := matched
      exact (run_invariant matched.run).shared.single
  | held owner place first here seg earlier data threads held matched others opens path there =>
      obtain ⟨past, pc, clients, matched⟩ := matched
      have accounted := path_kept path (matched.accounted opens) fun _ _ _ _ _ =>
        inner_accounted
      exact accounted.single

theorem used_live {trace : List LegacyEvent} {state : LegacyState}
    (run : Machine.Run legacyProgram.step { data := {} } trace state)
    (disciplined : Disciplined trace) {thread : Thread} {place : LegacyPlace}
    {ctx : LegacyContext} (running : state.threads thread = .running place)
    (used : place.used = some ctx) :
    state.data.rgaCtx = some ctx ∧ ctx.ptr ∈ state.data.ledger.contexts ∧
      ctx.rgaFd ∈ state.data.ledger.fds := by
  obtain ⟨exclusive, between⟩ := legacy_between run disciplined
  generalize trace.filter Event.guarded = history at between
  cases between with
  | free free matched =>
      obtain ⟨past, pc, clients, matched⟩ := matched
      have kept := run_invariant matched.run
      have operating : pc thread = .using ctx := (running ▸ matched.threads thread).using_ctx used
      have found := kept.threads.held thread ctx operating
      have ledger : state.data.ledger = ⟨[ctx.ptr], [ctx.rgaFd]⟩ :=
        (kept.shared.present ctx found).1
      rw [ledger]
      exact ⟨found, List.mem_singleton_self _, List.mem_singleton_self _⟩
  | held owner there first here seg earlier data threads held matched others opens path standing =>
      obtain ⟨past, pc, clients, matched⟩ := matched
      have apart : thread ≠ owner := by
        rintro rfl
        have fits := exclusive thread
        rw [running, held, decide_eq_true rfl] at fits
        cases fits.symm.trans (used_outside used)
      have both := path_kept (P := fun now place => Occupied ctx now place ∧ Accounted now place)
        path ⟨matched.occupied ((others thread apart).trans running) used opens,
          matched.accounted opens⟩ fun _ _ _ _ _ holds inner =>
            ⟨inner_occupied holds.1 holds.2 inner, inner_accounted holds.2 inner⟩
      rw [both.1.ledger both.2]
      exact ⟨both.1.published, List.mem_singleton_self _, List.mem_singleton_self _⟩

/-- At every instruction of every interleaving there is one context and one fd at most, and what an
operation is using is the published context, with its block allocated and its fd open. -/
theorem legacy_uses_live {trace : List LegacyEvent} {state : LegacyState}
    (run : Machine.Run legacyProgram.step { data := {} } trace state)
    (disciplined : Disciplined trace) :
    state.data.ledger.AtMostOne ∧
      ∀ thread place ctx, state.threads thread = .running place → place.used = some ctx →
        state.data.rgaCtx = some ctx ∧ ctx.ptr ∈ state.data.ledger.contexts ∧
          ctx.rgaFd ∈ state.data.ledger.fds :=
  ⟨ledger_single run disciplined, fun _ _ _ running used => used_live run disciplined running used⟩

theorem legacy_uses_live_draining :
    ∃ trace state, Machine.Run legacyProgram.step { data := {} } trace state ∧
      state.data.contextClosing = true ∧
      state.threads 1 = .running (.operating ⟨0x1000, 3, 0⟩) ∧
      0x1000 ∈ state.data.ledger.contexts ∧ 3 ∈ state.data.ledger.fds := by
  have run := Machine.Run.of_exec legacyProgram.step { data := {} } drainingOps rfl
  have live := (legacy_uses_live run (by decide +kernel)).2 1 _ _ rfl rfl
  exact ⟨_, _, run, rfl, rfl, live.2⟩

end LibRga

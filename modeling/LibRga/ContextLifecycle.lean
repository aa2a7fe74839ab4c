import LibRga.Context
import LibRga.Library.Run
import Mathlib.Data.Finset.Card

/-!
The legacy context in every interleaving: one context and one fd at most, torn
down when nobody is left, and fresh for those who had to wait.
-/

namespace LibRga

variable {state : ContextState} {thread : Thread}

def CountsUsers (pc : Thread → ContextPc) (count : Nat) : Prop :=
  ∃ users : Finset Thread, users.card = count ∧
    ∀ thread, thread ∈ users ↔ ∃ ctx, pc thread = .using ctx

structure SharedFit (state : ContextState) : Prop where
  absent : state.rgaCtx = none → state.ledger = {} ∧ state.refCount = 0 ∧
    state.activeOperations = 0 ∧ state.contextClosing = false ∧ state.clients = []
  present : ∀ ctx, state.rgaCtx = some ctx → state.ledger = ⟨[ctx.ptr], [ctx.rgaFd]⟩ ∧
    ctx.serial < state.allocations ∧ state.refCount = state.clients.length ∧
    (∀ ptr ∈ state.clients, ptr = ctx.ptr) ∧ (state.contextClosing = true ↔ state.refCount = 0)

structure ThreadsFit (state : ContextState) : Prop where
  held : ∀ thread ctx, state.pc thread = .using ctx → state.rgaCtx = some ctx
  draining : ∀ thread ctx, state.pc thread = .closeWait ctx →
    state.contextClosing = true ∧ state.rgaCtx = some ctx
  alone : ∀ thread other ctx ctx', state.pc thread = .closeWait ctx →
    state.pc other = .closeWait ctx' → thread = other
  waiting : ∀ thread since, state.pc thread = .openWait since → since ≤ state.allocations ∧
    (state.contextClosing = true ∨ ∀ ctx, state.rgaCtx = some ctx → since ≤ ctx.serial)

structure ContextInvariant (state : ContextState) : Prop where
  shared : SharedFit state
  threads : ThreadsFit state
  counted : CountsUsers state.pc state.activeOperations

/-! The number of users -/

theorem setPc_self (pc : ContextPc) : (state.setPc thread pc).pc thread = pc :=
  if_pos rfl

theorem setPc_other {other : Thread} (pc : ContextPc) (elsewhere : other ≠ thread) :
    (state.setPc thread pc).pc other = state.pc other :=
  if_neg elsewhere

theorem setPc_cases {other : Thread} {pc target : ContextPc}
    (reached : (state.setPc thread pc).pc other = target) :
    other = thread ∧ pc = target ∨ other ≠ thread ∧ state.pc other = target := by
  by_cases same : other = thread
  · subst same
    rw [setPc_self] at reached
    exact .inl ⟨rfl, reached⟩
  · rw [setPc_other pc same] at reached
    exact .inr ⟨same, reached⟩

theorem countsUsers_keep {pc : ContextPc} {count : Nat}
    (counted : CountsUsers state.pc count) (outside : ∀ ctx, state.pc thread ≠ .using ctx)
    (stays : ∀ ctx, pc ≠ .using ctx) : CountsUsers (state.setPc thread pc).pc count := by
  obtain ⟨users, size, members⟩ := counted
  refine ⟨users, size, fun other => ?_⟩
  rw [members]
  constructor
  · rintro ⟨ctx, uses⟩
    refine ⟨ctx, ?_⟩
    rw [setPc_other pc, uses]
    rintro rfl
    exact outside ctx uses
  · rintro ⟨ctx, uses⟩
    obtain ⟨_, same⟩ | ⟨_, before⟩ := setPc_cases uses
    · exact absurd same (stays ctx)
    · exact ⟨ctx, before⟩

theorem countsUsers_enter {ctx : LegacyContext} {count : Nat}
    (counted : CountsUsers state.pc count) (outside : ∀ ctx, state.pc thread ≠ .using ctx) :
    CountsUsers (state.setPc thread (.using ctx)).pc (count + 1) := by
  obtain ⟨users, size, members⟩ := counted
  have fresh : thread ∉ users := by
    rw [members]
    rintro ⟨other, uses⟩
    exact outside other uses
  refine ⟨insert thread users, by rw [Finset.card_insert_of_notMem fresh, size], fun other => ?_⟩
  rw [Finset.mem_insert, members]
  by_cases same : other = thread
  · subst same
    simp [setPc_self]
  · simp [setPc_other _ same, same]

theorem countsUsers_leave {ctx : LegacyContext} {count : Nat}
    (counted : CountsUsers state.pc count) (inside : state.pc thread = .using ctx) :
    CountsUsers (state.setPc thread .idle).pc (count - 1) := by
  obtain ⟨users, size, members⟩ := counted
  have member : thread ∈ users := (members thread).mpr ⟨ctx, inside⟩
  refine ⟨users.erase thread, by rw [Finset.card_erase_of_mem member, size], fun other => ?_⟩
  rw [Finset.mem_erase, members]
  by_cases same : other = thread
  · subst same
    simp [setPc_self]
  · simp [setPc_other _ same, same]

theorem no_users (counted : CountsUsers state.pc 0) (ctx : LegacyContext) :
    state.pc thread ≠ .using ctx := by
  obtain ⟨users, size, members⟩ := counted
  intro uses
  have member := (members thread).mpr ⟨ctx, uses⟩
  rw [Finset.card_eq_zero.mp size] at member
  cases member

/-! What each section keeps -/

theorem SharedFit.of_published {next : ContextState} {ctx : LegacyContext}
    (published : next.rgaCtx = some ctx) (ledger : next.ledger = ⟨[ctx.ptr], [ctx.rgaFd]⟩)
    (serial : ctx.serial < next.allocations) (count : next.refCount = next.clients.length)
    (same : ∀ ptr ∈ next.clients, ptr = ctx.ptr)
    (closing : next.contextClosing = true ↔ next.refCount = 0) : SharedFit next := by
  constructor
  · intro gone
    rw [gone] at published
    cases published
  · intro other shown
    have agrees : ctx = other := Option.some.inj (published.symm.trans shown)
    subst agrees
    exact ⟨ledger, serial, count, same, closing⟩

theorem ThreadsFit.keep {next : ContextState} {pc : ContextPc} (fits : ThreadsFit state)
    (places : next.pc = state.pc) (context : next.rgaCtx = state.rgaCtx)
    (closing : next.contextClosing = state.contextClosing)
    (grown : state.allocations ≤ next.allocations)
    (enters : ∀ ctx, pc = .using ctx → state.rgaCtx = some ctx)
    (drains : ∀ ctx, pc ≠ .closeWait ctx)
    (waits : ∀ since, pc = .openWait since → since ≤ next.allocations ∧
      state.contextClosing = true) : ThreadsFit (next.setPc thread pc) := by
  have cases {other : Thread} {target : ContextPc}
      (reached : (next.setPc thread pc).pc other = target) :
      pc = target ∨ state.pc other = target := by
    obtain ⟨_, same⟩ | ⟨_, before⟩ := setPc_cases reached
    · exact .inl same
    · rw [places] at before
      exact .inr before
  refine ⟨?_, ?_, ?_, ?_⟩
  · intro other ctx uses
    obtain same | before := cases uses
    · exact context.trans (enters ctx same)
    · exact context.trans (fits.held other ctx before)
  · intro other ctx closes
    obtain same | before := cases closes
    · exact absurd same (drains ctx)
    · exact ⟨closing.trans (fits.draining other ctx before).1,
        context.trans (fits.draining other ctx before).2⟩
  · intro first second ctx ctx' one two
    obtain same | before := cases one
    · exact absurd same (drains ctx)
    · obtain same | after := cases two
      · exact absurd same (drains ctx')
      · exact fits.alone first second ctx ctx' before after
  · intro other since arrives
    obtain same | before := cases arrives
    · exact ⟨(waits since same).1, .inl (closing.trans (waits since same).2)⟩
    · obtain ⟨bound, still⟩ := fits.waiting other since before
      refine ⟨bound.trans grown, ?_⟩
      rw [show (next.setPc thread pc).contextClosing = next.contextClosing from rfl,
        show (next.setPc thread pc).rgaCtx = next.rgaCtx from rfl, closing, context]
      exact still

theorem ThreadsFit.undrained (fits : ThreadsFit state) (calm : state.contextClosing = false)
    {other : Thread} {old : LegacyContext} (closes : state.pc other = .closeWait old) : False := by
  have draining := (fits.draining other old closes).1
  rw [calm] at draining
  cases draining

theorem ThreadsFit.publish {next : ContextState} {ctx : LegacyContext} (fits : ThreadsFit state)
    (places : next.pc = state.pc) (unused : CountsUsers state.pc 0)
    (calm : state.contextClosing = false) (shown : next.rgaCtx = some ctx)
    (newest : ctx.serial = state.allocations) (grown : next.allocations = state.allocations + 1) :
    ThreadsFit (next.setPc thread .idle) := by
  have cases {other : Thread} {target : ContextPc} (busy : target ≠ .idle)
      (reached : (next.setPc thread .idle).pc other = target) : state.pc other = target := by
    obtain ⟨_, same⟩ | ⟨_, before⟩ := setPc_cases reached
    · exact absurd same.symm busy
    · rw [places] at before
      exact before
  refine ⟨?_, ?_, ?_, ?_⟩
  · intro other old uses
    exact absurd (cases (by simp) uses) (no_users unused old)
  · intro other old closes
    exact (fits.undrained calm (cases (by simp) closes)).elim
  · intro first second old old' one two
    exact (fits.undrained calm (cases (by simp) one)).elim
  · intro other since arrives
    obtain ⟨bound, _⟩ := fits.waiting other since (cases (by simp) arrives)
    refine ⟨?_, .inr ?_⟩
    · show since ≤ next.allocations
      omega
    · intro current visible
      have same : ctx = current := Option.some.inj (shown.symm.trans visible)
      subst same
      omega

/-- The last client has left while operations are under way: `thread` waits for them. -/
theorem ThreadsFit.drain {next : ContextState} {ctx : LegacyContext} (fits : ThreadsFit state)
    (places : next.pc = state.pc) (calm : state.contextClosing = false)
    (published : state.rgaCtx = some ctx) (context : next.rgaCtx = state.rgaCtx)
    (closing : next.contextClosing = true) (kept : next.allocations = state.allocations) :
    ThreadsFit (next.setPc thread (.closeWait ctx)) := by
  have cases {other : Thread} {target : ContextPc}
      (reached : (next.setPc thread (.closeWait ctx)).pc other = target) :
      other = thread ∧ .closeWait ctx = target ∨ state.pc other = target := by
    obtain here | ⟨_, before⟩ := setPc_cases reached
    · exact .inl here
    · rw [places] at before
      exact .inr before
  refine ⟨?_, ?_, ?_, ?_⟩
  · intro other old uses
    obtain ⟨_, moved⟩ | before := cases uses
    · cases moved
    · exact context.trans (fits.held other old before)
  · intro other old closes
    obtain ⟨_, moved⟩ | before := cases closes
    · cases moved
      exact ⟨closing, context.trans published⟩
    · exact (fits.undrained calm before).elim
  · intro first second old old' one two
    obtain ⟨here, _⟩ | before := cases one
    · obtain ⟨there, _⟩ | before := cases two
      · rw [here, there]
      · exact (fits.undrained calm before).elim
    · exact (fits.undrained calm before).elim
  · intro other since arrives
    obtain ⟨_, moved⟩ | before := cases arrives
    · cases moved
    · refine ⟨?_, .inl closing⟩
      show since ≤ next.allocations
      rw [kept]
      exact (fits.waiting other since before).1

theorem openSection_invariant {waited : Option Nat} {reply : OpenReply} {after : ContextState}
    {event : ContextEvent} (kept : ContextInvariant state)
    (outside : ∀ ctx, state.pc thread ≠ .using ctx) (calm : state.contextClosing = false)
    (taken : state.openSection thread waited reply = some (after, event)) :
    ContextInvariant after := by
  have counted (next : ContextState) (places : next.pc = state.pc) :
      CountsUsers (next.setPc thread .idle).pc state.activeOperations := by
    refine countsUsers_keep (by rw [places]; exact kept.counted) ?_ (by simp)
    intro ctx
    rw [places]
    exact outside ctx
  unfold ContextState.openSection at taken
  split at taken
  · rename_i ctx published
    cases taken
    obtain ⟨ledger, serial, clients, same, closing⟩ := kept.shared.present ctx published
    refine ⟨.of_published published ledger serial ?_ ?_ ?_, ?_, counted _ rfl⟩
    · simp only [ContextState.setPc, List.length_cons]
      omega
    · intro ptr member
      rcases List.mem_cons.mp member with rfl | old
      · rfl
      · exact same ptr old
    · simp only [ContextState.setPc, calm, Bool.false_eq_true, false_iff]
      omega
    · exact kept.threads.keep rfl rfl rfl le_rfl (by simp) (by simp) (by simp)
  · rename_i unpublished
    obtain ⟨ledger, refs, active, closing, clients⟩ := kept.shared.absent unpublished
    -- a failed call leaves an empty ledger and no context behind
    have failed (next : ContextState) (places : next.pc = state.pc) (context : next.rgaCtx = none)
        (flag : next.contextClosing = false) (grown : state.allocations ≤ next.allocations)
        (empty : next.ledger = {}) (count : next.refCount = 0)
        (idle : next.activeOperations = 0) (nobody : next.clients = []) :
        ContextInvariant (next.setPc thread .idle) := by
      refine ⟨⟨fun _ => ⟨empty, count, idle, flag, nobody⟩, ?_⟩, ?_, ?_⟩
      · intro ctx shown
        rw [show next.rgaCtx = some ctx from shown] at context
        cases context
      · exact kept.threads.keep places (context.trans unpublished.symm) (flag.trans calm.symm)
          grown (by simp) (by simp) (by simp)
      · rw [show (next.setPc thread .idle).activeOperations = state.activeOperations from
          idle.trans active.symm]
        exact counted next places
    split at taken
    · cases taken
      exact failed state rfl unpublished calm le_rfl ledger refs active clients
    · rename_i ptr granted
      dsimp only at taken
      split_ifs at taken with used refused known
      · cases taken
        refine failed _ rfl unpublished calm (Nat.le_succ _) ?_ refs active clients
        simp [ledger, DeviceLedger.replay, DeviceLedger.apply]
      · cases taken
        refine ⟨.of_published rfl ?_ ?_ ?_ ?_ ?_, ?_, counted _ rfl⟩
        · simp [ContextState.setPc, ledger, DeviceLedger.replay, DeviceLedger.apply]
        · exact Nat.lt_succ_self _
        · simp [ContextState.setPc, refs, clients]
        · simp [ContextState.setPc, clients]
        · simp [ContextState.setPc, closing, refs]
        · exact kept.threads.publish rfl (active ▸ kept.counted) calm rfl rfl rfl
      · cases taken
        refine failed _ rfl unpublished calm (Nat.le_succ _) ?_ refs active clients
        simp [ledger, DeviceLedger.replay, DeviceLedger.apply]

theorem tearDown_invariant {ctx : LegacyContext} (kept : ThreadsFit state)
    (ledger : state.ledger = ⟨[ctx.ptr], [ctx.rgaFd]⟩)
    (refs : state.refCount = 0) (clients : state.clients = [])
    (active : state.activeOperations = 0) (counted : CountsUsers state.pc 0)
    (closer : ∀ other old, state.pc other = .closeWait old → other = thread) :
    ContextInvariant (state.tearDown thread ctx).1 := by
  have cases {other : Thread} {target : ContextPc} (busy : target ≠ .idle)
      (reached : (state.tearDown thread ctx).1.pc other = target) :
      other ≠ thread ∧ state.pc other = target := by
    obtain ⟨_, same⟩ | moved := setPc_cases reached
    · exact absurd same.symm busy
    · exact moved
  have empty : (state.tearDown thread ctx).1.ledger = {} := by
    simp [ContextState.tearDown, ContextState.setPc, ledger, DeviceLedger.replay,
      DeviceLedger.apply]
  refine ⟨⟨fun _ => ⟨empty, refs, active, rfl, clients⟩, ?_⟩, ⟨?_, ?_, ?_, ?_⟩, ?_⟩
  · intro other shown
    cases shown
  · intro other old uses
    exact absurd (cases (by simp) uses).2 (no_users counted old)
  · intro other old closes
    obtain ⟨elsewhere, before⟩ := cases (by simp) closes
    exact absurd (closer other old before) elsewhere
  · intro first second old old' one two
    obtain ⟨elsewhere, before⟩ := cases (by simp) one
    exact absurd (closer first old before) elsewhere
  · intro other since arrives
    obtain ⟨_, before⟩ := cases (by simp) arrives
    refine ⟨(kept.waiting other since before).1, .inr ?_⟩
    intro current shown
    cases shown
  · rw [show (state.tearDown thread ctx).1.activeOperations = 0 from active]
    exact countsUsers_keep counted (no_users counted) (by simp)

theorem ContextInvariant.client {ptr : CtxPtr} (kept : ContextInvariant state)
    (client : ptr ∈ state.clients) :
    ∃ ctx, state.rgaCtx = some ctx ∧ ptr = ctx.ptr ∧ 0 < state.refCount ∧
      state.contextClosing = false := by
  cases published : state.rgaCtx with
  | none =>
      rw [(kept.shared.absent published).2.2.2.2] at client
      cases client
  | some ctx =>
      obtain ⟨_, _, count, same, closing⟩ := kept.shared.present ctx published
      have positive : 0 < state.clients.length := List.length_pos_of_mem client
      refine ⟨ctx, rfl, same ptr client, by omega, ?_⟩
      rw [← Bool.not_eq_true, closing]
      omega

theorem closeSection_invariant {ptr : CtxPtr} (kept : ContextInvariant state)
    (idle : state.pc thread = .idle) (client : ptr ∈ state.clients) :
    ContextInvariant (state.closeSection thread ptr).1 := by
  obtain ⟨ctx, published, same, positive, calm⟩ := kept.client client
  obtain ⟨ledger, serial, count, others, _⟩ := kept.shared.present ctx published
  have left := List.length_erase_of_mem client
  have remaining : (state.clients.erase ptr).length = state.refCount - 1 := by
    have some : 0 < state.clients.length := List.length_pos_of_mem client
    omega
  unfold ContextState.closeSection
  dsimp only
  split
  · rename_i unpublished
    rw [published] at unpublished
    cases unpublished
  · rename_i current shown
    have agrees : ctx = current := Option.some.inj (published.symm.trans shown)
    subst agrees
    split_ifs with other empty more active
    · exact absurd same other
    · omega
    · refine ⟨.of_published published ledger serial remaining.symm ?_ ?_, ⟨kept.threads.held,
        kept.threads.draining, kept.threads.alone, kept.threads.waiting⟩, kept.counted⟩
      · intro pointer member
        exact others pointer (List.mem_of_mem_erase member)
      · simp only [calm, Bool.false_eq_true, false_iff]
        omega
    · have nobody : state.clients.erase ptr = [] := List.length_eq_zero_iff.mp (by omega)
      refine ⟨.of_published published ledger serial remaining.symm ?_ ?_,
        kept.threads.drain rfl calm published rfl rfl rfl, ?_⟩
      · simp [ContextState.setPc, nobody]
      · simp only [ContextState.setPc, true_iff]
        omega
      · exact countsUsers_keep kept.counted (by simp [idle]) (by simp)
    · have nobody : state.clients.erase ptr = [] := List.length_eq_zero_iff.mp (by omega)
      have last : state.refCount - 1 = 0 := by omega
      have unused : state.activeOperations = 0 := not_not.mp active
      refine tearDown_invariant ⟨kept.threads.held, ?_, kept.threads.alone, ?_⟩ ledger last nobody
        unused ?_ ?_
      · intro other old closes
        exact (kept.threads.undrained calm closes).elim
      · intro other since arrives
        exact ⟨(kept.threads.waiting other since arrives).1, .inl rfl⟩
      · rw [← unused]
        exact kept.counted
      · intro other old closes
        exact (kept.threads.undrained calm closes).elim

theorem step_invariant {op : ContextOp} {after : ContextState} {event : ContextEvent}
    (kept : ContextInvariant state) (taken : state.step op = some (after, event)) :
    ContextInvariant after := by
  cases op with
  | openLock thread slot reply =>
      simp only [ContextState.step] at taken
      split_ifs at taken with busy missing draining
      · cases taken
        exact kept
      · cases taken
        have idle : state.pc thread = .idle := not_not.mp busy
        refine ⟨⟨kept.shared.absent, kept.shared.present⟩, ?_, ?_⟩
        · refine kept.threads.keep rfl rfl rfl le_rfl (by simp) (by simp) ?_
          intro since same
          cases same
          exact ⟨le_rfl, draining⟩
        · exact countsUsers_keep kept.counted (by simp [idle]) (by simp)
      · have idle : state.pc thread = .idle := not_not.mp busy
        exact openSection_invariant kept (by simp [idle]) (by simpa using draining) taken
  | openWake thread reply =>
      simp only [ContextState.step] at taken
      split at taken
      · rename_i since waits
        split_ifs at taken with draining
        exact openSection_invariant kept (by simp [waits]) (by simpa using draining) taken
      · cases taken
  | useBegin thread =>
      simp only [ContextState.step] at taken
      split_ifs at taken with busy
      have idle : state.pc thread = .idle := not_not.mp busy
      split at taken
      · rename_i ctx calm published
        cases taken
        refine ⟨⟨by simp [ContextState.setPc, published], kept.shared.present⟩, ?_, ?_⟩
        · refine kept.threads.keep rfl rfl rfl le_rfl ?_ (by simp) (by simp)
          rintro other same
          cases same
          exact published
        · exact countsUsers_enter kept.counted (by simp [idle])
      · cases taken
        exact kept
  | useEnd thread =>
      simp only [ContextState.step] at taken
      split at taken
      · rename_i ctx uses
        cases taken
        have published := kept.threads.held thread ctx uses
        refine ⟨⟨by simp [ContextState.setPc, published], kept.shared.present⟩, ?_, ?_⟩
        · exact kept.threads.keep rfl rfl rfl le_rfl (by simp) (by simp) (by simp)
        · exact countsUsers_leave kept.counted uses
      · cases taken
  | closeLock thread arg =>
      simp only [ContextState.step] at taken
      split_ifs at taken with busy
      have idle : state.pc thread = .idle := not_not.mp busy
      cases arg with
      | noSlot | emptySlot =>
          cases taken
          exact kept
      | context ptr =>
          dsimp only at taken
          split_ifs at taken with client
          rw [Option.some.injEq] at taken
          have closed := closeSection_invariant kept idle client
          rw [taken] at closed
          exact closed
  | closeWake thread =>
      simp only [ContextState.step] at taken
      split at taken
      · rename_i ctx closes
        split_ifs at taken with active
        rw [Option.some.injEq] at taken
        have unused : state.activeOperations = 0 := not_not.mp active
        obtain ⟨draining, published⟩ := kept.threads.draining thread ctx closes
        obtain ⟨ledger, _, count, _, closing⟩ := kept.shared.present ctx published
        have refs := closing.mp draining
        have nobody : state.clients = [] := List.length_eq_zero_iff.mp (by omega)
        have torn : ContextInvariant (state.tearDown thread ctx).1 := by
          refine tearDown_invariant kept.threads ledger refs nobody unused ?_ ?_
          · rw [← unused]
            exact kept.counted
          · intro other old waits
            exact kept.threads.alone other thread old ctx waits closes
        rw [taken] at torn
        exact torn
      · cases taken

theorem initial_invariant : ContextInvariant {} := by
  refine ⟨⟨fun _ => ⟨rfl, rfl, rfl, rfl, rfl⟩, by simp⟩, ⟨by simp, by simp, by simp, by simp⟩, ?_⟩
  exact ⟨∅, rfl, by simp⟩

theorem run_invariant {trace : List ContextEvent}
    (run : Machine.Run ContextState.step {} trace state) : ContextInvariant state := by
  refine run.invariant (P := fun _ state => ContextInvariant state) initial_invariant ?_
  intro past before op after event _ kept taken
  exact step_invariant kept taken

/-! The lifecycle -/

def DeviceLedger.AtMostOne (ledger : DeviceLedger) : Prop :=
  ledger.contexts.length ≤ 1 ∧ ledger.fds.length ≤ 1

def DeviceCall.Releases : DeviceCall → Prop
  | closeFd _ | free _ => True
  | _ => False

/-- One context and one fd at most, and an operation works on the published context, which is
allocated and has its fd open. -/
structure ContextSafe (state : ContextState) : Prop where
  single : state.ledger.AtMostOne
  held : ∀ thread ctx, state.pc thread = .using ctx → state.rgaCtx = some ctx ∧
    ctx.ptr ∈ state.ledger.contexts ∧ ctx.rgaFd ∈ state.ledger.fds

/-- What holds inside a step, after each of its calls to the system, and across it. Counters that
a step changes are changed before its first release. -/
structure StepSafe (state after : ContextState) (event : ContextEvent) : Prop where
  single : ∀ calls, calls <+: event.calls → (state.ledger.replay calls).AtMostOne
  released : (∃ call ∈ event.calls, call.Releases) →
    after.refCount = 0 ∧ after.activeOperations = 0
  failed : ∀ thread ret calls, event = .openFailed thread ret calls →
    after.refCount = state.refCount ∧ after.rgaCtx = state.rgaCtx ∧
      after.ledger.fds = state.ledger.fds

/-- An open that comes while a close is draining waits, is held up until that close is over, and
then gets a context that was allocated after it came. -/
structure WaitsForFresh (state : ContextState) : Prop where
  arrives : ∀ thread reply, state.pc thread = .idle → state.contextClosing = true →
    state.step (.openLock thread true reply) =
        some (state.setPc thread (.openWait state.allocations), .openWaits thread) ∧
      ∀ ctx, state.rgaCtx = some ctx → ctx.serial < state.allocations
  heldUp : ∀ thread reply since, state.pc thread = .openWait since →
    state.contextClosing = true → state.step (.openWake thread reply) = none
  fresh : ∀ thread reply since after ctx waited calls, state.pc thread = .openWait since →
    state.step (.openWake thread reply) = some (after, .opened thread ctx waited calls) →
    since ≤ ctx.serial
  proceeds : ∀ thread reply since, state.pc thread = .openWait since →
    state.contextClosing = false →
    (∃ ptr, reply.block = some ptr ∧ ptr ∉ state.ledger.contexts) →
    0 ≤ reply.fd → reply.fd ∉ state.ledger.fds → reply.versionKnown = true →
    ∃ after ctx calls, state.step (.openWake thread reply) =
      some (after, .opened thread ctx (some since) calls)

theorem SharedFit.single (fits : SharedFit state) : state.ledger.AtMostOne := by
  cases published : state.rgaCtx with
  | none =>
      rw [(fits.absent published).1]
      exact ⟨Nat.zero_le 1, Nat.zero_le 1⟩
  | some ctx =>
      rw [(fits.present ctx published).1]
      exact ⟨le_rfl, le_rfl⟩

theorem stepSafe_quiet {after : ContextState} {event : ContextEvent} (fits : SharedFit state)
    (quiet : event.calls = []) (other : ∀ thread ret calls, event ≠ .openFailed thread ret calls) :
    StepSafe state after event := by
  refine ⟨?_, ?_, ?_⟩
  · intro calls part
    rw [quiet, List.prefix_nil] at part
    subst part
    exact fits.single
  · rintro ⟨call, member, _⟩
    rw [quiet] at member
    cases member
  · intro thread ret calls same
    exact absurd same (other thread ret calls)

theorem openSection_safe {waited : Option Nat} {reply : OpenReply} {after : ContextState}
    {event : ContextEvent} (fits : SharedFit state)
    (taken : state.openSection thread waited reply = some (after, event)) :
    StepSafe state after event ∧ ∀ other ctx since calls, event = .opened other ctx since calls →
      state.rgaCtx = some ctx ∨ ctx.serial = state.allocations := by
  unfold ContextState.openSection at taken
  split at taken
  · rename_i ctx published
    cases taken
    refine ⟨stepSafe_quiet fits rfl (by simp), ?_⟩
    intro other current since calls same
    cases same
    exact .inl published
  · rename_i unpublished
    obtain ⟨ledger, refs, active, _, _⟩ := fits.absent unpublished
    split at taken
    · cases taken
      refine ⟨⟨?_, by simp [ContextEvent.calls], fun _ _ _ _ => ⟨rfl, rfl, rfl⟩⟩, by simp⟩
      intro calls part
      rw [ContextEvent.calls, List.prefix_nil] at part
      subst part
      exact fits.single
    · rename_i ptr granted
      dsimp only at taken
      split_ifs at taken with used refused known
      · cases taken
        refine ⟨⟨?_, fun _ => ⟨refs, active⟩, fun _ _ _ _ => ⟨rfl, rfl, ?_⟩⟩, by simp⟩
        · intro calls part
          simp only [ContextEvent.calls, List.prefix_cons_iff, List.prefix_nil] at part
          obtain rfl | ⟨_, rfl, rfl | ⟨_, rfl, rfl⟩⟩ := part <;>
            simp [ledger, DeviceLedger.replay, DeviceLedger.apply, DeviceLedger.AtMostOne]
        · simp [ContextState.setPc, ledger, DeviceLedger.replay, DeviceLedger.apply]
      · cases taken
        refine ⟨⟨?_, ?_, by simp⟩, ?_⟩
        · intro calls part
          simp only [ContextEvent.calls, List.prefix_cons_iff, List.prefix_nil] at part
          obtain rfl | ⟨_, rfl, rfl | ⟨_, rfl, rfl⟩⟩ := part <;>
            simp [ledger, DeviceLedger.replay, DeviceLedger.apply, DeviceLedger.AtMostOne]
        · simp [ContextEvent.calls, DeviceCall.Releases]
        · intro other ctx since calls same
          cases same
          exact .inr rfl
      · cases taken
        refine ⟨⟨?_, fun _ => ⟨refs, active⟩, fun _ _ _ _ => ⟨rfl, rfl, ?_⟩⟩, by simp⟩
        · intro calls part
          simp only [ContextEvent.calls, List.prefix_cons_iff, List.prefix_nil] at part
          obtain rfl | ⟨_, rfl, rfl | ⟨_, rfl, rfl | ⟨_, rfl, rfl | ⟨_, rfl, rfl⟩⟩⟩⟩ := part <;>
            simp [ledger, DeviceLedger.replay, DeviceLedger.apply, DeviceLedger.AtMostOne]
        · simp [ContextState.setPc, ledger, DeviceLedger.replay, DeviceLedger.apply]

theorem tearDown_safe {before : ContextState} {ctx : LegacyContext}
    (same : before.ledger = state.ledger) (ledger : state.ledger = ⟨[ctx.ptr], [ctx.rgaFd]⟩)
    (refs : state.refCount = 0) (active : state.activeOperations = 0) :
    StepSafe before (state.tearDown thread ctx).1 (state.tearDown thread ctx).2 := by
  refine ⟨?_, fun _ => ⟨refs, active⟩, by simp [ContextState.tearDown]⟩
  intro calls part
  simp only [ContextState.tearDown, ContextEvent.calls, List.prefix_cons_iff,
    List.prefix_nil] at part
  obtain rfl | ⟨_, rfl, rfl | ⟨_, rfl, rfl⟩⟩ := part <;>
    simp [same, ledger, DeviceLedger.replay, DeviceLedger.apply, DeviceLedger.AtMostOne]

theorem closeSection_safe {ptr : CtxPtr} (kept : ContextInvariant state)
    (client : ptr ∈ state.clients) :
    StepSafe state (state.closeSection thread ptr).1 (state.closeSection thread ptr).2 := by
  obtain ⟨ctx, published, _, positive, _⟩ := kept.client client
  obtain ⟨ledger, _⟩ := kept.shared.present ctx published
  unfold ContextState.closeSection
  dsimp only
  split
  · exact stepSafe_quiet kept.shared rfl (by simp)
  · rename_i current shown
    have agrees : ctx = current := Option.some.inj (published.symm.trans shown)
    subst agrees
    split_ifs with other empty more active
    · exact stepSafe_quiet kept.shared rfl (by simp)
    · exact stepSafe_quiet kept.shared rfl (by simp)
    · exact stepSafe_quiet kept.shared rfl (by simp)
    · exact stepSafe_quiet kept.shared rfl (by simp)
    · exact tearDown_safe rfl ledger (show state.refCount - 1 = 0 by omega) (not_not.mp active)

theorem step_safe {op : ContextOp} {after : ContextState} {event : ContextEvent}
    (kept : ContextInvariant state) (taken : state.step op = some (after, event)) :
    StepSafe state after event := by
  cases op with
  | openLock thread slot reply =>
      simp only [ContextState.step] at taken
      split_ifs at taken with busy missing draining
      · cases taken
        refine ⟨?_, by simp [ContextEvent.calls], fun _ _ _ _ => ⟨rfl, rfl, rfl⟩⟩
        intro calls part
        rw [ContextEvent.calls, List.prefix_nil] at part
        subst part
        exact kept.shared.single
      · cases taken
        exact stepSafe_quiet kept.shared rfl (by simp)
      · exact (openSection_safe kept.shared taken).1
  | openWake thread reply =>
      simp only [ContextState.step] at taken
      split at taken
      · split_ifs at taken
        exact (openSection_safe kept.shared taken).1
      · cases taken
  | useBegin thread =>
      simp only [ContextState.step] at taken
      split_ifs at taken
      split at taken
      · cases taken
        exact stepSafe_quiet kept.shared rfl (by simp)
      · cases taken
        exact stepSafe_quiet kept.shared rfl (by simp)
  | useEnd thread =>
      simp only [ContextState.step] at taken
      split at taken
      · cases taken
        exact stepSafe_quiet kept.shared rfl (by simp)
      · cases taken
  | closeLock thread arg =>
      simp only [ContextState.step] at taken
      split_ifs at taken
      cases arg with
      | noSlot | emptySlot =>
          cases taken
          exact stepSafe_quiet kept.shared rfl (by simp)
      | context ptr =>
          dsimp only at taken
          split_ifs at taken with client
          rw [Option.some.injEq] at taken
          have closed := @closeSection_safe state thread ptr kept client
          rw [taken] at closed
          exact closed
  | closeWake thread =>
      simp only [ContextState.step] at taken
      split at taken
      · rename_i ctx closes
        split_ifs at taken with active
        rw [Option.some.injEq] at taken
        obtain ⟨draining, published⟩ := kept.threads.draining thread ctx closes
        obtain ⟨ledger, _, _, _, closing⟩ := kept.shared.present ctx published
        have torn := @tearDown_safe state thread state ctx rfl ledger (closing.mp draining)
          (not_not.mp active)
        rw [taken] at torn
        exact torn
      · cases taken

theorem ContextInvariant.waitsForFresh (kept : ContextInvariant state) : WaitsForFresh state := by
  refine ⟨?_, ?_, ?_, ?_⟩
  · intro thread reply idle draining
    refine ⟨by simp [ContextState.step, idle, draining], ?_⟩
    intro ctx published
    exact (kept.shared.present ctx published).2.1
  · intro thread reply since waits draining
    simp [ContextState.step, waits, draining]
  · intro thread reply since after ctx waited calls waits taken
    simp only [ContextState.step, waits] at taken
    split_ifs at taken with draining
    obtain ⟨bound, still⟩ := kept.threads.waiting thread since waits
    obtain published | newest := (openSection_safe kept.shared taken).2 thread ctx waited calls rfl
    · exact still.resolve_left draining ctx published
    · omega
  · rintro thread reply since waits calm ⟨ptr, granted, fresh⟩ opened unused known
    simp only [ContextState.step, waits, calm, Bool.false_eq_true, if_false,
      ContextState.openSection]
    cases published : state.rgaCtx with
    | some ctx => exact ⟨_, ctx, [], rfl⟩
    | none =>
        have nonnegative : ¬ reply.fd < 0 := Int32.not_lt.mpr opened
        simp only [granted, fresh, unused, nonnegative, known, or_self, and_false, if_false,
          if_true]
        exact ⟨_, _, _, rfl⟩

theorem context_lifecycle {trace : List ContextEvent}
    (run : Machine.Run ContextState.step {} trace state) :
    ContextSafe state ∧ WaitsForFresh state ∧
      ∀ op after event, state.step op = some (after, event) → StepSafe state after event := by
  have kept := run_invariant run
  refine ⟨⟨kept.shared.single, ?_⟩, kept.waitsForFresh, fun op after event => step_safe kept⟩
  intro thread ctx uses
  have published := kept.threads.held thread ctx uses
  refine ⟨published, ?_⟩
  rw [(kept.shared.present ctx published).1]
  exact ⟨List.mem_singleton_self _, List.mem_singleton_self _⟩

/-- An operation of thread 1 is under way when thread 0 closes, and thread 2 opens meanwhile. -/
def teardownOps : List ContextOp :=
  [.openLock 0 true { block := some 0x1000, fd := 5, driverVersion := true, hwVersion := true },
    .useBegin 1, .closeLock 0 (.context 0x1000), .openLock 2 true {}, .useEnd 1, .closeWake 0,
    .openWake 2 { block := some 0x1000, fd := 5, rga2Version := true }]

theorem context_lifecycle_teardown :
    ∃ trace state, Machine.Run ContextState.step {} trace state ∧
      trace.head? = some (.opened 2 ⟨0x1000, 5, 1⟩ (some 1) [.malloc 0x1000, .openFd 5]) ∧
      state.ledger.AtMostOne := by
  have run := Machine.Run.of_exec ContextState.step {} teardownOps rfl
  exact ⟨_, _, run, rfl, (context_lifecycle run).1.single⟩

end LibRga

import LibRga.ApiDiscipline
import LibRga.LegacyProgress

/-!
The object of the process: with one context at most, and the same for all that
comes after; and the end of every call that waits for it.
-/

namespace LibRga

open Monitor

/-! Operations leave the context as it is -/

/-- What an operation does not write. -/
structure Fixed (before after : LegacyData) : Prop where
  refCount : after.refCount = before.refCount
  rgaCtx : after.rgaCtx = before.rgaCtx
  closing : after.contextClosing = before.contextClosing
  ledger : after.ledger = before.ledger

theorem Fixed.refl (data : LegacyData) : Fixed data data :=
  ⟨rfl, rfl, rfl, rfl⟩

theorem Fixed.trans {first second third : LegacyData} (earlier : Fixed first second)
    (later : Fixed second third) : Fixed first third where
  refCount := later.refCount.trans earlier.refCount
  rgaCtx := later.rgaCtx.trans earlier.rgaCtx
  closing := later.closing.trans earlier.closing
  ledger := later.ledger.trans earlier.ledger

theorem Fixed.symm {before after : LegacyData} (fixed : Fixed before after) : Fixed after before :=
  ⟨fixed.refCount.symm, fixed.rgaCtx.symm, fixed.closing.symm, fixed.ledger.symm⟩

/-- Every thread that is in a call is in an operation. -/
def Operating (state : LegacyState) : Prop :=
  ∀ thread place, (state.threads thread).place = some place → place.operates = true

section Operating

variable {state after : LegacyState} {event : LegacyEvent}

theorem operates_acted {data later : LegacyData} {place next : LegacyPlace} {reply : LegacyReply}
    {notes : List DeviceCall} {effect : LegacyData → LegacyReply →
      Option (LegacyData × List DeviceCall × LegacyPlace)}
    (operates : place.operates = true) (code : place.code = .act effect)
    (answered : effect data reply = some (later, notes, next)) :
    Fixed data later ∧ notes = [] := by
  cases place with
  | useTest =>
      cases code
      cases answered
      dsimp only
      split <;> exact ⟨.refl data, rfl⟩
  | useCount ctx | endCount | outRead ctx =>
      cases code
      cases answered
      exact ⟨⟨rfl, rfl, rfl, rfl⟩, rfl⟩
  | debugSet ctx =>
      cases code
      cases answered
      split <;> exact ⟨⟨rfl, rfl, rfl, rfl⟩, rfl⟩
  | useUnlock ctx | logUnlock ctx => cases ctx <;> cases code
  | openLookup | openMalloc | openDevice _ | openDriverVersion _ _ | openHwVersion _ _
  | openRga2Version _ _ | openRga1Version _ _ | openPublish _ _ | openCount _ | openClose _ _
  | openFree _ _ | closeTest _ | closeCount _ | closeMark _ | closeClear _ | closeFd _
  | closeFree _ | closeCalm => cases operates
  | _ => cases code

theorem Operating.stepped (operating : Operating state)
    (stepped : legacyProgram.Stepped state event after)
    (enters : ∀ thread call, event = .entered thread call → call = .operation) :
    Operating after ∧ Fixed state.data after.data ∧ event.notes = [] ∧
      ∀ ptr, handsOut ptr event = false := by
  refine ⟨fun thread place there => ?_, ?_⟩
  · obtain ⟨call, entered, rfl⟩ | ⟨before, standing, leads⟩ := stepped.came there
    · obtain rfl := enters thread call entered
      rfl
    · have operates := operating thread before standing
      obtain rfl | leads := leads
      · exact operates
      · exact LegacyPlace.operates_leads operates leads
  · cases stepped with
    | roams thread event status roams =>
        generalize state.threads thread = before at roams
        cases roams <;> exact ⟨.refl _, rfl, fun ptr => rfl⟩
    | opens thread place next free opens => exact ⟨.refl _, rfl, fun ptr => rfl⟩
    | closes thread event place status running closes =>
        have operates := operating thread place (by rw [running]; rfl)
        refine ⟨.refl _, ?_, fun ptr => ?_⟩
        · cases closes <;> rfl
        · cases closes with
          | unlocked next code =>
              cases place with
              | openUnlock _ => cases operates
              | _ => rfl
          | parked _ _ _ _ => rfl
    | inner thread event place next later running inner =>
        have operates := operating thread place (by rw [running]; rfl)
        cases inner with
        | acted effect reply _ notes _ code answered =>
            obtain ⟨fixed, silent⟩ := operates_acted operates code answered
            exact ⟨fixed, silent, fun ptr => rfl⟩
        | passed _ _ _ _ => exact ⟨.refl _, rfl, fun ptr => rfl⟩
        | broadcast _ _ => exact ⟨.refl _, rfl, fun ptr => rfl⟩

theorem Operating.run {later : List LegacyEvent} (operating : Operating state)
    (run : Machine.Run legacyProgram.step state later after)
    (inward : ∀ event ∈ later, event.outer = false) :
    Operating after ∧ Fixed state.data after.data ∧
      ∀ ptr, later.countP (handsOut ptr) = 0 := by
  induction run with
  | init => exact ⟨operating, .refl _, fun ptr => rfl⟩
  | next _ taken ih =>
      obtain ⟨here, rest⟩ := List.forall_mem_cons.mp inward
      obtain ⟨operates, fixed, none⟩ := ih rest
      obtain ⟨stays, further, _, keeps⟩ :=
        operates.stepped (Program.step_stepped taken) (by rintro _ _ rfl; cases here)
      refine ⟨stays, fixed.trans further, fun ptr => ?_⟩
      rw [List.countP_cons_of_neg (by simp [keeps]), none]

end Operating

/-! Once there is an object -/

section Made

variable {state after : ApiState} {event : ApiEvent} {trace : List ApiEvent}
  {object : RockchipRga}

theorem ApiKept.operating (kept : ApiKept trace state) (made : state.shared = some object) :
    Operating state.monitor := by
  intro thread place there
  have links := kept.linked thread
  have served := kept.served thread
  have making := kept.making thread
  generalize running : state.monitor.threads thread = status at links there served
  generalize standing : state.places thread = activity at links served making
  cases links with
  | away _ _ => cases there
  | within here entry resume _ code _ =>
      have serves := served here entry resume place rfl code there
      have present := making here rfl
      rw [made] at present
      cases here with
      | rgaInitOpen _ | rgaInitClose _ _ => cases present rfl
      | method call =>
          cases call <;> cases code
          exact serves
      | _ => cases code

/-- The holder of the lock has no reference: it has none to put into the object any more. -/
theorem ApiKept.unheld (kept : ApiKept trace state) (made : state.shared = some object)
    (ptr : CtxPtr) : Callers.heldBy state.lock (owed ptr state) = 0 := by
  cases held : state.lock with
  | none => rfl
  | some thread =>
      change owed ptr state thread = 0
      have links := kept.linked thread
      have making := kept.making thread
      have fits := kept.apart thread
      rw [held, decide_eq_true rfl] at fits
      rw [made] at making
      unfold owed
      generalize state.monitor.threads thread = status at links
      generalize state.places thread = activity at links making fits
      cases links with
      | within here entry resume _ code _ =>
          have present := making here rfl
          cases here with
          | rgaInitOpen _ | rgaInitClose _ _ => cases present rfl
          | method _ => cases fits
          | _ => cases code
      | away _ away =>
          cases activity with
          | idle => cases fits
          | calling here => exact absurd rfl (away here)
          | ready here =>
              have present := making here rfl
              cases here with
              | instanceTest _ | instanceUnlock _ => rfl
              | getInstance _ | method _ | finished _ => cases fits
              | _ => cases present rfl

theorem ApiKept.after_made (kept : ApiKept trace state) (made : state.shared = some object)
    (moved : apiCallers.Moved legacyProgram state event after) :
    after.shared = some object ∧ Fixed state.monitor.data after.monitor.data ∧
      event.toMonitor.elim [] Event.notes = [] := by
  cases moved with
  | began thread job idle => exact ⟨made, .refl _, rfl⟩
  | finished thread place result ready code => exact ⟨made, .refl _, rfl⟩
  | called thread place entry resume monitor ready code entered =>
      obtain ⟨_, rfl⟩ := (Program.step_stepped entered).entered
      exact ⟨made, .refl _, rfl⟩
  | inner op event monitor enters stepped =>
      obtain ⟨_, fixed, silent, _⟩ := (kept.operating made).stepped
        (Program.step_stepped stepped) fun thread call same => absurd same (enters thread call)
      rw [Callers.resume_shared, Callers.resume_monitor]
      exact ⟨made, fixed, silent⟩
  | moved thread place next lock shared ready own =>
      refine ⟨?_, .refl _, rfl⟩
      have present := kept.making thread place (by rw [ready]; rfl)
      rw [made] at present
      cases own with
      | lock _ _ _ | unlock _ _ | read _ _ => exact made
      | own _ reply code =>
          cases place with
          | rgaInitCheck _ _ | constructed _ _ => cases present rfl
          | method call => cases call <;> cases code
          | _ => cases code

/-- The context is the object's, with that one reference, or there is none. -/
structure ContextOf (object : RockchipRga) (data : LegacyData) : Prop where
  absent : object.mContext = none → data.rgaCtx = none ∧ data.ledger = {} ∧ data.refCount = 0
  present : ∀ ptr, object.mContext = some ptr → ∃ ctx, data.rgaCtx = some ctx ∧ ctx.ptr = ptr ∧
    data.ledger = ⟨[ptr], [ctx.rgaFd]⟩ ∧ data.refCount = 1
  closing : data.contextClosing = false

theorem ContextOf.fixed {before data : LegacyData} (context : ContextOf object before)
    (fixed : Fixed before data) : ContextOf object data := by
  obtain ⟨absent, present, closing⟩ := context
  rw [← fixed.rgaCtx, ← fixed.ledger, ← fixed.refCount] at absent present
  exact ⟨absent, present, fixed.closing.trans closing⟩

/-- With the clients that the object makes, a state of `Context` has its context. -/
theorem contextOf_clients {data : LegacyData} {pc : Thread → ContextPc} {clients : List CtxPtr}
    (shared : SharedFit (data.context pc clients)) (closing : data.contextClosing = false)
    (counts : ∀ ptr, clients.count ptr = objectHolds ptr (some object)) :
    ContextOf object data := by
  refine ⟨fun none => ?_, fun ptr some => ?_, closing⟩
  · have empty : clients = [] := by
      refine List.eq_nil_iff_forall_not_mem.mpr fun ptr member => ?_
      have positive := List.count_pos_iff.mpr member
      rw [counts ptr, objectHolds, Option.bind_some, none] at positive
      exact absurd positive (Nat.lt_irrefl 0)
    cases found : data.rgaCtx with
    | none =>
        obtain ⟨ledger, count, _⟩ := shared.absent found
        exact ⟨rfl, ledger, count⟩
    | some ctx =>
        obtain ⟨_, _, count, _, drains⟩ := shared.present ctx found
        have zero : data.refCount = 0 := by
          rw [show data.refCount = clients.length from count, empty]
          rfl
        have draining : data.contextClosing = true := drains.mpr zero
        rw [closing] at draining
        cases draining
  · have one : clients.count ptr = 1 := by
      rw [counts ptr, objectHolds, Option.bind_some, some, beq_self_eq_true]
      rfl
    have member : ptr ∈ clients := List.count_pos_iff.mp (by omega)
    cases found : data.rgaCtx with
    | none =>
        obtain ⟨_, _, _, _, empty⟩ := shared.absent found
        rw [show clients = [] from empty] at member
        cases member
    | some ctx =>
        obtain ⟨ledger, _, count, all, _⟩ := shared.present ctx found
        have here : ptr = ctx.ptr := all ptr member
        have length : clients.count ptr = clients.length :=
          List.count_eq_length.mpr fun other listed => here.trans (all other listed).symm
        refine ⟨ctx, rfl, here.symm, here ▸ ledger, ?_⟩
        rw [show data.refCount = clients.length from count, ← length, one]
        rfl

/-- Once there is an object, the context is what its constructor has come to. -/
theorem contextOf_run (run : Machine.Run (apiCallers.step legacyProgram) ApiState.first trace state)
    (made : state.shared = some object) : ContextOf object state.monitor.data := by
  have kept := apiKept_run run
  have below := Callers.run_below run
  obtain ⟨later, final, settles⟩ := owner_settles kept.exclusive
  obtain ⟨operating, fixed, silent⟩ :=
    (kept.operating made).run settles.run settles.asked
  have disciplined := kept.disciplined.quiet settles.quiet
  have run := below.trans settles.run
  obtain ⟨past, pc, clients, matched⟩ := (legacy_between run disciplined).2.holds settles.free
  have context : ContextOf object final.data := by
    refine contextOf_clients (run_invariant matched.run).shared ?_ fun ptr => ?_
    · by_contra draining
      obtain ⟨thread, ctx, waits⟩ := run_drained matched.run (Bool.not_eq_false _ ▸ draining)
      have stands := matched.threads thread
      rw [show pc thread = .closeWait ctx from waits] at stands
      have standing : (final.threads thread).place = some (.closeLoop ctx) := by
        obtain parked | woken := stands.closes
        · rw [parked]
          rfl
        · rw [woken]
          rfl
      cases operating thread _ standing
    · have account := kept.account ptr
      have counted := matched.clients ptr
      have quiet : later.countP (takesBack ptr) = 0 :=
        List.countP_eq_zero.mpr fun event member => by simp [settles.quiet event member ptr]
      rw [countP_guarded takesBack_guarded, countP_guarded handsOut_guarded, List.countP_append,
        List.countP_append, silent ptr, quiet] at counted
      rw [kept.unheld made ptr, made] at account
      omega
  exact context.fixed fixed.symm

theorem made_kept (run : Machine.Run (apiCallers.step legacyProgram) ApiState.first trace state)
    (made : state.shared = some object) {later : List ApiEvent} {final : ApiState}
    (further : Machine.Run (apiCallers.step legacyProgram) state later final) :
    final.shared = some object ∧ Fixed state.monitor.data final.monitor.data ∧
      (later.filterMap JointEvent.toMonitor).flatMap Event.notes = [] := by
  induction further with
  | init => exact ⟨made, .refl _, rfl⟩
  | @next past middle after op event earlier taken ih =>
      obtain ⟨present, fixed, silent⟩ := ih
      obtain ⟨stays, further, quiet⟩ :=
        (apiKept_run (run.trans earlier)).after_made present (Callers.step_moved taken)
      refine ⟨stays, fixed.trans further, ?_⟩
      cases event with
      | below inner =>
          change inner.notes ++ (past.filterMap JointEvent.toMonitor).flatMap Event.notes = []
          rw [show inner.notes = [] from quiet, silent]
          rfl
      | _ => exact silent

/-- What the first `getInstance` makes is what every thread has from then on: the same object, the
one context that it names or none, no call of the system for it any more, and no operation on
another one. -/
theorem api_context_final
    (run : Machine.Run (apiCallers.step legacyProgram) ApiState.first trace state)
    (made : state.shared = some object) {later : List ApiEvent} {final : ApiState}
    (further : Machine.Run (apiCallers.step legacyProgram) state later final) :
    final.shared = some object ∧ ContextOf object final.monitor.data ∧
      final.monitor.data.rgaCtx = state.monitor.data.rgaCtx ∧
      (later.filterMap JointEvent.toMonitor).flatMap Event.notes = [] ∧
      ∀ thread place ctx, final.monitor.threads thread = .running place →
        place.used = some ctx → object.mContext = some ctx.ptr := by
  obtain ⟨present, fixed, silent⟩ := made_kept run made further
  have whole := run.trans further
  have context := contextOf_run whole present
  refine ⟨present, context, fixed.rgaCtx, silent, fun thread place ctx running used => ?_⟩
  have published :=
    (used_live (Callers.run_below whole) (apiKept_run whole).disciplined running used).1
  cases has : object.mContext with
  | none =>
      rw [(context.absent has).1] at published
      cases published
  | some ptr =>
      obtain ⟨_, there, rfl, _, _⟩ := context.present ptr has
      rw [there] at published
      cases published
      rfl

end Made

theorem api_context_final_racing :
    ∃ trace state, Machine.Run (apiCallers.step legacyProgram) ApiState.first trace state ∧
      ∃ object, state.shared = some object ∧ object.mContext = some 0x1000 ∧
        ContextOf object state.monitor.data := by
  have run := Machine.Run.of_exec (apiCallers.step legacyProgram) ApiState.first racingOps rfl
  exact ⟨_, _, run, _, rfl, rfl, (api_context_final run rfl .init).2.1⟩

/-! Every call comes to its end -/

def ApiPlace.rank : ApiPlace → Nat
  | getInstance _ => 8
  | instanceTest _ => 7
  | rgaInitOpen _ => 6
  | rgaInitCheck _ _ => 5
  | rgaInitClose _ _ => 4
  | constructed _ _ => 3
  | instanceUnlock _ => 2
  | method _ => 1
  | finished _ => 0

theorem api_ranked : apiCallers.Ranked ApiPlace.rank := by
  intro place next leads
  cases place with
  | getInstance call | instanceUnlock call =>
      cases leads
      simp [ApiPlace.rank]
  | instanceTest call =>
      obtain ⟨sInstance, rfl⟩ := leads
      dsimp only
      split <;> simp [ApiPlace.rank]
  | rgaInitOpen call =>
      obtain ⟨result, rfl⟩ := leads
      cases result <;> simp [ApiPlace.rank]
  | rgaInitCheck call ctx =>
      obtain ⟨sInstance, mDriverVersion, rfl⟩ := leads
      dsimp only
      split <;> simp [ApiPlace.rank]
  | rgaInitClose call ctx =>
      obtain ⟨result, rfl⟩ := leads
      simp [ApiPlace.rank]
  | constructed call object =>
      obtain ⟨sInstance, mDriverVersion, rfl⟩ := leads
      simp [ApiPlace.rank]
  | method call =>
      cases call <;>
      · obtain ⟨result, rfl⟩ := leads
        exact Nat.zero_lt_one
  | finished result => cases leads

/-- From wherever the threads have come to, any of them can be brought to the end of its function
with no further call: nobody waits for ever for the lock of the object, nor behind it for
`mMutex`. -/
theorem api_returns {trace : List ApiEvent} {state : ApiState}
    (run : Machine.Run (apiCallers.step legacyProgram) ApiState.first trace state)
    (thread : Thread) :
    ∃ later final, Machine.Run (apiCallers.step legacyProgram) state later final ∧
      (∀ event ∈ later, event.outer = false) ∧ final.places thread = .idle := by
  have kept := apiKept_run run
  refine api_ranked.finishes kept.linked kept.apart (fun later final other further => ?_) thread
  have whole := run.trans further
  exact legacy_call_returns (Callers.run_below whole) (apiKept_run whole).disciplined other

/-- One thread has made the object and still has the lock, for which the other waits. -/
theorem api_returns_racing :
    ∃ trace state, Machine.Run (apiCallers.step legacyProgram) ApiState.first trace state ∧
      state.lock = some 0 ∧ state.places 1 = .ready (.getInstance .rkRgaGetContext) ∧
      ∃ later final, Machine.Run (apiCallers.step legacyProgram) state later final ∧
        final.places 1 = .idle := by
  have run := Machine.Run.of_exec (apiCallers.step legacyProgram) ApiState.first racingOps rfl
  obtain ⟨later, final, onwards, _, idle⟩ := api_returns run 1
  exact ⟨_, _, run, rfl, rfl, later, final, onwards, idle⟩

end LibRga

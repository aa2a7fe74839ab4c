import LibRga.ContextLifecycle
import LibRga.LegacyMonitor
import Mathlib.Data.List.Count

/-!
The instructions of `NormalRga.cpp` against the critical sections of `Context`.
-/

namespace LibRga

open Monitor

abbrev LegacyEvent := Monitor.Event Thread LegacyCall LegacyPlace DeviceCall CallResult

abbrev LegacyState := Monitor.State Thread LegacyData LegacyPlace

/-- A close of `ptr` that has come to its mutex. -/
def takesBack (ptr : CtxPtr) : LegacyEvent → Bool
  | .locked _ (.closeLock (.context other)) => other == ptr
  | _ => false

/-- An open that lets go of its mutex with `ptr` for its caller. -/
def handsOut (ptr : CtxPtr) : LegacyEvent → Bool
  | .unlocked _ (.openUnlock (.opened ctx)) => ctx.ptr == ptr
  | _ => false

/-- Clients close what they have opened, and once. -/
def Disciplined (trace : List LegacyEvent) : Prop :=
  ∀ past, past <:+ trace → ∀ ptr, past.countP (takesBack ptr) ≤ past.countP (handsOut ptr)

theorem disciplined_cons {event : LegacyEvent} {past : List LegacyEvent} :
    Disciplined (event :: past) ↔ Disciplined past ∧
      ∀ ptr, takesBack ptr event = true →
        past.countP (takesBack ptr) < past.countP (handsOut ptr) := by
  constructor
  · intro disciplined
    refine ⟨fun before suffix => disciplined before (suffix.trans (List.suffix_cons event past)),
      fun ptr takes => ?_⟩
    have counted := disciplined (event :: past) List.suffix_rfl ptr
    have keeps : handsOut ptr event = false := by
      cases event <;> first | rfl | cases takes
    rw [List.countP_cons_of_pos takes, List.countP_cons_of_neg (by simp [keeps])] at counted
    exact counted
  · rintro ⟨disciplined, taken⟩ before suffix ptr
    rw [List.suffix_cons_iff] at suffix
    obtain rfl | within := suffix
    · have earlier := disciplined past List.suffix_rfl ptr
      by_cases takes : takesBack ptr event = true
      · have open_ := taken ptr takes
        rw [List.countP_cons_of_pos takes, List.countP_cons]
        omega
      · rw [List.countP_cons_of_neg takes, List.countP_cons]
        omega
    · exact disciplined before within ptr

def closesOwn (past : List LegacyEvent) : LegacyEvent → Bool
  | .locked _ (.closeLock (.context ptr)) =>
      decide (past.countP (takesBack ptr) < past.countP (handsOut ptr))
  | _ => true

def isDisciplined : List LegacyEvent → Bool
  | [] => true
  | event :: past => isDisciplined past && closesOwn past event

theorem closesOwn_iff (past : List LegacyEvent) (event : LegacyEvent) :
    closesOwn past event = true ↔ ∀ ptr, takesBack ptr event = true →
      past.countP (takesBack ptr) < past.countP (handsOut ptr) := by
  unfold closesOwn
  split
  · rename_i thread ptr
    rw [decide_eq_true_iff]
    refine ⟨fun taken other takes => ?_, fun taken => taken ptr (beq_self_eq_true ptr)⟩
    exact eq_of_beq takes ▸ taken
  · rename_i other
    refine iff_of_true rfl fun ptr takes => ?_
    unfold takesBack at takes
    split at takes
    · exact absurd rfl (other _ _)
    · cases takes

theorem isDisciplined_iff (trace : List LegacyEvent) :
    isDisciplined trace = true ↔ Disciplined trace := by
  induction trace with
  | nil =>
      refine iff_of_true rfl fun past suffix ptr => ?_
      rw [List.suffix_nil.mp suffix]
      exact le_rfl
  | cons event past ih =>
      rw [disciplined_cons, ← ih, ← closesOwn_iff, isDisciplined, Bool.and_eq_true]

instance (trace : List LegacyEvent) : Decidable (Disciplined trace) :=
  decidable_of_iff _ (isDisciplined_iff trace)

/-- The state of `Context` that the data stands for. -/
def LegacyData.context (data : LegacyData) (pc : Thread → ContextPc) (clients : List CtxPtr) :
    ContextState :=
  { refCount := data.refCount
    rgaCtx := data.rgaCtx
    activeOperations := data.activeOperations
    contextClosing := data.contextClosing
    pc := pc
    ledger := data.ledger
    allocations := data.allocations
    clients := clients }

/-- The context that the thread is using, at the places without the mutex. -/
def LegacyPlace.used : LegacyPlace → Option LegacyContext
  | operating ctx | endLock ctx => some ctx
  | debugLock operation | outLock operation => operation
  | _ => none

/-- Where a thread between two sections stands in `Context`. -/
inductive StandsAt : Status LegacyPlace → ContextPc → Prop
  | idle : StandsAt .idle .idle
  | outside (place : LegacyPlace) : place.used = none → StandsAt (.running place) .idle
  | operation (place : LegacyPlace) (ctx : LegacyContext) : place.used = some ctx →
      StandsAt (.running place) (.using ctx)
  | openParked (since : Nat) : StandsAt (.parked .openLoop) (.openWait since)
  | openWoken (since : Nat) : StandsAt (.woken .openLoop) (.openWait since)
  | closeParked (ctx : LegacyContext) : StandsAt (.parked (.closeLoop ctx)) (.closeWait ctx)
  | closeWoken (ctx : LegacyContext) : StandsAt (.woken (.closeLoop ctx)) (.closeWait ctx)

/-- Between two sections the data is that of a run of `Context` with the same calls of the
system. -/
structure ContextMatched (past : List LegacyEvent) (data : LegacyData)
    (threads : Thread → Status LegacyPlace) (trace : List ContextEvent) (pc : Thread → ContextPc)
    (clients : List CtxPtr) : Prop where
  run : Machine.Run ContextState.step {} trace (data.context pc clients)
  calls : trace.reverse.flatMap ContextEvent.calls = past.reverse.flatMap Event.notes
  threads : ∀ thread, StandsAt (threads thread) (pc thread)
  clients : ∀ ptr, clients.count ptr + past.countP (takesBack ptr) = past.countP (handsOut ptr)

theorem StandsAt.wake {status : Status LegacyPlace} {pc : ContextPc} (stands : StandsAt status pc) :
    StandsAt status.wake pc := by
  cases stands with
  | idle => exact .idle
  | outside place used => exact .outside place used
  | operation place ctx used => exact .operation place ctx used
  | openParked since | openWoken since => exact .openWoken since
  | closeParked ctx | closeWoken ctx => exact .closeWoken ctx

theorem StandsAt.roam {thread : Thread} {before status : Status LegacyPlace} {event : LegacyEvent}
    {pc : ContextPc} (stands : StandsAt before pc)
    (roams : legacyProgram.Roams thread before event status) : StandsAt status pc := by
  cases roams with
  | entered call =>
      cases stands
      refine .outside _ ?_
      cases call with
      | normalRgaOpen slot => cases slot <;> rfl
      | normalRgaClose arg => cases arg <;> rfl
      | _ => rfl
  | chose place next reply code =>
      cases place with
      | operating ctx =>
          cases code
          cases stands with
          | outside _ used => cases used
          | operation _ _ used =>
              refine .operation _ _ ?_
              rw [← used]
              dsimp only
              cases reply.next <;> rfl
      | useUnlock ctx | logUnlock ctx => cases ctx <;> cases code
      | _ => cases code
  | returned place result code =>
      cases place with
      | done _ =>
          cases stands with
          | outside _ _ => exact .idle
          | operation _ _ used => cases used
      | useUnlock ctx | logUnlock ctx => cases ctx <;> cases code
      | _ => cases code
  | spurious place =>
      cases stands with
      | openParked since => exact .openWoken since
      | closeParked ctx => exact .closeWoken ctx

/-! Sections -/

section Sections

variable {thread : Thread} {data : LegacyData}

abbrev SectionPost :=
  List DeviceCall → LegacyEvent → LegacyData → Status LegacyPlace → Prop

variable {post : SectionPost}

theorem update_ensures {place : LegacyPlace} {effect : LegacyData → LegacyData × LegacyPlace}
    (code : place.code = LegacyPlace.update effect)
    (rest : legacyProgram.Ensures thread (effect data).2 (effect data).1 post) :
    legacyProgram.Ensures thread place data post := by
  refine .act code fun reply after notes next answered => ?_
  cases answered
  exact rest

theorem ioctl_ensures {place succeeded failed : LegacyPlace}
    (code : place.code = LegacyPlace.ioctl succeeded failed)
    (good : legacyProgram.Ensures thread succeeded data post)
    (bad : legacyProgram.Ensures thread failed data post) :
    legacyProgram.Ensures thread place data post := by
  refine .act code fun reply after notes next answered => ?_
  cases answered
  split
  · exact good
  · exact bad

/-! `NormalRgaOpen` -/

theorem openCount_ensures {ctx : LegacyContext}
    (holds : post [] (.unlocked thread (.openUnlock (.opened ctx)))
      { data with refCount := data.refCount + 1 } (.running (.done (.opened ctx)))) :
    legacyProgram.Ensures thread (.openCount ctx) data post :=
  update_ensures rfl (.unlock rfl holds)

theorem openFree_ensures {ptr : CtxPtr} {ret : Int32}
    (holds : post [.free ptr] (.unlocked thread (.openUnlock (.status ret)))
      (data.perform (.free ptr)) (.running (.done (.status ret)))) :
    legacyProgram.Ensures thread (.openFree ptr ret) data post := by
  refine .act rfl fun reply after notes next answered => ?_
  cases answered
  exact .unlock rfl holds

theorem openClose_ensures {ptr : CtxPtr} {fd : Int32}
    (holds : post [.closeFd fd, .free ptr] (.unlocked thread (.openUnlock (.status (-1))))
      ((data.perform (.closeFd fd)).perform (.free ptr)) (.running (.done (.status (-1))))) :
    legacyProgram.Ensures thread (.openClose ptr fd) data post := by
  refine .act rfl fun reply after notes next answered => ?_
  cases answered
  exact openFree_ensures holds

/-- The ioctls of the versions decide as `OpenReply.versionKnown` does. -/
theorem openDriverVersion_ensures {ptr : CtxPtr} {fd : Int32}
    (holds : ∀ driver hw rga2 rga1, legacyProgram.Ensures thread
      (if (OpenReply.versionKnown ⟨some ptr, fd, driver, hw, rga2, rga1⟩) then .openPublish ptr fd
        else .openClose ptr fd) data post) :
    legacyProgram.Ensures thread (.openDriverVersion ptr fd) data post := by
  refine ioctl_ensures rfl (ioctl_ensures rfl ?_ ?_)
    (ioctl_ensures rfl ?_ (ioctl_ensures rfl ?_ ?_))
  · exact holds true true false false
  · exact holds true false false false
  · exact holds false false true false
  · exact holds false false false true
  · exact holds false false false false

def CallResult.handle : CallResult → List CtxPtr
  | .opened ctx => [ctx.ptr]
  | _ => []

/-- The rest of `NormalRgaOpen`, once no close is draining, is `openSection`. -/
theorem openLookup_ensures (waited : Option Nat) (pc : Thread → ContextPc)
    (clients : List CtxPtr) :
    legacyProgram.Ensures thread .openLookup data fun calls closing after status =>
      ∃ reply event result, (data.context pc clients).openSection thread waited reply =
          some ((after.context pc (result.handle ++ clients)).setPc thread .idle, event) ∧
        event.calls = calls ∧ closing = .unlocked thread (.openUnlock result) ∧
        status = .running (.done result) := by
  obtain ⟨refCount, published, isDebug, active, contextClosing, ledger, allocations⟩ := data
  refine update_ensures rfl ?_
  cases published with
  | some ctx =>
      exact openCount_ensures
        ⟨{}, .opened thread ctx waited [], .opened ctx, rfl, rfl, rfl, rfl⟩
  | none =>
      refine .act rfl fun reply after notes next answered => ?_
      dsimp only at answered
      split at answered
      · cases answered
        exact .unlock rfl ⟨{}, .openFailed thread (-12) [], .status (-12), rfl, rfl, rfl, rfl⟩
      · rename_i ptr block
        split at answered
        · cases answered
        rename_i fresh
        cases answered
        refine .act rfl fun reply after notes next answered => ?_
        dsimp only at answered
        split at answered
        · rename_i failed
          cases answered
          refine openFree_ensures ⟨{ block := some ptr, fd := reply.fd },
            .openFailed thread (-19) [.malloc ptr, .free ptr], .status (-19), ?_, rfl, rfl, rfl⟩
          simp only [ContextState.openSection, LegacyData.context, fresh, failed,
            false_or, if_true]
          rw [if_neg fun used => Int32.not_le.mpr failed used.1]
          rfl
        · rename_i succeeded
          split at answered
          · cases answered
          rename_i unused
          cases answered
          have unused : reply.fd ∉ ledger.fds := unused
          refine openDriverVersion_ensures fun driver hw rga2 rga1 => ?_
          split
          · rename_i known
            refine update_ensures rfl (openCount_ensures
              ⟨⟨some ptr, reply.fd, driver, hw, rga2, rga1⟩,
                .opened thread ⟨ptr, reply.fd, allocations⟩ waited
                  [.malloc ptr, .openFd reply.fd],
                .opened ⟨ptr, reply.fd, allocations⟩,
              ?_, rfl, rfl, rfl⟩)
            simp only [ContextState.openSection, LegacyData.context, fresh, unused,
              succeeded, known, false_or, and_false, if_false, if_true]
            rfl
          · rename_i unknown
            refine openClose_ensures ⟨⟨some ptr, reply.fd, driver, hw, rga2, rga1⟩,
              .openFailed thread (-1)
                [.malloc ptr, .openFd reply.fd, .closeFd reply.fd, .free ptr], .status (-1),
              ?_, rfl, rfl, rfl⟩
            simp only [ContextState.openSection, LegacyData.context, fresh, unused,
              succeeded, unknown, false_or, and_false, if_false, Bool.false_eq_true]
            rfl

/-- The rest of `NormalRgaClose`, with no operation left, is `tearDown`. -/
theorem closeClear_ensures {ctx : LegacyContext} (pc : Thread → ContextPc)
    (clients : List CtxPtr) :
    legacyProgram.Ensures thread (.closeClear ctx) data fun calls closing after status =>
      (data.context pc clients).tearDown thread ctx =
          ((after.context pc clients).setPc thread .idle, .tornDown thread ctx calls) ∧
        calls = [.closeFd ctx.rgaFd, .free ctx.ptr] ∧
        closing = .unlocked thread (.closeUnlock 0) ∧ status = .running (.done (.status 0)) := by
  refine update_ensures rfl (.act rfl fun reply after notes next answered => ?_)
  cases answered
  refine .act rfl fun reply after notes next answered => ?_
  cases answered
  exact update_ensures rfl (.broadcast rfl (.unlock rfl ⟨rfl, rfl, rfl, rfl⟩))

/-- What a section does, as steps of `Context`. -/
def Advances (thread : Thread) (data : LegacyData) (pc : Thread → ContextPc)
    (clients : List CtxPtr) (opening : LegacyEvent) : SectionPost :=
  fun calls closing after status => ∃ moved pc' clients',
    Machine.Run ContextState.step (data.context pc clients) moved (after.context pc' clients') ∧
      moved.reverse.flatMap ContextEvent.calls = calls ∧ StandsAt status (pc' thread) ∧
      (∀ other, other ≠ thread → pc' other = pc other) ∧
      ∀ ptr, clients'.count ptr + (takesBack ptr opening).toNat =
        clients.count ptr + (handsOut ptr closing).toNat

section Advances

variable {pc : Thread → ContextPc} {clients : List CtxPtr} {opening : LegacyEvent}

/-- No step, as nothing that `Context` knows of has changed. -/
theorem Advances.stay {after : LegacyData} {closing : LegacyEvent} {status : Status LegacyPlace}
    (same : after.context pc clients = data.context pc clients)
    (stands : StandsAt status (pc thread)) (quiet : ∀ ptr, takesBack ptr opening = false)
    (nothing : ∀ ptr, handsOut ptr closing = false) :
    Advances thread data pc clients opening [] closing after status := by
  refine ⟨[], pc, clients, same ▸ Machine.Run.init, rfl, stands, fun _ _ => rfl, fun ptr => ?_⟩
  rw [quiet, nothing]

theorem Advances.keep {after : LegacyData} {closing : LegacyEvent} {calls : List DeviceCall}
    {status : Status LegacyPlace} (op : ContextOp) (event : ContextEvent) (left : List CtxPtr)
    (taken : (data.context pc clients).step op = some (after.context pc left, event))
    (noted : event.calls = calls) (stands : StandsAt status (pc thread))
    (counted : ∀ ptr, left.count ptr + (takesBack ptr opening).toNat =
      clients.count ptr + (handsOut ptr closing).toNat) :
    Advances thread data pc clients opening calls closing after status := by
  refine ⟨[event], pc, left, Machine.Run.init.next taken, ?_, stands, fun _ _ => rfl, counted⟩
  rw [← noted]
  exact List.append_nil _

theorem Advances.move {after : LegacyData} {closing : LegacyEvent} {calls : List DeviceCall}
    {status : Status LegacyPlace} (op : ContextOp) (event : ContextEvent) (now : ContextPc)
    (left : List CtxPtr)
    (taken : (data.context pc clients).step op =
      some ((after.context pc left).setPc thread now, event))
    (noted : event.calls = calls) (stands : StandsAt status now)
    (counted : ∀ ptr, left.count ptr + (takesBack ptr opening).toNat =
      clients.count ptr + (handsOut ptr closing).toNat) :
    Advances thread data pc clients opening calls closing after status := by
  refine ⟨[event], ((after.context pc left).setPc thread now).pc, left,
    Machine.Run.init.next taken, ?_, ?_, fun other different => if_neg different, counted⟩
  · rw [← noted]
    exact List.append_nil _
  · rw [setPc_self]
    exact stands

theorem openLookup_advances (waited : Option Nat)
    (quiet : ∀ ptr, takesBack ptr opening = false)
    (steps : ∀ reply, ∃ op, (data.context pc clients).step op =
      (data.context pc clients).openSection thread waited reply) :
    legacyProgram.Ensures thread .openLookup data
      (Advances thread data pc clients opening) := by
  refine (openLookup_ensures waited pc clients).mono ?_
  rintro calls closing after status ⟨reply, event, result, taken, noted, rfl, rfl⟩
  obtain ⟨op, same⟩ := steps reply
  refine Advances.move op event .idle _ (same.trans taken) noted (.outside _ rfl) fun ptr => ?_
  rw [quiet]
  cases result with
  | opened ctx =>
      rw [CallResult.handle, List.singleton_append, List.count_cons, handsOut]
      cases ctx.ptr == ptr <;> rfl
  | _ => rfl

theorem openLock_advances (idle : pc thread = .idle) :
    legacyProgram.Ensures thread .openLoop data
      (Advances thread data pc clients (.locked thread .openLock)) := by
  refine .await rfl (fun closing => ?_) fun calm => ?_
  · refine Advances.move (.openLock thread true {}) (.openWaits thread)
      (.openWait data.allocations) clients ?_ rfl (.openParked _) fun _ => rfl
    simp only [ContextState.step, LegacyData.context, idle, closing]
    rfl
  · refine openLookup_advances none (fun _ => rfl) fun reply => ⟨.openLock thread true reply, ?_⟩
    simp only [ContextState.step, LegacyData.context, idle, calm]
    rfl

theorem openLoop_advances {since : Nat} (waiting : pc thread = .openWait since) :
    legacyProgram.Ensures thread .openLoop data
      (Advances thread data pc clients (.locked thread .openLoop)) := by
  refine .await rfl (fun closing => ?_) fun calm => ?_
  · exact .stay rfl (waiting ▸ .openParked since) (fun _ => rfl) fun _ => rfl
  · refine openLookup_advances (some since) (fun _ => rfl) fun reply =>
      ⟨.openWake thread reply, ?_⟩
    simp only [ContextState.step, LegacyData.context, waiting, calm]
    rfl

theorem useLock_advances (idle : pc thread = .idle) :
    legacyProgram.Ensures thread .useTest data
      (Advances thread data pc clients (.locked thread .useLock)) := by
  obtain ⟨refCount, published, isDebug, active, contextClosing, ledger, allocations⟩ := data
  refine update_ensures rfl ?_
  cases contextClosing with
  | true =>
      refine .unlock rfl (.keep (.useBegin thread) (.useRefused thread) clients
        ?_ rfl ?_ fun _ => rfl)
      · simp only [ContextState.step, LegacyData.context, idle]
        rfl
      · exact idle ▸ .outside _ rfl
  | false =>
      cases published with
      | none =>
          refine .unlock rfl (.keep (.useBegin thread) (.useRefused thread) clients
        ?_ rfl ?_ fun _ => rfl)
          · simp only [ContextState.step, LegacyData.context, idle]
            rfl
          · exact idle ▸ .outside _ rfl
      | some ctx =>
          refine update_ensures rfl (.unlock rfl
            (.move (.useBegin thread) (.useBegan thread ctx)
            (.using ctx) clients ?_ rfl (.operation _ ctx rfl) fun _ => rfl))
          simp only [ContextState.step, LegacyData.context, idle]
          rfl

theorem endLock_advances {ctx : LegacyContext} (operating : pc thread = .using ctx) :
    legacyProgram.Ensures thread .endCount data
      (Advances thread data pc clients (.locked thread (.endLock ctx))) := by
  have ended {after : LegacyData} {status : Status LegacyPlace}
      (fewer : after = { data with activeOperations := data.activeOperations - 1 })
      (stands : StandsAt status .idle) :
      Advances thread data pc clients (.locked thread (.endLock ctx)) []
        (.unlocked thread .endUnlock) after status := by
    refine .move (.useEnd thread) (.useEnded thread) .idle clients ?_ rfl stands fun _ => rfl
    simp only [ContextState.step, LegacyData.context, operating, fewer]
  refine update_ensures rfl ?_
  dsimp only
  split
  · exact .broadcast rfl (.unlock rfl (ended rfl (.outside _ rfl)))
  · exact .unlock rfl (ended rfl (.outside _ rfl))

theorem logLock_advances {operation : Option LegacyContext} {level : Int32}
    {after : LegacyData} (same : after.context pc clients = data.context pc clients)
    (quiet : ∀ ptr, takesBack ptr opening = false)
    (stands : ∀ place : LegacyPlace, place.used = operation →
      StandsAt (.running place) (pc thread)) :
    legacyProgram.Ensures thread (.logUnlock operation level) after
      (Advances thread data pc clients opening) := by
  cases operation with
  | none => exact .unlock rfl (.stay same (stands _ rfl) quiet fun _ => rfl)
  | some ctx => exact .unlock rfl (.stay same (stands _ rfl) quiet fun _ => rfl)

theorem debugLock_advances (operation : Option LegacyContext)
    (stands : ∀ place : LegacyPlace, place.used = operation →
      StandsAt (.running place) (pc thread)) :
    legacyProgram.Ensures thread (.debugSet operation) data
      (Advances thread data pc clients (.locked thread (.debugLock operation))) := by
  refine .act rfl fun reply after notes next answered => ?_
  cases answered
  refine logLock_advances ?_ (fun _ => rfl) stands
  split <;> rfl

theorem outLock_advances (operation : Option LegacyContext)
    (stands : ∀ place : LegacyPlace, place.used = operation →
      StandsAt (.running place) (pc thread)) :
    legacyProgram.Ensures thread (.outRead operation) data
      (Advances thread data pc clients (.locked thread (.outLock operation))) :=
  update_ensures rfl (logLock_advances rfl (fun _ => rfl) stands)

theorem closeLock_refused (idle : pc thread = .idle) {ret : Int32} (arg : CloseArg)
    (left : List CtxPtr) (taken : (data.context pc clients).step (.closeLock thread arg) =
      some (data.context pc left, .closeRefused thread ret))
    (counted : ∀ ptr, left.count ptr + (takesBack ptr opening).toNat = clients.count ptr) :
    legacyProgram.Ensures thread (.closeUnlock ret) data
      (Advances thread data pc clients opening) :=
  .unlock rfl (.keep _ _ left taken rfl (idle ▸ .outside _ rfl) counted)

theorem closeLock_advances (idle : pc thread = .idle) (arg : CloseArg)
    (client : ∀ ptr, arg = .context ptr → ptr ∈ clients) :
    legacyProgram.Ensures thread (.closeTest arg) data
      (Advances thread data pc clients (.locked thread (.closeLock arg))) := by
  obtain ⟨refCount, published, isDebug, active, contextClosing, ledger, allocations⟩ := data
  have unspent {arg : CloseArg} (nothing : arg = .noSlot ∨ arg = .emptySlot) :
      legacyProgram.Ensures thread (.closeUnlock (-19))
        ⟨refCount, published, isDebug, active, contextClosing, ledger, allocations⟩
        (Advances thread ⟨refCount, published, isDebug, active, contextClosing, ledger, allocations⟩
          pc clients (.locked thread (.closeLock arg))) := by
    obtain rfl | rfl := nothing
    · refine closeLock_refused idle .noSlot clients ?_ fun _ => rfl
      simp only [ContextState.step, LegacyData.context, idle]
      rfl
    · refine closeLock_refused idle .emptySlot clients ?_ fun _ => rfl
      simp only [ContextState.step, LegacyData.context, idle]
      rfl
  cases arg with
  | noSlot => cases published <;> exact update_ensures rfl (unspent (.inl rfl))
  | emptySlot => cases published <;> exact update_ensures rfl (unspent (.inr rfl))
  | context ptr =>
      have spends (other : CtxPtr) : (clients.erase ptr).count other +
          (takesBack other (.locked thread (.closeLock (.context ptr)))).toNat =
            clients.count other := by
        have present := List.count_pos_iff.mpr (client ptr rfl)
        by_cases same : other = ptr
        · subst same
          rw [List.count_erase_self]
          simp only [takesBack, beq_self_eq_true, Bool.toNat_true]
          omega
        · rw [List.count_erase_of_ne same]
          simp [takesBack, beq_false_of_ne fun eq => same eq.symm]
      have closes : (LegacyData.context ⟨refCount, published, isDebug, active, contextClosing,
          ledger, allocations⟩ pc clients).step (.closeLock thread (.context ptr)) =
          some ((LegacyData.context ⟨refCount, published, isDebug, active, contextClosing, ledger,
            allocations⟩ pc clients).closeSection thread ptr) := by
        simp only [ContextState.step, LegacyData.context, idle, client ptr rfl]
        rfl
      refine update_ensures rfl ?_
      cases published with
      | none => exact closeLock_refused idle _ (clients.erase ptr) (closes.trans rfl) spends
      | some ctx =>
          dsimp only
          split
          · rename_i wrong
            refine closeLock_refused idle _ (clients.erase ptr) (closes.trans ?_) spends
            simp only [ContextState.closeSection, LegacyData.context, if_pos wrong]
          · rename_i right
            split
            · rename_i unopened
              have unopened : refCount ≤ 0 := unopened
              refine closeLock_refused idle _ (clients.erase ptr) (closes.trans ?_) spends
              simp only [ContextState.closeSection, LegacyData.context, if_neg right]
              exact congrArg some (if_pos unopened)
            · rename_i opened
              have opened : ¬refCount ≤ 0 := opened
              refine update_ensures rfl ?_
              dsimp only
              split
              · rename_i remaining
                have remaining : 0 < refCount - 1 := remaining
                refine .unlock rfl (.keep _ (.closed thread) (clients.erase ptr) (closes.trans ?_)
                  rfl (idle ▸ .outside _ rfl) spends)
                simp only [ContextState.closeSection, LegacyData.context, if_neg right]
                exact congrArg some ((if_neg opened).trans (if_pos remaining))
              · rename_i last
                have last : ¬0 < refCount - 1 := last
                refine update_ensures rfl (.await rfl (fun busy => ?_) fun drained => ?_)
                · refine .move _ (.closeWaits thread ctx) (.closeWait ctx) (clients.erase ptr)
                    (closes.trans ?_) rfl (.closeParked ctx) spends
                  have busy : active ≠ 0 := by simpa using busy
                  simp only [ContextState.closeSection, LegacyData.context, if_neg right]
                  exact congrArg some ((if_neg opened).trans ((if_neg last).trans (if_pos busy)))
                · refine (closeClear_ensures pc (clients.erase ptr)).mono ?_
                  rintro calls closing after status ⟨torn, noted, rfl, rfl⟩
                  refine .move _ (.tornDown thread ctx calls) .idle (clients.erase ptr)
                    (closes.trans ?_) rfl (.outside _ rfl) spends
                  have idle : ¬active ≠ 0 := by simpa using drained
                  simp only [ContextState.closeSection, LegacyData.context, if_neg right]
                  exact congrArg some ((if_neg opened).trans ((if_neg last).trans
                    ((if_neg idle).trans torn)))

theorem closeLoop_advances {ctx : LegacyContext} (waiting : pc thread = .closeWait ctx) :
    legacyProgram.Ensures thread (.closeLoop ctx) data
      (Advances thread data pc clients (.locked thread (.closeLoop ctx))) := by
  refine .await rfl (fun busy => ?_) fun drained => ?_
  · exact .stay rfl (waiting ▸ .closeParked ctx) (fun _ => rfl) fun _ => rfl
  · refine (closeClear_ensures pc clients).mono ?_
    rintro calls closing after status ⟨torn, noted, rfl, rfl⟩
    refine Advances.move (.closeWake thread) (.tornDown thread ctx calls) .idle clients ?_ rfl
      (.outside _ rfl) fun _ => rfl
    have idle : ¬data.activeOperations ≠ 0 := by simpa using drained
    simp only [ContextState.step, LegacyData.context, waiting]
    exact (if_neg idle).trans (congrArg some torn)

theorem StandsAt.outside_idle {place : LegacyPlace} {now : ContextPc}
    (stands : StandsAt (.running place) now) (unused : place.used = none) : now = .idle := by
  cases stands with
  | outside _ _ => rfl
  | operation _ _ used =>
      rw [unused] at used
      cases used

theorem StandsAt.using_ctx {place : LegacyPlace} {now : ContextPc} {ctx : LegacyContext}
    (stands : StandsAt (.running place) now) (used : place.used = some ctx) :
    now = .using ctx := by
  cases stands with
  | outside _ unused =>
      rw [used] at unused
      cases unused
  | operation _ _ same =>
      rw [used] at same
      cases same
      rfl

/-- The thread stands wherever what it is using says. -/
theorem StandsAt.moved {place other : LegacyPlace} {now : ContextPc}
    (stands : StandsAt (.running place) now) (same : other.used = place.used) :
    StandsAt (.running other) now := by
  cases stands with
  | outside _ unused => exact .outside other (same.trans unused)
  | operation _ ctx used => exact .operation other ctx (same.trans used)

/-- Every section is one of those above. -/
theorem opens_advances {status : Status LegacyPlace} {place first : LegacyPlace}
    (stands : StandsAt status (pc thread)) (opens : legacyProgram.Opens status place first)
    (client : ∀ ptr, place = .closeLock (.context ptr) → ptr ∈ clients) :
    legacyProgram.Ensures thread first data
      (Advances thread data pc clients (.locked thread place)) := by
  cases opens with
  | lock _ _ code =>
      cases place with
      | openLock =>
          cases code
          exact openLock_advances (stands.outside_idle rfl)
      | useLock =>
          cases code
          exact useLock_advances (stands.outside_idle rfl)
      | endLock ctx =>
          cases code
          exact endLock_advances (stands.using_ctx rfl)
      | debugLock operation =>
          cases code
          exact debugLock_advances operation fun other used => stands.moved used
      | outLock operation =>
          cases code
          exact outLock_advances operation fun other used => stands.moved used
      | closeLock arg =>
          cases code
          exact closeLock_advances (stands.outside_idle rfl) arg fun ptr same =>
            client ptr (same ▸ rfl)
      | useUnlock ctx | logUnlock ctx => cases ctx <;> cases code
      | _ => cases code
  | again _ =>
      generalize here : pc thread = now at stands
      cases stands with
      | openWoken since => exact openLoop_advances here
      | closeWoken ctx => exact closeLoop_advances here

end Advances

/-! Runs -/

def Refined (past : List LegacyEvent) (data : LegacyData)
    (threads : Thread → Status LegacyPlace) : Prop :=
  Disciplined past → ∃ trace pc clients, ContextMatched past data threads trace pc clients

theorem Disciplined.earlier {later past : List LegacyEvent}
    (disciplined : Disciplined (later ++ past)) : Disciplined past :=
  fun before suffix => disciplined before (suffix.trans (List.suffix_append later past))

theorem ContextMatched.section {past seg : List LegacyEvent} {threads : Thread → Status LegacyPlace}
    {trace : List ContextEvent} {pc : Thread → ContextPc} {clients : List CtxPtr}
    {after : LegacyData} {status : Status LegacyPlace}
    (matched : ContextMatched past data threads trace pc clients)
    (disciplined : Disciplined (seg ++ past))
    (done : legacyProgram.Section thread data (threads thread) seg after status) :
    ∃ trace pc clients, ContextMatched (seg ++ past) after (Function.update threads thread status)
      trace pc clients := by
  obtain @⟨place, first, last, inner, _, closing, _, opens, path, closes⟩ := done
  have client : ∀ ptr, place = .closeLock (.context ptr) → ptr ∈ clients := by
    rintro ptr rfl
    have taken := disciplined (.locked thread (.closeLock (.context ptr)) :: past)
      ⟨closing :: inner, by simp⟩ ptr
    have counted := matched.clients ptr
    rw [List.countP_cons_of_pos (by simp [takesBack]),
      List.countP_cons_of_neg (by simp [handsOut])] at taken
    exact List.count_pos_iff.mp (by omega)
  have advances := (opens_advances (matched.threads thread) opens client).closed path closes
  obtain ⟨moved, pc', clients', run, calls, stands, others, counted⟩ := advances
  refine ⟨moved ++ trace, pc', clients', matched.run.trans run, ?_, fun other => ?_, fun ptr => ?_⟩
  · have silent : closing.notes = [] := by cases closes <;> rfl
    have opening : (.locked thread place : LegacyEvent).notes = [] := rfl
    simp only [List.reverse_append, List.flatMap_append, List.cons_append, List.reverse_cons,
      List.flatMap_cons, List.flatMap_nil, List.nil_append, List.append_assoc,
      List.append_nil, matched.calls, calls, silent, opening]
  · by_cases acting : other = thread
    · rw [acting, Function.update_self]
      exact stands
    · rw [Function.update_of_ne acting, others other acting]
      exact matched.threads other
  · have taken : takesBack ptr closing = false := by cases closes <;> rfl
    have handed : handsOut ptr (.locked thread place) = false := rfl
    have inner_taken : inner.countP (takesBack ptr) = 0 :=
      List.countP_eq_zero.mpr (path.events fun _ _ _ _ _ step => by cases step <;> nofun)
    have inner_handed : inner.countP (handsOut ptr) = 0 :=
      List.countP_eq_zero.mpr (path.events fun _ _ _ _ _ step => by cases step <;> nofun)
    have before := matched.clients ptr
    have now := counted ptr
    simp only [List.cons_append, List.countP_cons, List.countP_append, List.countP_nil, taken,
      handed, inner_taken, inner_handed, Bool.false_eq_true, if_false]
    have counts (b : Bool) : (if b = true then 1 else 0) = b.toNat := by cases b <;> rfl
    rw [counts, counts]
    omega

theorem legacy_kept : legacyProgram.KeptBySections Refined := by
  constructor
  · intro past data threads thread event status refined roams disciplined
    obtain ⟨trace, pc, clients, matched⟩ := refined disciplined
    refine ⟨trace, pc, clients, matched.run, matched.calls, fun other => ?_, matched.clients⟩
    by_cases acting : other = thread
    · rw [acting, Function.update_self]
      exact (matched.threads thread).roam roams
    · rw [Function.update_of_ne acting]
      exact matched.threads other
  · intro past data threads refined disciplined
    obtain ⟨trace, pc, clients, matched⟩ := refined disciplined
    exact ⟨trace, pc, clients, matched.run, matched.calls,
      fun thread => (matched.threads thread).wake, matched.clients⟩
  · intro past data threads thread seg after status refined done disciplined
    obtain ⟨trace, pc, clients, matched⟩ := refined disciplined.earlier
    exact matched.section disciplined done

theorem legacy_start : Refined [] {} fun _ => .idle :=
  fun _ => ⟨[], fun _ => .idle, [], .init, rfl, fun _ => .idle, fun _ => rfl⟩

end Sections

theorem countP_guarded {p : LegacyEvent → Bool} (guarded : ∀ event, p event = true →
    event.guarded = true) (trace : List LegacyEvent) :
    (trace.filter Event.guarded).countP p = trace.countP p := by
  rw [List.countP_filter]
  refine List.countP_congr fun event _ => ?_
  rw [Bool.and_eq_true]
  exact ⟨And.left, fun holds => ⟨holds, guarded event holds⟩⟩

theorem takesBack_guarded {ptr : CtxPtr} (event : LegacyEvent)
    (takes : takesBack ptr event = true) : event.guarded = true := by
  cases event <;> first | rfl | cases takes

theorem handsOut_guarded {ptr : CtxPtr} (event : LegacyEvent)
    (hands : handsOut ptr event = true) : event.guarded = true := by
  cases event <;> first | rfl | cases hands

theorem Disciplined.guarded {trace : List LegacyEvent} (disciplined : Disciplined trace) :
    Disciplined (trace.filter Event.guarded) := by
  intro past suffix ptr
  obtain ⟨before, ends, rfl⟩ := suffix_of_filter suffix
  rw [countP_guarded takesBack_guarded, countP_guarded handsOut_guarded]
  exact disciplined before ends ptr

variable {trace : List LegacyEvent} {state : LegacyState}

/-- Between sections, and around the one that a thread may be in. -/
theorem legacy_between (run : Machine.Run legacyProgram.step { data := {} } trace state)
    (disciplined : Disciplined trace) : legacyProgram.Exclusive state ∧
      legacyProgram.Between (fun past data threads => ∃ earlier pc clients,
        ContextMatched past data threads earlier pc clients) state
        (trace.filter Event.guarded) := by
  obtain ⟨exclusive, between⟩ := legacy_kept.run legacy_start run
  have disciplined := disciplined.guarded
  refine ⟨exclusive, ?_⟩
  generalize trace.filter Event.guarded = history at between disciplined
  cases between with
  | free free refined => exact .free free (refined disciplined)
  | held thread place first here seg past data threads held refined others opens path running =>
      refine .held thread place first here seg past data threads held ?_ others opens path running
      exact refined ((List.append_cons seg _ past ▸ disciplined : Disciplined _).earlier)

/-- However the instructions of the threads interleave, what they do is a run of `Context`: the same
calls of the system in the same order, but for those of the section that a thread is in. -/
theorem legacy_refines_context (run : Machine.Run legacyProgram.step { data := {} } trace state)
    (disciplined : Disciplined trace) :
    ∃ past data pc clients rest,
      Machine.Run ContextState.step {} past (LegacyData.context data pc clients) ∧
        trace.reverse.flatMap Event.notes =
          past.reverse.flatMap ContextEvent.calls ++ rest ∧
        (∀ thread, state.owner ≠ some thread → StandsAt (state.threads thread) (pc thread)) ∧
        (state.owner = none → rest = [] ∧ data = state.data) := by
  obtain ⟨_, between⟩ := legacy_between run disciplined
  rw [← Event.notes_guarded]
  generalize trace.filter Event.guarded = history at between
  cases between with
  | free free matched =>
      obtain ⟨past, pc, clients, matched⟩ := matched
      refine ⟨past, state.data, pc, clients, [], matched.run, ?_,
        fun thread _ => matched.threads thread, fun _ => ⟨rfl, rfl⟩⟩
      rw [matched.calls, List.append_nil]
  | held thread place first here seg earlier data threads held matched others opens path running =>
      obtain ⟨past, pc, clients, matched⟩ := matched
      refine ⟨past, data, pc, clients, seg.reverse.flatMap Event.notes, matched.run, ?_, ?_, ?_⟩
      · rw [matched.calls, List.reverse_append, List.flatMap_append, List.reverse_cons,
          List.flatMap_append]
        exact congrArg (· ++ _) (List.append_nil _)
      · intro other apart
        have different : other ≠ thread := fun same => apart (same ▸ held)
        exact others other different ▸ matched.threads other
      · intro free
        rw [held] at free
        cases free

theorem legacy_refines_context_draining :
    ∃ trace state, Machine.Run legacyProgram.step { data := {} } trace state ∧
      state.threads 0 = .parked (.closeLoop ⟨0x1000, 3, 0⟩) ∧
      ∃ past data pc clients rest,
        Machine.Run ContextState.step {} past (LegacyData.context data pc clients) ∧
          trace.reverse.flatMap Event.notes = past.reverse.flatMap ContextEvent.calls ++ rest := by
  have run := Machine.Run.of_exec legacyProgram.step { data := {} } drainingOps rfl
  obtain ⟨past, data, pc, clients, rest, context, calls, _⟩ :=
    legacy_refines_context run (by decide +kernel)
  exact ⟨_, _, run, rfl, past, data, pc, clients, rest, context, calls⟩

end LibRga

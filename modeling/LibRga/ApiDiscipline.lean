import LibRga.LegacyApi
import LibRga.LegacyRefinement

/-!
The callers of `RgaApi.cpp` close only what they have opened, and once.
-/

namespace LibRga

open Monitor

/-! What a call may come to -/

namespace LegacyPlace

def opens : LegacyPlace → Bool
  | openLock | openLoop | openLookup | openMalloc | openDevice _ | openDriverVersion _ _ => true
  | openHwVersion _ _ | openRga2Version _ _ | openRga1Version _ _ | openPublish _ _ => true
  | openCount _ | openClose _ _ | openFree _ _ => true
  | openUnlock (.level _) | done (.level _) => false
  | openUnlock _ | done _ => true
  | _ => false

def closes (arg : CloseArg) : LegacyPlace → Bool
  | closeLock given | closeTest given => given == arg
  | closeCount _ | closeMark _ | closeLoop _ | closeClear _ | closeFd _ | closeFree _ => true
  | closeCalm | closeBroadcast | closeUnlock _ | done (.status _) => true
  | _ => false

def operates : LegacyPlace → Bool
  | useLock | useTest | useCount _ | useUnlock _ | operating _ => true
  | endLock _ | endCount | endBroadcast | endUnlock | done (.status _) => true
  | debugLock (some _) | debugSet (some _) | outLock (some _) | outRead (some _) => true
  | logUnlock (some _) _ => true
  | _ => false

def logs : LegacyPlace → Bool
  | debugLock none | debugSet none | outLock none | outRead none | logUnlock none _ => true
  | done (.level _) => true
  | _ => false

def serves : LegacyCall → LegacyPlace → Bool
  | .normalRgaOpen _ => opens
  | .normalRgaClose arg => closes arg
  | .operation => operates
  | .isDebugLog | .isOutLog => logs

variable {place next : LegacyPlace}

theorem update_leads {effect : LegacyData → LegacyData × LegacyPlace}
    (leads : (update effect).Leads next) : ∃ data, next = (effect data).2 := by
  obtain ⟨data, _, _, _, answered⟩ := leads
  cases answered
  exact ⟨data, rfl⟩

theorem ioctl_leads {succeeded failed : LegacyPlace} (leads : (ioctl succeeded failed).Leads next) :
    next = succeeded ∨ next = failed := by
  obtain ⟨_, reply, _, _, answered⟩ := leads
  cases answered
  split
  · exact .inl rfl
  · exact .inr rfl

theorem opens_leads (here : place.opens = true) (leads : place.code.Leads next) :
    next.opens = true := by
  cases place with
  | openLookup =>
      obtain ⟨data, rfl⟩ := update_leads leads
      cases data.rgaCtx <;> rfl
  | openMalloc | openDevice ptr =>
      obtain ⟨data, reply, after, notes, answered⟩ := leads
      dsimp only at answered
      split at answered
      · cases answered
        rfl
      · split at answered
        · cases answered
        · cases answered
          rfl
  | openDriverVersion ptr fd | openHwVersion ptr fd | openRga2Version ptr fd
  | openRga1Version ptr fd => obtain rfl | rfl := ioctl_leads leads <;> rfl
  | openPublish ptr fd | openCount ctx =>
      obtain ⟨data, rfl⟩ := update_leads leads
      rfl
  | openClose ptr fd | openFree ptr ret =>
      obtain ⟨_, _, _, _, answered⟩ := leads
      cases answered
      rfl
  | openLock | openLoop =>
      cases leads
      rfl
  | openUnlock result =>
      cases leads
      cases result <;> exact here
  | done result => cases leads
  | _ => cases here

theorem closes_leads {arg : CloseArg} (here : place.closes arg = true)
    (leads : place.code.Leads next) : next.closes arg = true := by
  cases place with
  | closeTest given =>
      obtain ⟨data, rfl⟩ := update_leads leads
      split
      · split
        · rfl
        · split <;> rfl
      · rfl
  | closeCount ctx =>
      obtain ⟨data, rfl⟩ := update_leads leads
      dsimp only
      split <;> rfl
  | closeMark ctx | closeClear ctx | closeCalm =>
      obtain ⟨data, rfl⟩ := update_leads leads
      rfl
  | closeFd ctx | closeFree ctx =>
      obtain ⟨_, _, _, _, answered⟩ := leads
      cases answered
      rfl
  | closeLoop ctx | closeBroadcast | closeUnlock ret =>
      cases leads
      rfl
  | closeLock given =>
      cases leads
      exact here
  | done result => cases leads
  | _ => cases here

theorem operates_leads (here : place.operates = true) (leads : place.code.Leads next) :
    next.operates = true := by
  cases place with
  | useTest =>
      obtain ⟨data, rfl⟩ := update_leads leads
      split <;> rfl
  | useCount ctx =>
      obtain ⟨data, rfl⟩ := update_leads leads
      rfl
  | endCount =>
      obtain ⟨data, rfl⟩ := update_leads leads
      dsimp only
      split <;> rfl
  | useUnlock ctx =>
      cases ctx <;> cases leads <;> rfl
  | operating ctx =>
      obtain ⟨reply, rfl⟩ := leads
      dsimp only
      cases reply.next <;> rfl
  | useLock | endLock ctx | endBroadcast | endUnlock =>
      cases leads
      rfl
  | debugLock ctx | outLock ctx | logUnlock ctx level =>
      cases ctx with
      | none => cases here
      | some _ =>
          cases leads
          rfl
  | debugSet ctx =>
      cases ctx with
      | none => cases here
      | some _ =>
          obtain ⟨_, _, _, _, answered⟩ := leads
          cases answered
          rfl
  | outRead ctx =>
      cases ctx with
      | none => cases here
      | some _ =>
          obtain ⟨data, rfl⟩ := update_leads leads
          rfl
  | done result => cases leads
  | _ => cases here

theorem logs_leads (here : place.logs = true) (leads : place.code.Leads next) :
    next.logs = true := by
  cases place with
  | debugLock ctx | outLock ctx | logUnlock ctx level =>
      cases ctx with
      | none =>
          cases leads
          rfl
      | some _ => cases here
  | debugSet ctx =>
      cases ctx with
      | none =>
          obtain ⟨_, _, _, _, answered⟩ := leads
          cases answered
          rfl
      | some _ => cases here
  | outRead ctx =>
      cases ctx with
      | none =>
          obtain ⟨data, rfl⟩ := update_leads leads
          rfl
      | some _ => cases here
  | done result => cases leads
  | _ => cases here

end LegacyPlace

theorem legacy_covers :
    Callers.Covers legacyProgram fun call place => LegacyPlace.serves call place = true := by
  constructor
  · intro call
    cases call with
    | normalRgaOpen slot => cases slot <;> rfl
    | normalRgaClose arg =>
        cases arg with
        | noSlot => rfl
        | emptySlot => rfl
        | context ptr => exact beq_self_eq_true (CloseArg.context ptr)
    | _ => rfl
  · intro call place next serves leads
    cases call with
    | normalRgaOpen slot => exact LegacyPlace.opens_leads serves leads
    | normalRgaClose arg => exact LegacyPlace.closes_leads serves leads
    | operation => exact LegacyPlace.operates_leads serves leads
    | isDebugLog | isOutLog => exact LegacyPlace.logs_leads serves leads

/-! References on their way -/

/-- A reference to `ptr` that its open has yet to return, or its close yet to take back. -/
def credit (ptr : CtxPtr) : Status LegacyPlace → Nat
  | .running (.done (.opened ctx)) => (ctx.ptr == ptr).toNat
  | .running (.closeLock (.context given)) => (given == ptr).toNat
  | _ => 0

theorem credit_inside (ptr : CtxPtr) {place : LegacyPlace} (inside : place.inside = true) :
    credit ptr (.running place) = 0 := by
  cases place with
  | closeLock _ | done _ => cases inside
  | _ => rfl

theorem credit_operates (ptr : CtxPtr) {status : Status LegacyPlace} {place : LegacyPlace}
    (there : status.place = some place) (operates : place.operates = true) :
    credit ptr status = 0 := by
  cases status with
  | idle => cases there
  | parked _ | woken _ => rfl
  | running _ =>
      cases there
      cases place with
      | done result =>
          cases result with
          | opened _ => cases operates
          | _ => rfl
      | closeLock _ => cases operates
      | _ => rfl

theorem credit_stays (ptr : CtxPtr) {before after : Status LegacyPlace}
    (stays : before.Stays after) : credit ptr after = credit ptr before := by
  obtain rfl | rfl := stays
  · rfl
  · cases before <;> rfl

section Credit

variable {state after : LegacyState} {event : LegacyEvent}

theorem lock_credit (ptr : CtxPtr) (thread : Thread) {place next : LegacyPlace}
    (code : place.code = .lock next) :
    credit ptr (.running place) = (takesBack ptr (.locked thread place)).toNat ∧
      credit ptr (.running next) = 0 := by
  have inside : next.inside = true := by
    have fits := LegacyPlace.code_fits place
    rw [code] at fits
    exact fits.2
  refine ⟨?_, credit_inside ptr inside⟩
  cases place with
  | closeLock arg => cases arg <;> rfl
  | useUnlock ctx | logUnlock ctx => cases ctx <;> cases code
  | done result => cases code
  | _ => rfl

theorem unlock_credit (ptr : CtxPtr) {thread : Thread} {place next : LegacyPlace}
    (code : place.code = .unlock next) :
    credit ptr (.running next) = (handsOut ptr (.unlocked thread place)).toNat := by
  cases place with
  | openUnlock result =>
      cases code
      cases result <;> rfl
  | useUnlock ctx | logUnlock ctx =>
      cases ctx <;> cases code <;> rfl
  | endUnlock | closeUnlock ret =>
      cases code
      rfl
  | _ => cases code

/-- Handing out makes a credit and taking back spends one; nothing else does, within a call. -/
theorem stepped_credit (stepped : legacyProgram.Stepped state event after)
    (exclusive : legacyProgram.Exclusive state) (ptr : CtxPtr)
    (enters : ∀ thread call, event ≠ .entered thread call)
    (returns : ∀ thread result, event ≠ .returned thread result) :
    (handsOut ptr event).toNat + credit ptr (state.threads event.thread) =
      (takesBack ptr event).toNat + credit ptr (after.threads event.thread) := by
  cases stepped with
  | roams thread event status roams =>
      rw [roams.thread_eq, State.set_threads, Function.update_self]
      generalize state.threads thread = before at roams
      cases roams with
      | entered call => exact absurd rfl (enters thread call)
      | returned place result code => exact absurd rfl (returns thread result)
      | spurious place => rfl
      | chose place next reply code =>
          cases place with
          | operating ctx =>
              cases code
              dsimp only
              cases reply.next <;> rfl
          | useUnlock ctx | logUnlock ctx => cases ctx <;> cases code
          | _ => cases code
  | opens thread place next free opens =>
      have fits := exclusive thread
      rw [State.set_threads]
      simp only [Event.thread, Function.update_self]
      generalize state.threads thread = before at opens fits
      cases opens with
      | lock _ _ code =>
          obtain ⟨taken, spent⟩ := lock_credit ptr thread code
          rw [taken, spent]
          exact Nat.zero_add _
      | again _ =>
          rw [credit_inside ptr fits.2]
          cases place with
          | closeLock arg => cases fits.2
          | _ => rfl
  | inner thread event place next later running inner =>
      rw [inner.thread_eq, running, State.set_threads, Function.update_self,
        credit_inside ptr inner.fits.1, credit_inside ptr inner.fits.2]
      cases inner <;> rfl
  | closes thread event place status running closes =>
      rw [closes.thread_eq, running, State.set_threads, Function.update_self,
        credit_inside ptr closes.fits.1]
      cases closes with
      | unlocked next code =>
          rw [unlock_credit ptr code]
          exact (Nat.zero_add _).symm
      | parked blocked next code _ => rfl

end Credit

/-! References that the callers have -/

/-- The places that are reached before there is an object. -/
def ApiPlace.constructs : ApiPlace → Bool
  | rgaInitOpen _ | rgaInitCheck _ _ | rgaInitClose _ _ | constructed _ _ => true
  | _ => false

/-- The references to `ptr` that a thread has at its turn. -/
def turnHolds (ptr : CtxPtr) : Activity ApiPlace → Nat
  | .ready (.rgaInitCheck _ ctx) | .ready (.rgaInitClose _ ctx) => (ctx.ptr == ptr).toNat
  | .ready (.constructed _ object) => (object.mContext == some ptr).toNat
  | _ => 0

def objectHolds (ptr : CtxPtr) (sInstance : Option RockchipRga) : Nat :=
  (sInstance.bind RockchipRga.mContext == some ptr).toNat

/-- The references to `ptr` that a thread has, or is handed, or gives back. -/
def owed (ptr : CtxPtr) (state : ApiState) (thread : Thread) : Nat :=
  turnHolds ptr (state.places thread) + credit ptr (state.monitor.threads thread)

def ApiEvent.tally (p : LegacyEvent → Bool) (event : ApiEvent) : Nat :=
  (event.toMonitor.elim false p).toNat

section Account

variable {state after : ApiState} {event : ApiEvent}

abbrev ApiServed (state : ApiState) : Prop :=
  apiCallers.Served (fun call place => LegacyPlace.serves call place = true) state

theorem turnHolds_outside (ptr : CtxPtr) {activity : Activity ApiPlace}
    (fits : activity.Fits ApiPlace.inside false) : turnHolds ptr activity = 0 := by
  cases activity with
  | ready place => cases place <;> first | rfl | cases fits
  | _ => rfl

/-- A call that is made without the lock is an operation. -/
theorem outside_operation {place : ApiPlace} {entry : LegacyCall}
    {resume : CallResult → ApiPlace} (outside : place.inside = false)
    (code : place.code = .call entry resume) : entry = .operation := by
  cases place with
  | method call =>
      cases call <;> cases code
      rfl
  | rgaInitOpen _ | rgaInitClose _ _ => cases outside
  | _ => cases code

/-- A thread without the lock has none. -/
theorem owed_apart (ptr : CtxPtr) (linked : apiCallers.Linked state)
    (apart : apiCallers.Apart state) (served : ApiServed state) {thread : Thread}
    (other : state.lock ≠ some thread) : owed ptr state thread = 0 := by
  have fits := apart thread
  have links := linked thread
  rw [decide_eq_false other] at fits
  rw [owed, turnHolds_outside ptr fits, Nat.zero_add]
  cases activity : state.places thread with
  | idle | ready place =>
      rw [links.idle (by simp [activity])]
      rfl
  | calling place =>
      rw [activity] at fits links
      generalize running : state.monitor.threads thread = status at links
      cases links with
      | away _ away => rfl
      | within _ entry resume _ code busy =>
          obtain rfl := outside_operation fits code
          cases standing : status.place with
          | none =>
              cases status with
              | idle => exact absurd rfl busy
              | _ => cases standing
          | some here =>
              exact credit_operates ptr standing
                (served thread place _ resume here activity code (running ▸ standing))

/-- While the object is being made there is none yet. -/
def Making (state : ApiState) : Prop :=
  ∀ thread place, (state.places thread).place = some place →
    place.constructs = true → state.shared = none

/-- A turn of its own leaves a thread with what it and the object had. -/
theorem own_holds {thread : Thread} {lock later : Option Thread}
    {shared sInstance : Option RockchipRga} {place next : ApiPlace}
    (own : apiCallers.Own thread lock shared place later sInstance next) (ptr : CtxPtr)
    (making : place.constructs = true → shared = none) :
    objectHolds ptr shared + turnHolds ptr (.ready place) =
      objectHolds ptr sInstance + turnHolds ptr (.ready next) := by
  cases own with
  | lock _ code _ =>
      cases place with
      | getInstance _ =>
          cases code
          rfl
      | method call => cases call <;> cases code
      | _ => cases code
  | unlock _ code =>
      cases place with
      | instanceUnlock _ =>
          cases code
          rfl
      | method call => cases call <;> cases code
      | _ => cases code
  | read _ code =>
      cases place with
      | instanceTest _ =>
          cases code
          dsimp only
          split <;> rfl
      | method call =>
          cases call <;> cases code <;> rfl
      | _ => cases code
  | own _ reply code =>
      cases place with
      | rgaInitCheck call ctx =>
          cases code
          dsimp only
          split <;> rfl
      | constructed call object =>
          obtain rfl := making rfl
          cases code
          exact Nat.add_comm ..
      | method call => cases call <;> cases code
      | _ => cases code

/-- A call takes with it the reference that it gives back. -/
theorem called_holds {place : ApiPlace} {entry : LegacyCall} {resume : CallResult → ApiPlace}
    (code : place.code = .call entry resume) (ptr : CtxPtr) :
    turnHolds ptr (.ready place) = credit ptr (.running (LegacyPlace.start entry)) := by
  cases place with
  | rgaInitOpen _ | rgaInitClose _ _ =>
      cases code
      rfl
  | method call =>
      cases call <;> cases code
      rfl
  | _ => cases code

/-- What a call hands out is with its caller. -/
theorem returned_holds {place : ApiPlace} {entry : LegacyCall} {resume : CallResult → ApiPlace}
    (code : place.code = .call entry resume) {result : CallResult}
    (serves : LegacyPlace.serves entry (.done result) = true) (ptr : CtxPtr) :
    credit ptr (.running (.done result)) = turnHolds ptr (.ready (resume result)) := by
  cases place with
  | rgaInitOpen _ =>
      cases code
      cases result <;> rfl
  | rgaInitClose _ _ =>
      cases code
      cases result with
      | status _ => rfl
      | _ => cases serves
  | method call =>
      cases call <;> cases code
      cases result with
      | status _ => rfl
      | _ => cases serves
  | _ => cases code

theorem owed_others (moved : apiCallers.Moved legacyProgram state event after) (ptr : CtxPtr)
    (other : Thread) (different : other ≠ event.thread) :
    owed ptr after other = owed ptr state other := by
  obtain ⟨place, stays⟩ := moved.others different
  rw [owed, owed, place, credit_stays ptr stays]

/-- One step hands references on between the object, its callers and the calls. -/
theorem moved_owed (moved : apiCallers.Moved legacyProgram state event after)
    (linked : apiCallers.Linked state) (served : ApiServed state)
    (exclusive : legacyProgram.Exclusive state.monitor) (making : Making state) (ptr : CtxPtr) :
    event.tally (handsOut ptr) + objectHolds ptr state.shared + owed ptr state event.thread =
      event.tally (takesBack ptr) + objectHolds ptr after.shared +
        owed ptr after event.thread := by
  cases moved with
  | began thread job idle =>
      change _ + owed ptr state thread = _ + owed ptr _ thread
      rw [owed, owed, Joint.put_places, Function.update_self, idle]
      cases job <;> rfl
  | finished thread place result ready code =>
      change _ + owed ptr state thread = _ + owed ptr _ thread
      rw [owed, owed, Joint.put_places, Function.update_self, ready]
      cases place with
      | finished _ => rfl
      | method call => cases call <;> cases code
      | _ => cases code
  | moved thread place next lock shared ready own =>
      have balance := own_holds own ptr (making thread place (by rw [ready]; rfl))
      change _ + owed ptr state thread = _ + owed ptr _ thread
      rw [owed, owed, Joint.put_places, Function.update_self, ready]
      simp only [Joint.put_shared, Joint.put_monitor, ApiEvent.tally, JointEvent.toMonitor]
      simp only [Option.elim_none, Bool.toNat_false]
      omega
  | called thread place entry resume monitor ready code entered =>
      obtain ⟨idle, rfl⟩ := (Program.step_stepped entered).entered
      change _ + owed ptr state thread = _ + owed ptr _ thread
      rw [owed, owed, Joint.put_places, Function.update_self, ready, Joint.put_monitor,
        State.set_threads, Function.update_self, idle, called_holds code ptr]
      exact congrArg _ (Nat.add_comm ..)
  | inner op event monitor enters stepped =>
      have moved := Program.step_stepped stepped
      by_cases returns : ∃ thread result, event = .returned thread result
      · obtain ⟨thread, result, rfl⟩ := returns
        obtain ⟨place, entry, resume, calling, code, resumed⟩ := linked.returned stepped
        obtain ⟨⟨here, running, ends⟩, rfl⟩ := moved.returned
        have same : here = .done result := by
          cases here with
          | done _ =>
              cases ends
              rfl
          | useUnlock ctx | logUnlock ctx => cases ctx <;> cases ends
          | _ => cases ends
        subst same
        have serves := served thread place entry resume _ calling code (by rw [running]; rfl)
        rw [resumed]
        change _ + owed ptr state thread = _ + owed ptr _ thread
        rw [owed, owed, Joint.put_places, Function.update_self, calling, running,
          Joint.put_monitor, State.set_threads, Function.update_self,
          returned_holds code serves ptr]
        exact congrArg _ (Nat.add_comm ..)
      · have stays : ∀ thread result, event ≠ .returned thread result :=
          fun thread result same => returns ⟨thread, result, same⟩
        rw [Callers.resume_inner stays]
        have balance := stepped_credit moved exclusive ptr enters stays
        simp only [owed, ApiEvent.tally, JointEvent.toMonitor, JointEvent.thread,
          Option.elim_some]
        omega

theorem tally_cons (p : LegacyEvent → Bool) (trace : List ApiEvent) :
    ((event :: trace).filterMap JointEvent.toMonitor).countP p =
      (trace.filterMap JointEvent.toMonitor).countP p + event.tally p := by
  cases event with
  | below inner =>
      change (inner :: trace.filterMap JointEvent.toMonitor).countP p = _
      rw [List.countP_cons]
      refine congrArg _ ?_
      cases here : p inner <;> simp [ApiEvent.tally, JointEvent.toMonitor, here]
  | _ => rfl

theorem Making.put {thread : Thread} {activity : Activity ApiPlace} (making : Making state)
    (stays : ∀ place, activity.place = some place → place.constructs = true →
      state.shared = none) : Making (state.put thread activity) := by
  intro other place there constructs
  rw [Joint.put_places] at there
  by_cases acting : other = thread
  · rw [acting, Function.update_self] at there
    exact stays place there constructs
  · rw [Function.update_of_ne acting] at there
    exact making other place there constructs

theorem moved_making (moved : apiCallers.Moved legacyProgram state event after)
    (apart : apiCallers.Apart state) (linked : apiCallers.Linked state) (making : Making state) :
    Making after := by
  cases moved with
  | began thread job idle =>
      refine making.put fun place there constructs => ?_
      cases there
      cases job <;> cases constructs
  | finished thread place result ready code => exact making.put nofun
  | called thread place entry resume monitor ready code entered =>
      have kept : Making { state with monitor := monitor } := making
      refine kept.put fun here there constructs => ?_
      cases there
      exact making thread place (by rw [ready]; rfl) constructs
  | inner op event monitor enters stepped =>
      have kept : Making { state with monitor := monitor } := making
      by_cases returns : ∃ thread result, event = .returned thread result
      · obtain ⟨thread, result, rfl⟩ := returns
        obtain ⟨place, entry, resume, calling, code, resumed⟩ := linked.returned stepped
        rw [resumed]
        refine kept.put fun here there constructs => ?_
        cases there
        have was := making thread place (by rw [calling]; rfl)
        cases place with
        | rgaInitOpen _ | rgaInitClose _ _ => exact was rfl
        | method call =>
            cases call <;> cases code
            cases constructs
        | _ => cases code
      · rw [Callers.resume_inner fun thread result same => returns ⟨thread, result, same⟩]
        exact kept
  | moved thread place next lock shared ready own =>
      have was := making thread place (by rw [ready]; rfl)
      cases own with
      | lock _ code free =>
          have kept : Making { state with lock := some thread } := making
          refine kept.put fun here there constructs => ?_
          cases there
          cases place with
          | getInstance _ =>
              cases code
              cases constructs
          | method call => cases call <;> cases code
          | _ => cases code
      | unlock _ code =>
          have kept : Making { state with lock := none } := making
          refine kept.put fun here there constructs => ?_
          cases there
          cases place with
          | instanceUnlock _ =>
              cases code
              cases constructs
          | method call => cases call <;> cases code
          | _ => cases code
      | read _ code =>
          refine making.put fun here there constructs => ?_
          cases there
          cases place with
          | instanceTest _ =>
              cases code
              dsimp only at constructs
              split at constructs
              · cases constructs
              · rename_i absent
                exact Option.not_isSome_iff_eq_none.mp absent
          | method call => cases call <;> cases code <;> cases constructs
          | _ => cases code
      | own effect reply code =>
          cases place with
          | rgaInitCheck _ _ =>
              cases code
              exact making.put fun _ _ _ => was rfl
          | constructed call object =>
              cases code
              intro other here there constructs
              rw [Joint.put_places] at there
              by_cases acting : other = thread
              · rw [acting, Function.update_self] at there
                cases there
                cases constructs
              · rw [Function.update_of_ne acting] at there
                have inside : here.inside = true := by
                  cases here <;> first | rfl | cases constructs
                have standing : (state.places thread).place = some (.constructed call object) := by
                  rw [ready]
                  rfl
                exact absurd (apart.alone standing there rfl inside) acting
          | method call => cases call <;> cases code
          | _ => cases code

/-- What holds in every interleaving of the callers. -/
structure ApiKept (trace : List ApiEvent) (state : ApiState) : Prop where
  linked : apiCallers.Linked state
  apart : apiCallers.Apart state
  served : ApiServed state
  exclusive : legacyProgram.Exclusive state.monitor
  making : Making state
  disciplined : Disciplined (trace.filterMap JointEvent.toMonitor)
  account : ∀ ptr, (trace.filterMap JointEvent.toMonitor).countP (handsOut ptr) =
    (trace.filterMap JointEvent.toMonitor).countP (takesBack ptr) +
      objectHolds ptr state.shared + Callers.heldBy state.lock (owed ptr state)

theorem ApiKept.step {trace : List ApiEvent} (before : ApiKept trace state)
    (moved : apiCallers.Moved legacyProgram state event after)
    (exclusive : legacyProgram.Exclusive after.monitor) : ApiKept (event :: trace) after := by
  have apart := moved.apart before.apart
  have linked := moved.linked before.linked
  have served := moved.served legacy_covers before.served
  have balance (ptr : CtxPtr) : event.tally (handsOut ptr) + objectHolds ptr state.shared +
      Callers.heldBy state.lock (owed ptr state) = event.tally (takesBack ptr) +
        objectHolds ptr after.shared + Callers.heldBy after.lock (owed ptr after) := by
    exact Callers.heldBy_moved (moved.relocked before.apart)
      (moved_owed moved before.linked before.served before.exclusive before.making ptr)
      (owed_others moved ptr) (owed_apart ptr before.linked before.apart before.served)
      (owed_apart ptr linked apart served)
  refine ⟨linked, apart, served, exclusive,
    moved_making moved before.apart before.linked before.making, ?_, fun ptr => ?_⟩
  · cases event with
    | below inner =>
        refine disciplined_cons.mpr ⟨before.disciplined, fun ptr takes => ?_⟩
        have keeps : handsOut ptr inner = false := by
          cases inner <;> first | rfl | cases takes
        have account := before.account ptr
        have passes := balance ptr
        have spent : ApiEvent.tally (takesBack ptr) (.below inner) = 1 :=
          congrArg Bool.toNat takes
        have silent : ApiEvent.tally (handsOut ptr) (.below inner) = 0 :=
          congrArg Bool.toNat keeps
        omega
    | _ => exact before.disciplined
  · have account := before.account ptr
    have passes := balance ptr
    rw [tally_cons, tally_cons]
    omega

theorem apiKept_run {trace : List ApiEvent}
    (run : Machine.Run (apiCallers.step legacyProgram) ApiState.first trace state) :
    ApiKept trace state := by
  refine run.invariant (P := ApiKept) ?_ ?_
  · refine ⟨fun _ => .away _ nofun, fun _ => rfl, fun _ _ _ _ _ calling _ _ => ?_,
      Program.exclusive_start _ _, fun _ _ there _ => ?_, ?_, fun _ => rfl⟩
    · cases calling
    · cases there
    · intro past suffix ptr
      rw [List.suffix_nil.mp suffix]
      exact le_rfl
  · intro past before op after event run kept taken
    have below := Callers.run_below (run.next taken)
    exact kept.step (Callers.step_moved taken) ((Program.exclusive_start _ _).run below)

end Account

end LibRga

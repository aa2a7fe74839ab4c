import LibRga.ApiDiscipline

/-!
However many threads make their first call at once, one of them opens the device,
and only once.
-/

namespace LibRga

open Monitor

/-! `NormalRgaOpen` is called once -/

def entersOpen : LegacyEvent → Bool
  | .entered _ (.normalRgaOpen _) => true
  | _ => false

/-- Whether a thread has called `NormalRgaOpen` and not yet stored what came out. -/
def opening : Activity ApiPlace → Nat
  | .calling (.rgaInitOpen _) | .ready (.rgaInitCheck _ _) | .ready (.rgaInitClose _ _) => 1
  | .calling (.rgaInitClose _ _) | .ready (.constructed _ _) => 1
  | _ => 0

def stored (sInstance : Option RockchipRga) : Nat :=
  sInstance.isSome.toNat

section Once

variable {state after : ApiState} {event : ApiEvent} {trace : List ApiEvent}

theorem opening_apart {activity : Activity ApiPlace}
    (fits : activity.Fits ApiPlace.inside false) : opening activity = 0 := by
  cases activity with
  | idle => rfl
  | ready place | calling place => cases place <;> first | rfl | cases fits

theorem opening_constructs {activity : Activity ApiPlace} (opens : opening activity ≠ 0) :
    opening activity = 1 ∧ ∃ place, activity.place = some place ∧ place.constructs = true := by
  cases activity with
  | idle => exact absurd rfl opens
  | ready place | calling place =>
      cases place <;> first | exact ⟨rfl, _, rfl, rfl⟩ | exact absurd rfl opens

theorem own_opening {thread : Thread} {lock later : Option Thread}
    {shared sInstance : Option RockchipRga} {place next : ApiPlace}
    (own : apiCallers.Own thread lock shared place later sInstance next)
    (making : place.constructs = true → shared = none) :
    stored shared + opening (.ready place) = stored sInstance + opening (.ready next) := by
  cases own with
  | lock _ code _ =>
      cases place with
      | getInstance _ =>
          cases code
          rfl
      | method call => cases call <;> cases code
      | _ => cases code
  | unlock _ code =>
      cases place with
      | instanceUnlock _ =>
          cases code
          rfl
      | method call => cases call <;> cases code
      | _ => cases code
  | read _ code =>
      cases place with
      | instanceTest _ =>
          cases code
          dsimp only
          split <;> rfl
      | method call =>
          cases call <;> cases code <;> rfl
      | _ => cases code
  | own _ reply code =>
      cases place with
      | rgaInitCheck call ctx =>
          cases code
          dsimp only
          split <;> rfl
      | constructed call object =>
          obtain rfl := making rfl
          cases code
          rfl
      | method call => cases call <;> cases code
      | _ => cases code

theorem moved_opening (moved : apiCallers.Moved legacyProgram state event after)
    (linked : apiCallers.Linked state) (making : Making state) :
    event.tally entersOpen + stored state.shared + opening (state.places event.thread) =
      stored after.shared + opening (after.places event.thread) := by
  cases moved with
  | began thread job idle =>
      change _ + opening (state.places thread) = _ + opening ((state.put thread _).places thread)
      rw [Joint.put_places, Function.update_self, idle]
      cases job <;> exact Nat.zero_add _
  | finished thread place result ready code =>
      change _ + opening (state.places thread) = _ + opening ((state.put thread _).places thread)
      rw [Joint.put_places, Function.update_self, ready]
      cases place with
      | finished _ => exact Nat.zero_add _
      | method call => cases call <;> cases code
      | _ => cases code
  | moved thread place next lock shared ready own =>
      have balance := own_opening own (making thread place (by rw [ready]; rfl))
      change 0 + stored state.shared + opening (state.places thread) =
        stored shared + opening (Function.update state.places thread _ thread)
      rw [Function.update_self, ready, Nat.zero_add]
      exact balance
  | called thread place entry resume monitor ready code entered =>
      change _ + opening (state.places thread) =
        stored state.shared + opening (Function.update state.places thread _ thread)
      rw [Function.update_self, ready]
      cases place with
      | rgaInitOpen _ =>
          cases code
          exact Nat.add_comm 1 _
      | rgaInitClose _ _ =>
          cases code
          exact congrArg (· + 1) (Nat.zero_add _)
      | method call =>
          cases call <;> cases code
          exact Nat.zero_add _
      | _ => cases code
  | inner op event monitor enters stepped =>
      have silent : ApiEvent.tally entersOpen (.below event) = 0 := by
        cases event with
        | entered thread call => exact absurd rfl (enters thread call)
        | _ => rfl
      rw [silent, Callers.resume_shared, Nat.zero_add]
      by_cases returns : ∃ thread result, event = .returned thread result
      · obtain ⟨thread, result, rfl⟩ := returns
        obtain ⟨place, entry, resume, calling, code, resumed⟩ := linked.returned stepped
        rw [resumed]
        change _ + opening (state.places thread) =
          _ + opening (Function.update state.places thread _ thread)
        rw [Function.update_self, calling]
        refine congrArg _ ?_
        cases place with
        | rgaInitOpen _ =>
            cases code
            cases result <;> rfl
        | rgaInitClose _ _ =>
            cases code
            rfl
        | method call =>
            cases call <;> cases code
            rfl
        | _ => cases code
      · rw [Callers.resume_inner fun thread result same => returns ⟨thread, result, same⟩]

theorem opens_once (run : Machine.Run (apiCallers.step legacyProgram) ApiState.first trace state) :
    (trace.filterMap JointEvent.toMonitor).countP entersOpen =
      stored state.shared +
        Callers.heldBy state.lock fun thread => opening (state.places thread) := by
  refine run.invariant (P := fun trace state =>
    (trace.filterMap JointEvent.toMonitor).countP entersOpen =
      stored state.shared +
        Callers.heldBy state.lock fun thread => opening (state.places thread)) rfl ?_
  intro past before op after event run counted taken
  have moved := Callers.step_moved taken
  have kept := apiKept_run run
  have others (other : Thread) (different : other ≠ event.thread) :
      opening (after.places other) = opening (before.places other) := by
    rw [(moved.others different).1]
  have outside {state : ApiState} (apart : apiCallers.Apart state) (thread : Thread)
      (other : state.lock ≠ some thread) : opening (state.places thread) = 0 := by
    have fits := apart thread
    rw [decide_eq_false other] at fits
    exact opening_apart fits
  have weighed : _ + Callers.heldBy before.lock (fun thread => opening (before.places thread)) =
      _ + Callers.heldBy after.lock fun thread => opening (after.places thread) :=
    Callers.heldBy_moved (moved.relocked kept.apart)
      (moved_opening moved kept.linked kept.making) others (outside kept.apart _)
      (outside (moved.apart kept.apart) _)
  rw [tally_cons]
  omega

theorem opens_at_most_once
    (run : Machine.Run (apiCallers.step legacyProgram) ApiState.first trace state) :
    (trace.filterMap JointEvent.toMonitor).countP entersOpen ≤ 1 := by
  rw [opens_once run]
  have kept := apiKept_run run
  cases held : state.lock with
  | none => exact Bool.toNat_le _
  | some thread =>
      change stored state.shared + opening (state.places thread) ≤ 1
      by_cases opens : opening (state.places thread) = 0
      · rw [opens]
        exact Bool.toNat_le _
      · obtain ⟨one, place, standing, constructs⟩ := opening_constructs opens
        rw [one, kept.making thread place standing constructs]
        exact le_rfl

end Once

/-! What one call of `NormalRgaOpen` asks for -/

/-- The places of an open before it has asked for such a call of the system, and where it asks. -/
structure AsksOnce (early : LegacyPlace → Bool) (asks : DeviceCall → Bool) : Prop where
  back : ∀ place next, early next = true → place.code.Leads next → early place = true
  start : ∀ call, early (LegacyPlace.start call) = true → ∃ slot, call = .normalRgaOpen slot
  once : ∀ place effect data reply after notes next, place.code = .act effect →
    effect data reply = some (after, notes, next) → notes.countP asks = 0 ∨
      notes.countP asks = 1 ∧ early place = true ∧ early next = false

section Asks

variable {early : LegacyPlace → Bool} {asks : DeviceCall → Bool} {state after : LegacyState}
  {event : LegacyEvent} {trace : List LegacyEvent}

def Early (early : LegacyPlace → Bool) (state : LegacyState) (thread : Thread) : Prop :=
  ∃ place, (state.threads thread).place = some place ∧ early place = true

def asking (asks : DeviceCall → Bool) (event : LegacyEvent) : Bool :=
  decide (event.notes.countP asks = 1)

theorem AsksOnce.asked (once : AsksOnce early asks)
    (stepped : legacyProgram.Stepped state event after) :
    event.notes.countP asks = 0 ∨ event.notes.countP asks = 1 ∧
      Early early state event.thread ∧ ¬Early early after event.thread := by
  cases stepped with
  | roams thread event status roams =>
      refine .inl ?_
      generalize state.threads thread = before at roams
      cases roams <;> rfl
  | opens thread place next free opens => exact .inl rfl
  | closes thread event place status running closes =>
      refine .inl ?_
      cases closes <;> rfl
  | inner thread event place next later running inner =>
      rw [inner.thread_eq]
      cases inner with
      | passed _ _ _ _ | broadcast _ _ => exact .inl rfl
      | acted effect reply _ notes _ code answered =>
          obtain zero | ⟨one, here, there⟩ := once.once _ _ _ _ _ _ _ code answered
          · exact .inl zero
          · refine .inr ⟨one, ⟨place, by rw [running]; rfl, here⟩, ?_⟩
            rintro ⟨now, standing, still⟩
            rw [State.set_threads, Function.update_self] at standing
            cases standing
            rw [there] at still
            cases still

/-- An open asks for it once at most, and nothing else does. -/
theorem AsksOnce.run (once : AsksOnce early asks)
    (run : Machine.Run legacyProgram.step { data := {} } trace state) :
    (trace.flatMap Event.notes).countP asks ≤ trace.countP entersOpen := by
  have asked : (trace.flatMap Event.notes).countP asks = trace.countP (asking asks) := by
    refine run.invariant (P := fun trace _ =>
      (trace.flatMap Event.notes).countP asks = trace.countP (asking asks)) rfl ?_
    intro past state op after event _ counted taken
    rw [List.flatMap_cons, List.countP_append, List.countP_cons, counted]
    obtain zero | ⟨one, _⟩ := once.asked (Program.step_stepped taken)
    · simp [asking, zero]
    · simp [asking, one, Nat.add_comm]
  have others (past : List LegacyEvent) (state : LegacyState)
      (op : Op Thread LegacyCall LegacyReply) (after : LegacyState) (event : LegacyEvent)
      (_ : Machine.Run legacyProgram.step { data := {} } past state)
      (taken : legacyProgram.step state op = some (after, event)) (thread : Thread)
      (different : thread ≠ event.thread) :
      Early early after thread ↔ Early early state thread := by
    have stays := (Program.step_stepped taken).others different
    unfold Early
    obtain same | same := stays
    · rw [same]
    · rw [same, Status.wake_place]
  obtain ⟨_, _, _, count⟩ := run.in_flight entersOpen (asking asks) Event.thread (Early early)
    (by rintro thread ⟨place, standing, _⟩; cases standing) others
    (fun past state op after event _ taken asked => by
      obtain zero | ⟨_, was, gone⟩ := once.asked (Program.step_stepped taken)
      · simp [asking, zero] at asked
      · exact ⟨was, gone⟩)
    (fun past state op after event _ taken here => by
      obtain ⟨place, standing, here⟩ := here
      obtain ⟨call, entered, rfl⟩ | ⟨before, was, leads⟩ :=
        (Program.step_stepped taken).came standing
      · obtain ⟨slot, rfl⟩ := once.start call here
        rw [entered]
        exact .inr rfl
      · obtain rfl | leads := leads
        · exact .inl ⟨place, was, here⟩
        · exact .inl ⟨before, was, once.back before place here leads⟩)
  rw [asked]
  omega

end Asks

def DeviceCall.isMalloc : DeviceCall → Bool
  | malloc _ => true
  | _ => false

def DeviceCall.opensFd : DeviceCall → Bool
  | openFd _ => true
  | _ => false

namespace LegacyPlace

/-- How many of the calls that an open makes are still to come: `malloc`, and the one of the
device. -/
def toAsk : LegacyPlace → Nat
  | openLock | openLoop | openLookup | openMalloc => 2
  | openDevice _ => 1
  | _ => 0

theorem toAsk_leads {place next : LegacyPlace} (leads : place.code.Leads next) :
    next.toAsk ≤ place.toAsk := by
  cases place with
  | openLookup =>
      obtain ⟨data, rfl⟩ := update_leads leads
      cases data.rgaCtx <;> simp [toAsk]
  | openMalloc | openDevice ptr =>
      obtain ⟨data, reply, after, notes, answered⟩ := leads
      dsimp only at answered
      split at answered
      · cases answered
        exact Nat.zero_le _
      · split at answered
        · cases answered
        · cases answered
          simp [toAsk]
  | openDriverVersion ptr fd | openHwVersion ptr fd | openRga2Version ptr fd
  | openRga1Version ptr fd => obtain rfl | rfl := ioctl_leads leads <;> exact le_rfl
  | openPublish ptr fd | openCount ctx | useCount ctx | outRead operation | closeMark ctx
  | closeClear ctx | closeCalm =>
      obtain ⟨data, rfl⟩ := update_leads leads
      exact le_rfl
  | openClose ptr fd | openFree ptr ret | debugSet operation | closeFd ctx | closeFree ctx =>
      obtain ⟨_, _, _, _, answered⟩ := leads
      cases answered
      exact le_rfl
  | useTest =>
      obtain ⟨data, rfl⟩ := update_leads leads
      split <;> exact le_rfl
  | endCount | closeCount ctx =>
      obtain ⟨data, rfl⟩ := update_leads leads
      dsimp only
      split <;> exact le_rfl
  | closeTest arg =>
      obtain ⟨data, rfl⟩ := update_leads leads
      split
      · split
        · exact le_rfl
        · split <;> exact le_rfl
      · exact le_rfl
  | operating ctx =>
      obtain ⟨reply, rfl⟩ := leads
      dsimp only
      split <;> exact le_rfl
  | useUnlock ctx | logUnlock ctx level =>
      cases ctx <;> cases leads <;> exact le_rfl
  | done result => cases leads
  | _ =>
      cases leads
      exact le_rfl

theorem toAsk_start {call : LegacyCall} (asks : 0 < (start call).toAsk) :
    ∃ slot, call = .normalRgaOpen slot := by
  cases call with
  | normalRgaOpen slot => exact ⟨slot, rfl⟩
  | normalRgaClose arg => cases arg <;> cases asks
  | operation | isDebugLog | isOutLog => cases asks

theorem acted_asks {place next : LegacyPlace} {data after : LegacyData} {reply : LegacyReply}
    {notes : List DeviceCall} {effect : LegacyData → LegacyReply →
      Option (LegacyData × List DeviceCall × LegacyPlace)} (code : place.code = .act effect)
    (answered : effect data reply = some (after, notes, next)) :
    notes.countP DeviceCall.isMalloc = 0 ∧ notes.countP DeviceCall.opensFd = 0 ∨
      ∃ ptr, place = openMalloc ∧ notes = [.malloc ptr] ∧ next = openDevice ptr ∨
        place = openDevice ptr ∧ ∃ fd, notes = [.openFd fd] ∧ next = openDriverVersion ptr fd := by
  cases place with
  | openMalloc =>
      cases code
      dsimp only at answered
      split at answered
      · cases answered
        exact .inl ⟨rfl, rfl⟩
      · split at answered
        · cases answered
        · cases answered
          exact .inr ⟨_, .inl ⟨rfl, rfl, rfl⟩⟩
  | openDevice ptr =>
      cases code
      dsimp only at answered
      split at answered
      · cases answered
        exact .inl ⟨rfl, rfl⟩
      · split at answered
        · cases answered
        · cases answered
          exact .inr ⟨ptr, .inr ⟨rfl, _, rfl, rfl⟩⟩
  | useUnlock ctx | logUnlock ctx level => cases ctx <;> cases code
  | _ =>
      cases code <;>
      · cases answered
        exact .inl ⟨rfl, rfl⟩

end LegacyPlace

theorem asksOnce_of_toAsk {asks : DeviceCall → Bool} {count : Nat} (positive : 0 < count)
    (once : ∀ place effect data reply after notes next, LegacyPlace.code place = .act effect →
      effect data reply = some (after, notes, next) → notes.countP asks = 0 ∨
        notes.countP asks = 1 ∧ count ≤ place.toAsk ∧ next.toAsk < count) :
    AsksOnce (fun place => count ≤ place.toAsk) asks where
  back place next early leads :=
    decide_eq_true ((of_decide_eq_true early).trans (LegacyPlace.toAsk_leads leads))
  start call early := LegacyPlace.toAsk_start (positive.trans_le (of_decide_eq_true early))
  once place effect data reply after notes next code answered := by
    obtain zero | ⟨one, here, there⟩ := once place effect data reply after notes next code answered
    · exact .inl zero
    · exact .inr ⟨one, decide_eq_true here, decide_eq_false (Nat.not_le.mpr there)⟩

theorem malloc_once : AsksOnce (fun place => 2 ≤ place.toAsk) DeviceCall.isMalloc := by
  refine asksOnce_of_toAsk Nat.two_pos ?_
  intro place effect data reply after notes next code answered
  obtain ⟨none, _⟩ | ⟨ptr, ⟨rfl, rfl, rfl⟩ | ⟨_, fd, rfl, _⟩⟩ :=
    LegacyPlace.acted_asks code answered
  · exact .inl none
  · exact .inr ⟨rfl, le_rfl, Nat.one_lt_two⟩
  · exact .inl rfl

theorem openFd_once : AsksOnce (fun place => 1 ≤ place.toAsk) DeviceCall.opensFd := by
  refine asksOnce_of_toAsk Nat.one_pos ?_
  intro place effect data reply after notes next code answered
  obtain ⟨_, none⟩ | ⟨ptr, ⟨_, rfl, _⟩ | ⟨rfl, fd, rfl, rfl⟩⟩ :=
    LegacyPlace.acted_asks code answered
  · exact .inl none
  · exact .inl rfl
  · exact .inr ⟨rfl, le_rfl, Nat.one_pos⟩

/-- In the whole life of the process one context is allocated at most and the device is opened once
at most, whether that succeeds or not: every other `getInstance` finds what the first one made. -/
theorem api_opens_once {trace : List ApiEvent} {state : ApiState}
    (run : Machine.Run (apiCallers.step legacyProgram) ApiState.first trace state) :
    let calls := (trace.filterMap JointEvent.toMonitor).flatMap Event.notes
    calls.countP DeviceCall.isMalloc ≤ 1 ∧ calls.countP DeviceCall.opensFd ≤ 1 := by
  have below := Callers.run_below run
  have once := opens_at_most_once run
  exact ⟨(malloc_once.run below).trans once, (openFd_once.run below).trans once⟩

theorem api_opens_once_racing :
    ∃ trace state, Machine.Run (apiCallers.step legacyProgram) ApiState.first trace state ∧
      state.lock = some 0 ∧
      let calls := (trace.filterMap JointEvent.toMonitor).flatMap Event.notes
      calls = [.openFd 3, .malloc 0x1000] ∧ calls.countP DeviceCall.isMalloc ≤ 1 := by
  have run := Machine.Run.of_exec (apiCallers.step legacyProgram) ApiState.first racingOps rfl
  exact ⟨_, _, run, rfl, rfl, (api_opens_once run).1⟩

end LibRga

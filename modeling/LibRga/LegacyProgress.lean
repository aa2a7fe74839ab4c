import LibRga.LegacySafety

/-!
No call on the legacy context waits for ever: whoever frees a waiting thread
wakes it, and every call can be brought to its end.
-/

namespace LibRga

open Monitor

/-! Whoever drains the context is there to tear it down -/

def Drained (context : ContextState) : Prop :=
  context.contextClosing = true → ∃ thread ctx, context.pc thread = .closeWait ctx

theorem Drained.turn {context after : ContextState} {thread : Thread} {now : ContextPc}
    (drained : Drained context) (moved : after.pc = (context.setPc thread now).pc)
    (elsewhere : ∀ ctx, context.pc thread ≠ .closeWait ctx)
    (closing : after.contextClosing = true → context.contextClosing = true) : Drained after := by
  intro now_closing
  obtain ⟨other, ctx, waits⟩ := drained (closing now_closing)
  refine ⟨other, ctx, ?_⟩
  rw [moved, setPc_other]
  · exact waits
  · rintro rfl
    exact elsewhere ctx waits

theorem openSection_drained {context after : ContextState} {thread : Thread}
    {waited : Option Nat} {reply : OpenReply} {event : ContextEvent} (drained : Drained context)
    (elsewhere : ∀ ctx, context.pc thread ≠ .closeWait ctx)
    (taken : context.openSection thread waited reply = some (after, event)) : Drained after := by
  simp only [ContextState.openSection] at taken
  split at taken
  · cases taken
    exact drained.turn rfl elsewhere id
  · split at taken
    · cases taken
      exact drained.turn rfl elsewhere id
    · split_ifs at taken <;> cases taken <;> exact drained.turn rfl elsewhere id

theorem closeSection_drained {context : ContextState} (drained : Drained context) (thread : Thread)
    (ptr : CtxPtr) : Drained (context.closeSection thread ptr).1 := by
  simp only [ContextState.closeSection]
  split
  · exact drained
  · split_ifs
    · exact drained
    · exact drained
    · exact drained
    · exact fun _ => ⟨thread, _, setPc_self _⟩
    · rintro ⟨⟩

theorem step_drained {context after : ContextState} {op : ContextOp} {event : ContextEvent}
    (drained : Drained context) (taken : context.step op = some (after, event)) :
    Drained after := by
  cases op with
  | openLock thread slot reply =>
      simp only [ContextState.step] at taken
      split_ifs at taken with busy missing draining
      · cases taken
        exact drained
      · cases taken
        have idle : context.pc thread = .idle := not_not.mp busy
        exact drained.turn rfl (by simp [idle]) id
      · have idle : context.pc thread = .idle := not_not.mp busy
        exact openSection_drained drained (by simp [idle]) taken
  | openWake thread reply =>
      simp only [ContextState.step] at taken
      split at taken
      · rename_i since waits
        split_ifs at taken with draining
        exact openSection_drained drained (by simp [waits]) taken
      · cases taken
  | useBegin thread =>
      simp only [ContextState.step] at taken
      split_ifs at taken with busy
      have idle : context.pc thread = .idle := not_not.mp busy
      split at taken
      · cases taken
        exact drained.turn rfl (by simp [idle]) id
      · cases taken
        exact drained
  | useEnd thread =>
      simp only [ContextState.step] at taken
      split at taken
      · rename_i ctx uses
        cases taken
        exact drained.turn rfl (by simp [uses]) id
      · cases taken
  | closeLock thread arg =>
      simp only [ContextState.step] at taken
      split_ifs at taken with busy
      cases arg with
      | noSlot | emptySlot =>
          cases taken
          exact drained
      | context ptr =>
          dsimp only at taken
          split_ifs at taken with client
          rw [Option.some.injEq] at taken
          have closed := closeSection_drained drained thread ptr
          rwa [taken] at closed
  | closeWake thread =>
      simp only [ContextState.step] at taken
      split at taken
      · split_ifs at taken with active
        cases taken
        rintro ⟨⟩
      · cases taken

theorem run_drained {trace : List ContextEvent} {context : ContextState}
    (run : Machine.Run ContextState.step {} trace context) : Drained context := by
  refine run.invariant (P := fun _ context => Drained context) (fun closing => by cases closing) ?_
  intro past before op after event _ kept taken
  exact step_drained kept taken

/-! Broadcasts -/

/-- The places that have freed a waiting thread and not told it yet. -/
def LegacyPlace.owes : LegacyPlace → Bool
  | endBroadcast | closeBroadcast => true
  | _ => false

/-- What is waited for under the mutex: the end of a close, or of the operations. -/
theorem await_cases {place next : LegacyPlace} {blocked : LegacyData → Bool}
    (code : place.code = .await blocked next) :
    blocked = LegacyData.contextClosing ∨ blocked = fun data => data.activeOperations != 0 := by
  cases place with
  | openLoop =>
      cases code
      exact .inl rfl
  | closeLoop ctx =>
      cases code
      exact .inr rfl
  | useUnlock ctx | logUnlock ctx => cases ctx <;> cases code
  | _ => cases code

/-- An access frees nobody, or a broadcast is next. -/
theorem inner_frees {thread : Thread} {data after : LegacyData} {place next : LegacyPlace}
    {event : LegacyEvent} (inner : legacyProgram.Inner thread data place event after next) :
    next.owes = true ∨ (data.contextClosing = true → after.contextClosing = true) ∧
      (data.activeOperations ≠ 0 → after.activeOperations ≠ 0) := by
  cases place with
  | openMalloc | openDevice ptr =>
      cases inner with
      | acted _ reply _ notes _ code answered =>
          cases code
          dsimp only at answered
          split at answered
          · cases answered
            exact .inr ⟨id, id⟩
          · split at answered
            · cases answered
            · cases answered
              exact .inr ⟨id, id⟩
      | passed _ _ code _ | broadcast _ code => cases code
  | debugSet operation =>
      cases inner with
      | acted _ reply _ notes _ code answered =>
          cases code
          cases answered
          refine .inr ?_
          split <;> exact ⟨id, id⟩
      | passed _ _ code _ | broadcast _ code => cases code
  | openLookup =>
      obtain ⟨rfl, rfl⟩ := update_inner rfl inner
      refine .inr ?_
      split <;> exact ⟨id, id⟩
  | openDriverVersion ptr fd | openHwVersion ptr fd | openRga2Version ptr fd
  | openRga1Version ptr fd =>
      obtain ⟨rfl, _⟩ := ioctl_inner rfl inner
      exact .inr ⟨id, id⟩
  | openPublish ptr fd | openCount ctx | outRead operation | closeClear ctx | closeCount ctx =>
      obtain ⟨rfl, rfl⟩ := update_inner rfl inner
      exact .inr ⟨id, id⟩
  | openClose ptr fd | openFree ptr ret | closeFd ctx | closeFree ctx =>
      obtain ⟨rfl, rfl⟩ := perform_inner rfl inner
      exact .inr ⟨id, id⟩
  | useTest =>
      obtain ⟨rfl, rfl⟩ := update_inner rfl inner
      refine .inr ?_
      split <;> exact ⟨id, id⟩
  | useCount ctx =>
      obtain ⟨rfl, rfl⟩ := update_inner rfl inner
      exact .inr ⟨id, fun _ => Nat.succ_ne_zero _⟩
  | endCount =>
      obtain ⟨rfl, rfl⟩ := update_inner rfl inner
      by_cases last : data.activeOperations - 1 = 0
      · exact .inl (by simp [last, LegacyPlace.owes])
      · exact .inr ⟨id, fun _ => last⟩
  | closeTest arg =>
      obtain ⟨rfl, rfl⟩ := update_inner rfl inner
      refine .inr ?_
      split
      · split
        · exact ⟨id, id⟩
        · split <;> exact ⟨id, id⟩
      · exact ⟨id, id⟩
  | closeMark ctx =>
      obtain ⟨rfl, rfl⟩ := update_inner rfl inner
      exact .inr ⟨fun _ => rfl, id⟩
  | closeCalm =>
      obtain ⟨rfl, rfl⟩ := update_inner rfl inner
      exact .inl rfl
  | openLoop | closeLoop ctx =>
      obtain ⟨_, rfl, rfl⟩ := await_inner rfl inner
      exact .inr ⟨id, id⟩
  | endBroadcast | closeBroadcast =>
      obtain ⟨rfl, rfl⟩ := broadcast_inner rfl inner
      exact .inr ⟨id, id⟩
  | useUnlock ctx | logUnlock ctx =>
      cases inner with
      | acted _ _ _ _ _ code _ | passed _ _ code _ | broadcast _ code => cases ctx <;> cases code
  | _ =>
      cases inner with
      | acted _ _ _ _ _ code _ | passed _ _ code _ | broadcast _ code => cases code

theorem legacy_signals : legacyProgram.Signals LegacyPlace.owes := by
  constructor
  · intro place effect data reply after notes next code answered
    have inner : legacyProgram.Inner (0 : Thread) data place (.acted 0 place notes) after next :=
      .acted effect reply after notes next code answered
    have settled : place.owes = false := by
      cases place <;> first | rfl | cases code
    obtain owing | ⟨closing, active⟩ := inner_frees inner
    · exact .inl owing
    · refine .inr ⟨settled, fun waiting blocked later awaits waits => ?_⟩
      obtain rfl | rfl := await_cases awaits
      · exact closing waits
      · simp only [bne_iff_ne] at waits ⊢
        exact active waits
  · intro place blocked next code
    cases place <;> first | rfl | cases code
  · intro place next code
    cases place <;> first | rfl | cases code

/-! The length of a section -/

def LegacyPlace.rank : LegacyPlace → Nat
  | openLoop => 11
  | openLookup => 10
  | openMalloc => 9
  | openDevice _ => 8
  | openDriverVersion _ _ => 7
  | openHwVersion _ _ | openRga2Version _ _ => 6
  | openRga1Version _ _ => 5
  | openPublish _ _ => 4
  | openCount _ | openClose _ _ => 3
  | openFree _ _ => 2
  | useTest | endCount => 2
  | useCount _ | endBroadcast | debugSet _ | outRead _ => 1
  | closeTest _ => 9
  | closeCount _ => 8
  | closeMark _ => 7
  | closeLoop _ => 6
  | closeClear _ => 5
  | closeFd _ => 4
  | closeFree _ => 3
  | closeCalm => 2
  | closeBroadcast => 1
  | openLock | openUnlock _ | useLock | useUnlock _ | operating _ | endLock _ | endUnlock => 0
  | debugLock _ | outLock _ | logUnlock _ _ | closeLock _ | closeUnlock _ | done _ => 0

theorem inner_rank {thread : Thread} {data after : LegacyData} {place next : LegacyPlace}
    {event : LegacyEvent} (inner : legacyProgram.Inner thread data place event after next) :
    next.rank < place.rank := by
  cases place with
  | openMalloc | openDevice ptr =>
      cases inner with
      | acted _ reply _ notes _ code answered =>
          cases code
          dsimp only at answered
          split at answered
          · cases answered
            simp [LegacyPlace.rank]
          · split at answered
            · cases answered
            · cases answered
              simp [LegacyPlace.rank]
      | passed _ _ code _ | broadcast _ code => cases code
  | debugSet operation =>
      cases inner with
      | acted _ reply _ notes _ code answered =>
          cases code
          cases answered
          exact Nat.zero_lt_one
      | passed _ _ code _ | broadcast _ code => cases code
  | openLookup | useTest =>
      obtain ⟨rfl, rfl⟩ := update_inner rfl inner
      split <;> simp [LegacyPlace.rank]
  | openDriverVersion ptr fd | openHwVersion ptr fd | openRga2Version ptr fd
  | openRga1Version ptr fd =>
      obtain ⟨_, rfl | rfl⟩ := ioctl_inner rfl inner <;> simp [LegacyPlace.rank]
  | openPublish ptr fd | openCount ctx | outRead operation | closeClear ctx | closeMark ctx
  | closeCalm | useCount ctx =>
      obtain ⟨_, rfl⟩ := update_inner rfl inner
      simp [LegacyPlace.rank]
  | openClose ptr fd | openFree ptr ret | closeFd ctx | closeFree ctx =>
      obtain ⟨_, rfl⟩ := perform_inner rfl inner
      simp [LegacyPlace.rank]
  | endCount | closeCount ctx =>
      obtain ⟨rfl, rfl⟩ := update_inner rfl inner
      dsimp only
      split <;> simp [LegacyPlace.rank]
  | closeTest arg =>
      obtain ⟨rfl, rfl⟩ := update_inner rfl inner
      split
      · split
        · simp [LegacyPlace.rank]
        · split <;> simp [LegacyPlace.rank]
      · simp [LegacyPlace.rank]
  | openLoop | closeLoop ctx =>
      obtain ⟨_, _, rfl⟩ := await_inner rfl inner
      simp [LegacyPlace.rank]
  | endBroadcast | closeBroadcast =>
      obtain ⟨_, rfl⟩ := broadcast_inner rfl inner
      simp [LegacyPlace.rank]
  | useUnlock ctx | logUnlock ctx =>
      cases inner with
      | acted _ _ _ _ _ code _ | passed _ _ code _ | broadcast _ code => cases ctx <;> cases code
  | _ =>
      cases inner with
      | acted _ _ _ _ _ code _ | passed _ _ code _ | broadcast _ code => cases code

theorem legacy_ends : legacyProgram.Ends LegacyPlace.rank := by
  constructor
  · intro place effect code
    refine ⟨fun data => ⟨{}, ?_⟩, fun data reply after notes next answered => ?_⟩
    · cases place with
      | useUnlock ctx | logUnlock ctx => cases ctx <;> cases code
      | openMalloc | openDevice ptr =>
          cases code
          rfl
      | _ =>
          cases code
          try rfl
    · have inner : legacyProgram.Inner (0 : Thread) data place (.acted 0 place notes) after next :=
        .acted effect reply after notes next code answered
      exact inner_rank inner
  · intro place blocked next code
    cases place with
    | openLoop | closeLoop ctx =>
        cases code
        simp [LegacyPlace.rank]
    | useUnlock ctx | logUnlock ctx => cases ctx <;> cases code
    | _ => cases code
  · intro place next code
    cases place with
    | endBroadcast | closeBroadcast =>
        cases code
        exact Nat.zero_lt_one
    | useUnlock ctx | logUnlock ctx => cases ctx <;> cases code
    | _ => cases code

/-! Running calls on -/

/-- One thread has gone on, with no call made and nobody woken without being told. -/
structure Onward (state : LegacyState) (thread : Thread) (later : List LegacyEvent)
    (final : LegacyState) : Prop where
  run : Machine.Run legacyProgram.step state later final
  free : final.owner = none
  others : ∀ other, other ≠ thread → (state.threads other).Stays (final.threads other)
  asked : ∀ event ∈ later, event.outer = false

/-- No close begins. -/
def Quiet (later : List LegacyEvent) : Prop :=
  ∀ event ∈ later, ∀ ptr, takesBack ptr event = false

variable {state : LegacyState} {thread : Thread}

theorem Onward.trans {middle final : LegacyState} {first second : List LegacyEvent}
    (earlier : Onward state thread first middle) (later : Onward middle thread second final) :
    Onward state thread (second ++ first) final where
  run := earlier.run.trans later.run
  free := later.free
  others other different := (earlier.others other different).trans (later.others other different)
  asked event member := (List.mem_append.mp member).elim (later.asked event) (earlier.asked event)

theorem Quiet.append {first second : List LegacyEvent} (earlier : Quiet first)
    (later : Quiet second) : Quiet (second ++ first) :=
  fun event member => (List.mem_append.mp member).elim (later event) (earlier event)

theorem Disciplined.quiet {later past : List LegacyEvent} (disciplined : Disciplined past)
    (quiet : Quiet later) : Disciplined (later ++ past) := by
  induction later with
  | nil => exact disciplined
  | cons event later ih =>
      obtain ⟨here, rest⟩ := List.forall_mem_cons.mp quiet
      intro before suffix ptr
      have earlier := ih rest
      rw [List.cons_append, List.suffix_cons_iff] at suffix
      obtain rfl | within := suffix
      · have settled := earlier _ List.suffix_rfl ptr
        rw [List.countP_cons_of_neg (by simp [here]), List.countP_cons]
        omega
      · exact earlier before within ptr

/-- With the mutex free, a thread at a section can be run through it. -/
theorem onward_section (exclusive : legacyProgram.Exclusive state) (free : state.owner = none)
    {place first : LegacyPlace} {post : SectionPost}
    (opens : legacyProgram.Opens (state.threads thread) place first)
    (ensures : legacyProgram.Ensures thread first state.data post) :
    ∃ later final notes closing, Onward state thread later final ∧
      ((∀ arg, place ≠ .closeLock arg) → Quiet later) ∧
      post notes closing final.data (final.threads thread) := by
  obtain ⟨seg, final, notes, last, closing, completed, path, closes, holds⟩ :=
    legacy_ends.section {} exclusive free opens ensures
  have ending : closing.outer = false ∧ ∀ ptr, takesBack ptr closing = false := by
    generalize final.threads thread = status at closes
    cases closes <;> exact ⟨rfl, fun _ => rfl⟩
  refine ⟨_, final, notes, closing, ⟨completed.run, completed.free, completed.others, ?_⟩, ?_,
    holds⟩
  · refine List.forall_mem_cons.mpr ⟨ending.1, fun event member => ?_⟩
    rcases List.mem_append.mp member with inside | opening
    · exact path.events (fun _ _ _ _ _ inner => inner.not_outer) event inside
    · rw [List.mem_singleton.mp opening]
      rfl
  · intro begins
    refine List.forall_mem_cons.mpr ⟨ending.2, fun event member => ?_⟩
    rcases List.mem_append.mp member with inside | opening
    · refine path.events (Q := fun event => ∀ ptr, takesBack ptr event = false) ?_ event inside
      intro _ _ _ _ _ inner ptr
      cases inner <;> rfl
    · rw [List.mem_singleton.mp opening]
      intro ptr
      cases place with
      | closeLock arg => exact absurd rfl (begins arg)
      | _ => rfl

/-- A step without the mutex. -/
theorem onward_choice (free : state.owner = none) {place next : LegacyPlace}
    (running : state.threads thread = .running place) (reply : LegacyReply)
    {choice : LegacyReply → LegacyPlace} (code : place.code = .choose choice)
    (chosen : choice reply = next) :
    ∃ later final, Onward state thread later final ∧ Quiet later ∧
      final.threads thread = .running next ∧ final.data = state.data := by
  have instr : legacyProgram.code place = .choose choice := code
  have taken : legacyProgram.step state (.run thread reply) =
      some (state.set thread (.running next), .chose thread place) := by
    simp [Program.step, running, instr, chosen]
  refine ⟨[_], _, ⟨Machine.Run.init.next taken, free,
    fun other different => .inl (Function.update_of_ne different ..), ?_⟩, ?_,
    Function.update_self .., rfl⟩
  · exact List.forall_mem_singleton.mpr rfl
  · exact List.forall_mem_singleton.mpr fun _ => rfl

/-- An operation can be brought to its end. -/
theorem endLock_onward (exclusive : legacyProgram.Exclusive state) (free : state.owner = none)
    {ctx : LegacyContext} (running : state.threads thread = .running (.endLock ctx)) :
    ∃ later final result, Onward state thread later final ∧ Quiet later ∧
      final.threads thread = .running (.done result) := by
  have opens : legacyProgram.Opens (state.threads thread) (.endLock ctx) .endCount :=
    running ▸ .lock _ _ rfl
  have ensures : legacyProgram.Ensures thread .endCount state.data
      fun _ _ _ status => status = .running (.done (.status 0)) := by
    refine update_ensures rfl ?_
    dsimp only
    split
    · exact .broadcast rfl (.unlock rfl rfl)
    · exact .unlock rfl rfl
  obtain ⟨later, final, _, _, onward, quiet, reached⟩ :=
    onward_section exclusive free opens ensures
  exact ⟨later, final, _, onward, quiet nofun, reached⟩

theorem operating_onward (exclusive : legacyProgram.Exclusive state) (free : state.owner = none)
    {ctx : LegacyContext} (running : state.threads thread = .running (.operating ctx)) :
    ∃ later final result, Onward state thread later final ∧ Quiet later ∧
      final.threads thread = .running (.done result) := by
  obtain ⟨first, middle, onward, quiet, reached, _⟩ :=
    onward_choice free running {} rfl rfl
  obtain ⟨second, final, result, further, calm, done⟩ :=
    endLock_onward (exclusive.run onward.run) onward.free reached
  exact ⟨_, final, result, onward.trans further, quiet.append calm, done⟩

/-- Whatever it is at, an operation can be brought to its end. -/
theorem used_onward (exclusive : legacyProgram.Exclusive state) (free : state.owner = none)
    {place : LegacyPlace} {ctx : LegacyContext} (running : state.threads thread = .running place)
    (used : place.used = some ctx) :
    ∃ later final result, Onward state thread later final ∧ Quiet later ∧
      final.threads thread = .running (.done result) := by
  have logged {first : LegacyPlace} (begins : ∀ arg, place ≠ .closeLock arg)
      (opens : legacyProgram.Opens (state.threads thread) place first)
      (ensures : legacyProgram.Ensures thread first state.data
        fun _ _ _ status => status = .running (.operating ctx)) :
      ∃ later final result, Onward state thread later final ∧ Quiet later ∧
        final.threads thread = .running (.done result) := by
    obtain ⟨first, middle, _, _, onward, quiet, reached⟩ :=
      onward_section exclusive free opens ensures
    obtain ⟨second, final, result, further, calm, done⟩ :=
      operating_onward (exclusive.run onward.run) onward.free reached
    exact ⟨_, final, result, onward.trans further, (quiet begins).append calm, done⟩
  cases place with
  | operating _ => exact operating_onward exclusive free running
  | endLock _ => exact endLock_onward exclusive free running
  | debugLock operation =>
      cases used
      have opens : legacyProgram.Opens (state.threads thread) (.debugLock (some ctx))
          (.debugSet (some ctx)) := running ▸ .lock _ _ rfl
      refine logged nofun opens (.act rfl ?_)
      intro reply after notes next answered
      cases answered
      exact .unlock rfl rfl
  | outLock operation =>
      cases used
      have opens : legacyProgram.Opens (state.threads thread) (.outLock (some ctx))
          (.outRead (some ctx)) := running ▸ .lock _ _ rfl
      exact logged nofun opens (update_ensures rfl (.unlock rfl rfl))
  | _ => cases used

/-- A run on, of any threads, with no call made, no close begun and nobody woken unasked. -/
structure Matures (state : LegacyState) (later : List LegacyEvent) (final : LegacyState) :
    Prop where
  run : Machine.Run legacyProgram.step state later final
  free : final.owner = none
  asked : ∀ event ∈ later, event.outer = false
  quiet : Quiet later

theorem Matures.trans {middle final : LegacyState} {first second : List LegacyEvent}
    (earlier : Matures state first middle) (later : Matures middle second final) :
    Matures state (second ++ first) final where
  run := earlier.run.trans later.run
  free := later.free
  asked event member := (List.mem_append.mp member).elim (later.asked event) (earlier.asked event)
  quiet := earlier.quiet.append later.quiet

/-- The operations can all be brought to their end. -/
theorem users_settle (users : List Thread) (exclusive : legacyProgram.Exclusive state)
    (free : state.owner = none) (known : ∀ thread place ctx,
      state.threads thread = .running place → place.used = some ctx → thread ∈ users) :
    ∃ later final, Matures state later final ∧
      ∀ thread place, final.threads thread = .running place → place.used = none := by
  induction users generalizing state with
  | nil =>
      refine ⟨[], state, ⟨.init, free, List.forall_mem_nil _, List.forall_mem_nil _⟩, ?_⟩
      intro thread place running
      cases used : place.used with
      | none => rfl
      | some ctx => exact absurd (known thread place ctx running used) List.not_mem_nil
  | cons user users ih =>
      by_cases busy : ∃ place ctx, state.threads user = .running place ∧ place.used = some ctx
      · obtain ⟨place, ctx, running, used⟩ := busy
        obtain ⟨first, middle, result, onward, quiet, done⟩ :=
          used_onward exclusive free running used
        have fewer (thread : Thread) (place : LegacyPlace) (ctx : LegacyContext)
            (there : middle.threads thread = .running place) (used : place.used = some ctx) :
            thread ∈ users := by
          have apart : thread ≠ user := by
            rintro rfl
            rw [done] at there
            cases there
            cases used
          have before := (onward.others thread apart).running there
          exact (List.mem_cons.mp (known thread place ctx before used)).resolve_left apart
        obtain ⟨second, final, settles, settled⟩ :=
          ih (exclusive.run onward.run) onward.free fewer
        exact ⟨_, final, Matures.trans ⟨onward.run, onward.free, onward.asked, quiet⟩ settles,
          settled⟩
      · refine ih exclusive free fun thread place ctx running used => ?_
        have apart : thread ≠ user := by
          rintro rfl
          exact busy ⟨place, ctx, running, used⟩
        exact (List.mem_cons.mp (known thread place ctx running used)).resolve_left apart

variable {trace : List LegacyEvent}

/-- The mutex can be made free. -/
theorem owner_settles (exclusive : legacyProgram.Exclusive state) :
    ∃ later final, Matures state later final := by
  cases holds : state.owner with
  | none => exact ⟨[], state, .init, holds, List.forall_mem_nil _, List.forall_mem_nil _⟩
  | some thread =>
      obtain ⟨place, running, inside⟩ := exclusive.holder holds
      obtain ⟨seg, final, last, closing, status, completed, path, closes, _⟩ :=
        legacy_ends.finish {} state running inside
      refine ⟨_, final, completed.run, completed.free, ?_, ?_⟩
      · refine List.forall_mem_cons.mpr ⟨closes.not_outer, ?_⟩
        exact path.events fun _ _ _ _ _ inner => inner.not_outer
      · refine List.forall_mem_cons.mpr ⟨fun ptr => by cases closes <;> rfl, ?_⟩
        exact path.events fun _ _ _ _ _ inner ptr => by cases inner <;> rfl

/-- With the mutex free, the data is that of a state of `Context`. -/
theorem legacy_free (run : Machine.Run legacyProgram.step { data := {} } trace state)
    (disciplined : Disciplined trace) (free : state.owner = none) :
    ∃ past pc clients, Machine.Run ContextState.step {} past (state.data.context pc clients) ∧
      ∀ thread, StandsAt (state.threads thread) (pc thread) := by
  obtain ⟨past, pc, clients, matched⟩ := (legacy_between run disciplined).2.holds free
  exact ⟨past, pc, clients, matched.run, matched.threads⟩

theorem StandsAt.uses {status : Status LegacyPlace} {ctx : LegacyContext}
    (stands : StandsAt status (.using ctx)) :
    ∃ place : LegacyPlace, status = .running place ∧ place.used = some ctx := by
  cases stands with
  | operation place _ used => exact ⟨place, rfl, used⟩

theorem StandsAt.closes {status : Status LegacyPlace} {ctx : LegacyContext}
    (stands : StandsAt status (.closeWait ctx)) :
    status = .parked (.closeLoop ctx) ∨ status = .woken (.closeLoop ctx) := by
  cases stands with
  | closeParked _ => exact .inl rfl
  | closeWoken _ => exact .inr rfl

/-- The operations ended, and a close that is draining carried through. -/
structure Calm (state : LegacyState) : Prop where
  free : state.owner = none
  active : state.data.activeOperations = 0
  closing : state.data.contextClosing = false

/-- A close that is draining has its thread, which has been woken once no operation is left. -/
theorem closer_settles (run : Machine.Run legacyProgram.step { data := {} } trace state)
    (disciplined : Disciplined trace) (free : state.owner = none)
    (idle : state.data.activeOperations = 0) :
    ∃ later final, Matures state later final ∧ Calm final := by
  by_cases draining : state.data.contextClosing = true
  · obtain ⟨past, pc, clients, context, stands⟩ := legacy_free run disciplined free
    obtain ⟨thread, ctx, waits⟩ := run_drained context draining
    have standing := stands thread
    rw [show pc thread = .closeWait ctx from waits] at standing
    obtain ⟨exclusive, attended⟩ := legacy_signals.run run
    obtain parked | woken := standing.closes
    · have busy := attended.free free parked
        (rfl : legacyProgram.code (.closeLoop ctx) = .await _ _)
      simp [idle] at busy
    · have opens : legacyProgram.Opens (state.threads thread) (.closeLoop ctx) (.closeLoop ctx) :=
        woken ▸ .again _
      have ensures : legacyProgram.Ensures thread (.closeLoop ctx) state.data
          fun _ _ after _ => after.activeOperations = 0 ∧ after.contextClosing = false := by
        refine .await rfl (fun busy => by simp [idle] at busy) fun _ => ?_
        refine (closeClear_ensures pc clients).mono ?_
        rintro calls closing after status ⟨torn, _⟩
        have same := congrArg Prod.fst torn
        exact ⟨(congrArg ContextState.activeOperations same).symm.trans idle,
          (congrArg ContextState.contextClosing same).symm⟩
      obtain ⟨later, final, _, _, onward, quiet, active, closing⟩ :=
        onward_section exclusive free opens ensures
      exact ⟨later, final, ⟨onward.run, onward.free, onward.asked, quiet nofun⟩,
        onward.free, active, closing⟩
  · exact ⟨[], state, ⟨.init, free, List.forall_mem_nil _, List.forall_mem_nil _⟩,
      free, idle, Bool.eq_false_iff.mpr draining⟩

theorem context_settles (run : Machine.Run legacyProgram.step { data := {} } trace state)
    (disciplined : Disciplined trace) :
    ∃ later final, Matures state later final ∧ Calm final := by
  obtain ⟨exclusive, _⟩ := legacy_signals.run run
  obtain ⟨first, freed, release⟩ := owner_settles exclusive
  have run := run.trans release.run
  have disciplined := disciplined.quiet release.quiet
  obtain ⟨past, pc, clients, context, stands⟩ := legacy_free run disciplined release.free
  obtain ⟨users, _, members⟩ := (run_invariant context).counted
  obtain ⟨second, ended, settles, settled⟩ := users_settle users.toList
    (exclusive.run release.run) release.free fun thread place ctx running used => by
      rw [Finset.mem_toList, members]
      exact ⟨ctx, (running ▸ stands thread).using_ctx used⟩
  have run := run.trans settles.run
  have disciplined := disciplined.quiet settles.quiet
  obtain ⟨past, pc, clients, context, stands⟩ := legacy_free run disciplined settles.free
  have idle : ended.data.activeOperations = 0 := by
    obtain ⟨users, size, members⟩ := (run_invariant context).counted
    have nobody : users = ∅ := by
      refine Finset.eq_empty_of_forall_notMem fun thread member => ?_
      obtain ⟨ctx, uses⟩ := (members thread).mp member
      have standing := stands thread
      rw [show pc thread = .using ctx from uses] at standing
      obtain ⟨place, running, used⟩ := standing.uses
      cases (settled thread place running).symm.trans used
    rw [nobody] at size
    exact size.symm
  obtain ⟨third, final, closes, calm⟩ := closer_settles run disciplined settles.free idle
  exact ⟨_, final, (release.trans settles).trans closes, calm⟩

/-! Every call returns -/

theorem done_returns {result : CallResult}
    (done : state.threads thread = .running (.done result)) :
    legacyProgram.Returns state thread := by
  have taken : legacyProgram.step state (.run thread {}) =
      some (state.set thread .idle, .returned thread result) := by
    have instr : legacyProgram.code (.done result) = .ret result := rfl
    simp [Program.step, done, instr]
  exact ⟨_, _, Machine.Run.init.next taken, List.forall_mem_singleton.mpr rfl,
    Function.update_self ..⟩

theorem used_returns (exclusive : legacyProgram.Exclusive state) (free : state.owner = none)
    {place : LegacyPlace} {ctx : LegacyContext} (running : state.threads thread = .running place)
    (used : place.used = some ctx) : legacyProgram.Returns state thread := by
  obtain ⟨later, final, result, onward, _, done⟩ := used_onward exclusive free running used
  exact (done_returns done).behind onward.run onward.asked

/-- Where the section ends with the call or in an operation, the call returns. -/
theorem section_returns (exclusive : legacyProgram.Exclusive state) (free : state.owner = none)
    {place first : LegacyPlace}
    (opens : legacyProgram.Opens (state.threads thread) place first)
    (ensures : legacyProgram.Ensures thread first state.data fun _ _ _ status =>
      (∃ result, status = .running (.done result)) ∨
        ∃ ctx, status = .running (.operating ctx)) : legacyProgram.Returns state thread := by
  obtain ⟨later, final, _, _, onward, _, reached⟩ := onward_section exclusive free opens ensures
  refine Program.Returns.behind ?_ onward.run onward.asked
  obtain ⟨result, done⟩ | ⟨ctx, operating⟩ := reached
  · exact done_returns done
  · exact used_returns (exclusive.run onward.run) onward.free operating rfl

theorem openLoop_ends (calm : Calm state) :
    legacyProgram.Ensures thread .openLoop state.data fun _ _ _ status =>
      (∃ result, status = .running (.done result)) ∨
        ∃ ctx, status = .running (.operating ctx) := by
  refine .await rfl (fun closing => ?_) fun _ => ?_
  · rw [calm.closing] at closing
    cases closing
  · refine (openLookup_ensures none (fun _ => .idle) []).mono ?_
    rintro _ _ _ _ ⟨_, _, result, _, _, _, done⟩
    exact .inl ⟨result, done⟩

theorem closeClear_ends {data : LegacyData} (ctx : LegacyContext) :
    legacyProgram.Ensures thread (.closeClear ctx) data fun _ _ _ status =>
      (∃ result, status = .running (.done result)) ∨
        ∃ ctx, status = .running (.operating ctx) := by
  refine (closeClear_ensures (fun _ => .idle) []).mono ?_
  rintro _ _ _ _ ⟨_, _, _, done⟩
  exact .inl ⟨_, done⟩

theorem closeTest_ends (calm : Calm state) (arg : CloseArg) :
    legacyProgram.Ensures thread (.closeTest arg) state.data fun _ _ _ status =>
      (∃ result, status = .running (.done result)) ∨
        ∃ ctx, status = .running (.operating ctx) := by
  have idle := calm.active
  have unlocks {data : LegacyData} {ret : Int32} :
      legacyProgram.Ensures thread (.closeUnlock ret) data fun _ _ _ status =>
        (∃ result, status = .running (.done result)) ∨
          ∃ ctx, status = .running (.operating ctx) := .unlock rfl (.inl ⟨_, rfl⟩)
  refine update_ensures rfl ?_
  split
  · split
    · exact unlocks
    · split
      · exact unlocks
      · refine update_ensures rfl ?_
        dsimp only
        split
        · exact unlocks
        · refine update_ensures rfl (.await rfl (fun busy => ?_) fun _ => closeClear_ends _)
          simp [idle] at busy
  · exact unlocks

theorem calm_returns (exclusive : legacyProgram.Exclusive state)
    (attended : legacyProgram.Attended LegacyPlace.owes state) (calm : Calm state)
    {pc : ContextPc} (stands : StandsAt (state.threads thread) pc) :
    legacyProgram.Returns state thread := by
  have fits := exclusive thread
  rw [calm.free, decide_eq_false (by simp)] at fits
  generalize standing : state.threads thread = status at stands fits
  cases stands with
  | idle => exact ⟨[], state, .init, List.forall_mem_nil _, standing⟩
  | operation place ctx used => exact used_returns exclusive calm.free standing used
  | openParked since =>
      have closing := attended.free calm.free standing
        (rfl : legacyProgram.code .openLoop = .await _ _)
      cases calm.closing.symm.trans closing
  | openWoken since =>
      have opens : legacyProgram.Opens (state.threads thread) .openLoop .openLoop :=
        standing ▸ .again _
      exact section_returns exclusive calm.free opens (openLoop_ends calm)
  | closeParked ctx =>
      have busy := attended.free calm.free standing
        (rfl : legacyProgram.code (.closeLoop ctx) = .await _ _)
      simp [calm.active] at busy
  | closeWoken ctx =>
      have opens : legacyProgram.Opens (state.threads thread) (.closeLoop ctx) (.closeLoop ctx) :=
        standing ▸ .again _
      refine section_returns exclusive calm.free opens ?_
      exact .await rfl (fun busy => by simp [calm.active] at busy) fun _ => closeClear_ends ctx
  | outside place used =>
      cases place with
      | openLock =>
          have opens : legacyProgram.Opens (state.threads thread) .openLock .openLoop :=
            standing ▸ .lock _ _ rfl
          exact section_returns exclusive calm.free opens (openLoop_ends calm)
      | useLock =>
          have opens : legacyProgram.Opens (state.threads thread) .useLock .useTest :=
            standing ▸ .lock _ _ rfl
          refine section_returns exclusive calm.free opens (update_ensures rfl ?_)
          split
          · exact .unlock rfl (.inl ⟨_, rfl⟩)
          · exact update_ensures rfl (.unlock rfl (.inr ⟨_, rfl⟩))
      | debugLock operation =>
          cases used
          have opens : legacyProgram.Opens (state.threads thread) (.debugLock none)
              (.debugSet none) := standing ▸ .lock _ _ rfl
          refine section_returns exclusive calm.free opens (.act rfl ?_)
          intro reply after notes next answered
          cases answered
          exact .unlock rfl (.inl ⟨_, rfl⟩)
      | outLock operation =>
          cases used
          have opens : legacyProgram.Opens (state.threads thread) (.outLock none)
              (.outRead none) := standing ▸ .lock _ _ rfl
          refine section_returns exclusive calm.free opens (update_ensures rfl ?_)
          exact .unlock rfl (.inl ⟨_, rfl⟩)
      | closeLock arg =>
          have opens : legacyProgram.Opens (state.threads thread) (.closeLock arg)
              (.closeTest arg) := standing ▸ .lock _ _ rfl
          exact section_returns exclusive calm.free opens (closeTest_ends calm arg)
      | done result => exact done_returns standing
      | operating _ | endLock _ => cases used
      | _ => cases fits

theorem legacy_call_returns (run : Machine.Run legacyProgram.step { data := {} } trace state)
    (disciplined : Disciplined trace) (thread : Thread) : legacyProgram.Returns state thread := by
  obtain ⟨later, settled, settles, calm⟩ := context_settles run disciplined
  obtain ⟨exclusive, attended⟩ := legacy_signals.run (run.trans settles.run)
  obtain ⟨_, pc, _, _, stands⟩ :=
    legacy_free (run.trans settles.run) (disciplined.quiet settles.quiet) calm.free
  exact (calm_returns exclusive attended calm (stands thread)).behind settles.run settles.asked

/-- From wherever the threads have come to, in whatever order, the call of any of them can be
brought to its end with no further call and no wake-up that nobody asked for: none waits for what
has come already, and no two of them wait for each other. -/
theorem legacy_returns (run : Machine.Run legacyProgram.step { data := {} } trace state)
    (disciplined : Disciplined trace) (thread : Thread) :
    ∃ later final, Machine.Run legacyProgram.step state later final ∧
      (∀ event ∈ later, event.outer = false) ∧ final.threads thread = .idle :=
  legacy_call_returns run disciplined thread

theorem legacy_returns_draining :
    ∃ trace state, Machine.Run legacyProgram.step { data := {} } trace state ∧
      state.threads 0 = .parked (.closeLoop ⟨0x1000, 3, 0⟩) ∧ state.threads 2 = .parked .openLoop ∧
      ∃ later final, Machine.Run legacyProgram.step state later final ∧
        final.threads 2 = .idle := by
  have run := Machine.Run.of_exec legacyProgram.step { data := {} } drainingOps rfl
  obtain ⟨later, final, onwards, _, idle⟩ := legacy_returns run (by decide +kernel) 2
  exact ⟨_, _, run, rfl, rfl, later, final, onwards, idle⟩

end LibRga

import LibRga.Library.Sections

/-!
Monitors whose threads do not wait for ever: whoever frees a waiting thread
broadcasts before it gives the mutex up, and every section comes to its end.
-/

namespace LibRga.Monitor.Program

variable {τ ι σ ρ ℓ ε α : Type} {program : Program ι σ ρ ℓ ε α} {event : Event τ ι ℓ ε α}

section Steps

variable [DecidableEq τ] {state after : State τ σ ℓ}

/-- Whoever frees a waiting thread owes a broadcast until it gives the mutex up. -/
structure Signals (program : Program ι σ ρ ℓ ε α) (owes : ℓ → Bool) : Prop where
  act : ∀ place effect data reply after notes next, program.code place = .act effect →
    effect data reply = some (after, notes, next) → owes next = true ∨ owes place = false ∧
      ∀ waiting blocked later, program.code waiting = .await blocked later →
        blocked data = true → blocked after = true
  await : ∀ place blocked next, program.code place = .await blocked next → owes place = false
  unlock : ∀ place next, program.code place = .unlock next → owes place = false

/-- Whoever is parked waits for what has not come, or is about to be woken. -/
def Attended (program : Program ι σ ρ ℓ ε α) (owes : ℓ → Bool) (state : State τ σ ℓ) : Prop :=
  ∀ thread place blocked next, state.threads thread = .parked place →
    program.code place = .await blocked next → blocked state.data = true ∨
      ∃ owner here, state.owner = some owner ∧ state.threads owner = .running here ∧
        owes here = true

variable {owes : ℓ → Bool}

omit [DecidableEq τ] in
theorem Attended.free (attended : program.Attended owes state) (free : state.owner = none)
    {thread : τ} {place next : ℓ} {blocked : σ → Bool}
    (parked : state.threads thread = .parked place)
    (code : program.code place = .await blocked next) : blocked state.data = true := by
  obtain waits | ⟨owner, _, held, _⟩ := attended thread place blocked next parked code
  · exact waits
  · rw [free] at held
    cases held

theorem Attended.running (attended : program.Attended owes state)
    (exclusive : program.Exclusive state) {thread : τ} {here : ℓ}
    (running : state.threads thread = .running here) (inside : program.inside here = true)
    (settled : owes here = false) (other : τ) {place next : ℓ} {blocked : σ → Bool}
    (parked : state.threads other = .parked place)
    (code : program.code place = .await blocked next) : blocked state.data = true := by
  obtain waits | ⟨owner, there, held, standing, owing⟩ :=
    attended other place blocked next parked code
  · exact waits
  · have owns := exclusive.owns running inside
    obtain rfl : owner = thread := Option.some.inj (held.symm.trans owns)
    rw [running] at standing
    cases standing
    rw [settled] at owing
    cases owing

theorem Attended.roam (attended : program.Attended owes state) (exclusive : program.Exclusive state)
    {thread : τ} {status : Status ℓ}
    (roams : program.Roams thread (state.threads thread) event status) :
    program.Attended owes (state.set thread status) := by
  intro other place blocked next parked code
  rw [State.set_threads] at parked
  have before : state.threads other = .parked place := by
    by_cases acting : other = thread
    · rw [acting, Function.update_self] at parked
      rw [parked] at roams
      generalize state.threads thread = before at roams
      cases roams
    · rwa [Function.update_of_ne acting] at parked
  obtain waits | ⟨owner, here, held, running, owing⟩ :=
    attended other place blocked next before code
  · exact .inl waits
  · refine .inr ⟨owner, here, held, ?_, owing⟩
    have elsewhere : owner ≠ thread := by
      rintro rfl
      have apart := (roams.fits (exclusive owner)).1
      rw [held, decide_eq_true rfl] at apart
      cases apart
    rwa [State.set_threads, Function.update_of_ne elsewhere]

theorem Attended.inner (attended : program.Attended owes state) (signals : program.Signals owes)
    (exclusive : program.Exclusive state) {thread : τ} {here later : ℓ} {data : σ}
    (running : state.threads thread = .running here)
    (inner : program.Inner thread state.data here event data later) :
    program.Attended owes ({ if wakes event then state.wakeAll else state with data := data }.set
      thread (.running later)) := by
  intro other place blocked next parked code
  rw [State.set_threads] at parked
  have apart : other ≠ thread := by
    rintro rfl
    rw [Function.update_self] at parked
    cases parked
  rw [Function.update_of_ne apart] at parked
  have inside := inner.fits.1
  cases inner with
  | broadcast _ _ =>
      have woken : (state.threads other).wake = .parked place := parked
      cases before : state.threads other <;> rw [before] at woken <;> cases woken
  | passed _ _ awaits _ =>
      exact .inl (attended.running exclusive running inside (signals.await _ _ _ awaits) other
        parked code)
  | acted effect reply _ notes _ acts answered =>
      obtain owing | ⟨settled, blocks⟩ := signals.act _ _ _ _ _ _ _ acts answered
      · exact .inr ⟨thread, later, exclusive.owns running inside, Function.update_self .., owing⟩
      · refine .inl (blocks place blocked next code ?_)
        exact attended.running exclusive running inside settled other parked code

theorem Attended.close (attended : program.Attended owes state) (signals : program.Signals owes)
    (exclusive : program.Exclusive state) {thread : τ} {here : ℓ} {status : Status ℓ}
    (running : state.threads thread = .running here)
    (closes : program.Closes thread state.data here event status) :
    program.Attended owes ({ state with owner := none }.set thread status) := by
  intro other place blocked next parked code
  rw [State.set_threads] at parked
  have inside := closes.fits.1
  by_cases acting : other = thread
  · rw [acting, Function.update_self] at parked
    cases closes with
    | unlocked _ _ => cases parked
    | parked tested _ awaits waits =>
        cases parked
        rw [awaits] at code
        cases code
        exact .inl waits
  · rw [Function.update_of_ne acting] at parked
    have settled : owes here = false := by
      cases closes with
      | unlocked _ unlocks => exact signals.unlock here _ unlocks
      | parked _ _ awaits _ => exact signals.await here _ _ awaits
    exact .inl (attended.running exclusive running inside settled other parked code)

/-- Nobody waits for what has come already. -/
theorem Signals.run (signals : program.Signals owes) {data : σ}
    {trace : List (Event τ ι ℓ ε α)}
    (run : Machine.Run program.step { data := data } trace state) :
    program.Exclusive state ∧ program.Attended owes state := by
  refine run.invariant (P := fun _ state => program.Exclusive state ∧ program.Attended owes state)
    ⟨exclusive_start program data, fun _ _ _ _ parked => by cases parked⟩ ?_
  rintro past before op after event _ ⟨exclusive, attended⟩ taken
  have stepped := step_stepped taken
  refine ⟨stepped.exclusive exclusive, ?_⟩
  cases stepped with
  | roams thread event status roams => exact attended.roam exclusive roams
  | opens thread entry first free opens =>
      intro other place blocked next parked code
      rw [State.set_threads] at parked
      by_cases acting : other = thread
      · rw [acting, Function.update_self] at parked
        cases parked
      · rw [Function.update_of_ne acting] at parked
        exact .inl (attended.free free parked code)
  | inner thread event here later data running inner =>
      exact attended.inner signals exclusive running inner
  | closes thread event here status running closes =>
      exact attended.close signals exclusive running closes

/-! Progress -/

/-- Every section comes to its end: the system has an answer for each access, and no loop stays
inside. -/
structure Ends (program : Program ι σ ρ ℓ ε α) (rank : ℓ → Nat) : Prop where
  act : ∀ place effect, program.code place = .act effect →
    (∀ data, ∃ reply, (effect data reply).isSome = true) ∧
      ∀ data reply after notes next, effect data reply = some (after, notes, next) →
        rank next < rank place
  await : ∀ place blocked next, program.code place = .await blocked next → rank next < rank place
  broadcast : ∀ place next, program.code place = .broadcast next → rank next < rank place

omit [DecidableEq τ] in
theorem Path.head {thread : τ} {data mid after : σ} {first second last : ℓ}
    {seg : List (Event τ ι ℓ ε α)} (inner : program.Inner thread data first event mid second)
    (path : program.Path thread mid second seg after last) :
    program.Path thread data first (seg ++ [event]) after last := by
  induction path with
  | init => exact .next .init inner
  | next _ further ih => exact ih.next further

/-- A section run to its end: the mutex is free again, and the others have not moved. -/
structure Completed (program : Program ι σ ρ ℓ ε α) (state : State τ σ ℓ) (thread : τ)
    (seg : List (Event τ ι ℓ ε α)) (final : State τ σ ℓ) : Prop where
  run : Machine.Run program.step state seg final
  free : final.owner = none
  others : ∀ other, other ≠ thread → (state.threads other).Stays (final.threads other)

omit [DecidableEq τ] in
/-- Inside a section there is a step that goes on in it, or one that ends it. -/
theorem Ends.onwards {rank : ℓ → Nat} (ends : program.Ends rank) {here : ℓ}
    (inside : program.inside here = true) (thread : τ) (data : σ) :
    (∃ event status, program.Closes (ι := ι) (ε := ε) (α := α) thread data here event status) ∨
      ∃ event after later, program.Inner thread data here event after later ∧
        rank later < rank here := by
  have fits := program.fits here
  cases code : program.code here with
  | lock _ | choose _ =>
      rw [code, inside] at fits
      cases fits.1
  | ret _ =>
      rw [code, inside] at fits
      cases fits
  | unlock next => exact .inl ⟨_, _, .unlocked next code⟩
  | await blocked next =>
      cases waits : blocked data with
      | true => exact .inl ⟨_, _, .parked blocked next code waits⟩
      | false => exact .inr ⟨_, _, _, .passed blocked next code waits, ends.await _ _ _ code⟩
  | broadcast next => exact .inr ⟨_, _, _, .broadcast next code, ends.broadcast _ _ code⟩
  | act effect =>
      obtain ⟨answers, lower⟩ := ends.act here effect code
      obtain ⟨reply, answered⟩ := answers data
      obtain ⟨⟨after, notes, next⟩, answered⟩ := Option.isSome_iff_exists.mp answered
      exact .inr ⟨_, _, _, .acted effect reply after notes next code answered,
        lower data reply after notes next answered⟩

section

variable (any : ρ) {thread : τ}

include any

theorem Opens.step {place next : ℓ} (free : state.owner = none)
    (opens : program.Opens (state.threads thread) place next) :
    ∃ op, program.step state op = some
      ({ state with owner := some thread }.set thread (.running next), .locked thread place) := by
  refine ⟨.run thread any, ?_⟩
  generalize standing : state.threads thread = status at opens
  cases opens with
  | lock _ _ code => simp [Program.step, standing, code, free]
  | again _ => simp [Program.step, standing, free]

theorem Inner.step {here later : ℓ} {data : σ} (running : state.threads thread = .running here)
    (inner : program.Inner thread state.data here event data later) :
    ∃ op, program.step state op = some
      ({ if wakes event then state.wakeAll else state with data := data }.set thread
        (.running later), event) := by
  cases inner with
  | acted effect reply _ notes _ code answered =>
      exact ⟨.run thread reply, by simp [Program.step, running, code, answered, wakes]⟩
  | passed blocked _ code goes =>
      exact ⟨.run thread any, by simp [Program.step, running, code, goes, wakes]⟩
  | broadcast _ code =>
      exact ⟨.run thread any, by simp [Program.step, running, code, wakes, State.wakeAll]⟩

theorem Closes.step {here : ℓ} {status : Status ℓ} (running : state.threads thread = .running here)
    (closes : program.Closes thread state.data here event status) :
    ∃ op, program.step state op =
      some ({ state with owner := none }.set thread status, event) := by
  refine ⟨.run thread any, ?_⟩
  cases closes with
  | unlocked _ code => simp [Program.step, running, code]
  | parked _ _ code waits => simp [Program.step, running, code, waits]

theorem Ends.finish {rank : ℓ → Nat} (ends : program.Ends rank) (state : State τ σ ℓ) {here : ℓ}
    (running : state.threads thread = .running here) (inside : program.inside here = true) :
    ∃ seg final last closing status, program.Completed state thread (closing :: seg) final ∧
      program.Path thread state.data here seg final.data last ∧
      program.Closes thread final.data last closing status ∧ final.threads thread = status := by
  induction bound : rank here using Nat.strong_induction_on generalizing state here with
  | _ _ ih =>
    subst bound
    obtain ⟨event, status, closes⟩ | ⟨event, data, later, inner, lower⟩ :=
      ends.onwards (ι := ι) inside thread state.data
    · obtain ⟨op, taken⟩ := closes.step any running
      exact ⟨[], _, here, event, status, ⟨Machine.Run.init.next taken, rfl,
        fun other different => .inl (Function.update_of_ne different ..)⟩, .init, closes,
        Function.update_self ..⟩
    · obtain ⟨op, taken⟩ := inner.step any running
      obtain ⟨seg, final, last, closing, status, completed, path, closes, reached⟩ :=
        ih (rank later) lower ({ if wakes event then state.wakeAll else state with
          data := data }.set thread (.running later)) (Function.update_self ..) inner.fits.2 rfl
      refine ⟨seg ++ [event], final, last, closing, status,
        ⟨(Machine.Run.init.next taken).trans completed.run, completed.free, ?_⟩,
        path.head inner, closes, reached⟩
      intro other different
      refine Status.Stays.trans ?_ (completed.others other different)
      rw [State.set_threads, Function.update_of_ne different]
      by_cases waking : wakes event = true
      · rw [if_pos waking]
        exact .inr rfl
      · rw [if_neg waking]
        exact .inl rfl

/-- With the mutex free, a thread at a section can be run through it. -/
theorem Ends.section {rank : ℓ → Nat} (ends : program.Ends rank)
    (exclusive : program.Exclusive state) (free : state.owner = none) {place first : ℓ}
    {post : List ε → Event τ ι ℓ ε α → σ → Status ℓ → Prop}
    (opens : program.Opens (state.threads thread) place first)
    (ensures : program.Ensures thread first state.data post) :
    ∃ seg final notes last closing, program.Completed state thread
        (closing :: (seg ++ [.locked thread place])) final ∧
      program.Path thread state.data first seg final.data last ∧
      program.Closes thread final.data last closing (final.threads thread) ∧
      post notes closing final.data (final.threads thread) := by
  obtain ⟨op, taken⟩ := opens.step any free
  have inside := opens.fits (exclusive thread)
  obtain ⟨seg, final, last, closing, status, completed, path, closes, reached⟩ :=
    ends.finish any ({ state with owner := some thread }.set thread (.running first))
      (Function.update_self ..) inside
  refine ⟨seg, final, _, last, closing,
    ⟨(Machine.Run.init.next taken).trans completed.run, completed.free, ?_⟩, path,
    reached ▸ closes, reached ▸ ensures.closed path closes⟩
  intro other different
  refine Status.Stays.trans (.inl ?_) (completed.others other different)
  exact Function.update_of_ne different ..

end

end Steps

end LibRga.Monitor.Program

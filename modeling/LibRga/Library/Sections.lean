import LibRga.Library.Monitor

/-!
Monitors by their critical sections: what one section does, and what whole
sections keep of a run whose threads step at every instruction.
-/

namespace LibRga.Monitor.Program

variable {τ ι σ ρ ℓ ε α : Type} {program : Program ι σ ρ ℓ ε α} {event : Event τ ι ℓ ε α}

section Steps

variable [DecidableEq τ] {state after : State τ σ ℓ}

/-- What the holder of the mutex has done so far, the latest first. -/
inductive Path (program : Program ι σ ρ ℓ ε α) (thread : τ) (data : σ) (first : ℓ) :
    List (Event τ ι ℓ ε α) → σ → ℓ → Prop
  | init : Path program thread data first [] data first
  | next {past : List (Event τ ι ℓ ε α)} {now after : σ} {here later : ℓ}
      {event : Event τ ι ℓ ε α} : Path program thread data first past now here →
      program.Inner thread now here event after later →
      Path program thread data first (event :: past) after later

/-- From taking the mutex to giving it up. -/
inductive Section (program : Program ι σ ρ ℓ ε α) (thread : τ) (data : σ) (before : Status ℓ) :
    List (Event τ ι ℓ ε α) → σ → Status ℓ → Prop
  | mk {place first last : ℓ} {seg : List (Event τ ι ℓ ε α)} {after : σ}
      {event : Event τ ι ℓ ε α} {status : Status ℓ} : program.Opens before place first →
      program.Path thread data first seg after last →
      program.Closes thread after last event status →
      Section program thread data before (event :: (seg ++ [.locked thread place])) after status

/-- What whole sections keep of the events with the mutex, the data and the threads. -/
structure KeptBySections (program : Program ι σ ρ ℓ ε α)
    (R : List (Event τ ι ℓ ε α) → σ → (τ → Status ℓ) → Prop) : Prop where
  roams : ∀ past data threads thread event status, R past data threads →
    program.Roams thread (threads thread) event status →
    R past data (Function.update threads thread status)
  wakes : ∀ past data threads, R past data threads →
    R past data fun thread => (threads thread).wake
  sections : ∀ past data threads thread seg after status, R past data threads →
    program.Section thread data (threads thread) seg after status →
    R (seg ++ past) after (Function.update threads thread status)

/-- What holds between the sections, of a state in which a thread may be inside one. -/
inductive Between (program : Program ι σ ρ ℓ ε α)
    (R : List (Event τ ι ℓ ε α) → σ → (τ → Status ℓ) → Prop) (state : State τ σ ℓ) :
    List (Event τ ι ℓ ε α) → Prop
  | free {history : List (Event τ ι ℓ ε α)} : state.owner = none →
      R history state.data state.threads → Between program R state history
  | held (thread : τ) (place first here : ℓ) (seg past : List (Event τ ι ℓ ε α)) (data : σ)
      (threads : τ → Status ℓ) : state.owner = some thread → R past data threads →
      (∀ other, other ≠ thread → threads other = state.threads other) →
      program.Opens (threads thread) place first →
      program.Path thread data first seg state.data here →
      state.threads thread = .running here →
      Between program R state (seg ++ .locked thread place :: past)

variable {R : List (Event τ ι ℓ ε α) → σ → (τ → Status ℓ) → Prop}
  {history : List (Event τ ι ℓ ε α)}

omit [DecidableEq τ] in
theorem Between.holds (between : Between program R state history) (free : state.owner = none) :
    R history state.data state.threads := by
  cases between with
  | free _ holds => exact holds
  | held _ _ _ _ _ _ _ _ held =>
      rw [free] at held
      cases held

theorem Between.roam (kept : KeptBySections program R)
    (between : Between program R state history) (exclusive : program.Exclusive state) {thread : τ}
    {status : Status ℓ} (roams : program.Roams thread (state.threads thread) event status) :
    Between program R (state.set thread status) history := by
  cases between with
  | free free holds =>
      exact .free free (kept.roams history state.data state.threads thread event status holds roams)
  | held owner place first here seg past data threads held holds others opens path running =>
      have elsewhere : thread ≠ owner := by
        rintro rfl
        have apart := (roams.fits (exclusive thread)).1
        rw [held, decide_eq_true rfl] at apart
        cases apart
      refine .held owner place first here seg past data (Function.update threads thread status) held
        ?_ (fun other different => ?_) ?_ path ?_
      · refine kept.roams past data threads thread event status holds ?_
        rwa [others thread elsewhere]
      · rw [State.set_threads]
        by_cases acting : other = thread
        · rw [acting, Function.update_self, Function.update_self]
        · rw [Function.update_of_ne acting, Function.update_of_ne acting]
          exact others other different
      · rwa [Function.update_of_ne elsewhere.symm]
      · rwa [State.set_threads, Function.update_of_ne elsewhere.symm]

theorem Between.inner (kept : KeptBySections program R)
    (between : Between program R state history) (exclusive : program.Exclusive state) {thread : τ}
    {place next : ℓ} {later : σ} (running : state.threads thread = .running place)
    (inner : program.Inner thread state.data place event later next) :
    Between program R ({ if wakes event then state.wakeAll else state with data := later }.set
      thread (.running next)) (event :: history) := by
  have owns := exclusive.owns running inner.fits.1
  cases between with
  | free free _ => rw [free] at owns; cases owns
  | held owner entry first here seg past data threads held holds others opens path there =>
      obtain rfl : owner = thread := Option.some.inj (held.symm.trans owns)
      obtain rfl : here = place := by
        rw [running] at there
        cases there
        rfl
      have further : program.Path owner data first (event :: seg) later next := path.next inner
      by_cases waking : wakes event = true
      · rw [if_pos waking]
        refine .held owner entry first next (event :: seg) past data
          (fun other => (threads other).wake) held (kept.wakes past data threads holds)
          (fun other different => ?_) ?_ further (Function.update_self ..)
        · rw [State.set_threads, Function.update_of_ne different, others other different]
          rfl
        · rwa [opens.wake]
      · rw [if_neg waking]
        refine .held owner entry first next (event :: seg) past data threads held holds
          (fun other different => ?_) opens further (Function.update_self ..)
        rw [others other different]
        exact (Function.update_of_ne different ..).symm

theorem Between.close (kept : KeptBySections program R)
    (between : Between program R state history) (exclusive : program.Exclusive state) {thread : τ}
    {place : ℓ} {status : Status ℓ} (running : state.threads thread = .running place)
    (closes : program.Closes thread state.data place event status) :
    Between program R ({ state with owner := none }.set thread status) (event :: history) := by
  have owns := exclusive.owns running closes.fits.1
  cases between with
  | free free _ => rw [free] at owns; cases owns
  | held owner entry first here seg past data threads held holds others opens path there =>
      obtain rfl : owner = thread := Option.some.inj (held.symm.trans owns)
      obtain rfl : here = place := by
        rw [running] at there
        cases there
        rfl
      have all := kept.sections past data threads owner _ state.data status holds
        (.mk opens path closes)
      refine .free rfl ?_
      have same : Function.update threads owner status =
          Function.update state.threads owner status := by
        funext other
        by_cases acting : other = owner
        · rw [acting, Function.update_self, Function.update_self]
        · rw [Function.update_of_ne acting, Function.update_of_ne acting]
          exact others other acting
      rw [same, List.cons_append, List.append_assoc] at all
      exact all

/-- What holds at first and is kept by whole sections holds between the sections of every run. -/
theorem KeptBySections.run (kept : KeptBySections program R) {data : σ}
    (base : R [] data fun _ => .idle) {trace : List (Event τ ι ℓ ε α)}
    (run : Machine.Run program.step { data := data } trace state) :
    program.Exclusive state ∧ Between program R state (trace.filter Event.guarded) := by
  refine run.invariant (P := fun trace state =>
    program.Exclusive state ∧ Between program R state (trace.filter Event.guarded)) ?_ ?_
  · exact ⟨exclusive_start program data, .free rfl base⟩
  · rintro past before op after event _ ⟨exclusive, between⟩ taken
    have stepped := step_stepped taken
    refine ⟨stepped.exclusive exclusive, ?_⟩
    cases stepped with
    | roams thread event status roams =>
        rw [List.filter_cons_of_neg (by simp [roams.unguarded])]
        exact between.roam kept exclusive roams
    | opens thread place next free opens =>
        rw [List.filter_cons_of_pos rfl]
        exact .held thread place next next [] _ before.data before.threads rfl (between.holds free)
          (fun other different => (Function.update_of_ne different ..).symm) opens .init
          (Function.update_self ..)
    | inner thread event place next later running inner =>
        rw [List.filter_cons_of_pos inner.guarded]
        exact between.inner kept exclusive running inner
    | closes thread event place status running closes =>
        rw [List.filter_cons_of_pos closes.guarded]
        exact between.close kept exclusive running closes

/-! Reasoning about one section -/

omit [DecidableEq τ] in
theorem Path.front {thread : τ} {data after : σ} {first last : ℓ} {seg : List (Event τ ι ℓ ε α)}
    (path : program.Path thread data first seg after last) :
    seg = [] ∧ after = data ∧ last = first ∨ ∃ event mid second rest,
      program.Inner thread data first event mid second ∧
        program.Path thread mid second rest after last ∧ seg = rest ++ [event] := by
  induction path with
  | init => exact .inl ⟨rfl, rfl, rfl⟩
  | @next past now after here later event _ inner ih =>
      right
      obtain ⟨rfl, rfl, rfl⟩ | ⟨earlier, mid, second, rest, first, path, rfl⟩ := ih
      · exact ⟨event, after, later, [], inner, .init, rfl⟩
      · exact ⟨earlier, mid, second, event :: rest, first, path.next inner, rfl⟩

omit [DecidableEq τ] in
/-- What holds of every step inside a section. -/
theorem Path.events {thread : τ} {data after : σ} {first last : ℓ} {seg : List (Event τ ι ℓ ε α)}
    {Q : Event τ ι ℓ ε α → Prop} (path : program.Path thread data first seg after last)
    (each : ∀ now here event later next,
      program.Inner thread now here event later next → Q event) : ∀ event ∈ seg, Q event := by
  induction path with
  | init => exact List.forall_mem_nil _
  | next _ inner ih => exact List.forall_mem_cons.mpr ⟨each _ _ _ _ _ inner, ih⟩

/-- However the rest of the section goes, `post` holds of what its accesses note, of the event that
ends it, of the data then and of the status of the thread. -/
inductive Ensures (program : Program ι σ ρ ℓ ε α) (thread : τ) :
    ℓ → σ → (List ε → Event τ ι ℓ ε α → σ → Status ℓ → Prop) → Prop
  | unlock {place next : ℓ} {data : σ} {post : List ε → Event τ ι ℓ ε α → σ → Status ℓ → Prop} :
      program.code place = .unlock next → post [] (.unlocked thread place) data (.running next) →
      Ensures program thread place data post
  | await {place next : ℓ} {blocked : σ → Bool} {data : σ}
      {post : List ε → Event τ ι ℓ ε α → σ → Status ℓ → Prop} :
      program.code place = .await blocked next →
      (blocked data = true → post [] (.parked thread place) data (.parked place)) →
      (blocked data = false → Ensures program thread next data post) →
      Ensures program thread place data post
  | broadcast {place next : ℓ} {data : σ}
      {post : List ε → Event τ ι ℓ ε α → σ → Status ℓ → Prop} :
      program.code place = .broadcast next → Ensures program thread next data post →
      Ensures program thread place data post
  | act {place : ℓ} {effect : σ → ρ → Option (σ × List ε × ℓ)} {data : σ}
      {post : List ε → Event τ ι ℓ ε α → σ → Status ℓ → Prop} :
      program.code place = .act effect →
      (∀ reply after notes next, effect data reply = some (after, notes, next) →
        Ensures program thread next after fun rest => post (notes ++ rest)) →
      Ensures program thread place data post

omit [DecidableEq τ] in
theorem Ensures.mono {thread : τ} {place : ℓ} {data : σ}
    {post weaker : List ε → Event τ ι ℓ ε α → σ → Status ℓ → Prop}
    (ensures : program.Ensures thread place data post)
    (implies : ∀ notes closing after status, post notes closing after status →
      weaker notes closing after status) : program.Ensures thread place data weaker := by
  induction ensures generalizing weaker with
  | unlock code holds => exact .unlock code (implies _ _ _ _ holds)
  | await code waits _ ih =>
      exact .await code (fun blocked => implies _ _ _ _ (waits blocked)) fun goes =>
        ih goes implies
  | broadcast code _ ih => exact .broadcast code (ih implies)
  | act code _ ih =>
      exact .act code fun reply after notes next answered =>
        ih reply after notes next answered fun rest closing after status =>
          implies (notes ++ rest) closing after status

omit [DecidableEq τ] in
theorem Ensures.closed {thread : τ} {data after : σ} {first last : ℓ}
    {post : List ε → Event τ ι ℓ ε α → σ → Status ℓ → Prop} {seg : List (Event τ ι ℓ ε α)}
    {status : Status ℓ} (ensures : program.Ensures thread first data post)
    (path : program.Path thread data first seg after last)
    (closes : program.Closes thread after last event status) :
    post (seg.reverse.flatMap Event.notes) event after status := by
  induction ensures generalizing seg with
  | @unlock place next data post code holds =>
      obtain ⟨rfl, rfl, rfl⟩ | ⟨_, _, _, _, inner, _, _⟩ := path.front
      · cases closes with
        | unlocked _ same =>
            rw [code] at same
            cases same
            exact holds
        | parked _ _ same _ => rw [code] at same; cases same
      · cases inner with
        | acted _ _ _ _ _ same _ | passed _ _ same _ | broadcast _ same =>
            rw [code] at same
            cases same
  | @await place next blocked data post code waits _ ih =>
      obtain ⟨rfl, rfl, rfl⟩ | ⟨_, _, _, rest, inner, further, rfl⟩ := path.front
      · cases closes with
        | unlocked _ same => rw [code] at same; cases same
        | parked _ _ same blocked =>
            rw [code] at same
            cases same
            exact waits blocked
      · cases inner with
        | passed _ _ same goes =>
            rw [code] at same
            cases same
            rw [List.reverse_append]
            exact ih goes further
        | acted _ _ _ _ _ same _ | broadcast _ same =>
            rw [code] at same
            cases same
  | @broadcast place next data post code _ ih =>
      obtain ⟨rfl, rfl, rfl⟩ | ⟨_, _, _, rest, inner, further, rfl⟩ := path.front
      · cases closes with
        | unlocked _ same | parked _ _ same _ => rw [code] at same; cases same
      · cases inner with
        | broadcast _ same =>
            rw [code] at same
            cases same
            rw [List.reverse_append]
            exact ih further
        | acted _ _ _ _ _ same _ | passed _ _ same _ =>
            rw [code] at same
            cases same
  | @act place effect data post code _ ih =>
      obtain ⟨rfl, rfl, rfl⟩ | ⟨_, _, _, rest, inner, further, rfl⟩ := path.front
      · cases closes with
        | unlocked _ same | parked _ _ same _ => rw [code] at same; cases same
      · cases inner with
        | acted _ reply _ notes _ same answered =>
            rw [code] at same
            cases same
            rw [List.reverse_append]
            exact ih reply _ notes _ answered further
        | broadcast _ same | passed _ _ same _ =>
            rw [code] at same
            cases same

end Steps

end LibRga.Monitor.Program

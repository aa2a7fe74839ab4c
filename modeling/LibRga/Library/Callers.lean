import LibRga.Library.Monitor

/-!
Callers: threads whose own code calls into a monitor. What they share beside the
monitor has a lock of its own, which a caller may keep over its calls.

What is proved here: what the threads do in the monitor is one of its runs;
exactly the holder of the lock is between taking it and giving it up; and where
no call into the monitor waits for ever and no job goes on for ever by itself,
every job can be brought to its end.
-/

namespace LibRga.Monitor

variable {τ ι σ ρ ℓ ε α κ ω π μ β : Type}

/-- What a caller does next: to what is shared, with an answer of the environment, or in a call. -/
inductive CallerTurn (ι α κ ω μ β : Type) where
  | lock (next : μ)
  | unlock (next : μ)
  | own (effect : κ → ω → κ × μ)
  | read (next : κ → μ)
  | call (entry : ι) (resume : α → μ)
  | ret (result : β)

/-- The turn of a place that has the lock (`here`) or has not, against the places it leads to. -/
def CallerTurn.Fits (inside : μ → Bool) (here : Bool) : CallerTurn ι α κ ω μ β → Prop
  | lock next => here = false ∧ inside next = true
  | unlock next => here = true ∧ inside next = false
  | own effect => here = true ∧ ∀ shared reply, inside (effect shared reply).2 = true
  | read next => ∀ shared, inside (next shared) = here
  | call _ resume => ∀ result, inside (resume result) = here
  | ret _ => here = false

/-- What a turn of the thread makes of the lock. -/
def CallerTurn.Relocks (thread : τ) (before after : Option τ) : CallerTurn ι α κ ω μ β → Prop
  | .lock _ => before = none ∧ after = some thread
  | .unlock _ => after = none
  | _ => after = before

def CallerTurn.Leads (next : μ) : CallerTurn ι α κ ω μ β → Prop
  | .lock place | .unlock place => next = place
  | .own effect => ∃ shared reply, next = (effect shared reply).2
  | .read place => ∃ shared, next = place shared
  | .call _ resume => ∃ result, next = resume result
  | .ret _ => False

structure Callers (ι α κ ω π μ β : Type) where
  start : π → μ
  code : μ → CallerTurn ι α κ ω μ β
  /-- The places that are reached with the lock. -/
  inside : μ → Bool
  outside_first : ∀ job, inside (start job) = false
  fits : ∀ place, (code place).Fits inside (inside place)

inductive Activity (μ : Type) where
  | idle
  | ready (place : μ)
  /-- In the call that the place makes. -/
  | calling (place : μ)
deriving DecidableEq

/-- The activity of a thread that has the lock (`holds`) or has not. -/
def Activity.Fits (inside : μ → Bool) (holds : Bool) : Activity μ → Prop
  | idle => holds = false
  | ready place | calling place => inside place = holds

def Activity.place : Activity μ → Option μ
  | idle => none
  | ready place | calling place => some place

theorem Activity.Fits.inside {inside : μ → Bool} {activity : Activity μ} {place : μ}
    {holds : Bool} (fits : activity.Fits inside holds) (standing : activity.place = some place) :
    inside place = holds := by
  cases activity with
  | idle => cases standing
  | ready _ | calling _ =>
      cases standing
      exact fits

structure Joint (τ σ ℓ κ μ : Type) where
  monitor : State τ σ ℓ
  lock : Option τ := none
  shared : κ
  places : τ → Activity μ := fun _ => .idle

inductive JointOp (τ ρ ω π : Type) where
  | begin (thread : τ) (job : π)
  | own (thread : τ) (reply : ω)
  | run (thread : τ) (reply : ρ)
  | spurious (thread : τ)

inductive JointEvent (τ ι ℓ ε α π μ β : Type) where
  | began (thread : τ) (job : π)
  | moved (thread : τ) (place : μ)
  | finished (thread : τ) (result : β)
  | below (event : Event τ ι ℓ ε α)

namespace JointEvent

def toMonitor : JointEvent τ ι ℓ ε α π μ β → Option (Event τ ι ℓ ε α)
  | below event => some event
  | _ => none

def thread : JointEvent τ ι ℓ ε α π μ β → τ
  | began thread _ | moved thread _ | finished thread _ => thread
  | below event => event.thread

/-- A job, or a wake-up that nobody has asked for. -/
def outer : JointEvent τ ι ℓ ε α π μ β → Bool
  | began _ _ => true
  | below (.spurious _) => true
  | _ => false

end JointEvent

namespace Joint

variable [DecidableEq τ]

def put (state : Joint τ σ ℓ κ μ) (thread : τ) (activity : Activity μ) : Joint τ σ ℓ κ μ :=
  { state with places := Function.update state.places thread activity }

@[simp]
theorem put_monitor (state : Joint τ σ ℓ κ μ) (thread : τ) (activity : Activity μ) :
    (state.put thread activity).monitor = state.monitor :=
  rfl

@[simp]
theorem put_lock (state : Joint τ σ ℓ κ μ) (thread : τ) (activity : Activity μ) :
    (state.put thread activity).lock = state.lock :=
  rfl

@[simp]
theorem put_shared (state : Joint τ σ ℓ κ μ) (thread : τ) (activity : Activity μ) :
    (state.put thread activity).shared = state.shared :=
  rfl

@[simp]
theorem put_places (state : Joint τ σ ℓ κ μ) (thread : τ) (activity : Activity μ) :
    (state.put thread activity).places = Function.update state.places thread activity :=
  rfl

end Joint

namespace Callers

variable [DecidableEq τ]

/-- Whoever has returned from the monitor goes on behind its call. -/
def resume (callers : Callers ι α κ ω π μ β) (state : Joint τ σ ℓ κ μ) :
    Event τ ι ℓ ε α → Joint τ σ ℓ κ μ
  | .returned thread result =>
      match state.places thread with
      | .calling place =>
          match callers.code place with
          | .call _ resume => state.put thread (.ready (resume result))
          | _ => state
      | _ => state
  | _ => state

@[simp]
theorem resume_monitor (callers : Callers ι α κ ω π μ β) (state : Joint τ σ ℓ κ μ)
    (event : Event τ ι ℓ ε α) : (callers.resume state event).monitor = state.monitor := by
  unfold resume
  repeat' split
  all_goals rfl

@[simp]
theorem resume_lock (callers : Callers ι α κ ω π μ β) (state : Joint τ σ ℓ κ μ)
    (event : Event τ ι ℓ ε α) : (callers.resume state event).lock = state.lock := by
  unfold resume
  repeat' split
  all_goals rfl

@[simp]
theorem resume_shared (callers : Callers ι α κ ω π μ β) (state : Joint τ σ ℓ κ μ)
    (event : Event τ ι ℓ ε α) : (callers.resume state event).shared = state.shared := by
  unfold resume
  repeat' split
  all_goals rfl

/-- One turn of one thread, or one instruction of it in the monitor. -/
def step (callers : Callers ι α κ ω π μ β) (program : Program ι σ ρ ℓ ε α)
    (state : Joint τ σ ℓ κ μ) :
    JointOp τ ρ ω π → Option (Joint τ σ ℓ κ μ × JointEvent τ ι ℓ ε α π μ β)
  | .begin thread job =>
      match state.places thread with
      | .idle => some (state.put thread (.ready (callers.start job)), .began thread job)
      | _ => none
  | .own thread reply =>
      match state.places thread with
      | .ready place =>
          match callers.code place with
          | .lock next =>
              if state.lock.isSome then none
              else some ({ state with lock := some thread }.put thread (.ready next),
                .moved thread place)
          | .unlock next =>
              some ({ state with lock := none }.put thread (.ready next), .moved thread place)
          | .own effect =>
              let (after, next) := effect state.shared reply
              some ({ state with shared := after }.put thread (.ready next), .moved thread place)
          | .read next =>
              some (state.put thread (.ready (next state.shared)), .moved thread place)
          | .call entry _ =>
              (program.step state.monitor (.enter thread entry)).map fun (after, event) =>
                ({ state with monitor := after }.put thread (.calling place), .below event)
          | .ret result => some (state.put thread .idle, .finished thread result)
      | _ => none
  | .run thread reply =>
      (program.step state.monitor (.run thread reply)).map fun (after, event) =>
        (callers.resume { state with monitor := after } event, .below event)
  | .spurious thread =>
      (program.step state.monitor (.spurious thread)).map fun (after, event) =>
        ({ state with monitor := after }, .below event)

/-! What a step can be -/

inductive Own (callers : Callers ι α κ ω π μ β) (thread : τ) (lock : Option τ) (shared : κ)
    (place : μ) : Option τ → κ → μ → Prop
  | lock (next : μ) : callers.code place = .lock next → lock = none →
      Own callers thread lock shared place (some thread) shared next
  | unlock (next : μ) : callers.code place = .unlock next →
      Own callers thread lock shared place none shared next
  | own (effect : κ → ω → κ × μ) (reply : ω) : callers.code place = .own effect →
      Own callers thread lock shared place lock (effect shared reply).1 (effect shared reply).2
  | read (next : κ → μ) : callers.code place = .read next →
      Own callers thread lock shared place lock shared (next shared)

inductive Moved (callers : Callers ι α κ ω π μ β) (program : Program ι σ ρ ℓ ε α)
    (state : Joint τ σ ℓ κ μ) : JointEvent τ ι ℓ ε α π μ β → Joint τ σ ℓ κ μ → Prop
  | began (thread : τ) (job : π) : state.places thread = .idle →
      Moved callers program state (.began thread job)
        (state.put thread (.ready (callers.start job)))
  | moved (thread : τ) (place next : μ) (lock : Option τ) (shared : κ) :
      state.places thread = .ready place →
      callers.Own thread state.lock state.shared place lock shared next →
      Moved callers program state (.moved thread place)
        ({ state with lock := lock, shared := shared }.put thread (.ready next))
  | called (thread : τ) (place : μ) (entry : ι) (resume : α → μ) (after : State τ σ ℓ) :
      state.places thread = .ready place → callers.code place = .call entry resume →
      program.step state.monitor (.enter thread entry) = some (after, .entered thread entry) →
      Moved callers program state (.below (.entered thread entry))
        ({ state with monitor := after }.put thread (.calling place))
  | finished (thread : τ) (place : μ) (result : β) : state.places thread = .ready place →
      callers.code place = .ret result →
      Moved callers program state (.finished thread result) (state.put thread .idle)
  | inner (op : Op τ ι ρ) (event : Event τ ι ℓ ε α) (after : State τ σ ℓ) :
      (∀ thread entry, event ≠ .entered thread entry) →
      program.step state.monitor op = some (after, event) →
      Moved callers program state (.below event)
        (callers.resume { state with monitor := after } event)

variable {callers : Callers ι α κ ω π μ β} {program : Program ι σ ρ ℓ ε α}
  {state after : Joint τ σ ℓ κ μ} {op : JointOp τ ρ ω π} {event : JointEvent τ ι ℓ ε α π μ β}

theorem step_moved (taken : callers.step program state op = some (after, event)) :
    callers.Moved program state event after := by
  cases op with
  | begin thread job =>
      simp only [step] at taken
      split at taken
      · rename_i idle
        cases taken
        exact .began thread job idle
      · cases taken
  | own thread reply =>
      simp only [step] at taken
      split at taken
      · rename_i place ready
        split at taken
        · rename_i next code
          split at taken
          · cases taken
          · rename_i free
            cases taken
            exact .moved thread place next _ _ ready
              (.lock next code (Option.not_isSome_iff_eq_none.mp free))
        · rename_i next code
          cases taken
          exact .moved thread place next _ _ ready (.unlock next code)
        · rename_i effect code
          cases taken
          exact .moved thread place _ _ _ ready (.own effect reply code)
        · rename_i next code
          cases taken
          exact .moved thread place _ _ _ ready (.read next code)
        · rename_i entry resume code
          obtain ⟨⟨monitor, below⟩, entered, same⟩ := Option.map_eq_some_iff.mp taken
          cases same
          have event_eq : below = .entered thread entry := by
            simp only [Program.step] at entered
            split at entered <;> cases entered
            rfl
          subst event_eq
          exact .called thread place entry resume monitor ready code entered
        · rename_i result code
          cases taken
          exact .finished thread place result ready code
      · cases taken
  | run thread reply =>
      obtain ⟨⟨monitor, below⟩, stepped, same⟩ := Option.map_eq_some_iff.mp taken
      cases same
      exact .inner _ below monitor (Program.run_not_entered stepped) stepped
  | spurious thread =>
      obtain ⟨⟨monitor, below⟩, stepped, same⟩ := Option.map_eq_some_iff.mp taken
      cases same
      have event_eq : below = .spurious thread := by
        simp only [Program.step] at stepped
        split at stepped <;> cases stepped
        rfl
      subst event_eq
      exact .inner _ _ monitor (fun _ _ same => by cases same) stepped

/-! What the threads do in the monitor -/

theorem run_below {data : σ} {shared : κ} {trace : List (JointEvent τ ι ℓ ε α π μ β)}
    (run : Machine.Run (callers.step program)
      { monitor := { data := data }, shared := shared } trace state) :
    Machine.Run program.step { data := data } (trace.filterMap JointEvent.toMonitor)
      state.monitor := by
  refine run.invariant (P := fun trace state => Machine.Run program.step { data := data }
    (trace.filterMap JointEvent.toMonitor) state.monitor) .init ?_
  intro past before op after event _ kept taken
  cases step_moved taken with
  | began thread job idle => exact kept
  | moved thread place next lock shared ready own => exact kept
  | finished thread place result ready code => exact kept
  | called thread place entry resume monitor ready code entered => exact kept.next entered
  | inner op event monitor inner stepped =>
      rw [resume_monitor]
      exact kept.next stepped

/-- A thread is in the monitor exactly while it is in a call. -/
inductive Links (callers : Callers ι α κ ω π μ β) : Activity μ → Status ℓ → Prop
  | away (activity : Activity μ) : (∀ place, activity ≠ .calling place) →
      Links callers activity .idle
  | within (place : μ) (entry : ι) (resume : α → μ) (status : Status ℓ) :
      callers.code place = .call entry resume → status ≠ .idle →
      Links callers (.calling place) status

def Linked (callers : Callers ι α κ ω π μ β) (state : Joint τ σ ℓ κ μ) : Prop :=
  ∀ thread, callers.Links (state.places thread) (state.monitor.threads thread)

omit [DecidableEq τ] in
theorem Links.idle {activity : Activity μ} {status : Status ℓ}
    (links : callers.Links activity status) (away : ∀ place, activity ≠ .calling place) :
    status = .idle := by
  cases links with
  | away _ _ => rfl
  | within place _ _ _ _ _ => exact absurd rfl (away place)

omit [DecidableEq τ] in
theorem Links.of_idle_iff {activity : Activity μ} {before status : Status ℓ}
    (links : callers.Links activity before) (same : status = .idle ↔ before = .idle) :
    callers.Links activity status := by
  cases links with
  | away _ away =>
      rw [same.mpr rfl]
      exact .away activity away
  | within place entry resume _ code busy =>
      exact .within place entry resume status code fun idle => busy (same.mp idle)

theorem Linked.put {thread : τ} {activity : Activity μ} (linked : callers.Linked state)
    (links : callers.Links activity (state.monitor.threads thread)) :
    callers.Linked (state.put thread activity) := by
  intro other
  rw [Joint.put_places, Joint.put_monitor]
  by_cases acting : other = thread
  · rw [acting, Function.update_self]
    exact links
  · rw [Function.update_of_ne acting]
    exact linked other

theorem resume_returned {thread : τ} {result : α} {place : μ} {entry : ι} {resume : α → μ}
    (calling : state.places thread = .calling place)
    (code : callers.code place = .call entry resume) :
    callers.resume state (.returned thread result : Event τ ι ℓ ε α) =
      state.put thread (.ready (resume result)) := by
  simp only [Callers.resume, calling, code]

theorem resume_inner {event : Event τ ι ℓ ε α}
    (returns : ∀ thread result, event ≠ .returned thread result) :
    callers.resume state event = state := by
  cases event with
  | returned thread result => exact absurd rfl (returns thread result)
  | _ => rfl

/-- Whoever returns from the monitor was in a call of its own. -/
theorem Linked.returned {thread : τ} {result : α} {monitor : State τ σ ℓ} {op : Op τ ι ρ}
    (linked : callers.Linked state)
    (stepped : program.step state.monitor op = some (monitor, .returned thread result)) :
    ∃ place entry resume, state.places thread = .calling place ∧
      callers.code place = .call entry resume ∧
      callers.resume { state with monitor := monitor } (.returned thread result : Event τ ι ℓ ε α) =
        { state with monitor := monitor }.put thread (.ready (resume result)) := by
  obtain ⟨⟨here, running, _⟩, _⟩ := (Program.step_stepped stepped).returned
  have links := linked thread
  rw [running] at links
  generalize standing : state.places thread = activity at links
  cases links with
  | within place entry resume _ code _ =>
      exact ⟨place, entry, resume, rfl, code, resume_returned standing code⟩

theorem Moved.linked (moved : callers.Moved program state event after)
    (linked : callers.Linked state) : callers.Linked after := by
  cases moved with
  | began thread job idle =>
      refine linked.put ?_
      rw [(linked thread).idle (by simp [idle])]
      exact .away _ nofun
  | moved thread place next lock shared ready own =>
      have kept : callers.Linked { state with lock := lock, shared := shared } := linked
      refine kept.put ?_
      rw [(linked thread).idle (by simp [ready])]
      exact .away _ nofun
  | finished thread place result ready code =>
      refine linked.put ?_
      rw [(linked thread).idle (by simp [ready])]
      exact .away _ nofun
  | called thread place entry resume monitor ready code entered =>
      obtain ⟨_, rfl⟩ := (Program.step_stepped entered).entered
      intro other
      rw [Joint.put_places]
      by_cases acting : other = thread
      · rw [acting, Function.update_self]
        refine .within place entry resume _ code ?_
        rw [Joint.put_monitor, State.set_threads, Function.update_self]
        nofun
      · rw [Function.update_of_ne acting, Joint.put_monitor, State.set_threads,
          Function.update_of_ne acting]
        exact linked other
  | inner op event monitor enters stepped =>
      have unmoved := Program.step_stepped stepped
      by_cases returns : ∃ thread result, event = .returned thread result
      · obtain ⟨thread, result, rfl⟩ := returns
        obtain ⟨place, entry, resume, calling, code, resumed⟩ := linked.returned stepped
        obtain ⟨_, rfl⟩ := unmoved.returned
        rw [resumed]
        intro other
        rw [Joint.put_places, Joint.put_monitor, State.set_threads]
        by_cases acting : other = thread
        · rw [acting, Function.update_self, Function.update_self]
          exact .away _ nofun
        · rw [Function.update_of_ne acting, Function.update_of_ne acting]
          exact linked other
      · have stays : ∀ thread result, event ≠ .returned thread result :=
          fun thread result same => returns ⟨thread, result, same⟩
        rw [resume_inner stays]
        exact fun other => (linked other).of_idle_iff
          (unmoved.idle_iff other (enters other) (stays other))

structure Covers (program : Program ι σ ρ ℓ ε α) (serves : ι → ℓ → Prop) : Prop where
  start : ∀ entry, serves entry (program.start entry)
  leads : ∀ entry place next, serves entry place → (program.code place).Leads next →
    serves entry next

/-- Each thread is in the call that its place makes. -/
def Served (callers : Callers ι α κ ω π μ β) (serves : ι → ℓ → Prop)
    (state : Joint τ σ ℓ κ μ) : Prop :=
  ∀ thread place entry resume here, state.places thread = .calling place →
    callers.code place = .call entry resume →
    (state.monitor.threads thread).place = some here → serves entry here

theorem Moved.served {serves : ι → ℓ → Prop} (moved : callers.Moved program state event after)
    (covers : Covers program serves) (served : callers.Served serves state) :
    callers.Served serves after := by
  have kept (before : Joint τ σ ℓ κ μ) (thread : τ) {activity : Activity μ}
      (was : callers.Served serves before) (away : ∀ place, activity ≠ .calling place) :
      callers.Served serves (before.put thread activity) := by
    intro other place entry resume here calling code there
    rw [Joint.put_places] at calling
    by_cases acting : other = thread
    · rw [acting, Function.update_self] at calling
      exact absurd calling (away place)
    · rw [Function.update_of_ne acting] at calling
      exact was other place entry resume here calling code there
  cases moved with
  | began thread job idle => exact kept state thread served nofun
  | moved thread place next lock shared ready own =>
      exact kept { state with lock := lock, shared := shared } thread served nofun
  | finished thread place result ready code => exact kept state thread served nofun
  | called thread place entry resume monitor ready code entered =>
      obtain ⟨_, rfl⟩ := (Program.step_stepped entered).entered
      intro other place' entry' resume' here calling code' there
      rw [Joint.put_places] at calling
      rw [Joint.put_monitor, State.set_threads] at there
      by_cases acting : other = thread
      · rw [acting, Function.update_self] at calling there
        cases calling
        cases there
        rw [code] at code'
        cases code'
        exact covers.start entry
      · rw [Function.update_of_ne acting] at calling there
        exact served other place' entry' resume' here calling code' there
  | inner op event monitor enters stepped =>
      have inside : callers.Served serves { state with monitor := monitor } := by
        intro thread place entry resume here calling code there
        obtain ⟨entry', same, _⟩ | ⟨before, standing, leads⟩ :=
          (Program.step_stepped stepped).came there
        · exact absurd same (enters thread entry')
        · have was := served thread place entry resume before calling code standing
          obtain rfl | leads := leads
          · exact was
          · exact covers.leads entry before here was leads
      unfold Callers.resume
      repeat' split
      · exact kept _ _ inside nofun
      all_goals exact inside

/-! The lock -/

/-- Exactly the holder of the lock is between taking it and giving it up. -/
def Apart (callers : Callers ι α κ ω π μ β) (state : Joint τ σ ℓ κ μ) : Prop :=
  ∀ thread, (state.places thread).Fits callers.inside (decide (state.lock = some thread))

/-- Two threads behind the lock are the same. -/
theorem Apart.alone (apart : callers.Apart state) {thread other : τ} {place here : μ}
    (standing : (state.places thread).place = some place)
    (there : (state.places other).place = some here) (inside : callers.inside place = true)
    (also : callers.inside here = true) : other = thread := by
  have held := (apart thread).inside standing
  have same := (apart other).inside there
  rw [inside] at held
  rw [also, of_decide_eq_true held.symm] at same
  exact (Option.some.inj (of_decide_eq_true same.symm)).symm

theorem Apart.put {thread : τ} {activity : Activity μ} (apart : callers.Apart state)
    (fits : activity.Fits callers.inside (decide (state.lock = some thread))) :
    callers.Apart (state.put thread activity) := by
  intro other
  rw [Joint.put_places, Joint.put_lock]
  by_cases acting : other = thread
  · rw [acting, Function.update_self]
    exact fits
  · rw [Function.update_of_ne acting]
    exact apart other

theorem Apart.resume {event : Event τ ι ℓ ε α} (apart : callers.Apart state) :
    callers.Apart (callers.resume state event) := by
  unfold Callers.resume
  split
  · rename_i thread result
    split
    · rename_i place calling
      split
      · rename_i entry resume code
        refine apart.put ?_
        have here := apart thread
        have fits := callers.fits place
        rw [calling] at here
        rw [code] at fits
        exact (fits result).trans here
      · exact apart
    · exact apart
  · exact apart

theorem Moved.apart (moved : callers.Moved program state event after)
    (apart : callers.Apart state) : callers.Apart after := by
  cases moved with
  | began thread job idle =>
      refine apart.put ?_
      have here := apart thread
      rw [idle] at here
      exact (callers.outside_first job).trans here.symm
  | finished thread place result ready code =>
      refine apart.put ?_
      have here := apart thread
      have fits := callers.fits place
      rw [ready] at here
      rw [code] at fits
      exact here.symm.trans fits
  | called thread place entry resume monitor ready code entered =>
      have kept : callers.Apart { state with monitor := monitor } := apart
      refine kept.put ?_
      have here := apart thread
      rw [ready] at here
      exact here
  | inner op event monitor enters stepped =>
      have kept : callers.Apart { state with monitor := monitor } := apart
      exact kept.resume
  | moved thread place next lock shared ready own =>
      have here := apart thread
      have fits := callers.fits place
      rw [ready] at here
      have others (holds : state.lock = none ∨ state.lock = some thread) {other : τ}
          (acting : other ≠ thread) : (state.places other).Fits callers.inside false := by
        have there := apart other
        rwa [decide_eq_false] at there
        obtain free | held := holds
        · simp [free]
        · rw [held]
          exact fun same => acting (Option.some.inj same).symm
      intro other
      rw [Joint.put_places, Joint.put_lock]
      by_cases acting : other = thread
      · rw [acting, Function.update_self]
        cases own with
        | lock _ code free =>
            rw [code] at fits
            exact fits.2.trans (decide_eq_true rfl).symm
        | unlock _ code =>
            rw [code] at fits
            exact fits.2.trans (decide_eq_false (by simp)).symm
        | own effect reply code =>
            rw [code] at fits
            exact (fits.2 _ reply).trans (fits.1.symm.trans here)
        | read next code =>
            rw [code] at fits
            exact (fits _).trans here
      · rw [Function.update_of_ne acting]
        cases own with
        | lock _ _ free =>
            rw [decide_eq_false fun same => acting (Option.some.inj same).symm]
            exact others (.inl free) acting
        | unlock _ code =>
            rw [decide_eq_false (by simp)]
            rw [code] at fits
            exact others (.inr (of_decide_eq_true (here.symm.trans fits.1))) acting
        | own _ _ _ | read _ _ => exact apart other

def Relocked (thread : τ) (before after : Option τ) : Prop :=
  after = before ∨ before = none ∧ after = some thread ∨ before = some thread ∧ after = none

theorem Moved.relocked (moved : callers.Moved program state event after)
    (apart : callers.Apart state) : Relocked event.thread state.lock after.lock := by
  cases moved with
  | began thread job idle => exact .inl rfl
  | called thread place entry resume monitor ready code entered => exact .inl rfl
  | finished thread place result ready code => exact .inl rfl
  | inner op event monitor enters stepped => exact .inl (resume_lock ..)
  | moved thread place next lock shared ready own =>
      cases own with
      | lock _ _ free => exact .inr (.inl ⟨free, rfl⟩)
      | own _ _ _ | read _ _ => exact .inl rfl
      | unlock _ code =>
          have fits := callers.fits place
          have here := apart thread
          rw [code] at fits
          rw [ready] at here
          exact .inr (.inr ⟨of_decide_eq_true (here.symm.trans fits.1), rfl⟩)

theorem Moved.others (moved : callers.Moved program state event after) {other : τ}
    (different : other ≠ event.thread) :
    after.places other = state.places other ∧
      (state.monitor.threads other).Stays (after.monitor.threads other) := by
  cases moved with
  | began thread job idle | finished thread place result ready code
  | moved thread place next lock shared ready own =>
      exact ⟨Function.update_of_ne different .., .inl rfl⟩
  | called thread place entry resume monitor ready code entered =>
      exact ⟨Function.update_of_ne different .., (Program.step_stepped entered).others different⟩
  | inner op event monitor enters stepped =>
      rw [resume_monitor]
      refine ⟨?_, (Program.step_stepped stepped).others different⟩
      unfold resume
      repeat' split
      · exact Function.update_of_ne different ..
      all_goals rfl

/-- The weight of the holder, if there is one. -/
def heldBy (lock : Option τ) (weight : τ → Nat) : Nat :=
  (lock.map weight).getD 0

/-- Where only the holder has weight, what the acting thread wins or loses the holder does. -/
theorem heldBy_moved {lock later : Option τ} {weight heavier : τ → Nat} {thread : τ}
    {less more : Nat} (relocked : Relocked thread lock later)
    (balance : less + weight thread = more + heavier thread)
    (others : ∀ other, other ≠ thread → heavier other = weight other)
    (before : lock ≠ some thread → weight thread = 0)
    (after : later ≠ some thread → heavier thread = 0) :
    less + heldBy lock weight = more + heldBy later heavier := by
  obtain rfl | ⟨rfl, rfl⟩ | ⟨rfl, rfl⟩ := relocked
  · cases later with
    | none =>
        rw [before nofun, after nofun] at balance
        exact balance
    | some holder =>
        by_cases acting : holder = thread
        · rw [acting]
          exact balance
        · have away : some holder ≠ some thread := fun same => acting (Option.some.inj same)
          rw [before away, after away] at balance
          change less + weight holder = more + heavier holder
          rw [others holder acting]
          omega
  · rw [before nofun] at balance
    exact balance
  · rw [after nofun] at balance
    exact balance

/-! Every job can be brought to its end -/

/-- What returns from the monitor make of an activity. -/
def Resumed (callers : Callers ι α κ ω π μ β) (before after : Activity μ) : Prop :=
  after = before ∨ ∃ place entry resume result, before = .calling place ∧
    callers.code place = .call entry resume ∧ after = .ready (resume result)

omit [DecidableEq τ] in
theorem Resumed.trans {first second third : Activity μ} (earlier : callers.Resumed first second)
    (later : callers.Resumed second third) : callers.Resumed first third := by
  obtain rfl | ⟨place, entry, resume, result, rfl, code, rfl⟩ := earlier
  · exact later
  · obtain rfl | ⟨_, _, _, _, calling, _, _⟩ := later
    · exact .inr ⟨place, entry, resume, result, rfl, code, rfl⟩
    · cases calling

/-- A run in which no job is begun, and in which the other threads do nothing of their own. -/
structure Goes (callers : Callers ι α κ ω π μ β) (program : Program ι σ ρ ℓ ε α)
    (state : Joint τ σ ℓ κ μ) (thread : τ) (trace : List (JointEvent τ ι ℓ ε α π μ β))
    (final : Joint τ σ ℓ κ μ) : Prop where
  run : Machine.Run (callers.step program) state trace final
  inward : ∀ event ∈ trace, event.outer = false
  others : ∀ other, other ≠ thread → callers.Resumed (state.places other) (final.places other)

variable {thread : τ} {final : Joint τ σ ℓ κ μ}

theorem Goes.init : callers.Goes program state thread [] state :=
  ⟨.init, List.forall_mem_nil _, fun _ _ => .inl rfl⟩

theorem Goes.trans {middle : Joint τ σ ℓ κ μ} {first second : List (JointEvent τ ι ℓ ε α π μ β)}
    (earlier : callers.Goes program state thread first middle)
    (later : callers.Goes program middle thread second final) :
    callers.Goes program state thread (second ++ first) final where
  run := earlier.run.trans later.run
  inward event member :=
    (List.mem_append.mp member).elim (later.inward event) (earlier.inward event)
  others other different := (earlier.others other different).trans (later.others other different)

theorem Linked.run (linked : callers.Linked state)
    {trace : List (JointEvent τ ι ℓ ε α π μ β)}
    (run : Machine.Run (callers.step program) state trace final) : callers.Linked final :=
  run.invariant (P := fun _ state => callers.Linked state) linked
    fun _ _ _ _ _ _ kept taken => (step_moved taken).linked kept

theorem Apart.run (apart : callers.Apart state) {trace : List (JointEvent τ ι ℓ ε α π μ β)}
    (run : Machine.Run (callers.step program) state trace final) : callers.Apart final :=
  run.invariant (P := fun _ state => callers.Apart state) apart
    fun _ _ _ _ _ _ kept taken => (step_moved taken).apart kept

/-- What the threads can do in the monitor by themselves, the callers can do. -/
theorem Linked.lift (linked : callers.Linked state) {later : List (Event τ ι ℓ ε α)}
    {monitor : State τ σ ℓ} (run : Machine.Run program.step state.monitor later monitor)
    (inward : ∀ event ∈ later, event.outer = false) :
    ∃ trace final, Machine.Run (callers.step program) state trace final ∧
      (∀ event ∈ trace, event.outer = false) ∧ final.monitor = monitor ∧
      final.lock = state.lock ∧ final.shared = state.shared ∧
      ∀ thread, callers.Resumed (state.places thread) (final.places thread) := by
  induction run with
  | init => exact ⟨[], state, .init, List.forall_mem_nil _, rfl, rfl, rfl, fun _ => .inl rfl⟩
  | @next past before after op event _ taken ih =>
      obtain ⟨here, rest⟩ := List.forall_mem_cons.mp inward
      obtain ⟨trace, middle, run, told, rfl, lock, shared, places⟩ := ih rest
      obtain ⟨thread, reply, rfl⟩ := Program.run_of_not_outer taken here
      have stepped : callers.step program middle (.run thread reply) =
          some (callers.resume { middle with monitor := after } event, .below event) := by
        simp only [step, taken, Option.map_some]
      refine ⟨_, _, run.next stepped, ?_, resume_monitor .., ?_, ?_, fun other => ?_⟩
      · refine List.forall_mem_cons.mpr ⟨?_, told⟩
        cases event with
        | spurious other => cases here
        | _ => rfl
      · rw [resume_lock]
        exact lock
      · rw [resume_shared]
        exact shared
      · refine (places other).trans ?_
        by_cases returns : ∃ actor result, event = .returned actor result
        · obtain ⟨actor, result, rfl⟩ := returns
          obtain ⟨place, entry, resume, calling, code, resumed⟩ :=
            (linked.run run).returned taken
          rw [resumed, Joint.put_places]
          by_cases acting : other = actor
          · rw [acting, Function.update_self]
            exact .inr ⟨place, entry, resume, result, calling, code, rfl⟩
          · rw [Function.update_of_ne acting]
            exact .inl rfl
        · rw [resume_inner fun actor result same => returns ⟨actor, result, same⟩]
          exact .inl rfl

/-- A call that can be brought to its end brings its caller behind it. -/
theorem Linked.returns (linked : callers.Linked state) {place : μ} {entry : ι} {resume : α → μ}
    (calling : state.places thread = .calling place)
    (code : callers.code place = .call entry resume)
    (returns : program.Returns state.monitor thread) :
    ∃ trace final result, callers.Goes program state thread trace final ∧
      final.places thread = .ready (resume result) ∧ final.lock = state.lock := by
  obtain ⟨later, monitor, below, inward, idle⟩ := returns
  obtain ⟨trace, final, run, told, rfl, lock, shared, places⟩ := linked.lift below inward
  obtain same | ⟨here, _, resumes, result, standing, codes, gone⟩ := places thread
  · have links := linked.run run thread
    rw [same, calling, idle] at links
    cases links with
    | away _ away => exact absurd rfl (away place)
    | within _ _ _ _ _ busy => exact absurd rfl busy
  · rw [calling] at standing
    cases standing
    rw [code] at codes
    cases codes
    exact ⟨trace, final, result, ⟨run, told, fun other _ => places other⟩, gone, lock⟩

theorem step_own {place next : μ} {reply : ω} (lock : Option τ) (shared : κ)
    (stepped : callers.step program state (.own thread reply) =
      some ({ state with lock := lock, shared := shared }.put thread (.ready next),
        .moved thread place)) :
    callers.Goes program state thread [.moved thread place]
      ({ state with lock := lock, shared := shared }.put thread (.ready next)) where
  run := .next .init stepped
  inward := List.forall_mem_singleton.mpr rfl
  others _ different := .inl (Function.update_of_ne different ..)

/-- The thread can take its turn where the lock does not keep it, and where it ends no job. -/
theorem Linked.turn [Inhabited ω] (linked : callers.Linked state) {place : μ}
    (ready : state.places thread = .ready place)
    (returns : ∀ trace final, Machine.Run (callers.step program) state trace final →
      program.Returns final.monitor thread)
    (goes : ∀ next, callers.code place = .lock next → state.lock = none)
    (ends : ∀ result, callers.code place ≠ .ret result) :
    ∃ trace final next, callers.Goes program state thread trace final ∧
      final.places thread = .ready next ∧ (callers.code place).Leads next ∧
      (callers.code place).Relocks thread state.lock final.lock := by
  cases code : callers.code place with
  | lock next =>
      have free := goes next code
      have stepped : callers.step program state (.own thread default) =
          some ({ state with lock := some thread }.put thread (.ready next),
            .moved thread place) := by
        simp [step, ready, code, free]
      exact ⟨_, _, _, step_own _ state.shared stepped, Function.update_self .., rfl, free, rfl⟩
  | unlock next =>
      have stepped : callers.step program state (.own thread default) =
          some ({ state with lock := none }.put thread (.ready next), .moved thread place) := by
        simp [step, ready, code]
      exact ⟨_, _, _, step_own _ state.shared stepped, Function.update_self .., rfl, rfl⟩
  | own effect =>
      have stepped : callers.step program state (.own thread default) =
          some ({ state with shared := (effect state.shared default).1 }.put thread
            (.ready (effect state.shared default).2), .moved thread place) := by
        simp [step, ready, code]
      exact ⟨_, _, _, step_own state.lock _ stepped, Function.update_self ..,
        ⟨state.shared, default, rfl⟩, rfl⟩
  | read next =>
      have stepped : callers.step program state (.own thread default) =
          some (state.put thread (.ready (next state.shared)), .moved thread place) := by
        simp [step, ready, code]
      exact ⟨_, _, _, step_own state.lock state.shared stepped, Function.update_self ..,
        ⟨state.shared, rfl⟩, rfl⟩
  | ret result => exact absurd code (ends result)
  | call entry resume =>
      have idle : state.monitor.threads thread = .idle :=
        (linked thread).idle (by simp [ready])
      have entered : program.step state.monitor (.enter thread entry) = _ :=
        Program.step_enter idle entry
      generalize state.monitor.set thread (.running (program.start entry)) = monitor at entered
      have taken : callers.step program state (.own thread default) =
          some ({ state with monitor := monitor }.put thread (.calling place),
            .below (.entered thread entry)) := by
        simp [step, ready, code, entered]
      have first : callers.Goes program state thread [.below (.entered thread entry)] _ :=
        ⟨.next .init taken, List.forall_mem_singleton.mpr rfl,
          fun other different => .inl (Function.update_of_ne different ..)⟩
      obtain ⟨trace, final, result, second, gone, lock⟩ :=
        (linked.run first.run).returns (Function.update_self ..) code (returns _ _ first.run)
      exact ⟨_, final, resume result, first.trans second, gone, ⟨result, rfl⟩, lock⟩

/-- No job goes on for ever: what a turn leads to is nearer the end. -/
def Ranked (callers : Callers ι α κ ω π μ β) (rank : μ → Nat) : Prop :=
  ∀ place next, (callers.code place).Leads next → rank next < rank place

section Progress

variable [Inhabited ω] {rank : μ → Nat}

/-- A thread in a job can go on, in its call or by a turn, unless the lock keeps it. -/
theorem Ranked.advances (ranked : callers.Ranked rank) (linked : callers.Linked state)
    (returns : ∀ trace final thread, Machine.Run (callers.step program) state trace final →
      program.Returns final.monitor thread) {place : μ}
    (standing : (state.places thread).place = some place)
    (goes : ∀ next, callers.code place = .lock next → state.lock = none)
    (ends : ∀ result, callers.code place ≠ .ret result) :
    ∃ trace final next, callers.Goes program state thread trace final ∧
      final.places thread = .ready next ∧ rank next < rank place ∧
      (callers.code place).Leads next ∧
      (callers.code place).Relocks thread state.lock final.lock := by
  cases here : state.places thread with
  | idle =>
      rw [here] at standing
      cases standing
  | ready _ =>
      rw [here] at standing
      cases standing
      obtain ⟨trace, final, next, went, gone, leads, lock⟩ :=
        linked.turn here (fun _ _ run => returns _ _ _ run) goes ends
      exact ⟨trace, final, next, went, gone, ranked _ _ leads, leads, lock⟩
  | calling _ =>
      have links := linked thread
      rw [here] at standing links
      cases standing
      generalize state.monitor.threads thread = status at links
      cases links with
      | away _ away => exact absurd rfl (away place)
      | within _ entry resume _ code _ =>
          obtain ⟨trace, final, result, went, gone, lock⟩ :=
            linked.returns here code (returns _ _ _ .init)
          have leads : (callers.code place).Leads (resume result) := by
            rw [code]
            exact ⟨result, rfl⟩
          refine ⟨trace, final, _, went, gone, ranked _ _ leads, leads, ?_⟩
          rw [code]
          exact lock

/-- Whoever holds the lock can be brought to give it up. -/
theorem Ranked.releases (ranked : callers.Ranked rank) (linked : callers.Linked state)
    (apart : callers.Apart state)
    (returns : ∀ trace final thread, Machine.Run (callers.step program) state trace final →
      program.Returns final.monitor thread) (held : state.lock = some thread) {place : μ}
    (standing : (state.places thread).place = some place) :
    ∃ trace final, callers.Goes program state thread trace final ∧ final.lock = none := by
  induction size : rank place using Nat.strong_induction_on generalizing state place with
  | _ size ih =>
      subst size
      have inside := (apart thread).inside standing
      rw [held, decide_eq_true rfl] at inside
      have fits := callers.fits place
      rw [inside] at fits
      obtain ⟨trace, middle, next, went, gone, lower, _, lock⟩ :=
        ranked.advances linked returns standing
          (fun next code => by rw [code] at fits; cases fits.1)
          (fun result code => by rw [code] at fits; cases fits)
      have further (same : middle.lock = state.lock) :
          ∃ trace final, callers.Goes program state thread trace final ∧ final.lock = none := by
        obtain ⟨later, final, onwards, free⟩ := ih _ lower (linked.run went.run)
          (apart.run went.run) (fun _ _ _ run => returns _ _ _ (went.run.trans run))
          (same.trans held) (by rw [gone]; rfl) rfl
        exact ⟨_, final, went.trans onwards, free⟩
      cases code : callers.code place with
      | lock next =>
          rw [code] at fits
          cases fits.1
      | unlock next =>
          rw [code] at lock
          exact ⟨trace, middle, went, lock⟩
      | own _ | read _ | call _ _ | ret _ =>
          rw [code] at lock
          exact further lock

/-- A thread that wants the lock can be brought to have it free. -/
theorem Ranked.frees (ranked : callers.Ranked rank) (linked : callers.Linked state)
    (apart : callers.Apart state)
    (returns : ∀ trace final thread, Machine.Run (callers.step program) state trace final →
      program.Returns final.monitor thread) {place next : μ}
    (standing : (state.places thread).place = some place)
    (code : callers.code place = .lock next) :
    ∃ trace final, Machine.Run (callers.step program) state trace final ∧
      (∀ event ∈ trace, event.outer = false) ∧ final.lock = none ∧
      (final.places thread).place = some place := by
  cases lock : state.lock with
  | none => exact ⟨[], state, .init, List.forall_mem_nil _, lock, standing⟩
  | some holder =>
      have outside := (apart thread).inside standing
      have fits := callers.fits place
      rw [code] at fits
      rw [fits.1, lock] at outside
      have different : thread ≠ holder := by
        rintro rfl
        simp at outside
      have held := apart holder
      rw [lock, decide_eq_true rfl] at held
      obtain ⟨there, stands⟩ : ∃ there, (state.places holder).place = some there := by
        cases activity : state.places holder with
        | idle =>
            rw [activity] at held
            cases held
        | ready there | calling there => exact ⟨there, rfl⟩
      obtain ⟨trace, final, went, free⟩ := ranked.releases linked apart returns lock stands
      refine ⟨trace, final, went.run, went.inward, free, ?_⟩
      obtain same | ⟨_, _, _, _, calling, calls, _⟩ := went.others thread different
      · rw [same]
        exact standing
      · rw [calling] at standing
        cases standing
        rw [code] at calls
        cases calls

/-- Where every call into the monitor can be brought to its end, every job can, whoever holds the
lock and wherever the threads stand. -/
theorem Ranked.finishes (ranked : callers.Ranked rank) (linked : callers.Linked state)
    (apart : callers.Apart state)
    (returns : ∀ trace final thread, Machine.Run (callers.step program) state trace final →
      program.Returns final.monitor thread) (thread : τ) :
    ∃ trace final, Machine.Run (callers.step program) state trace final ∧
      (∀ event ∈ trace, event.outer = false) ∧ final.places thread = .idle := by
  have begun (place : μ) (standing : (state.places thread).place = some place) :
      ∃ trace final, Machine.Run (callers.step program) state trace final ∧
        (∀ event ∈ trace, event.outer = false) ∧ final.places thread = .idle := by
    induction size : rank place using Nat.strong_induction_on generalizing state place with
    | _ size ih =>
        subst size
        have onwards {trace : List (JointEvent τ ι ℓ ε α π μ β)} {middle : Joint τ σ ℓ κ μ}
            (run : Machine.Run (callers.step program) state trace middle)
            (told : ∀ event ∈ trace, event.outer = false)
            (still : (middle.places thread).place = some place)
            (goes : ∀ next, callers.code place = .lock next → middle.lock = none)
            (ends : ∀ result, callers.code place ≠ .ret result) :
            ∃ trace final, Machine.Run (callers.step program) state trace final ∧
              (∀ event ∈ trace, event.outer = false) ∧ final.places thread = .idle := by
          have later (rest : List (JointEvent τ ι ℓ ε α π μ β)) (final : Joint τ σ ℓ κ μ)
              (other : τ) (further : Machine.Run (callers.step program) middle rest final) :
              program.Returns final.monitor other := returns _ _ _ (run.trans further)
          obtain ⟨first, second, next, went, gone, lower, _, _⟩ :=
            ranked.advances (linked.run run) later still goes ends
          obtain ⟨rest, final, further, silent, idle⟩ :=
            ih _ lower ((linked.run run).run went.run) ((apart.run run).run went.run)
              (fun _ _ _ more => later _ _ _ (went.run.trans more)) _ (by rw [gone]; rfl) rfl
          refine ⟨_, final, (run.trans went.run).trans further, fun event member => ?_, idle⟩
          rcases List.mem_append.mp member with here | before
          · exact silent event here
          · exact (List.mem_append.mp before).elim (went.inward event) (told event)
        cases code : callers.code place with
        | lock next =>
            obtain ⟨trace, middle, run, told, free, still⟩ :=
              ranked.frees linked apart returns standing code
            exact onwards run told still (fun _ _ => free) (by simp [code])
        | ret result =>
            cases here : state.places thread with
            | idle =>
                rw [here] at standing
                cases standing
            | calling _ =>
                have links := linked thread
                rw [here] at standing links
                cases standing
                generalize state.monitor.threads thread = status at links
                cases links with
                | away _ away => exact absurd rfl (away place)
                | within _ _ _ _ calls _ =>
                    rw [code] at calls
                    cases calls
            | ready _ =>
                rw [here] at standing
                cases standing
                have taken : callers.step program state (.own thread default) =
                    some (state.put thread .idle, .finished thread result) := by
                  simp only [step, here, code]
                exact ⟨_, _, .next .init taken, List.forall_mem_singleton.mpr rfl,
                  Function.update_self ..⟩
        | unlock _ | own _ | read _ | call _ _ =>
            exact onwards .init (List.forall_mem_nil _) standing (by simp [code]) (by simp [code])
  cases standing : (state.places thread).place with
  | some place => exact begun place standing
  | none =>
      refine ⟨[], state, .init, List.forall_mem_nil _, ?_⟩
      cases here : state.places thread with
      | idle => rfl
      | ready _ | calling _ =>
          rw [here] at standing
          cases standing

end Progress

end Callers

end LibRga.Monitor

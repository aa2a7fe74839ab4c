import LibRga.Library.Run
import Mathlib.Logic.Function.Basic

/-!
Monitors: threads that work on data under a mutex, with one condition variable.

A call is a code over places. What it does in one instruction is one step of its
thread, so the others may step between any two instructions. `await` is the loop
`while (blocked) wait`: the thread that waits gives the mutex up, and tests again
with it once it has been woken. A program has each access to the data between a
`lock` and an `unlock`, or it is no `Program`.

What is proved here: at every moment only the holder of the mutex changes the
data, so a run is one of whole sections, from a `lock` or a wake-up to an
`unlock` or a wait. Where what frees a waiting thread is followed by a broadcast,
no thread waits for what has come already.
-/

namespace LibRga.Monitor

variable {τ ι σ ρ ℓ ε α : Type}

inductive Instr (σ ρ ℓ ε α : Type) where
  | lock (next : ℓ)
  | unlock (next : ℓ)
  | await (blocked : σ → Bool) (next : ℓ)
  | broadcast (next : ℓ)
  /-- An access to the data, with the answer of the system where it asks for one. -/
  | act (effect : σ → ρ → Option (σ × List ε × ℓ))
  /-- What a call does without the mutex; how it goes on is up to the environment. -/
  | choose (next : ρ → ℓ)
  | ret (result : α)

/-- The instruction of a place that has the mutex (`here`) or has not, against the places it
leads to. -/
def Instr.Fits (inside : ℓ → Bool) (here : Bool) : Instr σ ρ ℓ ε α → Prop
  | lock next => here = false ∧ inside next = true
  | unlock next => here = true ∧ inside next = false
  | await _ next | broadcast next => here = true ∧ inside next = true
  | act effect => here = true ∧ ∀ data reply after notes next,
      effect data reply = some (after, notes, next) → inside next = true
  | choose next => here = false ∧ ∀ reply, inside (next reply) = false
  | ret _ => here = false

/-- Where an instruction may lead. -/
def Instr.Leads (target : ℓ) : Instr σ ρ ℓ ε α → Prop
  | lock next | unlock next | await _ next | broadcast next => target = next
  | act effect => ∃ data reply after notes, effect data reply = some (after, notes, target)
  | choose next => ∃ reply, target = next reply
  | ret _ => False

structure Program (ι σ ρ ℓ ε α : Type) where
  start : ι → ℓ
  code : ℓ → Instr σ ρ ℓ ε α
  /-- The places that are reached with the mutex. -/
  inside : ℓ → Bool
  outside_first : ∀ entry, inside (start entry) = false
  fits : ∀ place, (code place).Fits inside (inside place)

inductive Status (ℓ : Type) where
  | idle
  | running (place : ℓ)
  /-- On the condition variable, without the mutex. -/
  | parked (place : ℓ)
  /-- Off the condition variable, and not yet with the mutex. -/
  | woken (place : ℓ)
deriving DecidableEq

def Status.wake : Status ℓ → Status ℓ
  | .parked place => .woken place
  | status => status

def Status.place : Status ℓ → Option ℓ
  | .idle => none
  | .running place | .parked place | .woken place => some place

theorem Status.wake_place (status : Status ℓ) : status.wake.place = status.place := by
  cases status <;> rfl

/-- What the steps of another thread leave of a status. -/
def Status.Stays (before after : Status ℓ) : Prop :=
  after = before ∨ after = before.wake

theorem Status.Stays.trans {first second third : Status ℓ} (earlier : first.Stays second)
    (later : second.Stays third) : first.Stays third := by
  have twice : first.wake.wake = first.wake := by cases first <;> rfl
  obtain rfl | rfl := earlier
  · exact later
  · obtain rfl | rfl := later
    · exact .inr rfl
    · exact .inr twice

theorem Status.Stays.running {before after : Status ℓ} {place : ℓ} (stays : before.Stays after)
    (now : after = .running place) : before = .running place := by
  obtain rfl | rfl := stays
  · exact now
  · cases before <;> first | exact now | cases now

structure State (τ σ ℓ : Type) where
  owner : Option τ := none
  data : σ
  threads : τ → Status ℓ := fun _ => .idle

inductive Op (τ ι ρ : Type) where
  | enter (thread : τ) (entry : ι)
  | run (thread : τ) (reply : ρ)
  /-- A wake-up that nobody has asked for. -/
  | spurious (thread : τ)

inductive Event (τ ι ℓ ε α : Type) where
  | entered (thread : τ) (entry : ι)
  | chose (thread : τ) (place : ℓ)
  | returned (thread : τ) (result : α)
  | spurious (thread : τ)
  | locked (thread : τ) (place : ℓ)
  | acted (thread : τ) (place : ℓ) (notes : List ε)
  | passed (thread : τ) (place : ℓ)
  | broadcast (thread : τ) (place : ℓ)
  | parked (thread : τ) (place : ℓ)
  | unlocked (thread : τ) (place : ℓ)
deriving DecidableEq

namespace Event

/-- What is done with the mutex, taking it and giving it up included. -/
def guarded : Event τ ι ℓ ε α → Bool
  | entered _ _ | chose _ _ | returned _ _ | spurious _ => false
  | _ => true

def thread : Event τ ι ℓ ε α → τ
  | entered thread _ | chose thread _ | returned thread _ | spurious thread => thread
  | locked thread _ | acted thread _ _ | passed thread _ | broadcast thread _ => thread
  | parked thread _ | unlocked thread _ => thread

/-- A call, or a wake-up that nobody has asked for: what the program does not do by itself. -/
def outer : Event τ ι ℓ ε α → Bool
  | entered _ _ | spurious _ => true
  | _ => false

def notes : Event τ ι ℓ ε α → List ε
  | acted _ _ notes => notes
  | _ => []

theorem notes_guarded (trace : List (Event τ ι ℓ ε α)) :
    (trace.filter guarded).reverse.flatMap notes = trace.reverse.flatMap notes := by
  induction trace with
  | nil => rfl
  | cons event trace ih =>
      rw [List.reverse_cons, List.flatMap_append, ← ih]
      by_cases kept : event.guarded = true
      · rw [List.filter_cons_of_pos kept, List.reverse_cons, List.flatMap_append]
      · have silent : event.notes = [] := by
          cases event <;> first | rfl | exact absurd rfl kept
        rw [List.filter_cons_of_neg kept, List.flatMap_cons, silent]
        exact (List.append_nil _).symm

end Event

/-- An end of what has been filtered is an end, filtered. -/
theorem suffix_of_filter {α : Type} {p : α → Bool} {past trace : List α}
    (suffix : past <:+ trace.filter p) : ∃ before, before <:+ trace ∧ past = before.filter p := by
  induction trace with
  | nil => exact ⟨[], List.suffix_rfl, List.suffix_nil.mp suffix⟩
  | cons event trace ih =>
      have further (within : past <:+ trace.filter p) :
          ∃ before, before <:+ event :: trace ∧ past = before.filter p := by
        obtain ⟨before, ends, same⟩ := ih within
        exact ⟨before, ends.trans (List.suffix_cons event trace), same⟩
      by_cases kept : p event = true
      · rw [List.filter_cons_of_pos kept, List.suffix_cons_iff] at suffix
        obtain rfl | within := suffix
        · exact ⟨event :: trace, List.suffix_rfl, (List.filter_cons_of_pos kept).symm⟩
        · exact further within
      · rw [List.filter_cons_of_neg kept] at suffix
        exact further suffix

namespace State

variable [DecidableEq τ]

def set (state : State τ σ ℓ) (thread : τ) (status : Status ℓ) : State τ σ ℓ :=
  { state with threads := Function.update state.threads thread status }

def wakeAll (state : State τ σ ℓ) : State τ σ ℓ :=
  { state with threads := fun thread => (state.threads thread).wake }

@[simp]
theorem set_owner (state : State τ σ ℓ) (thread : τ) (status : Status ℓ) :
    (state.set thread status).owner = state.owner :=
  rfl

@[simp]
theorem set_data (state : State τ σ ℓ) (thread : τ) (status : Status ℓ) :
    (state.set thread status).data = state.data :=
  rfl

@[simp]
theorem set_threads (state : State τ σ ℓ) (thread : τ) (status : Status ℓ) :
    (state.set thread status).threads = Function.update state.threads thread status :=
  rfl

end State

/-- The status of a thread that has the mutex (`holds`) or has not. -/
def Status.Fits (inside : ℓ → Bool) (holds : Bool) : Status ℓ → Prop
  | idle => holds = false
  | running place => inside place = holds
  | parked place | woken place => holds = false ∧ inside place = true

theorem Status.Fits.wake {inside : ℓ → Bool} {holds : Bool} {status : Status ℓ}
    (fits : status.Fits inside holds) : status.wake.Fits inside holds := by
  cases status <;> exact fits

namespace Program

/-! What a step can be -/

/-- A step that touches neither the mutex nor the data. -/
inductive Roams (program : Program ι σ ρ ℓ ε α) (thread : τ) :
    Status ℓ → Event τ ι ℓ ε α → Status ℓ → Prop
  | entered (entry : ι) :
      Roams program thread .idle (.entered thread entry) (.running (program.start entry))
  | chose (place : ℓ) (next : ρ → ℓ) (reply : ρ) : program.code place = .choose next →
      Roams program thread (.running place) (.chose thread place) (.running (next reply))
  | returned (place : ℓ) (result : α) : program.code place = .ret result →
      Roams program thread (.running place) (.returned thread result) .idle
  | spurious (place : ℓ) :
      Roams program thread (.parked place) (.spurious thread) (.woken place)

/-- Where a thread has the mutex from, and to where. -/
inductive Opens (program : Program ι σ ρ ℓ ε α) : Status ℓ → ℓ → ℓ → Prop
  | lock (place next : ℓ) : program.code place = .lock next →
      Opens program (.running place) place next
  | again (place : ℓ) : Opens program (.woken place) place place

/-- A step of the holder that keeps the mutex, but for the threads it may wake. -/
inductive Inner (program : Program ι σ ρ ℓ ε α) (thread : τ) (data : σ) (place : ℓ) :
    Event τ ι ℓ ε α → σ → ℓ → Prop
  | acted (effect : σ → ρ → Option (σ × List ε × ℓ)) (reply : ρ) (after : σ) (notes : List ε)
      (next : ℓ) : program.code place = .act effect →
      effect data reply = some (after, notes, next) →
      Inner program thread data place (.acted thread place notes) after next
  | passed (blocked : σ → Bool) (next : ℓ) : program.code place = .await blocked next →
      blocked data = false → Inner program thread data place (.passed thread place) data next
  | broadcast (next : ℓ) : program.code place = .broadcast next →
      Inner program thread data place (.broadcast thread place) data next

inductive Closes (program : Program ι σ ρ ℓ ε α) (thread : τ) (data : σ) (place : ℓ) :
    Event τ ι ℓ ε α → Status ℓ → Prop
  | unlocked (next : ℓ) : program.code place = .unlock next →
      Closes program thread data place (.unlocked thread place) (.running next)
  | parked (blocked : σ → Bool) (next : ℓ) : program.code place = .await blocked next →
      blocked data = true → Closes program thread data place (.parked thread place) (.parked place)

variable {program : Program ι σ ρ ℓ ε α} {event : Event τ ι ℓ ε α}

theorem Roams.fits {thread : τ} {before status : Status ℓ} {holds : Bool}
    (roams : program.Roams thread before event status) (fits : before.Fits program.inside holds) :
    holds = false ∧ status.Fits program.inside false := by
  cases roams with
  | entered entry => exact ⟨fits, program.outside_first entry⟩
  | chose place next reply code =>
      have instr := program.fits place
      rw [code] at instr
      exact ⟨fits.symm.trans instr.1, instr.2 reply⟩
  | returned place result code =>
      have instr := program.fits place
      rw [code] at instr
      exact ⟨fits.symm.trans instr, rfl⟩
  | spurious place => exact ⟨fits.1, rfl, fits.2⟩

theorem Opens.fits {status : Status ℓ} {place next : ℓ} {holds : Bool}
    (opens : program.Opens status place next) (fits : status.Fits program.inside holds) :
    program.inside next = true := by
  cases opens with
  | lock _ _ code =>
      have instr := program.fits place
      rw [code] at instr
      exact instr.2
  | again _ => exact fits.2

theorem Inner.fits {thread : τ} {data later : σ} {place next : ℓ}
    (inner : program.Inner thread data place event later next) :
    program.inside place = true ∧ program.inside next = true := by
  have instr := program.fits place
  cases inner with
  | acted effect reply _ notes _ code answered =>
      rw [code] at instr
      exact ⟨instr.1, instr.2 data reply later notes next answered⟩
  | passed blocked _ code _ =>
      rw [code] at instr
      exact instr
  | broadcast _ code =>
      rw [code] at instr
      exact instr

theorem Closes.fits {thread : τ} {data : σ} {place : ℓ} {status : Status ℓ}
    (closes : program.Closes thread data place event status) :
    program.inside place = true ∧ status.Fits program.inside false := by
  have instr := program.fits place
  cases closes with
  | unlocked next code =>
      rw [code] at instr
      exact instr
  | parked blocked next code _ =>
      rw [code] at instr
      exact ⟨instr.1, rfl, instr.1⟩

theorem Roams.thread_eq {thread : τ} {before status : Status ℓ}
    (roams : program.Roams thread before event status) : event.thread = thread := by
  cases roams <;> rfl

theorem Inner.thread_eq {thread : τ} {data later : σ} {place next : ℓ}
    (inner : program.Inner thread data place event later next) : event.thread = thread := by
  cases inner <;> rfl

theorem Closes.thread_eq {thread : τ} {data : σ} {place : ℓ} {status : Status ℓ}
    (closes : program.Closes thread data place event status) : event.thread = thread := by
  cases closes <;> rfl

theorem Roams.unguarded {thread : τ} {before status : Status ℓ}
    (roams : program.Roams thread before event status) : event.guarded = false := by
  cases roams <;> rfl

theorem Inner.guarded {thread : τ} {data later : σ} {place next : ℓ}
    (inner : program.Inner thread data place event later next) : event.guarded = true := by
  cases inner <;> rfl

theorem Closes.guarded {thread : τ} {data : σ} {place : ℓ} {status : Status ℓ}
    (closes : program.Closes thread data place event status) : event.guarded = true := by
  cases closes <;> rfl

theorem Inner.not_outer {thread : τ} {data later : σ} {place next : ℓ}
    (inner : program.Inner thread data place event later next) : event.outer = false := by
  cases inner <;> rfl

theorem Closes.not_outer {thread : τ} {data : σ} {place : ℓ} {status : Status ℓ}
    (closes : program.Closes thread data place event status) : event.outer = false := by
  cases closes <;> rfl

theorem Opens.wake {status : Status ℓ} {place next : ℓ} (opens : program.Opens status place next) :
    status.wake = status := by
  cases opens <;> rfl

/-! Steps -/

section Steps

variable [DecidableEq τ]

/-- One instruction of one thread; none where it has to wait, or gets no such answer. -/
def step (program : Program ι σ ρ ℓ ε α) (state : State τ σ ℓ) :
    Op τ ι ρ → Option (State τ σ ℓ × Event τ ι ℓ ε α)
  | .enter thread entry =>
      match state.threads thread with
      | .idle => some (state.set thread (.running (program.start entry)), .entered thread entry)
      | _ => none
  | .spurious thread =>
      match state.threads thread with
      | .parked place => some (state.set thread (.woken place), .spurious thread)
      | _ => none
  | .run thread reply =>
      match state.threads thread with
      | .woken place =>
          if state.owner.isSome then none
          else some ({ state with owner := some thread }.set thread (.running place),
            .locked thread place)
      | .running place =>
          match program.code place with
          | .lock next =>
              if state.owner.isSome then none
              else some ({ state with owner := some thread }.set thread (.running next),
                .locked thread place)
          | .unlock next =>
              some ({ state with owner := none }.set thread (.running next),
                .unlocked thread place)
          | .await blocked next =>
              if blocked state.data then
                some ({ state with owner := none }.set thread (.parked place),
                  .parked thread place)
              else some (state.set thread (.running next), .passed thread place)
          | .broadcast next =>
              some (state.wakeAll.set thread (.running next), .broadcast thread place)
          | .act effect =>
              (effect state.data reply).map fun (after, notes, next) =>
                ({ state with data := after }.set thread (.running next),
                  .acted thread place notes)
          | .choose next =>
              some (state.set thread (.running (next reply)), .chose thread place)
          | .ret result => some (state.set thread .idle, .returned thread result)
      | _ => none

theorem step_enter {state : State τ σ ℓ} {thread : τ} (idle : state.threads thread = .idle)
    (entry : ι) : program.step state (.enter thread entry) =
      some (state.set thread (.running (program.start entry)), .entered thread entry) := by
  simp only [step, idle]

/-- Whether the step wakes all that are parked. -/
def wakes : Event τ ι ℓ ε α → Bool
  | .broadcast _ _ => true
  | _ => false

inductive Stepped (program : Program ι σ ρ ℓ ε α) (state : State τ σ ℓ) :
    Event τ ι ℓ ε α → State τ σ ℓ → Prop
  | roams (thread : τ) (event : Event τ ι ℓ ε α) (status : Status ℓ) :
      program.Roams thread (state.threads thread) event status →
      Stepped program state event (state.set thread status)
  | opens (thread : τ) (place next : ℓ) : state.owner = none →
      program.Opens (state.threads thread) place next →
      Stepped program state (.locked thread place)
        ({ state with owner := some thread }.set thread (.running next))
  | inner (thread : τ) (event : Event τ ι ℓ ε α) (place next : ℓ) (after : σ) :
      state.threads thread = .running place →
      program.Inner thread state.data place event after next →
      Stepped program state event
        ({ if wakes event then state.wakeAll else state with data := after }.set thread
          (.running next))
  | closes (thread : τ) (event : Event τ ι ℓ ε α) (place : ℓ) (status : Status ℓ) :
      state.threads thread = .running place →
      program.Closes thread state.data place event status →
      Stepped program state event ({ state with owner := none }.set thread status)

variable {state after : State τ σ ℓ} {op : Op τ ι ρ}

theorem step_stepped (taken : program.step state op = some (after, event)) :
    program.Stepped state event after := by
  cases op with
  | enter thread entry =>
      simp only [step] at taken
      split at taken
      · rename_i idle
        cases taken
        exact .roams thread _ _ (idle ▸ .entered entry)
      · cases taken
  | spurious thread =>
      simp only [step] at taken
      split at taken
      · rename_i place parked
        cases taken
        exact .roams thread _ _ (parked ▸ .spurious place)
      · cases taken
  | run thread reply =>
      simp only [step] at taken
      split at taken
      · rename_i place woken
        split at taken
        · cases taken
        · rename_i free
          cases taken
          exact .opens thread place place (Option.not_isSome_iff_eq_none.mp free)
            (woken ▸ .again place)
      · rename_i place running
        split at taken
        · rename_i next code
          split at taken
          · cases taken
          · rename_i free
            cases taken
            exact .opens thread place next (Option.not_isSome_iff_eq_none.mp free)
              (running ▸ .lock place next code)
        · rename_i next code
          cases taken
          exact .closes thread _ place _ running (.unlocked next code)
        · rename_i blocked next code
          split at taken
          · rename_i waits
            cases taken
            exact .closes thread _ place _ running (.parked blocked next code waits)
          · rename_i goes
            cases taken
            exact .inner thread _ place next _ running
              (.passed blocked next code (Bool.eq_false_iff.mpr goes))
        · rename_i next code
          cases taken
          exact .inner thread _ place next _ running (.broadcast next code)
        · rename_i effect code
          obtain ⟨⟨later, notes, next⟩, answered, same⟩ := Option.map_eq_some_iff.mp taken
          cases same
          exact .inner thread _ place next later running
            (.acted effect reply later notes next code answered)
        · rename_i next code
          cases taken
          exact .roams thread _ _ (running ▸ .chose place next reply code)
        · rename_i result code
          cases taken
          exact .roams thread _ _ (running ▸ .returned place result code)
      · cases taken

/-- Only a thread that enters or returns begins or ends to be idle. -/
theorem Stepped.idle_iff (stepped : program.Stepped state event after) (thread : τ)
    (enters : ∀ entry, event ≠ .entered thread entry)
    (returns : ∀ result, event ≠ .returned thread result) :
    after.threads thread = .idle ↔ state.threads thread = .idle := by
  have woken (status : Status ℓ) : status.wake = .idle ↔ status = .idle := by
    cases status <;> simp [Status.wake]
  have moved {other : τ} {before : State τ σ ℓ} {status : Status ℓ}
      (stays : before.threads thread = .idle ↔ state.threads thread = .idle)
      (acts : other = thread → (status = .idle ↔ state.threads thread = .idle)) :
      (before.set other status).threads thread = .idle ↔ state.threads thread = .idle := by
    rw [State.set_threads]
    by_cases acting : thread = other
    · rw [acting, Function.update_self]
      exact acting ▸ acts acting.symm
    · rw [Function.update_of_ne acting]
      exact stays
  cases stepped with
  | roams other event status roams =>
      refine moved Iff.rfl ?_
      rintro rfl
      generalize state.threads other = before at roams
      cases roams with
      | entered entry => exact absurd rfl (enters entry)
      | returned place result _ => exact absurd rfl (returns result)
      | chose _ _ _ _ | spurious _ => exact iff_of_false nofun nofun
  | opens other place next free opens =>
      refine moved Iff.rfl ?_
      rintro rfl
      generalize state.threads other = before at opens
      cases opens <;> exact iff_of_false nofun nofun
  | inner other event place next later running inner =>
      refine moved ?_ ?_
      · split
        · exact woken _
        · exact Iff.rfl
      · rintro rfl
        rw [running]
        exact iff_of_false nofun nofun
  | closes other event place status running closes =>
      refine moved Iff.rfl ?_
      rintro rfl
      rw [running]
      cases closes <;> exact iff_of_false nofun nofun

theorem Stepped.others (stepped : program.Stepped state event after) {other : τ}
    (different : other ≠ event.thread) :
    (state.threads other).Stays (after.threads other) := by
  cases stepped with
  | roams thread event status roams =>
      rw [roams.thread_eq] at different
      exact .inl (Function.update_of_ne different ..)
  | opens thread place next free opens => exact .inl (Function.update_of_ne different ..)
  | inner thread event place next later running inner =>
      rw [inner.thread_eq] at different
      rw [State.set_threads, Function.update_of_ne different]
      dsimp only
      split
      · exact .inr rfl
      · exact .inl rfl
  | closes thread event place status running closes =>
      rw [closes.thread_eq] at different
      exact .inl (Function.update_of_ne different ..)

/-- Where a thread is after a step: where it was, or at the next instruction of its call. -/
theorem Stepped.came (stepped : program.Stepped state event after) {thread : τ} {place : ℓ}
    (there : (after.threads thread).place = some place) :
    (∃ entry, event = .entered thread entry ∧ place = program.start entry) ∨
      ∃ before, (state.threads thread).place = some before ∧
        (place = before ∨ (program.code before).Leads place) := by
  have stays {status : Status ℓ} (same : status = (state.threads thread).wake ∨
      status = state.threads thread) (here : status.place = some place) :
      ∃ before, (state.threads thread).place = some before ∧
        (place = before ∨ (program.code before).Leads place) := by
    obtain rfl | rfl := same
    · exact ⟨place, (Status.wake_place _).symm.trans here, .inl rfl⟩
    · exact ⟨place, here, .inl rfl⟩
  cases stepped with
  | roams other event status roams =>
      rw [State.set_threads] at there
      by_cases acting : thread = other
      · subst acting
        rw [Function.update_self] at there
        generalize state.threads thread = before at roams
        cases roams with
        | entered entry =>
            cases there
            exact .inl ⟨entry, rfl, rfl⟩
        | chose place next reply code =>
            cases there
            exact .inr ⟨place, rfl, .inr (code ▸ ⟨reply, rfl⟩)⟩
        | returned place result code => cases there
        | spurious place =>
            cases there
            exact .inr ⟨place, rfl, .inl rfl⟩
      · rw [Function.update_of_ne acting] at there
        exact .inr (stays (.inr rfl) there)
  | opens other place next free opens =>
      rw [State.set_threads] at there
      by_cases acting : thread = other
      · subst acting
        rw [Function.update_self] at there
        cases there
        generalize state.threads thread = before at opens
        cases opens with
        | lock place next code => exact .inr ⟨place, rfl, .inr (code ▸ rfl)⟩
        | again place => exact .inr ⟨place, rfl, .inl rfl⟩
      · rw [Function.update_of_ne acting] at there
        exact .inr (stays (.inr rfl) there)
  | inner other event place next later running inner =>
      rw [State.set_threads] at there
      by_cases acting : thread = other
      · subst acting
        rw [Function.update_self] at there
        cases there
        refine .inr ⟨place, by rw [running]; rfl, .inr ?_⟩
        cases inner with
        | acted effect reply _ notes _ code answered =>
            exact code ▸ ⟨state.data, reply, later, notes, answered⟩
        | passed blocked _ code _ => exact code ▸ rfl
        | broadcast _ code => exact code ▸ rfl
      · rw [Function.update_of_ne acting] at there
        refine .inr (stays ?_ there)
        dsimp only
        split
        · exact .inl rfl
        · exact .inr rfl
  | closes other event place status running closes =>
      rw [State.set_threads] at there
      by_cases acting : thread = other
      · subst acting
        rw [Function.update_self] at there
        refine .inr ⟨place, by rw [running]; rfl, ?_⟩
        cases closes with
        | unlocked next code =>
            cases there
            exact .inr (code ▸ rfl)
        | parked blocked next code _ =>
            cases there
            exact .inl rfl
      · rw [Function.update_of_ne acting] at there
        exact .inr (stays (.inr rfl) there)

theorem Stepped.returned {thread : τ} {result : α}
    (stepped : program.Stepped state (.returned thread result) after) :
    (∃ place, state.threads thread = .running place ∧ program.code place = .ret result) ∧
      after = state.set thread .idle := by
  cases stepped with
  | roams other event status roams =>
      generalize before : state.threads other = status at roams
      cases roams with
      | returned place result code => exact ⟨⟨place, before, code⟩, rfl⟩
  | inner other event place next later running inner => cases inner
  | closes other event place status running closes => cases closes

theorem Stepped.entered {thread : τ} {entry : ι}
    (stepped : program.Stepped state (.entered thread entry) after) :
    state.threads thread = .idle ∧ after = state.set thread (.running (program.start entry)) := by
  cases stepped with
  | roams other event status roams =>
      generalize before : state.threads other = status at roams
      cases roams with
      | entered entry => exact ⟨before, rfl⟩
  | inner other event place next later running inner => cases inner
  | closes other event place status running closes => cases closes

/-- A step that no call and no unasked wake-up made is one that the thread could make by itself. -/
theorem run_of_not_outer (taken : program.step state op = some (after, event))
    (inward : event.outer = false) : ∃ thread reply, op = .run thread reply := by
  cases op with
  | run thread reply => exact ⟨thread, reply, rfl⟩
  | enter thread entry =>
      simp only [step] at taken
      split at taken <;> cases taken
      cases inward
  | spurious thread =>
      simp only [step] at taken
      split at taken <;> cases taken
      cases inward

theorem run_not_entered {thread : τ} {reply : ρ}
    (taken : program.step state (.run thread reply) = some (after, event)) :
    ∀ other entry, event ≠ .entered other entry := by
  rintro other entry rfl
  simp only [step] at taken
  repeat' split at taken
  all_goals first | cases taken | simp at taken

/-- The thread can go on until its call is over, with no other call made. -/
def Returns (program : Program ι σ ρ ℓ ε α) (state : State τ σ ℓ) (thread : τ) : Prop :=
  ∃ later final, Machine.Run program.step state later final ∧
    (∀ event ∈ later, event.outer = false) ∧ final.threads thread = .idle

theorem Returns.behind {middle : State τ σ ℓ} {thread : τ} {first : List (Event τ ι ℓ ε α)}
    (returns : program.Returns middle thread) (run : Machine.Run program.step state first middle)
    (asked : ∀ event ∈ first, event.outer = false) : program.Returns state thread := by
  obtain ⟨later, final, onwards, told, idle⟩ := returns
  exact ⟨_, final, run.trans onwards, fun event member =>
    (List.mem_append.mp member).elim (told event) (asked event), idle⟩

/-- Exactly the owner of the mutex is between taking it and giving it up. -/
def Exclusive (program : Program ι σ ρ ℓ ε α) (state : State τ σ ℓ) : Prop :=
  ∀ thread, (state.threads thread).Fits program.inside (decide (state.owner = some thread))

theorem Exclusive.owns (exclusive : program.Exclusive state) {thread : τ} {place : ℓ}
    (running : state.threads thread = .running place) (inside : program.inside place = true) :
    state.owner = some thread := by
  have fits := exclusive thread
  rw [running] at fits
  exact of_decide_eq_true (fits.symm.trans inside)

theorem Exclusive.holder (exclusive : program.Exclusive state) {thread : τ}
    (holds : state.owner = some thread) :
    ∃ place, state.threads thread = .running place ∧ program.inside place = true := by
  have fits := exclusive thread
  rw [holds, decide_eq_true rfl] at fits
  cases status : state.threads thread with
  | running place => exact ⟨place, rfl, by rwa [status] at fits⟩
  | idle =>
      rw [status] at fits
      cases fits
  | parked place | woken place =>
      rw [status] at fits
      cases fits.1

theorem Exclusive.apart (exclusive : program.Exclusive state) {thread : τ}
    (holds : state.owner = some thread) {other : τ} (different : other ≠ thread) :
    (state.threads other).Fits program.inside false := by
  have fits := exclusive other
  rwa [holds, decide_eq_false fun same => different (Option.some.inj same).symm] at fits

theorem Stepped.exclusive (stepped : program.Stepped state event after)
    (exclusive : program.Exclusive state) : program.Exclusive after := by
  intro other
  cases stepped with
  | roams thread event status roams =>
      obtain ⟨apart, fits⟩ := roams.fits (exclusive thread)
      rw [State.set_threads, State.set_owner]
      by_cases acting : other = thread
      · rw [acting, Function.update_self, apart]
        exact fits
      · rw [Function.update_of_ne acting]
        exact exclusive other
  | opens thread place next free opens =>
      rw [State.set_threads, State.set_owner]
      by_cases acting : other = thread
      · rw [acting, Function.update_self, decide_eq_true rfl]
        exact opens.fits (exclusive thread)
      · have fits := exclusive other
        rw [free, decide_eq_false (by simp)] at fits
        rw [Function.update_of_ne acting, decide_eq_false fun same =>
          acting (Option.some.inj same).symm]
        exact fits
  | inner thread event place next later running inner =>
      obtain ⟨here, there⟩ := inner.fits
      have holds := exclusive.owns running here
      rw [State.set_threads]
      by_cases acting : other = thread
      · rw [acting, Function.update_self]
        have owns : (if wakes event then state.wakeAll else state).owner = some thread := by
          split <;> exact holds
        exact there.trans (decide_eq_true owns).symm
      · rw [Function.update_of_ne acting]
        split
        · exact (exclusive other).wake
        · exact exclusive other
  | closes thread event place status running closes =>
      obtain ⟨here, fits⟩ := closes.fits
      rw [State.set_threads, State.set_owner, decide_eq_false (by simp)]
      by_cases acting : other = thread
      · rw [acting, Function.update_self]
        exact fits
      · rw [Function.update_of_ne acting]
        exact exclusive.apart (exclusive.owns running here) acting

theorem Exclusive.run (exclusive : program.Exclusive state) {trace : List (Event τ ι ℓ ε α)}
    (run : Machine.Run program.step state trace after) : program.Exclusive after := by
  refine run.invariant (P := fun _ state => program.Exclusive state) exclusive ?_
  intro past before op later event _ kept taken
  exact (step_stepped taken).exclusive kept

theorem exclusive_start (program : Program ι σ ρ ℓ ε α) (data : σ) :
    program.Exclusive ({ data := data } : State τ σ ℓ) :=
  fun _ => rfl

end Steps

end Program

end LibRga.Monitor

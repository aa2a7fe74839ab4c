import LibRga.Library.Interleaving
import Mathlib.Logic.Function.Basic

/-!
Protocols of interactive programs, and threads that are served out of a shared state.

A protocol says which exchanges a call may make in each of its phases. The phase
of a call is no part of any state: where every program follows the protocol, a
run can be read back with a phase for each call that is underway. A server
answers a request out of the shared state, taking what is proposed where the
answer is up to the environment.
-/

namespace LibRga.Interaction

variable {τ ι κ : Type} {ρ : κ → Type} {α β σ π : Type}

namespace Prog

variable {protocol : π → Sigma ρ → π → Prop}

/-- Whatever is answered, the protocol has every exchange in the phase in which it is made. -/
def Follows (protocol : π → Sigma ρ → π → Prop) (ends : π → α → Prop) : Prog κ ρ α → π → Prop
  | .done result, phase => ends phase result
  | .call request next, phase =>
      ∀ answer, ∃ later, protocol phase ⟨request, answer⟩ later ∧
        (next answer).Follows protocol ends later

theorem Follows.mono {ends wider : π → α → Prop} {prog : Prog κ ρ α} {phase : π}
    (follows : prog.Follows protocol ends phase)
    (implies : ∀ later result, ends later result → wider later result) :
    prog.Follows protocol wider phase := by
  induction prog generalizing phase with
  | done result => exact implies phase result follows
  | call request next ih =>
      intro answer
      obtain ⟨later, allowed, rest⟩ := follows answer
      exact ⟨later, allowed, ih answer rest⟩

theorem Follows.bind {middle : π → α → Prop} {ends : π → β → Prop} {prog : Prog κ ρ α}
    {next : α → Prog κ ρ β} {phase : π} (first : prog.Follows protocol middle phase)
    (rest : ∀ later result, middle later result → (next result).Follows protocol ends later) :
    (prog.bind next).Follows protocol ends phase := by
  induction prog generalizing phase with
  | done result => exact rest phase result first
  | call request cont ih =>
      intro answer
      obtain ⟨later, allowed, follows⟩ := first answer
      exact ⟨later, allowed, ih answer follows⟩

theorem Follows.map {ends : π → β → Prop} {prog : Prog κ ρ α} {f : α → β} {phase : π}
    (follows : prog.Follows protocol (fun later result => ends later (f result)) phase) :
    (f <$> prog).Follows protocol ends phase :=
  follows.bind fun _ _ ended => ended

theorem Follows.ite {ends : π → α → Prop} {condition : Prop} [Decidable condition]
    {yes no : Prog κ ρ α} {phase : π} (holds : condition → yes.Follows protocol ends phase)
    (otherwise : ¬condition → no.Follows protocol ends phase) :
    (if condition then yes else no).Follows protocol ends phase := by
  split
  · exact holds ‹_›
  · exact otherwise ‹_›

/-- Handlers that each come back to `rest` make up a program that does. -/
theorem Follows.interpret {κ' : Type} {ρ' : κ' → Type} {rest : π → Prop}
    {handler : ∀ request, Prog κ ρ (ρ' request)}
    (handled : ∀ request phase, rest phase →
      (handler request).Follows protocol (fun later _ => rest later) phase)
    (prog : Prog κ' ρ' α) {phase : π} (start : rest phase) :
    (prog.interpret handler).Follows protocol (fun later _ => rest later) phase := by
  induction prog generalizing phase with
  | done result => exact start
  | call request next ih => exact (handled request phase start).bind fun _ answer => ih answer

end Prog

/-! Serving -/

abbrev Server (κ : Type) (ρ : κ → Type) (σ : Type) :=
  σ → (request : κ) → ρ request → Option (ρ request × σ)

namespace Interleaved

variable [DecidableEq τ]

/-- As `step`, with answers from the server; none where a request has to wait. -/
def serveStep (program : ι → Prog κ ρ α) (serve : Server κ ρ σ) (state : Interleaved τ κ ρ α σ) :
    InterleavedOp τ ι κ ρ → Option (Interleaved τ κ ρ α σ × InterleavedEvent τ ι κ ρ α σ)
  | .enter thread entry =>
      match state.underway thread with
      | some _ => none
      | none => some (state.setUnderway thread (some ⟨program entry, []⟩), .entered thread entry)
  | .answer thread proposed =>
      match state.underway thread with
      | some ⟨.call request next, past⟩ =>
          (serve state.shared request (proposed request)).map fun (answer, after) =>
            ({ state with shared := after }.setUnderway thread
                (some ⟨next answer, ⟨request, answer⟩ :: past⟩),
              .exchanged thread state.shared ⟨request, answer⟩ after)
      | _ => none
  | .leave thread =>
      match state.underway thread with
      | some ⟨.done result, past⟩ =>
          some (state.setUnderway thread none, .returned thread past result)
      | _ => none

inductive Served (program : ι → Prog κ ρ α) (serve : Server κ ρ σ)
    (state : Interleaved τ κ ρ α σ) :
    InterleavedEvent τ ι κ ρ α σ → Interleaved τ κ ρ α σ → Prop
  | entered (thread entry) : state.underway thread = none →
      Served program serve state (.entered thread entry)
        (state.setUnderway thread (some ⟨program entry, []⟩))
  | exchanged (thread request next past proposed answer after) :
      state.underway thread = some ⟨.call request next, past⟩ →
      serve state.shared request proposed = some (answer, after) →
      Served program serve state (.exchanged thread state.shared ⟨request, answer⟩ after)
        ({ state with shared := after }.setUnderway thread
          (some ⟨next answer, ⟨request, answer⟩ :: past⟩))
  | returned (thread past result) : state.underway thread = some ⟨.done result, past⟩ →
      Served program serve state (.returned thread past result) (state.setUnderway thread none)

variable {program : ι → Prog κ ρ α} {serve : Server κ ρ σ} {state after : Interleaved τ κ ρ α σ}
  {event : InterleavedEvent τ ι κ ρ α σ}

theorem serveStep_served {op : InterleavedOp τ ι κ ρ}
    (taken : state.serveStep program serve op = some (after, event)) :
    Served program serve state event after := by
  cases op with
  | enter thread entry =>
      simp only [serveStep] at taken
      split at taken
      · cases taken
      · cases taken
        exact .entered thread entry (by assumption)
  | answer thread proposed =>
      simp only [serveStep] at taken
      split at taken
      · obtain ⟨⟨answer, later⟩, served, same⟩ := Option.map_eq_some_iff.mp taken
        cases same
        exact .exchanged thread _ _ _ _ answer later (by assumption) served
      · cases taken
  | leave thread =>
      simp only [serveStep] at taken
      split at taken
      · cases taken
        exact .returned thread _ _ (by assumption)
      · cases taken

theorem Served.step (proposals : ∀ request, ρ request)
    (served : Served program serve state event after) :
    ∃ op, state.serveStep program serve op = some (after, event) := by
  classical
  cases served with
  | entered thread entry idle => exact ⟨.enter thread entry, by simp only [serveStep, idle]⟩
  | exchanged thread request next past proposed answer later standing answered =>
      refine ⟨.answer thread (Function.update proposals request proposed), ?_⟩
      simp only [serveStep, standing, Function.update_self, answered, Option.map_some]
  | returned thread past result standing =>
      exact ⟨.leave thread, by simp only [serveStep, standing]⟩

end Interleaved

/-! Runs with phases -/

section Phases

variable [DecidableEq τ] {program : ι → Prog κ ρ α} {serve : Server κ ρ σ}
  {protocol : π → Sigma ρ → π → Prop} {ends : π → α → Prop} {first : π}

/-- Every call underway is in its phase. -/
structure Phased (protocol : π → Sigma ρ → π → Prop) (ends : π → α → Prop)
    (state : Interleaved τ κ ρ α σ) (phases : τ → Option π) : Prop where
  idle : ∀ thread, state.underway thread = none → phases thread = none
  follows : ∀ thread call, state.underway thread = some call →
    ∃ phase, phases thread = some phase ∧ call.rest.Follows protocol ends phase

theorem Phased.set {state : Interleaved τ κ ρ α σ} {phases : τ → Option π} {shared : σ}
    (phased : Phased protocol ends state phases) {thread : τ} {call : Option (Underway κ ρ α)}
    {phase : Option π} (idle : call = none → phase = none)
    (follows : ∀ now, call = some now →
      ∃ there, phase = some there ∧ now.rest.Follows protocol ends there) :
    Phased protocol ends ({ state with shared := shared }.setUnderway thread call)
      (Function.update phases thread phase) := by
  constructor
  · intro other none
    rw [Interleaved.underway_set] at none
    by_cases same : other = thread
    · rw [same, Function.update_self]
      exact idle (by rwa [if_pos same] at none)
    · rw [Function.update_of_ne same]
      rw [if_neg same] at none
      exact phased.idle other none
  · intro other now found
    rw [Interleaved.underway_set] at found
    by_cases same : other = thread
    · rw [same, Function.update_self]
      exact follows now (by rwa [if_pos same] at found)
    · rw [Function.update_of_ne same]
      rw [if_neg same] at found
      exact phased.follows other now found

/-- What each event keeps of the trace, the shared state and the phases. -/
structure KeptAlong (serve : Server κ ρ σ) (protocol : π → Sigma ρ → π → Prop)
    (ends : π → α → Prop) (first : π)
    (P : List (InterleavedEvent τ ι κ ρ α σ) → σ → (τ → Option π) → Prop) : Prop where
  entered : ∀ past shared phases thread entry, P past shared phases → phases thread = none →
    P (.entered thread entry :: past) shared (Function.update phases thread (some first))
  exchanged : ∀ past shared phases thread phase later request proposed answer after,
    P past shared phases → phases thread = some phase →
    serve shared request proposed = some (answer, after) →
    protocol phase ⟨request, answer⟩ later →
    P (.exchanged thread shared ⟨request, answer⟩ after :: past) after
      (Function.update phases thread (some later))
  returned : ∀ past shared phases thread phase calls result, P past shared phases →
    phases thread = some phase → ends phase result →
    P (.returned thread calls result :: past) shared (Function.update phases thread none)

variable {P : List (InterleavedEvent τ ι κ ρ α σ) → σ → (τ → Option π) → Prop}
  {start state after : Interleaved τ κ ρ α σ} {event : InterleavedEvent τ ι κ ρ α σ}

theorem KeptAlong.step (kept : KeptAlong serve protocol ends first P)
    (follows : ∀ entry, (program entry).Follows protocol ends first)
    {past : List (InterleavedEvent τ ι κ ρ α σ)} {phases : τ → Option π}
    (phased : Phased protocol ends state phases) (holds : P past state.shared phases)
    (served : Interleaved.Served program serve state event after) :
    ∃ later, Phased protocol ends after later ∧ P (event :: past) after.shared later := by
  cases served with
  | entered thread entry idle =>
      refine ⟨Function.update phases thread (some first), ?_, ?_⟩
      · refine phased.set (fun none => by cases none) ?_
        rintro _ ⟨⟩
        exact ⟨first, rfl, follows entry⟩
      · exact kept.entered past _ phases thread entry holds (phased.idle thread idle)
  | exchanged thread request next earlier proposed answer later standing answered =>
      obtain ⟨phase, found, follows⟩ := phased.follows thread _ standing
      obtain ⟨reached, allowed, rest⟩ := follows answer
      refine ⟨Function.update phases thread (some reached), ?_, ?_⟩
      · refine phased.set (fun none => by cases none) ?_
        rintro _ ⟨⟩
        exact ⟨reached, rfl, rest⟩
      · exact kept.exchanged past _ phases thread phase reached request proposed answer later holds
          found answered allowed
  | returned thread earlier result standing =>
      obtain ⟨phase, found, ended⟩ := phased.follows thread _ standing
      refine ⟨Function.update phases thread none, ?_, ?_⟩
      · exact phased.set (fun _ => rfl) fun _ found => by cases found
      · exact kept.returned past _ phases thread phase earlier result holds found ended

/-- What holds of every event, for all that is kept before it. -/
theorem KeptAlong.events (kept : KeptAlong serve protocol ends first P)
    {Q : InterleavedEvent τ ι κ ρ α σ → Prop} (entered : ∀ thread entry, Q (.entered thread entry))
    (exchanged : ∀ past shared phases thread phase later request proposed answer after,
      P past shared phases → phases thread = some phase →
      serve shared request proposed = some (answer, after) →
      protocol phase ⟨request, answer⟩ later →
      Q (.exchanged thread shared ⟨request, answer⟩ after))
    (returned : ∀ thread calls result, Q (.returned thread calls result)) :
    KeptAlong serve protocol ends first fun past shared phases =>
      P past shared phases ∧ ∀ event ∈ past, Q event := by
  constructor
  · rintro past shared phases thread entry ⟨holds, all⟩ fresh
    exact ⟨kept.entered past shared phases thread entry holds fresh,
      List.forall_mem_cons.mpr ⟨entered thread entry, all⟩⟩
  · rintro past shared phases thread phase later request proposed answer after ⟨holds, all⟩ now
      served allowed
    refine ⟨kept.exchanged past shared phases thread phase later request proposed answer after holds
      now served allowed, List.forall_mem_cons.mpr ⟨?_, all⟩⟩
    exact exchanged past shared phases thread phase later request proposed answer after holds now
      served allowed
  · rintro past shared phases thread phase calls result ⟨holds, all⟩ now ended
    exact ⟨kept.returned past shared phases thread phase calls result holds now ended,
      List.forall_mem_cons.mpr ⟨returned thread calls result, all⟩⟩

/-- Programs that follow the protocol keep what its exchanges keep, in every interleaving. -/
theorem KeptAlong.run (kept : KeptAlong serve protocol ends first P)
    (follows : ∀ entry, (program entry).Follows protocol ends first)
    (base : P [] start.shared fun _ => none) (idle : ∀ thread, start.underway thread = none)
    {trace : List (InterleavedEvent τ ι κ ρ α σ)}
    (run : Machine.Run (Interleaved.serveStep program serve) start trace state) :
    ∃ phases, Phased protocol ends state phases ∧ P trace state.shared phases := by
  refine run.invariant (P := fun past state =>
    ∃ phases, Phased protocol ends state phases ∧ P past state.shared phases) ?_ ?_
  · refine ⟨fun _ => none, ⟨fun _ _ => rfl, fun thread call found => ?_⟩, base⟩
    rw [idle thread] at found
    cases found
  · rintro past before op after event _ ⟨phases, phased, holds⟩ taken
    exact kept.step follows phased holds (Interleaved.serveStep_served taken)

end Phases

/-! Locks -/

section Locks

variable {δ : Type} [DecidableEq τ]

/-- A lock over `data`, and what the phases say of it: `view` is what a critical section has found,
and nobody but the holder of the lock is in one. -/
structure Guarded (view : π → Option δ) (locked : Bool) (data : δ) (phases : τ → Option π)
    (holder : Option τ) : Prop where
  locked : locked = holder.isSome
  present : ∀ thread, holder = some thread → ∃ phase, phases thread = some phase
  viewed : ∀ thread phase, phases thread = some phase →
    view phase = if holder = some thread then some data else none

namespace Guarded

variable {view : π → Option δ} {locked : Bool} {data changed found : δ} {phases : τ → Option π}
  {holder : Option τ} {thread : τ} {phase later : π}

theorem start (data : δ) : Guarded view false data (fun _ : τ => none) none :=
  ⟨rfl, fun _ held => (by cases held), fun _ _ there => (by cases there)⟩

theorem holds (guarded : Guarded view locked data phases holder)
    (now : phases thread = some phase) (inside : view phase = some found) :
    holder = some thread ∧ locked = true ∧ found = data := by
  have viewed := guarded.viewed thread phase now
  rw [inside] at viewed
  split at viewed
  · rename_i held
    refine ⟨held, ?_, Option.some.inj viewed⟩
    rw [guarded.locked, held]
    rfl
  · cases viewed

theorem outside (guarded : Guarded view false data phases holder)
    (now : phases thread = some phase) : view phase = none := by
  cases inside : view phase with
  | none => rfl
  | some found => cases (guarded.holds now inside).2.1

theorem take (guarded : Guarded view false data phases holder)
    (inside : view later = some changed) :
    Guarded view true changed (Function.update phases thread (some later)) (some thread) := by
  have free : holder = none := by
    cases holder with
    | none => rfl
    | some other => cases guarded.locked
  refine ⟨rfl, ?_, ?_⟩
  · rintro _ ⟨⟩
    exact ⟨later, Function.update_self ..⟩
  · intro other another there
    by_cases same : other = thread
    · rw [same, Function.update_self] at there
      cases there
      rw [same, if_pos rfl, inside]
    · rw [Function.update_of_ne same] at there
      have viewed := guarded.viewed other another there
      rw [free, if_neg (by simp)] at viewed
      rw [viewed, if_neg fun held => same (Option.some.inj held).symm]

theorem release (guarded : Guarded view locked data phases holder)
    (now : phases thread = some phase) (inside : view phase = some found)
    (outside : view later = none) (changed : δ) :
    Guarded view false changed (Function.update phases thread (some later)) none := by
  have held := (guarded.holds now inside).1
  refine ⟨rfl, fun _ held => (by cases held), ?_⟩
  intro other another there
  rw [if_neg (by simp)]
  by_cases same : other = thread
  · rw [same, Function.update_self] at there
    cases there
    exact outside
  · rw [Function.update_of_ne same] at there
    rw [guarded.viewed other another there, held,
      if_neg fun held => same (Option.some.inj held).symm]

theorem move (guarded : Guarded view locked data phases holder)
    (now : phases thread = some phase) (same : view later = view phase) :
    Guarded view locked data (Function.update phases thread (some later)) holder := by
  refine ⟨guarded.locked, ?_, ?_⟩
  · intro other held
    by_cases acting : other = thread
    · exact ⟨later, by rw [acting, Function.update_self]⟩
    · rw [Function.update_of_ne acting]
      exact guarded.present other held
  · intro other another there
    by_cases acting : other = thread
    · rw [acting, Function.update_self] at there
      cases there
      rw [same, acting]
      exact guarded.viewed thread phase now
    · rw [Function.update_of_ne acting] at there
      exact guarded.viewed other another there

/-- A call that enters or leaves is in no critical section. -/
theorem turn (guarded : Guarded view locked data phases holder)
    (before : ∀ phase, phases thread = some phase → view phase = none) {now : Option π}
    (after : ∀ phase, now = some phase → view phase = none) :
    Guarded view locked data (Function.update phases thread now) holder := by
  have other_holds : holder ≠ some thread := by
    intro held
    obtain ⟨phase, there⟩ := guarded.present thread held
    have viewed := guarded.viewed thread phase there
    rw [before phase there, if_pos held] at viewed
    cases viewed
  refine ⟨guarded.locked, ?_, ?_⟩
  · intro other held
    have apart : other ≠ thread := by
      rintro rfl
      exact other_holds held
    rw [Function.update_of_ne apart]
    exact guarded.present other held
  · intro other another there
    by_cases acting : other = thread
    · rw [acting, Function.update_self] at there
      rw [after another there, acting, if_neg other_holds]
    · rw [Function.update_of_ne acting] at there
      exact guarded.viewed other another there

theorem free (guarded : Guarded view locked data phases holder)
    (outside : ∀ thread phase, phases thread = some phase → view phase = none) :
    locked = false := by
  cases held : holder with
  | none =>
      rw [guarded.locked, held]
      rfl
  | some thread =>
      obtain ⟨phase, there⟩ := guarded.present thread held
      have viewed := guarded.viewed thread phase there
      rw [outside thread phase there, if_pos held] at viewed
      cases viewed

end Guarded

end Locks

end LibRga.Interaction

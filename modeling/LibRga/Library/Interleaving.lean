import LibRga.Library.Interaction
import LibRga.Library.Run

/-!
Threads that run interactive programs over one shared state.

A thread enters a call, has one request answered at a time, with any steps of
the others in between, and leaves with the result. A contract says what a call
keeps of the shared state and what it ends with; if every program meets it
against any shared state that the invariant allows, all of them do in every run.
-/

namespace LibRga.Interaction

variable {τ ι κ : Type} {ρ : κ → Type} {α σ : Type}

/-- A call that has been entered, with its exchanges so far, the latest first. -/
structure Underway (κ : Type) (ρ : κ → Type) (α : Type) where
  rest : Prog κ ρ α
  past : List (Sigma ρ)

structure Interleaved (τ κ : Type) (ρ : κ → Type) (α σ : Type) where
  shared : σ
  underway : τ → Option (Underway κ ρ α)

inductive InterleavedOp (τ ι κ : Type) (ρ : κ → Type) where
  | enter (thread : τ) (entry : ι)
  | answer (thread : τ) (reply : ∀ request, ρ request)
  | leave (thread : τ)

inductive InterleavedEvent (τ ι κ : Type) (ρ : κ → Type) (α σ : Type) where
  | entered (thread : τ) (entry : ι)
  | exchanged (thread : τ) (before : σ) (exchange : Sigma ρ) (after : σ)
  | returned (thread : τ) (past : List (Sigma ρ)) (result : α)

/-- The shared state before and after an exchange. -/
def InterleavedEvent.move : InterleavedEvent τ ι κ ρ α σ → Option (σ × σ)
  | .exchanged _ before _ after => some (before, after)
  | _ => none

def changes [DecidableEq σ] (trace : List (InterleavedEvent τ ι κ ρ α σ)) : Nat :=
  trace.countP fun event => event.move.any fun (before, after) => before != after

theorem changes_cons [DecidableEq σ] (event : InterleavedEvent τ ι κ ρ α σ)
    (trace : List (InterleavedEvent τ ι κ ρ α σ)) :
    changes (event :: trace) =
      changes trace + if event.move.any (fun (before, after) => before != after) then 1 else 0 :=
  List.countP_cons

namespace Interleaved

variable [DecidableEq τ]

def setUnderway (state : Interleaved τ κ ρ α σ) (thread : τ)
    (call : Option (Underway κ ρ α)) : Interleaved τ κ ρ α σ :=
  { state with underway := fun other => if other = thread then call else state.underway other }

/-- `respond` is the shared state after an exchange, or none where it does not happen. -/
def step (program : ι → Prog κ ρ α) (respond : σ → Sigma ρ → Option σ)
    (state : Interleaved τ κ ρ α σ) : InterleavedOp τ ι κ ρ →
      Option (Interleaved τ κ ρ α σ × InterleavedEvent τ ι κ ρ α σ)
  | .enter thread entry =>
      match state.underway thread with
      | some _ => none
      | none => some (state.setUnderway thread (some ⟨program entry, []⟩), .entered thread entry)
  | .answer thread reply =>
      match state.underway thread with
      | some ⟨.call request next, past⟩ =>
          (respond state.shared ⟨request, reply request⟩).map fun after =>
            ({ state with shared := after }.setUnderway thread
                (some ⟨next (reply request), ⟨request, reply request⟩ :: past⟩),
              .exchanged thread state.shared ⟨request, reply request⟩ after)
      | _ => none
  | .leave thread =>
      match state.underway thread with
      | some ⟨.done result, past⟩ =>
          some (state.setUnderway thread none, .returned thread past result)
      | _ => none

theorem underway_set {state : Interleaved τ κ ρ α σ} {thread other : τ}
    {call : Option (Underway κ ρ α)} :
    (state.setUnderway thread call).underway other =
      if other = thread then call else state.underway other :=
  rfl

theorem step_shared {program : ι → Prog κ ρ α} {respond : σ → Sigma ρ → Option σ}
    {state after : Interleaved τ κ ρ α σ} {op : InterleavedOp τ ι κ ρ}
    {event : InterleavedEvent τ ι κ ρ α σ}
    (taken : state.step program respond op = some (after, event)) :
    (after.shared = state.shared ∧ event.move = none) ∨
      event.move = some (state.shared, after.shared) := by
  cases op with
  | enter thread entry =>
      simp only [step] at taken
      split at taken
      · cases taken
      · cases taken
        exact .inl ⟨rfl, rfl⟩
  | answer thread reply =>
      simp only [step] at taken
      split at taken
      · obtain ⟨later, _, same⟩ := Option.map_eq_some_iff.mp taken
        cases same
        exact .inr rfl
      · cases taken
  | leave thread =>
      simp only [step] at taken
      split at taken
      · cases taken
        exact .inl ⟨rfl, rfl⟩
      · cases taken

/-- Where every exchange leaves the shared state alone or brings it to `last`, it changes once at
most. -/
theorem run_changes [DecidableEq σ] {program : ι → Prog κ ρ α}
    {respond : σ → Sigma ρ → Option σ} {start state : Interleaved τ κ ρ α σ} {last : σ}
    {trace : List (InterleavedEvent τ ι κ ρ α σ)}
    (run : Machine.Run (step program respond) start trace state)
    (settles : ∀ event ∈ trace, ∀ before after, event.move = some (before, after) →
      after = before ∨ after = last) :
    changes trace ≤ 1 ∧ (state.shared ≠ last → changes trace = 0) := by
  refine run.invariant (P := fun past state => (∀ event ∈ past, ∀ before after,
      event.move = some (before, after) → after = before ∨ after = last) →
    changes past ≤ 1 ∧ (state.shared ≠ last → changes past = 0)) ?_ ?_ settles
  · exact fun _ => ⟨Nat.zero_le _, fun _ => rfl⟩
  · intro past before op after event _ kept taken settles
    obtain ⟨latest, earlier⟩ := List.forall_mem_cons.mp settles
    obtain ⟨most, none⟩ := kept earlier
    rcases step_shared taken with ⟨same, still⟩ | moved
    · rw [changes_cons, still, same]
      exact ⟨most, none⟩
    · rw [changes_cons, moved]
      by_cases same : after.shared = before.shared
      · rw [same]
        simpa using ⟨most, none⟩
      · have ends := (latest _ _ moved).resolve_left same
        have fresh : before.shared ≠ last := fun old => same (ends.trans old.symm)
        rw [none fresh]
        refine ⟨?_, fun other => absurd ends other⟩
        split <;> simp

end Interleaved

/-! Contracts -/

structure Contract (κ : Type) (ρ : κ → Type) (α σ : Type) where
  /-- What every thread finds and leaves in the shared state. -/
  invariant : σ → Prop
  /-- What an exchange of the call does to it. -/
  moves : σ → σ → Prop
  /-- Of the exchanges of one call, while it runs. -/
  along : List (Sigma ρ) → Prop
  post : List (Sigma ρ) → α → Prop

namespace Contract

variable (contract : Contract κ ρ α σ) (respond : σ → Sigma ρ → Option σ)

def Meets : Prog κ ρ α → List (Sigma ρ) → Prop
  | .done result, past => contract.along past ∧ contract.post past result
  | .call request next, past =>
      contract.along past ∧
        ∀ before answer after, contract.invariant before →
          respond before ⟨request, answer⟩ = some after →
            contract.invariant after ∧ contract.moves before after ∧
              Meets (next answer) (⟨request, answer⟩ :: past)

variable {contract respond}

theorem Meets.along {prog : Prog κ ρ α} {past : List (Sigma ρ)}
    (meets : contract.Meets respond prog past) : contract.along past := by
  cases prog with
  | done result => exact meets.1
  | call request next => exact meets.1

variable [DecidableEq τ] {program : ι → Prog κ ρ α} {state after : Interleaved τ κ ρ α σ}

def Kept (contract : Contract κ ρ α σ) (respond : σ → Sigma ρ → Option σ)
    (state : Interleaved τ κ ρ α σ) : Prop :=
  contract.invariant state.shared ∧
    ∀ thread call, state.underway thread = some call → contract.Meets respond call.rest call.past

def KeptBy (contract : Contract κ ρ α σ) : InterleavedEvent τ ι κ ρ α σ → Prop
  | .entered _ _ => True
  | .exchanged _ before _ after => contract.moves before after
  | .returned _ past result => contract.along past ∧ contract.post past result

theorem step_kept (meets : ∀ entry, contract.Meets respond (program entry) [])
    (kept : contract.Kept respond state) {op : InterleavedOp τ ι κ ρ}
    {event : InterleavedEvent τ ι κ ρ α σ}
    (taken : state.step program respond op = some (after, event)) :
    contract.Kept respond after ∧ contract.KeptBy event := by
  obtain ⟨holds, calls⟩ := kept
  cases op with
  | enter thread entry =>
      simp only [Interleaved.step] at taken
      split at taken
      · cases taken
      · cases taken
        refine ⟨⟨holds, fun other call found => ?_⟩, trivial⟩
        rw [Interleaved.underway_set] at found
        split at found
        · cases found
          exact meets entry
        · exact calls other call found
  | answer thread reply =>
      simp only [Interleaved.step] at taken
      split at taken
      · rename_i request next past standing
        obtain ⟨later, responded, same⟩ := Option.map_eq_some_iff.mp taken
        cases same
        have met : contract.Meets respond (.call request next) past := calls thread _ standing
        obtain ⟨still, moved, rest⟩ := met.2 _ _ _ holds responded
        refine ⟨⟨still, fun other call found => ?_⟩, moved⟩
        rw [Interleaved.underway_set] at found
        split at found
        · cases found
          exact rest
        · exact calls other call found
      · cases taken
  | leave thread =>
      simp only [Interleaved.step] at taken
      split at taken
      · rename_i result past standing
        cases taken
        have met : contract.Meets respond (.done result) past := calls thread _ standing
        refine ⟨⟨holds, fun other call found => ?_⟩, met⟩
        rw [Interleaved.underway_set] at found
        split at found
        · cases found
        · exact calls other call found
      · cases taken

/-- Programs that meet the contract alone do so in every interleaving. -/
theorem run_kept {start : Interleaved τ κ ρ α σ} {trace : List (InterleavedEvent τ ι κ ρ α σ)}
    (meets : ∀ entry, contract.Meets respond (program entry) [])
    (holds : contract.invariant start.shared) (idle : ∀ thread, start.underway thread = none)
    (run : Machine.Run (Interleaved.step program respond) start trace state) :
    contract.Kept respond state ∧ ∀ event ∈ trace, contract.KeptBy event := by
  refine run.invariant (P := fun past state =>
    contract.Kept respond state ∧ ∀ event ∈ past, contract.KeptBy event) ?_ ?_
  · refine ⟨⟨holds, fun thread call found => ?_⟩, List.forall_mem_nil _⟩
    rw [idle thread] at found
    cases found
  · intro past before op after event _ kept taken
    obtain ⟨next, fine⟩ := step_kept meets kept.1 taken
    exact ⟨next, List.forall_mem_cons.mpr ⟨fine, kept.2⟩⟩

end Contract

end LibRga.Interaction

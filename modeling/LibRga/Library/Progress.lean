import LibRga.Library.Protocol

/-!
Progress of threads that are served out of a shared state.

A request may have to wait for what another call holds. Where a call that holds
something is never made to wait, and one that holds nothing waits for nothing
else, every call can be brought to its end: no two of them wait for each other.
-/

namespace LibRga.Interaction

variable {τ ι κ : Type} {ρ : κ → Type} {α σ π : Type} [DecidableEq τ]

/-- The protocol has the request, whatever is answered. -/
def Asks (protocol : π → Sigma ρ → π → Prop) (phase : π) (request : κ) : Prop :=
  ∀ answer, ∃ later, protocol phase ⟨request, answer⟩ later

def Ready (serve : Server κ ρ σ) (shared : σ) (request : κ) : Prop :=
  ∃ proposed, (serve shared request proposed).isSome = true

/-- `quiet` phases hold nothing that others wait for. -/
structure Progressive (program : ι → Prog κ ρ α) (serve : Server κ ρ σ)
    (protocol : π → Sigma ρ → π → Prop) (ends : π → α → Prop) (first : π)
    (holds : σ → (τ → Option π) → Prop) (quiet : π → Prop) : Prop where
  follows : ∀ entry, (program entry).Follows protocol ends first
  kept : KeptAlong serve protocol ends first
    fun (_ : List (InterleavedEvent τ ι κ ρ α σ)) => holds
  ended : ∀ phase result, ends phase result → quiet phase
  busy : ∀ shared phases thread phase request, holds shared phases → phases thread = some phase →
    ¬quiet phase → Asks protocol phase request → Ready serve shared request
  calm : ∀ shared phases thread phase request, holds shared phases → phases thread = some phase →
    (∀ other another, other ≠ thread → phases other = some another → quiet another) →
    Asks protocol phase request → Ready serve shared request

namespace Progressive

variable {program : ι → Prog κ ρ α} {serve : Server κ ρ σ} {protocol : π → Sigma ρ → π → Prop}
  {ends : π → α → Prop} {first : π} {holds : σ → (τ → Option π) → Prop} {quiet : π → Prop}

section

variable (progressive : Progressive program serve protocol ends first holds quiet)
  (proposals : ∀ request, ρ request)

include progressive proposals

/-- A call that is answered goes on by itself: nobody else's phase changes. -/
theorem answer {state : Interleaved τ κ ρ α σ} {phases : τ → Option π}
    (phased : Phased protocol ends state phases) (held : holds state.shared phases) {thread : τ}
    {request : κ} {next : ρ request → Prog κ ρ α} {past : List (Sigma ρ)}
    (standing : state.underway thread = some ⟨.call request next, past⟩)
    (ready : Ready serve state.shared request) :
    ∃ event answer after later,
      Machine.Run (Interleaved.serveStep program serve) state [event]
        ({ state with shared := after }.setUnderway thread
          (some ⟨next answer, ⟨request, answer⟩ :: past⟩)) ∧
      Phased protocol ends ({ state with shared := after }.setUnderway thread
        (some ⟨next answer, ⟨request, answer⟩ :: past⟩))
        (Function.update phases thread (some later)) ∧
      holds after (Function.update phases thread (some later)) := by
  obtain ⟨proposed, served⟩ := ready
  obtain ⟨⟨answer, after⟩, served⟩ := Option.isSome_iff_exists.mp served
  obtain ⟨phase, found, follows⟩ := phased.follows thread _ standing
  obtain ⟨later, allowed, rest⟩ := follows answer
  have taken : Interleaved.Served program serve state _ _ :=
    .exchanged thread request next past proposed answer after standing served
  obtain ⟨op, taken⟩ := taken.step proposals
  refine ⟨_, answer, after, later, Machine.Run.init.next taken, ?_, ?_⟩
  · refine phased.set (fun none => by cases none) ?_
    rintro _ ⟨⟩
    exact ⟨later, rfl, rest⟩
  · exact progressive.kept.exchanged [] state.shared phases thread phase later request proposed
      answer after held found served allowed

/-- A call that holds something can be run until it does not, whatever the others are doing. -/
theorem settle (prog : Prog κ ρ α) {state : Interleaved τ κ ρ α σ} {phases : τ → Option π}
    (phased : Phased protocol ends state phases) (held : holds state.shared phases) {thread : τ}
    {past : List (Sigma ρ)} (standing : state.underway thread = some ⟨prog, past⟩) :
    ∃ trace final later phase, Machine.Run (Interleaved.serveStep program serve) state trace final ∧
      Phased protocol ends final later ∧ holds final.shared later ∧
      later thread = some phase ∧ quiet phase ∧ ∀ other, other ≠ thread →
        later other = phases other := by
  induction prog generalizing state phases past with
  | done result =>
      obtain ⟨phase, found, ended⟩ := phased.follows thread _ standing
      exact ⟨[], state, phases, phase, .init, phased, held, found,
        progressive.ended phase result ended, fun _ _ => rfl⟩
  | call request next ih =>
      obtain ⟨phase, found, follows⟩ := phased.follows thread _ standing
      by_cases settled : quiet phase
      · exact ⟨[], state, phases, phase, .init, phased, held, found, settled, fun _ _ => rfl⟩
      have asks : Asks protocol phase request := by
        intro answer
        obtain ⟨later, allowed, _⟩ := follows answer
        exact ⟨later, allowed⟩
      have ready := progressive.busy _ _ thread phase request held found settled asks
      obtain ⟨event, answer, after, reached, run, phased, held⟩ :=
        progressive.answer proposals phased held standing ready
      obtain ⟨trace, final, later, phase, rest, phased, held, there, settled, others⟩ :=
        ih answer phased held (by rw [Interleaved.underway_set, if_pos rfl])
      refine ⟨trace ++ [event], final, later, phase, run.trans rest, phased, held, there, settled,
        fun other different => ?_⟩
      rw [others other different, Function.update_of_ne different]

theorem settleAll (busy : List τ) {state : Interleaved τ κ ρ α σ} {phases : τ → Option π}
    (phased : Phased protocol ends state phases) (held : holds state.shared phases)
    (known : ∀ thread phase, phases thread = some phase → ¬quiet phase → thread ∈ busy) :
    ∃ trace final later, Machine.Run (Interleaved.serveStep program serve) state trace final ∧
      Phased protocol ends final later ∧ holds final.shared later ∧
      ∀ thread phase, later thread = some phase → quiet phase := by
  induction busy generalizing state phases with
  | nil =>
      refine ⟨[], state, phases, .init, phased, held, fun thread phase found => ?_⟩
      by_contra unsettled
      exact List.not_mem_nil (known thread phase found unsettled)
  | cons thread rest ih =>
      cases standing : state.underway thread with
      | none =>
          refine ih phased held fun other phase found unsettled => ?_
          rcases List.mem_cons.mp (known other phase found unsettled) with rfl | member
          · rw [phased.idle other standing] at found
            cases found
          · exact member
      | some call =>
          obtain ⟨here, final, reached, phase, run, phased, held, there, settled, others⟩ :=
            progressive.settle proposals call.rest phased held standing
          have fewer : ∀ other another, reached other = some another → ¬quiet another →
              other ∈ rest := by
            intro other another found unsettled
            by_cases acting : other = thread
            · rw [acting, there] at found
              cases found
              exact absurd settled unsettled
            · rw [others other acting] at found
              exact (List.mem_cons.mp (known other another found unsettled)).resolve_left acting
          obtain ⟨more, last, later, onwards, phased, held, all⟩ := ih phased held fewer
          exact ⟨more ++ here, last, later, run.trans onwards, phased, held, all⟩

/-- Once nobody holds anything, a call can be run to its end. -/
theorem finish (prog : Prog κ ρ α) {state : Interleaved τ κ ρ α σ} {phases : τ → Option π}
    (phased : Phased protocol ends state phases) (held : holds state.shared phases) {thread : τ}
    {past : List (Sigma ρ)} (standing : state.underway thread = some ⟨prog, past⟩)
    (calm : ∀ other another, other ≠ thread → phases other = some another → quiet another) :
    ∃ trace final, Machine.Run (Interleaved.serveStep program serve) state trace final ∧
      final.underway thread = none := by
  induction prog generalizing state phases past with
  | done result =>
      have taken : Interleaved.Served program serve state _ _ :=
        .returned thread past result standing
      obtain ⟨op, taken⟩ := taken.step proposals
      refine ⟨_, _, Machine.Run.init.next taken, ?_⟩
      rw [Interleaved.underway_set, if_pos rfl]
  | call request next ih =>
      obtain ⟨phase, found, follows⟩ := phased.follows thread _ standing
      have asks : Asks protocol phase request := by
        intro answer
        obtain ⟨later, allowed, _⟩ := follows answer
        exact ⟨later, allowed⟩
      have ready := progressive.calm _ _ thread phase request held found calm asks
      obtain ⟨event, answer, after, reached, run, phased, held⟩ :=
        progressive.answer proposals phased held standing ready
      have still : ∀ other another, other ≠ thread →
          Function.update phases thread (some reached) other = some another → quiet another := by
        intro other another different there
        rw [Function.update_of_ne different] at there
        exact calm other another different there
      obtain ⟨trace, final, rest, ended⟩ :=
        ih answer phased held (by rw [Interleaved.underway_set, if_pos rfl]) still
      exact ⟨trace ++ [event], final, run.trans rest, ended⟩

/-- From wherever a run has come, every call can be brought to its end. -/
theorem returns (busy : List τ) {state : Interleaved τ κ ρ α σ} {phases : τ → Option π}
    (phased : Phased protocol ends state phases) (held : holds state.shared phases)
    (known : ∀ thread phase, phases thread = some phase → ¬quiet phase → thread ∈ busy)
    (thread : τ) :
    ∃ trace final, Machine.Run (Interleaved.serveStep program serve) state trace final ∧
      final.underway thread = none := by
  obtain ⟨here, middle, later, run, phased, held, all⟩ :=
    progressive.settleAll proposals busy phased held known
  cases standing : middle.underway thread with
  | none => exact ⟨here, middle, run, standing⟩
  | some call =>
      obtain ⟨more, final, rest, ended⟩ := progressive.finish proposals call.rest phased held
        standing fun other another _ found => all other another found
      exact ⟨more ++ here, final, run.trans rest, ended⟩

end

end Progressive

end LibRga.Interaction

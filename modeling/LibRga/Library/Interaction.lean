import Mathlib.Data.Sigma.Basic

/-!
Programs that call out to an environment and go on with its answer.

What the environment answers is left open, so a statement about all runs covers
every outcome of every call.
-/

namespace LibRga.Interaction

variable {κ : Type} {ρ : κ → Type} {α β σ : Type}

inductive Prog (κ : Type) (ρ : κ → Type) (α : Type) where
  | done (result : α)
  | call (request : κ) (next : ρ request → Prog κ ρ α)

namespace Prog

/-- A request with its answer. -/
inductive Run : Prog κ ρ α → List (Sigma ρ) → α → Prop
  | done (result : α) : Run (.done result) [] result
  | call {request : κ} {next : ρ request → Prog κ ρ α} {answer : ρ request}
      {trace : List (Sigma ρ)} {result : α} :
      Run (next answer) trace result → Run (.call request next) (⟨request, answer⟩ :: trace) result

def bind (prog : Prog κ ρ α) (next : α → Prog κ ρ β) : Prog κ ρ β :=
  match prog with
  | .done result => next result
  | .call request rest => .call request fun answer => (rest answer).bind next

instance : Monad (Prog κ ρ) where
  pure := .done
  bind := bind

/-- The same program where another answers its requests. -/
def interpret {κ' : Type} {ρ' : κ' → Type} (handler : ∀ request, Prog κ' ρ' (ρ request)) :
    Prog κ ρ α → Prog κ' ρ' α
  | .done result => .done result
  | .call request next => (handler request).bind fun answer => (next answer).interpret handler

theorem interpret_bind {κ' : Type} {ρ' : κ' → Type} (handler : ∀ request, Prog κ' ρ' (ρ request))
    (prog : Prog κ ρ α) (next : α → Prog κ ρ β) :
    (prog.bind next).interpret handler =
      (prog.interpret handler).bind fun result => (next result).interpret handler := by
  have assoc {γ : Type} (first : Prog κ' ρ' γ) (second : γ → Prog κ' ρ' α)
      (third : α → Prog κ' ρ' β) : (first.bind second).bind third =
        first.bind fun result => (second result).bind third := by
    induction first with
    | done result => rfl
    | call request rest ih => exact congrArg (Prog.call request) (funext ih)
  induction prog with
  | done result => rfl
  | call request rest ih =>
      simp only [bind, interpret, ih, assoc]

/-- The run in an environment that answers each request always in the same way. -/
def answered (env : ∀ request, ρ request) : Prog κ ρ α → List (Sigma ρ) × α
  | .done result => ([], result)
  | .call request next =>
      let rest := (next (env request)).answered env
      (⟨request, env request⟩ :: rest.1, rest.2)

theorem answered_run (env : ∀ request, ρ request) (prog : Prog κ ρ α) :
    prog.Run (prog.answered env).1 (prog.answered env).2 := by
  induction prog with
  | done result => exact .done result
  | call request next ih => exact .call (ih (env request))

/-- The result of that run. -/
def value (env : ∀ request, ρ request) (prog : Prog κ ρ α) : α :=
  (prog.answered env).2

@[simp]
theorem value_pure (env : ∀ request, ρ request) (result : α) :
    (pure result : Prog κ ρ α).value env = result :=
  rfl

@[simp]
theorem value_bind (env : ∀ request, ρ request) (prog : Prog κ ρ α) (next : α → Prog κ ρ β) :
    (prog >>= next).value env = (next (prog.value env)).value env := by
  induction prog with
  | done result => rfl
  | call request rest ih => exact ih (env request)

theorem answered_allowed {env : ∀ request, ρ request} {allowed : Sigma ρ → Prop}
    (always : ∀ request, allowed ⟨request, env request⟩) (prog : Prog κ ρ α) :
    ∀ exchange ∈ (prog.answered env).1, allowed exchange := by
  induction prog with
  | done result => exact List.forall_mem_nil _
  | call request next ih => exact List.forall_mem_cons.mpr ⟨always request, ih (env request)⟩

/-- What holds at the end of every run whose exchanges are all allowed, with a state that observes
the exchanges as they happen. -/
def wp (observe : σ → Sigma ρ → σ) (allowed : Sigma ρ → Prop) (post : σ → α → Prop) :
    Prog κ ρ α → σ → Prop
  | .done result, state => post state result
  | .call request next, state =>
      ∀ answer, allowed ⟨request, answer⟩ →
        (next answer).wp observe allowed post (observe state ⟨request, answer⟩)

variable {observe : σ → Sigma ρ → σ} {allowed : Sigma ρ → Prop}

theorem wp_run {post : σ → α → Prop} {prog : Prog κ ρ α} {state : σ}
    {trace : List (Sigma ρ)} {result : α} (holds : prog.wp observe allowed post state)
    (run : prog.Run trace result) (permitted : ∀ exchange ∈ trace, allowed exchange) :
    post (trace.foldl observe state) result := by
  induction run generalizing state with
  | done result => exact holds
  | @call request next answer trace result _ ih =>
      obtain ⟨first, rest⟩ := List.forall_mem_cons.mp permitted
      exact ih (holds answer first) rest

theorem wp_mono {post weaker : σ → α → Prop} {prog : Prog κ ρ α} {state : σ}
    (holds : prog.wp observe allowed post state)
    (implies : ∀ state result, post state result → weaker state result) :
    prog.wp observe allowed weaker state := by
  induction prog generalizing state with
  | done result => exact implies state result holds
  | call request next ih =>
      intro answer permitted
      exact ih answer (holds answer permitted)

/-- What every exchange keeps holds at the end. -/
theorem wp_invariant {keeps : σ → Prop} {prog : Prog κ ρ α} {state : σ}
    (step : ∀ state exchange, keeps state → keeps (observe state exchange))
    (start : keeps state) : prog.wp observe allowed (fun after _ => keeps after) state := by
  induction prog generalizing state with
  | done result => exact start
  | call request next ih =>
      intro answer _
      exact ih answer (step state ⟨request, answer⟩ start)

theorem wp_bind {post : σ → β → Prop} {prog : Prog κ ρ α} {next : α → Prog κ ρ β} {state : σ} :
    (prog.bind next).wp observe allowed post state ↔
      prog.wp observe allowed (fun after result => (next result).wp observe allowed post after)
        state := by
  induction prog generalizing state with
  | done result => exact Iff.rfl
  | call request rest ih => exact forall_congr' fun answer => imp_congr_right fun _ => ih answer

/-! What all runs report, with `note` for what one exchange reports -/

section Reports

variable {ι : Type} {note : Sigma ρ → List ι}

def Reports (note : Sigma ρ → List ι) (prog : Prog κ ρ α) (post : List ι → α → Prop) : Prop :=
  ∀ ⦃trace result⦄, prog.Run trace result → post (trace.flatMap note) result

theorem Reports.done {post : List ι → α → Prop} {result : α} (holds : post [] result) :
    (Prog.done result : Prog κ ρ α).Reports note post := by
  rintro _ _ ⟨⟩
  exact holds

theorem Reports.call {post : List ι → α → Prop} {request : κ} {next : ρ request → Prog κ ρ α}
    (holds : ∀ answer, (next answer).Reports note fun notes result =>
      post (note ⟨request, answer⟩ ++ notes) result) :
    (Prog.call request next).Reports note post := by
  rintro _ _ (_ | run)
  exact holds _ run

theorem Reports.ite {post : List ι → α → Prop} {condition : Prop} [Decidable condition]
    {yes no : Prog κ ρ α} (holds : condition → yes.Reports note post)
    (otherwise : ¬condition → no.Reports note post) :
    (if condition then yes else no).Reports note post := by
  split
  · exact holds ‹_›
  · exact otherwise ‹_›

theorem Reports.mono {post weaker : List ι → α → Prop} {prog : Prog κ ρ α}
    (holds : prog.Reports note post) (implies : ∀ notes result, post notes result →
      weaker notes result) : prog.Reports note weaker :=
  fun _ _ run => implies _ _ (holds run)

theorem Reports.bind {middle : List ι → α → Prop} {post : List ι → β → Prop} {prog : Prog κ ρ α}
    {next : α → Prog κ ρ β} (first : prog.Reports note middle)
    (rest : ∀ notes result, middle notes result →
      (next result).Reports note fun later final => post (notes ++ later) final) :
    (prog.bind next).Reports note post := by
  induction prog generalizing middle post with
  | done result => exact rest [] result (first (.done result))
  | call request cont ih =>
      refine .call fun answer => ?_
      have later : (cont answer).Reports note fun notes result =>
          middle (note ⟨request, answer⟩ ++ notes) result := fun _ _ run => first (.call run)
      refine ih answer later ?_
      intro notes result holds
      simpa only [List.append_assoc] using rest _ _ holds

theorem Reports.map {post : List ι → β → Prop} {prog : Prog κ ρ α} {f : α → β}
    (holds : prog.Reports note fun notes result => post notes (f result)) :
    (f <$> prog).Reports note post := by
  refine holds.bind fun notes result held => .done ?_
  rwa [List.append_nil]

end Reports

end Prog

end LibRga.Interaction

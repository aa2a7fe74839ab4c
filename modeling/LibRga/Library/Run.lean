import Mathlib.Data.List.Infix
import Mathlib.Data.List.Nodup

/-!
Runs of a machine given by a partial step function.

An operation carries the thread, its arguments and whatever the environment
answers; the machine performs it and reports an event, or is not able to. A run
keeps the events it has seen, the latest first.
-/

namespace LibRga.Machine

variable {σ ω ε : Type}

inductive Run (step : σ → ω → Option (σ × ε)) (start : σ) : List ε → σ → Prop
  | init : Run step start [] start
  | next {past : List ε} {state after : σ} {op : ω} {event : ε} :
      Run step start past state → step state op = some (after, event) →
        Run step start (event :: past) after

variable {step : σ → ω → Option (σ × ε)} {start : σ}

theorem Run.trans {past trace : List ε} {middle final : σ} (first : Run step start past middle)
    (second : Run step middle trace final) : Run step start (trace ++ past) final := by
  induction second with
  | init => exact first
  | next _ taken ih => exact ih.next taken

/-- An invariant of trace and state that every step keeps holds at the end of every run. -/
theorem Run.invariant {P : List ε → σ → Prop} (base : P [] start)
    (kept : ∀ past state op after event, Run step start past state → P past state →
      step state op = some (after, event) → P (event :: past) after)
    {trace : List ε} {state : σ} (run : Run step start trace state) : P trace state := by
  induction run with
  | init => exact base
  | next before taken ih => exact kept _ _ _ _ _ before ih taken

/-- A machine that answers each step of another as it does has the same traces. -/
theorem Run.simulated {σ' ω' : Type} {step' : σ' → ω' → Option (σ' × ε)} {start' : σ'}
    {R : σ → σ' → Prop} (base : R start start')
    (matched : ∀ state state' op after event, R state state' → step state op = some (after, event) →
      ∃ op' after', step' state' op' = some (after', event) ∧ R after after')
    {trace : List ε} {state : σ} (run : Run step start trace state) :
    ∃ state', Run step' start' trace state' ∧ R state state' := by
  induction run with
  | init => exact ⟨start', Run.init, base⟩
  | next before taken ih =>
      obtain ⟨state', run', related⟩ := ih
      obtain ⟨op', after', taken', stays⟩ := matched _ _ _ _ _ related taken
      exact ⟨after', run'.next taken', stays⟩

/-- A trace can be cut at any event: the earlier part is a run, and a step made the event. -/
theorem Run.at_event {trace later past : List ε} {event : ε} {state : σ}
    (run : Run step start trace state) (cut : trace = later ++ event :: past) :
    ∃ before op after, Run step start past before ∧ step before op = some (after, event) := by
  induction run generalizing later with
  | init => simp at cut
  | @next past' state' after' op event' before taken ih =>
      cases later with
      | nil =>
          simp only [List.nil_append, List.cons.injEq] at cut
          obtain ⟨rfl, rfl⟩ := cut
          exact ⟨state', op, after', before, taken⟩
      | cons first rest =>
          simp only [List.cons_append, List.cons.injEq] at cut
          exact ih cut.2

/-- What has come in is still there or has gone out: nothing goes out more often than it came in.
`inside` says of each thread whether it has something. -/
theorem Run.in_flight {τ : Type} [DecidableEq τ] (enters leaves : ε → Bool) (thread : ε → τ)
    (inside : σ → τ → Prop) (empty : ∀ t, ¬inside start t)
    (others : ∀ past state op after event, Run step start past state →
      step state op = some (after, event) → ∀ t, t ≠ thread event →
        (inside after t ↔ inside state t))
    (left : ∀ past state op after event, Run step start past state →
      step state op = some (after, event) → leaves event = true →
        inside state (thread event) ∧ ¬inside after (thread event))
    (entered : ∀ past state op after event, Run step start past state →
      step state op = some (after, event) → inside after (thread event) →
        inside state (thread event) ∨ enters event = true)
    {trace : List ε} {state : σ} (run : Run step start trace state) :
    ∃ threads : List τ, threads.Nodup ∧ (∀ t, t ∈ threads ↔ inside state t) ∧
      trace.countP leaves + threads.length ≤ trace.countP enters := by
  refine run.invariant (P := fun trace state => ∃ threads : List τ, threads.Nodup ∧
    (∀ t, t ∈ threads ↔ inside state t) ∧
      trace.countP leaves + threads.length ≤ trace.countP enters) ?_ ?_
  · exact ⟨[], List.nodup_nil, fun t => by simpa using empty t, le_refl 0⟩
  · rintro past state op after event before ⟨threads, nodup, exactly, count⟩ taken
    have same := others past state op after event before taken
    have gone := left past state op after event before taken
    have came := entered past state op after event before taken
    have member (t : τ) (different : t ≠ thread event) : t ∈ threads ↔ inside after t := by
      rw [exactly t, same t different]
    rw [List.countP_cons, List.countP_cons]
    by_cases here : inside after (thread event)
    · have stays : leaves event ≠ true := fun leaving => (gone leaving).2 here
      rw [if_neg stays]
      by_cases was : inside state (thread event)
      · refine ⟨threads, nodup, fun t => ?_, by omega⟩
        by_cases acting : t = thread event
        · rw [acting, exactly]
          exact iff_of_true was here
        · exact member t acting
      · have fresh : thread event ∉ threads := fun listed => was ((exactly _).mp listed)
        rw [if_pos ((came here).resolve_left was)]
        refine ⟨thread event :: threads, nodup.cons fresh, fun t => ?_, ?_⟩
        · rw [List.mem_cons]
          by_cases acting : t = thread event
          · rw [acting]
            exact iff_of_true (.inl rfl) here
          · rw [member t acting]
            exact or_iff_right acting
        · rw [List.length_cons]
          omega
    · have gone_now (t : τ) : t ∈ threads.erase (thread event) ↔ inside after t := by
        rw [nodup.mem_erase_iff]
        by_cases acting : t = thread event
        · rw [acting]
          exact iff_of_false (fun both => both.1 rfl) here
        · rw [member t acting]
          exact and_iff_right acting
      refine ⟨threads.erase (thread event), nodup.erase _, gone_now, ?_⟩
      by_cases leaving : leaves event = true
      · have listed : thread event ∈ threads := (exactly _).mpr (gone leaving).1
        have positive := List.length_pos_of_mem listed
        rw [if_pos leaving, List.length_erase_of_mem listed]
        omega
      · have shorter := List.length_erase_le (a := thread event) (l := threads)
        rw [if_neg leaving]
        omega

def exec (step : σ → ω → Option (σ × ε)) : List ω → List ε × σ → Option (List ε × σ)
  | [], reached => some reached
  | op :: ops, (past, state) =>
      match step state op with
      | none => none
      | some (after, event) => exec step ops (event :: past, after)

theorem Run.exec {ops : List ω} {past trace : List ε} {state final : σ}
    (run : Run step start past state)
    (performed : exec step ops (past, state) = some (trace, final)) :
    Run step start trace final := by
  induction ops generalizing past state with
  | nil =>
      cases performed
      exact run
  | cons op ops ih =>
      simp only [Machine.exec] at performed
      split at performed
      · contradiction
      · rename_i after event taken
        exact ih (run.next taken) performed

theorem Run.of_exec (step : σ → ω → Option (σ × ε)) (start : σ) (ops : List ω)
    {trace : List ε} {final : σ}
    (performed : Machine.exec step ops ([], start) = some (trace, final)) :
    Run step start trace final :=
  Run.init.exec performed

end LibRga.Machine

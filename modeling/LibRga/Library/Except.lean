import Mathlib.Tactic.Basic

/-!
Taking an `Except` computation apart.
-/

namespace LibRga.Result

variable {ε α β : Type}

theorem ok_bind (value : α) (rest : α → Except ε β) : (.ok value >>= rest) = rest value :=
  rfl

theorem bind_eq_ok {first : Except ε α} {rest : α → Except ε β} {result : β} :
    (first >>= rest) = .ok result ↔ ∃ value, first = .ok value ∧ rest value = .ok result := by
  cases first <;> simp [bind, Except.bind]

theorem bind_eq_error {first : Except ε α} {rest : α → Except ε β} {exit : ε} :
    (first >>= rest) = .error exit ↔
      first = .error exit ∨ ∃ value, first = .ok value ∧ rest value = .error exit := by
  cases first <;> simp [bind, Except.bind]

theorem ite_error_eq_ok {condition : Prop} [Decidable condition] {exit : ε}
    {rest : Except ε α} {result : α} :
    (if condition then .error exit else rest) = .ok result ↔
      ¬ condition ∧ rest = .ok result := by
  by_cases holds : condition <;> simp [holds]

/-! Computations that never end with one exit -/

def Avoids (exit : ε) (result : Except ε α) : Prop :=
  result ≠ .error exit

theorem Avoids.ok {exit : ε} (value : α) : Avoids exit (.ok value : Except ε α) := by
  intro same
  cases same

theorem Avoids.error {exit other : ε} (different : other ≠ exit) :
    Avoids exit (.error other : Except ε α) := by
  intro same
  cases same
  exact different rfl

theorem Avoids.bind {exit : ε} {first : Except ε α} {rest : α → Except ε β}
    (avoids : Avoids exit first) (later : ∀ value, Avoids exit (rest value)) :
    Avoids exit (first >>= rest) := by
  intro ended
  obtain early | ⟨value, _, late⟩ := bind_eq_error.mp ended
  · exact avoids early
  · exact later value late

theorem Avoids.ite {exit : ε} {condition : Prop} [Decidable condition] {yes no : Except ε α}
    (holds : Avoids exit yes) (otherwise : Avoids exit no) :
    Avoids exit (if condition then yes else no) := by
  split
  · exact holds
  · exact otherwise

/-- An exit that only the first part can take. -/
theorem bind_exit_iff {exit : ε} {first : Except ε α} {rest : α → Except ε β}
    (later : ∀ value, Avoids exit (rest value)) :
    (first >>= rest) = .error exit ↔ first = .error exit := by
  rw [bind_eq_error]
  constructor
  · rintro (early | ⟨value, _, late⟩)
    · exact early
    · exact absurd late (later value)
  · exact Or.inl

/-- A computed test of a result, for runs on fixed inputs. -/
theorem exists_ok_of_any (result : Except ε α) (test : α → Bool)
    (passes : result.toOption.any test = true) :
    ∃ value, result = .ok value ∧ test value = true := by
  cases result with
  | error exit => simp [Except.toOption] at passes
  | ok value => exact ⟨value, rfl, passes⟩

end LibRga.Result

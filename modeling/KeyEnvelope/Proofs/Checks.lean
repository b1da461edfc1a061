/-!
# Checks in a row

A sequence of checks succeeds exactly if each of them does, and fails as the first
one does that fails.
-/

namespace KeyEnvelope.Checks

variable {ε α β : Type}

@[simp]
theorem pure_eq_ok (value : α) : (pure value : Except ε α) = .ok value := rfl

@[simp]
theorem throw_eq_error (failure : ε) : (throw failure : Except ε α) = .error failure := rfl

@[simp]
theorem ok_bind (value : α) (next : α → Except ε β) : (Except.ok value >>= next) = next value := rfl

@[simp]
theorem error_bind (failure : ε) (next : α → Except ε β) :
    ((Except.error failure : Except ε α) >>= next) = .error failure := rfl

@[simp]
theorem bind_eq_ok_iff {check : Except ε α} {next : α → Except ε β} {result : β} :
    (check >>= next) = .ok result ↔ ∃ value, check = .ok value ∧ next value = .ok result := by
  cases check <;> simp

theorem bind_eq_error_iff {check : Except ε α} {next : α → Except ε β} {failure : ε} :
    (check >>= next) = .error failure ↔
      check = .error failure ∨ ∃ value, check = .ok value ∧ next value = .error failure := by
  cases check <;> simp

theorem exists_ok_of_isOk {result : Except ε α} (succeeds : result.isOk = true) :
    ∃ value, result = .ok value := by
  cases result with
  | error failure => cases succeeds
  | ok value => exact ⟨value, rfl⟩

end KeyEnvelope.Checks

/-!
# Results of computations that can fail

When a changed result is a success, and of what, and when it is a failure.
-/

namespace TypedCollections

variable {α β ε ε' : Type}

theorem map_eq_ok_iff {result : Except ε α} {f : α → β} {value : β} :
    result.map f = .ok value ↔ ∃ found, result = .ok found ∧ value = f found := by
  cases result with
  | error error => simp [Except.map]
  | ok found => simp [Except.map, eq_comm]

@[simp] theorem mapError_ok {f : ε → ε'} {value : α} :
    (Except.ok value : Except ε α).mapError f = .ok value := rfl

@[simp] theorem mapError_error {f : ε → ε'} {error : ε} :
    (Except.error error : Except ε α).mapError f = .error (f error) := rfl

theorem mapError_eq_ok_iff {result : Except ε α} {f : ε → ε'} {value : α} :
    result.mapError f = .ok value ↔ result = .ok value := by
  cases result with
  | error error => simp
  | ok found => simp

theorem bind_eq_ok_iff {result : Except ε α} {next : α → Except ε β} {value : β} :
    result.bind next = .ok value ↔ ∃ found, result = .ok found ∧ next found = .ok value := by
  cases result with
  | error error => simp [Except.bind]
  | ok found => simp [Except.bind]

theorem map_eq_error_iff {result : Except ε α} {f : α → β} {error : ε} :
    result.map f = .error error ↔ result = .error error := by
  cases result with
  | error error => simp [Except.map]
  | ok found => simp [Except.map]

theorem mapError_eq_error_iff {result : Except ε α} {f : ε → ε'} {error : ε'} :
    result.mapError f = .error error ↔ ∃ found, result = .error found ∧ error = f found := by
  cases result with
  | error error => simp [eq_comm]
  | ok found => simp

theorem bind_eq_error_iff {result : Except ε α} {next : α → Except ε β} {error : ε} :
    result.bind next = .error error ↔
      result = .error error ∨ ∃ found, result = .ok found ∧ next found = .error error := by
  cases result with
  | error error => simp [Except.bind]
  | ok found => simp [Except.bind]

end TypedCollections

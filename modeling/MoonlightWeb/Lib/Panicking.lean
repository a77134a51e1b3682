import MoonlightWeb.Lib.Throwing
import Mathlib.Data.List.Basic

/-! Actions that return an error to their caller or panic. An index outside a
slice and a copy between slices of different lengths panic; everything else that
goes wrong is an error. The rules say, for each kind of step at the head of an
action, exactly when the action panics and when it returns. -/
namespace MoonlightWeb.Throwing

variable {ε φ σ : Type}

/-- Why an action gave no value. -/
inductive Stop (ε : Type) where
  | error (error : ε)
  | panic
  deriving DecidableEq, Repr

abbrev Fallible (ε σ : Type) := Action (Stop ε) σ

def fail (error : ε) : Fallible ε σ α := throw (.error error)

/-- `?`, with the conversion of the error. -/
def attempt (wrap : φ → ε) (result : Except φ α) : Fallible ε σ α :=
  match result with
  | .ok value => pure value
  | .error error => fail (wrap error)

def check (holds : Prop) [Decidable holds] (error : ε) : Fallible ε σ PUnit :=
  if holds then pure ⟨⟩ else fail error

def required (value : Option α) (error : ε) : Fallible ε σ α :=
  match value with
  | some value => pure value
  | none => fail error

/-- A value that has to be there. -/
def expect (value : Option α) : Fallible ε σ α :=
  match value with
  | some value => pure value
  | none => throw .panic

/-- `list[start..stop]` -/
def slice (list : List α) (start stop : Nat) : Fallible ε σ (List α) :=
  if start ≤ stop ∧ stop ≤ list.length then pure ((list.drop start).take (stop - start))
  else throw .panic

/-- `copy_from_slice` into an array of the given length. -/
def copyFromSlice (length : Nat) (source : List α) : Fallible ε σ (List α) :=
  if source.length = length then pure source else throw .panic

def Panics (action : Fallible ε σ α) (state : σ) : Prop := (perform action state).1 = .error .panic

/-- The caller gets a value or an error. -/
def Returns (action : Fallible ε σ α) (state : σ) : Prop :=
  ∃ result : Except ε α, (perform action state).1 = result.mapError .error

theorem returns_iff {action : Fallible ε σ α} : Returns action state ↔ ¬Panics action state := by
  unfold Returns Panics
  constructor
  · rintro ⟨result, returned⟩ panicked
    rw [returned] at panicked
    cases result <;> cases panicked
  · intro calm
    rcases outcome : (perform action state).1 with (error | _) | value
    · exact ⟨.error error, rfl⟩
    · exact absurd outcome calm
    · exact ⟨.ok value, rfl⟩

section Panics

@[simp] theorem panics_pure (value : α) (state : σ) :
    ¬Panics (pure value : Fallible ε σ α) state := by
  simp [Panics]

@[simp] theorem panics_fail (error : ε) (state : σ) :
    ¬Panics (fail error : Fallible ε σ α) state := by
  simp [Panics, fail]

theorem panics_bind {first : Fallible ε σ α} {next : α → Fallible ε σ β} :
    Panics (first >>= next) state ↔
      Panics first state ∨ ∃ value middle, perform first state = (.ok value, middle) ∧
        Panics (next value) middle :=
  perform_bind_throws

/-- A step that returns its value and leaves the state is no step. -/
theorem panics_bind_of_ok {first : Fallible ε σ α} {next : α → Fallible ε σ β}
    (ran : perform first state = (.ok value, middle)) :
    Panics (first >>= next) state ↔ Panics (next value) middle := by
  rw [Panics, perform_bind_ok ran, Panics]

theorem panics_attempt_bind {wrap : φ → ε} {result : Except φ α} {next : α → Fallible ε σ β} :
    Panics (attempt wrap result >>= next) state ↔
      ∃ value, result = .ok value ∧ Panics (next value) state := by
  cases result with
  | ok value => simp [attempt]
  | error error => simp [attempt, Panics, fail]

theorem panics_check_bind {holds : Prop} [Decidable holds] {error : ε}
    {next : PUnit → Fallible ε σ β} :
    Panics (check holds error >>= next) state ↔ holds ∧ Panics (next ⟨⟩) state := by
  by_cases h : holds
  · simp [check, h]
  · simp [check, h, Panics, fail]

theorem panics_required_bind {value : Option α} {error : ε} {next : α → Fallible ε σ β} :
    Panics (required value error >>= next) state ↔
      ∃ found, value = some found ∧ Panics (next found) state := by
  cases value with
  | some value => simp [required]
  | none => simp [required, Panics, fail]

theorem panics_slice_bind {list : List α} {start stop : Nat} {next : List α → Fallible ε σ β} :
    Panics (slice list start stop >>= next) state ↔
      (start ≤ stop ∧ stop ≤ list.length →
        Panics (next ((list.drop start).take (stop - start))) state) := by
  by_cases fits : start ≤ stop ∧ stop ≤ list.length
  · simp [slice, fits]
  · simp [slice, fits, Panics]

theorem panics_copyFromSlice_bind {length : Nat} {source : List α}
    {next : List α → Fallible ε σ β} :
    Panics (copyFromSlice length source >>= next) state ↔
      (source.length = length → Panics (next source) state) := by
  by_cases same : source.length = length
  · simp [copyFromSlice, same]
  · simp [copyFromSlice, same, Panics]

end Panics

section Returns

theorem perform_attempt_eq_ok {wrap : φ → ε} {result : Except φ α} {state : σ} :
    perform (attempt wrap result : Fallible ε σ α) state = (.ok value, after) ↔
      result = .ok value ∧ state = after := by
  cases result <;> simp [attempt, fail]

theorem perform_check_eq_ok {holds : Prop} [Decidable holds] {error : ε} {state : σ} :
    perform (check holds error : Fallible ε σ PUnit) state = (.ok value, after) ↔
      holds ∧ state = after := by
  by_cases h : holds <;> simp [check, h, fail]

theorem perform_required_eq_ok {value : Option α} {error : ε} {state : σ} :
    perform (required value error : Fallible ε σ α) state = (.ok found, after) ↔
      value = some found ∧ state = after := by
  cases value <;> simp [required, fail]

theorem perform_slice_eq_ok {list : List α} {state : σ} :
    perform (slice list start stop : Fallible ε σ (List α)) state = (.ok part, after) ↔
      (start ≤ stop ∧ stop ≤ list.length) ∧ (list.drop start).take (stop - start) = part ∧
        state = after := by
  by_cases fits : start ≤ stop ∧ stop ≤ list.length
  · simp [slice, fits]
  · simp [slice, fits]

theorem perform_copyFromSlice_eq_ok {source : List α} {state : σ} :
    perform (copyFromSlice length source : Fallible ε σ (List α)) state = (.ok copy, after) ↔
      source.length = length ∧ source = copy ∧ state = after := by
  by_cases same : source.length = length <;> simp [copyFromSlice, same]

end Returns

section OnError
variable {R : σ → σ → Prop}

/-- Wherever the action returns an error, its states are related. -/
def OnError (R : σ → σ → Prop) (action : Fallible ε σ α) : Prop :=
  ∀ state error after, perform action state = (.error (.error error), after) → R state after

theorem within_attempt [Std.Refl R] (wrap : φ → ε) (result : Except φ α) :
    Within R (attempt wrap result : Fallible ε σ α) := by
  intro state
  cases result <;> exact Std.Refl.refl state

theorem within_check [Std.Refl R] (holds : Prop) [Decidable holds] (error : ε) :
    Within R (check holds error : Fallible ε σ PUnit) := by
  intro state
  unfold check
  split <;> exact Std.Refl.refl state

/-- Should the action stop short of a value from this state, its states are
related. -/
def StopsWithin (R : σ → σ → Prop) (action : Fallible ε σ α) (state : σ) : Prop :=
  ∀ stop after, perform action state = (.error stop, after) → R state after

theorem stops_bind [IsTrans σ R] {first : Fallible ε σ α} {next : α → Fallible ε σ β} {state : σ}
    (now : Within R first)
    (later : ∀ value middle, perform first state = (.ok value, middle) →
      StopsWithin R (next value) middle) : StopsWithin R (first >>= next) state := by
  intro stop after ran
  have step := now state
  rw [perform_bind] at ran
  split at ran
  · rename_i value middle first
    rw [first] at step
    exact IsTrans.trans _ _ _ step (later value middle first stop after ran)
  · rename_i thrown middle first
    rw [first] at step
    cases ran
    exact step

theorem onError_of_stops {action : Fallible ε σ α}
    (stops : ∀ state, StopsWithin R action state) : OnError R action :=
  fun state error after ran => stops state (.error error) after ran

end OnError

end MoonlightWeb.Throwing

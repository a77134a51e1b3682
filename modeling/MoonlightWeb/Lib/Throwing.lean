import Mathlib.Order.Defs.Unbundled
import Mathlib.Tactic.Common

/-! Actions on a state that may throw. What an action changed before it threw
stays changed, so a fact about every run must be one about its final state,
whatever the result. -/
namespace MoonlightWeb.Throwing

variable {ε σ : Type}

abbrev Action (ε σ : Type) := ExceptT ε (StateM σ)

/-- The result of an action, and the state it leaves. -/
def perform (action : Action ε σ α) (state : σ) : Except ε α × σ := action.run.run state

@[simp] theorem perform_pure (value : α) (state : σ) :
    perform (pure value : Action ε σ α) state = (.ok value, state) := rfl

@[simp] theorem perform_throw (error : ε) (state : σ) :
    perform (throw error : Action ε σ α) state = (.error error, state) := rfl

@[simp] theorem perform_set (state after : σ) :
    perform (set after : Action ε σ PUnit) state = (.ok ⟨⟩, after) := rfl

@[simp] theorem perform_modify (change : σ → σ) (state : σ) :
    perform (modify change : Action ε σ PUnit) state = (.ok ⟨⟩, change state) := rfl

@[simp] theorem perform_get_bind (next : σ → Action ε σ α) (state : σ) :
    perform (get >>= next) state = perform (next state) state := rfl

/-- The second action runs only where the first has not thrown. -/
theorem perform_bind (first : Action ε σ α) (next : α → Action ε σ β) (state : σ) :
    perform (first >>= next) state =
      match perform first state with
      | (.ok value, middle) => perform (next value) middle
      | (.error error, middle) => (.error error, middle) := by
  unfold perform
  rw [ExceptT.run_bind, StateT.run_bind]
  generalize first.run.run state = ran
  obtain ⟨result, middle⟩ := ran
  cases result <;> rfl

theorem perform_bind_ok {first : Action ε σ α} {next : α → Action ε σ β}
    (ran : perform first state = (.ok value, middle)) :
    perform (first >>= next) state = perform (next value) middle := by
  rw [perform_bind, ran]

theorem perform_bind_error {first : Action ε σ α} {next : α → Action ε σ β}
    (ran : perform first state = (.error error, middle)) :
    perform (first >>= next) state = (.error error, middle) := by
  rw [perform_bind, ran]

/-- An action returns when its parts return one after the other. -/
theorem perform_bind_eq_ok {first : Action ε σ α} {next : α → Action ε σ β} :
    perform (first >>= next) state = (.ok result, after) ↔
      ∃ value middle, perform first state = (.ok value, middle) ∧
        perform (next value) middle = (.ok result, after) := by
  rw [perform_bind]
  rcases perform first state with ⟨_ | value, middle⟩ <;> simp

/-- An action throws when its first part does, or what follows a returned value
does. -/
theorem perform_bind_throws {first : Action ε σ α} {next : α → Action ε σ β} :
    (perform (first >>= next) state).1 = .error error ↔
      (perform first state).1 = .error error ∨
        ∃ value middle, perform first state = (.ok value, middle) ∧
          (perform (next value) middle).1 = .error error := by
  rw [perform_bind]
  rcases perform first state with ⟨_ | value, middle⟩ <;> simp

/-- Every run of the action, thrown or not, relates its states. -/
def Within (R : σ → σ → Prop) (action : Action ε σ α) : Prop :=
  ∀ state, R state (perform action state).2

section Rules
variable {R : σ → σ → Prop}

theorem within_pure [Std.Refl R] (value : α) : Within R (pure value : Action ε σ α) :=
  fun state => Std.Refl.refl state

theorem within_bind [IsTrans σ R] {first : Action ε σ α} {next : α → Action ε σ β}
    (now : Within R first) (later : ∀ value, Within R (next value)) :
    Within R (first >>= next) := by
  intro state
  have step := now state
  rw [perform_bind]
  split
  · rename_i value middle ran
    rw [ran] at step
    exact IsTrans.trans _ _ _ step (later value middle)
  · rename_i error middle ran
    rwa [ran] at step

theorem within_get_bind {next : σ → Action ε σ β} (later : ∀ state, Within R (next state)) :
    Within R (get >>= next) := by
  intro state
  rw [perform_get_bind]
  exact later state state

theorem within_forM [Std.Refl R] [IsTrans σ R] {action : α → Action ε σ PUnit} (list : List α)
    (each : ∀ item, Within R (action item)) : Within R (list.forM action) := by
  induction list with
  | nil => exact within_pure _
  | cons item rest ih => exact within_bind (each item) fun _ => ih

theorem Within.mono {weaker : σ → σ → Prop} {action : Action ε σ α} (within : Within R action)
    (weakens : ∀ before after, R before after → weaker before after) : Within weaker action :=
  fun state => weakens _ _ (within state)

end Rules

end MoonlightWeb.Throwing

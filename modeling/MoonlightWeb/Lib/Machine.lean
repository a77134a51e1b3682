import Mathlib.Logic.Basic

/-! Machines that take one event at a time. A step may refuse an event that is
not enabled; a run feeds a list of events and stops at the first refusal. The
rules below turn facts about one step into facts about every run. -/
namespace MoonlightWeb.Machine

variable {σ τ ε ω : Type*} {step : σ → ε → Option σ}

/-- The state after all events, when every one of them was enabled. -/
def run (step : σ → ε → Option σ) : σ → List ε → Option σ
  | state, [] => some state
  | state, event :: rest => (step state event).bind fun next => run step next rest

@[simp] theorem run_nil (state : σ) : run step state [] = some state := rfl

theorem run_cons (state : σ) (event : ε) (rest : List ε) :
    run step state (event :: rest) = (step state event).bind fun next => run step next rest := rfl

theorem run_append (state : σ) (first second : List ε) :
    run step state (first ++ second) = (run step state first).bind fun middle =>
      run step middle second := by
  induction first generalizing state with
  | nil => rfl
  | cons event rest ih =>
    rw [List.cons_append, run_cons, run_cons]
    cases step state event with
    | none => rfl
    | some next => exact ih next

theorem run_snoc (ran : run step state events = some final) (taken : step final event = some next) :
    run step state (events ++ [event]) = some next := by
  rw [run_append, ran, Option.bind_some, run_cons, taken, Option.bind_some, run_nil]

/-- The states some run from `start` ends in. -/
def Reachable (step : σ → ε → Option σ) (start state : σ) : Prop :=
  ∃ events, run step start events = some state

theorem reachable_next (reached : Reachable step start state) (taken : step state event = some next) :
    Reachable step start next := by
  obtain ⟨events, ran⟩ := reached
  exact ⟨events ++ [event], run_snoc ran taken⟩

/-- What one enabled step preserves, every run preserves. -/
theorem run_preserves {Inv : σ → Prop}
    (kept : ∀ state event next, Inv state → step state event = some next → Inv next)
    (held : Inv state) (ran : run step state events = some final) : Inv final := by
  induction events generalizing state with
  | nil =>
    cases ran
    exact held
  | cons event rest ih =>
    obtain ⟨next, taken, ran⟩ := Option.bind_eq_some_iff.mp ran
    exact ih (kept state event next held taken) ran

/-- What the steps of these events preserve, a run of them preserves. -/
theorem run_preserves_of {Inv : σ → Prop} {P : ε → Prop} (holds : ∀ event ∈ events, P event)
    (kept : ∀ state event next, P event → Inv state → step state event = some next → Inv next)
    (held : Inv state) (ran : run step state events = some final) : Inv final := by
  induction events generalizing state with
  | nil =>
    cases ran
    exact held
  | cons event rest ih =>
    obtain ⟨own, others⟩ := List.forall_mem_cons.mp holds
    obtain ⟨next, taken, ran⟩ := Option.bind_eq_some_iff.mp ran
    exact ih others (kept state event next own held taken) ran

/-- An invariant may also speak of the events so far. -/
theorem run_history (Inv : List ε → σ → Prop)
    (kept : ∀ past state event next, Inv past state → step state event = some next →
      Inv (past ++ [event]) next)
    (held : Inv past state) (ran : run step state events = some final) :
    Inv (past ++ events) final := by
  induction events generalizing past state with
  | nil =>
    cases ran
    rw [List.append_nil]
    exact held
  | cons event rest ih =>
    obtain ⟨next, taken, ran⟩ := Option.bind_eq_some_iff.mp ran
    rw [List.append_cons]
    exact ih (kept past state event next held taken) ran

/-- An event that stays enabled until the work is done, and leaves less of it each
time, gets it done. -/
theorem run_ends (Inv Done : σ → Prop) (event : ε) (remaining : σ → Nat)
    (goes : ∀ state, Inv state → ¬Done state → ∃ next, step state event = some next ∧
      Inv next ∧ remaining next < remaining state)
    (held : Inv state) :
    ∃ count final, run step state (List.replicate count event) = some final ∧ Inv final ∧
      Done final := by
  induction left : remaining state using Nat.strongRecOn generalizing state with
  | ind left ih =>
    by_cases done : Done state
    · exact ⟨0, state, rfl, held, done⟩
    · obtain ⟨next, taken, held', less⟩ := goes state held done
      obtain ⟨count, final, ran, ended⟩ := ih (remaining next) (left ▸ less) held' rfl
      refine ⟨count + 1, final, ?_, ended⟩
      rw [List.replicate_succ, run_cons, taken, Option.bind_some, ran]

/-- An invariant of the start and of every step holds of every reachable state. -/
theorem reachable_invariant (Inv : σ → Prop) (initially : Inv start)
    (kept : ∀ state event next, Inv state → step state event = some next → Inv next)
    (reached : Reachable step start state) : Inv state := by
  obtain ⟨events, ran⟩ := reached
  exact run_preserves kept initially ran

/-- `P before event after` at every step the events take from a state. -/
def Along (step : σ → ε → Option σ) (P : σ → ε → σ → Prop) : σ → List ε → Prop
  | _, [] => True
  | state, event :: rest =>
    ∀ next, step state event = some next → P state event next ∧ Along step P next rest

theorem along_cons {P : σ → ε → σ → Prop} (taken : step state event = some next)
    (holds : P state event next) (along : Along step P next rest) :
    Along step P state (event :: rest) := by
  intro other isOther
  cases taken.symm.trans isOther
  exact ⟨holds, along⟩

/-- A property of the events alone. -/
theorem along_of_events {P : σ → ε → σ → Prop}
    (holds : ∀ event ∈ events, ∀ before after, P before event after) :
    Along step P state events := by
  induction events generalizing state with
  | nil => trivial
  | cons event rest ih =>
    intro next taken
    exact ⟨holds event List.mem_cons_self state next,
      ih fun other member => holds other (List.mem_cons_of_mem _ member)⟩

/-- What a step property gives wherever an invariant holds, which it keeps, it
gives along whole runs. -/
theorem along_imp (Inv : σ → Prop) {P Q : σ → ε → σ → Prop}
    (gives : ∀ state event next, Inv state → step state event = some next →
      Q state event next → P state event next)
    (kept : ∀ state event next, Inv state → step state event = some next →
      Q state event next → Inv next)
    (held : Inv state) (along : Along step Q state events) : Along step P state events := by
  induction events generalizing state with
  | nil => trivial
  | cons event rest ih =>
    intro next taken
    obtain ⟨obeyed, along⟩ := along next taken
    exact ⟨gives state event next held taken obeyed,
      ih (kept state event next held taken obeyed) along⟩

/-- A property along a run holds of its last step. -/
theorem along_last {P : σ → ε → σ → Prop} (along : Along step P start (events ++ [last]))
    (ran : run step start events = some before) (taken : step before last = some after) :
    P before last after := by
  induction events generalizing start with
  | nil =>
    cases ran
    exact (along after taken).1
  | cons event rest ih =>
    obtain ⟨next, first, ran⟩ := Option.bind_eq_some_iff.mp ran
    exact ih (along next first).2 ran

/-- What holds after every step, and at the start, holds at the end. -/
theorem along_final {Held : σ → Prop} (along : Along step (fun _ _ after => Held after) start events)
    (initially : Held start) (ran : run step start events = some final) : Held final := by
  induction events generalizing start with
  | nil =>
    cases ran
    exact initially
  | cons event rest ih =>
    obtain ⟨next, taken, ran⟩ := Option.bind_eq_some_iff.mp ran
    obtain ⟨held, along⟩ := along next taken
    exact ih along held ran

/-- Two step properties that agree wherever an invariant holds agree along
whole runs. The invariant may rest on the second property itself, so it may
describe only the runs that have obeyed it so far. -/
theorem along_iff (Inv : σ → Prop) {P Q : σ → ε → σ → Prop}
    (agree : ∀ state event next, Inv state → step state event = some next →
      (P state event next ↔ Q state event next))
    (kept : ∀ state event next, Inv state → step state event = some next →
      Q state event next → Inv next)
    (held : Inv state) : Along step P state events ↔ Along step Q state events := by
  induction events generalizing state with
  | nil => exact Iff.rfl
  | cons event rest ih =>
    refine forall_congr' fun next => forall_congr' fun taken => ?_
    rw [agree state event next held taken]
    exact and_congr_right fun obeyed => ih (kept state event next held taken obeyed)

/-- Along a run on given events a property can be computed. -/
instance decidableAlong {P : σ → ε → σ → Prop}
    [∀ before event after, Decidable (P before event after)] :
    (state : σ) → (events : List ε) → Decidable (Along step P state events)
  | _, [] => isTrue trivial
  | state, event :: rest =>
    match taken : step state event with
    | none => isTrue fun _ other => absurd (taken.symm.trans other) nofun
    | some next =>
      have := decidableAlong (P := P) next rest
      decidable_of_iff (P state event next ∧ Along step P next rest)
        ⟨fun both => along_cons taken both.1 both.2, fun along => along next taken⟩

/-- A machine with a record beside it, which every step brings up to date and no
step reads. -/
def watching (step : σ → ε → Option σ) (note : τ → σ → ε → σ → τ) :
    σ × τ → ε → Option (σ × τ)
  | (state, record), event =>
    (step state event).map fun next => (next, note record state event next)

/-- What holds of the steps beside a record holds of them without it. -/
theorem along_of_watching {note : τ → σ → ε → σ → τ} {P : σ → ε → σ → Prop}
    (along : Along (watching step note) (fun before event after => P before.1 event after.1)
      (state, record) events) : Along step P state events := by
  induction events generalizing state record with
  | nil => trivial
  | cons event rest ih =>
    intro next taken
    obtain ⟨holds, along⟩ := along (next, note record state event next)
      (by rw [watching, taken, Option.map_some])
    exact ⟨holds, ih along⟩

/-- What the steps put out, and the state after them. -/
def outputs (step : σ → ε → Option (ω × σ)) : σ → List ε → Option (List ω × σ)
  | state, [] => some ([], state)
  | state, event :: rest =>
    (step state event).bind fun taken => (outputs step taken.2 rest).map fun later =>
      (taken.1 :: later.1, later.2)

/-- A machine that can follow every step of another, with the same output, puts out the same
over every run. -/
theorem outputs_simulate {step : σ → ε → Option (ω × σ)} {specStep : τ → ε → Option (ω × τ)} {R : σ → τ → Prop}
    (follows : ∀ state spec event output spec', R state spec → specStep spec event = some (output, spec') →
      ∃ state', step state event = some (output, state') ∧ R state' spec')
    (related : R state spec) (ran : outputs specStep spec events = some (put, spec')) :
    ∃ state', outputs step state events = some (put, state') ∧ R state' spec' := by
  induction events generalizing state spec put with
  | nil =>
    cases ran
    exact ⟨state, rfl, related⟩
  | cons event rest ih =>
    obtain ⟨⟨output, middle⟩, taken, ran⟩ := Option.bind_eq_some_iff.mp ran
    obtain ⟨⟨later, _⟩, ranRest, same⟩ := Option.map_eq_some_iff.mp ran
    cases same
    obtain ⟨state', taken', related'⟩ := follows state spec event output middle related taken
    obtain ⟨final, ran', related''⟩ := ih related' ranRest
    refine ⟨final, ?_, related''⟩
    rw [outputs, taken', Option.bind_some, ran', Option.map_some]

/-- Where a machine runs one of its tasks, each other one stays. -/
theorem mem_set_of_mem {tasks : List α} (member : other ∈ tasks) (isAt : tasks[index]? = some task)
    (after : α) : other = task ∨ other ∈ tasks.set index after := by
  obtain ⟨place, isOther⟩ := List.mem_iff_getElem?.mp member
  by_cases here : place = index
  · subst here
    exact .inl (Option.some.inj (isOther.symm.trans isAt))
  · right
    apply List.mem_of_getElem?
    rw [List.getElem?_set_ne (Ne.symm here)]
    exact isOther

end MoonlightWeb.Machine

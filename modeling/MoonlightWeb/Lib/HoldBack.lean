import Mathlib.Data.List.DropRight
import Mathlib.Data.List.Perm.Subperm
import Mathlib.Tactic.Common

/-! A stage that takes one unit after the other and may hold some of them back
until a later one. Held units are parameter sets: the slices behind them cannot
be used without them. The rules below say when such a stage loses no unit and
gives every parameter set out in time, from what it does in one step. -/
namespace MoonlightWeb.HoldBack

variable {σ α β : Type*}

/-- What the stage gives out for all units, and the state it ends in. -/
def feed (take : σ → α → List β × σ) : σ → List α → List β × σ
  | state, [] => ([], state)
  | state, unit :: rest =>
    let (out, next) := take state unit
    let (more, final) := feed take next rest
    (out ++ more, final)

theorem feed_cons (take : σ → α → List β × σ) (state : σ) (unit : α) (rest : List α) :
    feed take state (unit :: rest) =
      ((take state unit).1 ++ (feed take (take state unit).2 rest).1,
        (feed take (take state unit).2 rest).2) := rfl

theorem feed_append (take : σ → α → List β × σ) (state : σ) (first second : List α) :
    feed take state (first ++ second) =
      ((feed take state first).1 ++ (feed take (feed take state first).2 second).1,
        (feed take (feed take state first).2 second).2) := by
  induction first generalizing state with
  | nil => rfl
  | cons unit rest ih => simp [feed, ih]

theorem feed_single (take : σ → α → List β × σ) (state : σ) (unit : α) :
    feed take state [unit] = take state unit := by
  simp [feed]

/-- The roles units play: what must be delivered at all, what may be held back,
and what needs everything held back before it. -/
structure Roles (α : Type*) where
  kept : α → Bool
  parameterSet : α → Bool
  slice : α → Bool
  parameter_set_kept : ∀ unit, parameterSet unit = true → kept unit = true
  slice_kept : ∀ unit, slice unit = true → kept unit = true

/-- The parameter sets that no slice has followed yet. -/
def Roles.trailing (roles : Roles α) (units : List α) : List α :=
  (units.rtakeWhile fun unit => !roles.slice unit).filter roles.parameterSet

theorem Roles.trailing_append_other (roles : Roles α) (units : List α)
    (notSlice : roles.slice unit = false) :
    roles.trailing (units ++ [unit]) =
      roles.trailing units ++ [unit].filter roles.parameterSet := by
  simp [trailing, notSlice]

/-- Nothing is lost from a list of units, given what is delivered and what is
still held after each prefix of it. -/
structure LosesNothing (roles : Roles α) (delivered held : List α → List α)
    (units : List α) : Prop where
  /-- Every kept unit is delivered or held, as often as it came. -/
  accounted : (delivered units ++ held units).Perm (units.filter roles.kept)
  /-- A slice comes out behind all parameter sets that came before it. -/
  inTime : ∀ before slice after, units = before ++ slice :: after → roles.slice slice = true →
    ∃ earlier, delivered (before ++ [slice]) = earlier ++ [slice] ∧
      (before.filter roles.parameterSet).Subperm earlier
  /-- Only parameter sets without a slice behind them are still held. -/
  onlyTrailing : (held units).Subperm (roles.trailing units)

/-- Only what is delivered and held for units of the list matters. -/
theorem LosesNothing.of_agree {roles : Roles α} (held : LosesNothing roles delivered still units)
    (agree : ∀ other : List α, (∀ unit ∈ other, unit ∈ units) →
      delivered' other = delivered other ∧ still' other = still other) :
    LosesNothing roles delivered' still' units := by
  obtain ⟨sameDelivered, sameHeld⟩ := agree units fun _ => id
  refine ⟨?_, ?_, ?_⟩
  · rw [sameDelivered, sameHeld]
    exact held.accounted
  · intro before slice after split isSlice
    have inside : ∀ unit ∈ before ++ [slice], unit ∈ units := by
      intro unit member
      rw [split]
      simp only [List.mem_append, List.mem_cons, List.not_mem_nil, or_false] at member ⊢
      tauto
    rw [(agree _ inside).1]
    exact held.inTime before slice after split isSlice
  · rw [sameHeld]
    exact held.onlyTrailing

/-- A stage that holds parameter sets back. In one step it drops the unit, loses
a unit for good, or gives out and holds all it had and the new one; a slice is
never held itself. -/
structure Stage (σ α : Type*) extends Roles α where
  take : σ → α → List α × σ
  held : σ → List α
  loses : σ → α → Prop
  held_parameter_sets : ∀ state, ∀ unit ∈ held state, parameterSet unit = true
  take_dropped : ∀ state unit, kept unit = false → take state unit = ([], state)
  take_kept : ∀ state unit, kept unit = true → ¬ loses state unit →
    ((take state unit).1 ++ held (take state unit).2).Perm (held state ++ [unit])
  take_losing : ∀ state unit, kept unit = true → loses state unit →
    ((take state unit).1 ++ held (take state unit).2).length ≤ (held state).length
  take_slice : ∀ state unit, slice unit = true → ¬ loses state unit →
    ∃ earlier, (take state unit).1 = earlier ++ [unit]

namespace Stage

variable (stage : Stage σ α)

/-- The stage loses none of the units. -/
def Keeps : σ → List α → Prop
  | _, [] => True
  | state, unit :: rest =>
    (stage.kept unit = true → ¬ stage.loses state unit) ∧ Keeps (stage.take state unit).2 rest

/-- The stage neither loses a unit nor passes a slice with something held. -/
def Orderly : σ → List α → Prop
  | _, [] => True
  | state, unit :: rest =>
    (stage.kept unit = true → ¬ stage.loses state unit) ∧
    (stage.slice unit = true → stage.held (stage.take state unit).2 = []) ∧
    Orderly (stage.take state unit).2 rest

def ClearAtSlices (state : σ) (units : List α) : Prop :=
  ∀ before slice after, units = before ++ slice :: after → stage.slice slice = true →
    stage.held (stage.take (feed stage.take state before).2 slice).2 = []

variable {stage}

theorem orderly_iff : stage.Orderly state units ↔
    stage.Keeps state units ∧ stage.ClearAtSlices state units := by
  induction units generalizing state with
  | nil => simp [Orderly, Keeps, ClearAtSlices]
  | cons unit rest ih =>
    simp only [Orderly, Keeps, ih]
    constructor
    · rintro ⟨kept, clear, keeps, clears⟩
      refine ⟨⟨kept, keeps⟩, ?_⟩
      rintro (_ | ⟨head, before⟩) slice after split isSlice
      · cases split
        exact clear isSlice
      · cases split
        exact clears before slice after rfl isSlice
    · rintro ⟨⟨kept, keeps⟩, clears⟩
      refine ⟨kept, clears [] unit rest rfl, keeps, ?_⟩
      rintro before slice after rfl isSlice
      exact clears (unit :: before) slice after rfl isSlice

theorem keeps_before (keeps : stage.Keeps state (before ++ after)) :
    stage.Keeps state before := by
  induction before generalizing state with
  | nil => trivial
  | cons unit rest ih => exact ⟨keeps.1, ih keeps.2⟩

theorem keeps_at (keeps : stage.Keeps state (before ++ unit :: after))
    (kept : stage.kept unit = true) :
    ¬ stage.loses (feed stage.take state before).2 unit := by
  induction before generalizing state with
  | nil => exact keeps.1 kept
  | cons head rest ih => exact ih keeps.2

/-- Without a loss, what came in is what was held before or is delivered or
held now. -/
theorem keeps_accounted (keeps : stage.Keeps state units) :
    ((feed stage.take state units).1 ++ stage.held (feed stage.take state units).2).Perm
      (stage.held state ++ units.filter stage.kept) := by
  induction units generalizing state with
  | nil => simp [feed]
  | cons unit rest ih =>
    have later := ih keeps.2
    cases kept : stage.kept unit with
    | false =>
      have dropped := stage.take_dropped state unit kept
      simpa [feed, dropped, kept] using later
    | true =>
      have now := stage.take_kept state unit kept (keeps.1 kept)
      simp only [feed, kept, List.filter_cons_of_pos, List.append_assoc]
      refine (later.append_left _).trans ?_
      rw [← List.append_assoc]
      refine (now.append_right _).trans ?_
      simp

/-- No unit is made up, and a lost one is missing at the end. -/
theorem accounted_length :
    ((feed stage.take state units).1 ++ stage.held (feed stage.take state units).2).length ≤
        (stage.held state).length + (units.filter stage.kept).length ∧
      (¬ stage.Keeps state units →
        ((feed stage.take state units).1 ++ stage.held (feed stage.take state units).2).length <
          (stage.held state).length + (units.filter stage.kept).length) := by
  induction units generalizing state with
  | nil => simp [feed, Keeps]
  | cons unit rest ih =>
    obtain ⟨bound, strict⟩ := @ih (stage.take state unit).2
    simp only [feed_cons, List.length_append] at bound strict ⊢
    cases kept : stage.kept unit with
    | false =>
      have dropped := stage.take_dropped state unit kept
      simp only [dropped, List.length_nil, Nat.zero_add] at bound strict ⊢
      simpa [Keeps, kept, dropped] using ⟨bound, strict⟩
    | true =>
      simp only [List.filter_cons_of_pos kept, List.length_cons]
      by_cases losing : stage.loses state unit
      · have lost := stage.take_losing state unit kept losing
        simp only [List.length_append] at lost
        exact ⟨by omega, fun _ => by omega⟩
      · have now := (stage.take_kept state unit kept losing).length_eq
        simp only [List.length_append, List.length_cons, List.length_nil] at now
        refine ⟨by omega, fun broken => ?_⟩
        have := strict fun keeps => broken ⟨fun _ => losing, keeps⟩
        omega

private theorem held_filter (state : σ) :
    (stage.held state).filter stage.parameterSet = stage.held state :=
  List.filter_eq_self.mpr (stage.held_parameter_sets state)

theorem kept_parameter_sets (units : List α) :
    (units.filter stage.kept).filter stage.parameterSet = units.filter stage.parameterSet := by
  rw [List.filter_filter]
  apply List.filter_congr
  intro unit _
  cases isSet : stage.parameterSet unit
  · rfl
  · simp [stage.parameter_set_kept unit isSet]

/-- What is held after an orderly run has no slice behind it. -/
theorem orderly_held_trailing (initially : stage.held start = [])
    (orderly : stage.Orderly start units) :
    (stage.held (feed stage.take start units).2).Subperm (stage.trailing units) := by
  obtain ⟨keeps, clears⟩ := orderly_iff.mp orderly
  clear orderly
  induction units using List.reverseRecOn with
  | nil => simp [feed, initially]
  | append_singleton before unit ih =>
    have heldBefore := ih (keeps_before keeps) (by
      rintro first slice last rfl isSlice
      exact clears first slice (last ++ [unit]) (by simp) isSlice)
    simp only [feed_append, feed_single]
    by_cases isSlice : stage.slice unit = true
    · rw [clears before unit [] rfl isSlice]
      exact List.nil_subperm
    · rw [stage.trailing_append_other before (by simpa using isSlice)]
      cases kept : stage.kept unit with
      | false =>
        rw [stage.take_dropped _ _ kept]
        exact heldBefore.trans (List.sublist_append_left _ _).subperm
      | true =>
        have now := stage.take_kept _ unit kept (keeps_at keeps kept)
        have held : (stage.held (stage.take (feed stage.take start before).2 unit).2).Subperm
            (stage.held (feed stage.take start before).2 ++ [unit]) :=
          (List.sublist_append_right _ _).subperm.trans now.subperm
        have sets := held.filter stage.parameterSet
        simp only [held_filter, List.filter_append] at sets
        exact sets.trans ((List.subperm_append_right _).mpr heldBefore)

/-- At a slice, everything held before is given out or still held. -/
private theorem slice_gives_out (keeps : stage.Keeps start (before ++ slice :: after))
    (isSlice : stage.slice slice = true) :
    ∃ flushed, (feed stage.take start (before ++ [slice])).1 =
        ((feed stage.take start before).1 ++ flushed) ++ [slice] ∧
      (flushed ++ stage.held (stage.take (feed stage.take start before).2 slice).2).Perm
        (stage.held (feed stage.take start before).2) := by
  have kept := stage.slice_kept slice isSlice
  have keptNow := keeps_at keeps kept
  obtain ⟨flushed, gave⟩ := stage.take_slice _ slice isSlice keptNow
  refine ⟨flushed, by simp [feed_append, feed_single, gave], ?_⟩
  have now := stage.take_kept _ slice kept keptNow
  rw [gave, List.append_assoc] at now
  have swapped : (flushed ++ ([slice] ++ stage.held
      (stage.take (feed stage.take start before).2 slice).2)).Perm
        (flushed ++ stage.held (stage.take (feed stage.take start before).2 slice).2 ++
          [slice]) := by
    rw [List.append_assoc]
    exact List.perm_append_comm.append_left flushed
  exact (List.perm_append_right_iff _).mp (swapped.symm.trans now)

/-- A stage that starts empty loses nothing exactly when its run is orderly. -/
theorem loses_nothing_iff (initially : stage.held start = []) :
    LosesNothing stage.toRoles (fun units => (feed stage.take start units).1)
        (fun units => stage.held (feed stage.take start units).2) units ↔
      stage.Orderly start units := by
  constructor
  · rintro ⟨accounted, inTime, _⟩
    have keeps : stage.Keeps start units := by
      by_contra broken
      have short := accounted_length.2 broken
      rw [accounted.length_eq, initially] at short
      simp at short
    refine orderly_iff.mpr ⟨keeps, ?_⟩
    rintro before slice after rfl isSlice
    obtain ⟨earlier, gave, included⟩ := inTime before slice after rfl isSlice
    obtain ⟨flushed, gaveFlushed, balance⟩ := slice_gives_out keeps isSlice
    have same : earlier = (feed stage.take start before).1 ++ flushed :=
      List.append_cancel_right (gave.symm.trans gaveFlushed)
    subst same
    -- Counting parameter sets: all of them came out early, so none is left.
    have sets := (included.filter stage.parameterSet).length_le
    have total := ((keeps_accounted (keeps_before keeps)).filter stage.parameterSet).length_eq
    have left := (balance.filter stage.parameterSet).length_eq
    rw [List.filter_eq_self.mpr fun _ => List.of_mem_filter, List.filter_append,
      List.length_append] at sets
    simp only [initially, List.nil_append, kept_parameter_sets, List.filter_append, held_filter,
      List.length_append] at total left
    exact List.eq_nil_of_length_eq_zero (by omega)
  · intro orderly
    obtain ⟨keeps, clears⟩ := orderly_iff.mp orderly
    refine ⟨?_, ?_, orderly_held_trailing initially orderly⟩
    · simpa [initially] using keeps_accounted keeps
    · rintro before slice after rfl isSlice
      obtain ⟨flushed, gave, balance⟩ := slice_gives_out keeps isSlice
      rw [clears before slice after rfl isSlice, List.append_nil] at balance
      refine ⟨_, gave, ?_⟩
      have all := (balance.append_left (feed stage.take start before).1).trans
        (keeps_accounted (keeps_before keeps))
      rw [initially, List.nil_append] at all
      rw [← stage.kept_parameter_sets before]
      exact List.filter_sublist.subperm.trans all.symm.subperm

end Stage

end MoonlightWeb.HoldBack

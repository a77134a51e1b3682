import Mathlib.Data.List.AList
import Mathlib.Tactic.Common
import MoonlightWeb.Lib.Machine
import MoonlightWeb.Streamer.Bindings

/-! Allocation of Sunshine's controller slots to the gamepads of all attached
clients. Which slots are taken is written down twice, in the slot map and in
the bit mask; the three operations must keep the two in step. Each operation
holds the write lock of the map from its first read to its last write, so one
call is one step here. -/
namespace MoonlightWeb.Streamer
open MoonlightWeb.Machine

/-- A client and the number it gives its own gamepad. -/
abbrev ClientPad := UInt32 × UInt8

structure StreamInput where
  activeGamepads : ActiveGamepads
  /-- The client whose "controllers" channel was stored last. -/
  controllers : Option UInt32
  gamepadSlots : AList fun _ : ClientPad => UInt8
  deriving DecidableEq

namespace StreamInput

def new : StreamInput := ⟨.empty, none, ∅⟩

/-- `0u8..16`, the slots in the order the allocation tries them. -/
def slotNumbers : List UInt8 := (List.range 16).map UInt8.ofNat

/-- The first slot of the loop whose mask is not in the active set. -/
def firstFreeSlot (active : ActiveGamepads) : List UInt8 → Option (UInt8 × ActiveGamepads)
  | [] => none
  | slot :: rest =>
    match ActiveGamepads.fromId slot with
    | none => firstFreeSlot active rest
    | some mask =>
      if active.contains mask then firstFreeSlot active rest else some (slot, mask)

/-- The slot and the active set as the caller gets them, beside the new state. -/
def allocateGamepadSlot (input : StreamInput) (clientId : UInt32) (localId : UInt8) :
    Option (UInt8 × ActiveGamepads) × StreamInput :=
  match input.gamepadSlots.lookup (clientId, localId) with
  | some slot => (some (slot, input.activeGamepads), input)
  | none =>
    match firstFreeSlot input.activeGamepads slotNumbers with
    | none => (none, input)
    | some (slot, mask) =>
      let active := input.activeGamepads.insert mask
      (some (slot, active),
        { input with
          activeGamepads := active
          gamepadSlots := input.gamepadSlots.insert (clientId, localId) slot })

def releaseGamepadSlot (input : StreamInput) (clientId : UInt32) (localId : UInt8) :
    Option (UInt8 × ActiveGamepads) × StreamInput :=
  match input.gamepadSlots.lookup (clientId, localId) with
  | none => (none, input)
  | some slot =>
    let removed := { input with gamepadSlots := input.gamepadSlots.erase (clientId, localId) }
    match ActiveGamepads.fromId slot with
    | none => (none, removed)
    | some mask =>
      let active := input.activeGamepads.remove mask
      (some (slot, active), { removed with activeGamepads := active })

def lookupGamepadSlot (input : StreamInput) (clientId : UInt32) (localId : UInt8) :
    Option UInt8 :=
  input.gamepadSlots.lookup (clientId, localId)

/-- The local ids of one client. The source takes them from a hash map, so they
come in any order; callers below quantify over it. -/
def localIds (input : StreamInput) (clientId : UInt32) : List UInt8 :=
  (input.gamepadSlots.keys.filter fun key => key.1 == clientId).map Prod.snd

/-- Release the listed gamepads one after the other, with what each release
returned. -/
def releaseClientGamepads (input : StreamInput) (clientId : UInt32) :
    List UInt8 → List (UInt8 × ActiveGamepads) × StreamInput
  | [] => ([], input)
  | localId :: rest =>
    let (released, next) := releaseGamepadSlot input clientId localId
    let (others, final) := releaseClientGamepads next clientId rest
    (released.toList ++ others, final)

/-- The map and the mask say the same: distinct gamepads have distinct slots,
all of them below 16, and a bit is set exactly for a slot some gamepad has. -/
structure SlotsInStep (input : StreamInput) : Prop where
  exclusive : ∀ key other slot, input.gamepadSlots.lookup key = some slot →
    input.gamepadSlots.lookup other = some slot → key = other
  bounded : ∀ key slot, input.gamepadSlots.lookup key = some slot → slot < 16
  mirrored : ∀ slot, input.activeGamepads.has slot = true ↔
    ∃ key, input.gamepadSlots.lookup key = some slot

theorem new_in_step : SlotsInStep new := by
  refine ⟨?_, ?_, ?_⟩ <;> simp [new, AList.lookup_empty]

private theorem mem_slotNumbers (slot : UInt8) : slot ∈ slotNumbers ↔ slot < 16 := by
  simp only [slotNumbers, List.mem_map, List.mem_range]
  constructor
  · rintro ⟨number, low, rfl⟩
    exact UInt8.lt_iff_toNat_lt.mpr (by simpa using by omega)
  · intro low
    exact ⟨slot.toNat, low, UInt8.ofNat_toNat⟩

private theorem first_free_slot_some
    (found : firstFreeSlot active slots = some (slot, mask)) :
    ActiveGamepads.fromId slot = some mask ∧ active.has slot = false := by
  induction slots with
  | nil => cases found
  | cons head rest ih =>
    simp only [firstFreeSlot] at found
    cases made : ActiveGamepads.fromId head with
    | none => exact ih (by simpa only [made] using found)
    | some headMask =>
      simp only [made] at found
      by_cases taken : active.contains headMask = true
      · exact ih (by simpa only [taken, ↓reduceIte] using found)
      · simp only [taken, Bool.false_eq_true, ↓reduceIte, Option.some.injEq,
          Prod.mk.injEq] at found
        obtain ⟨rfl, rfl⟩ := found
        exact ⟨made, by simpa [ActiveGamepads.contains_eq_has made] using taken⟩

private theorem first_free_slot_none (full : firstFreeSlot active slots = none)
    (member : slot ∈ slots) (low : slot < 16) : active.has slot = true := by
  induction slots with
  | nil => cases member
  | cons head rest ih =>
    simp only [firstFreeSlot] at full
    cases made : ActiveGamepads.fromId head with
    | none =>
      rcases List.mem_cons.mp member with rfl | inRest
      · rw [ActiveGamepads.from_id_eq_some.mpr ⟨low, rfl⟩] at made
        cases made
      · exact ih (by simpa only [made] using full) inRest
    | some mask =>
      simp only [made] at full
      by_cases taken : active.contains mask = true
      · rcases List.mem_cons.mp member with rfl | inRest
        · exact (ActiveGamepads.contains_eq_has made).symm.trans taken
        · exact ih (by simpa only [taken, ↓reduceIte] using full) inRest
      · simp [taken] at full

/-- The slot that is found is the first of the list that is free. -/
private theorem first_free_slot_least {slots : List UInt8}
    (found : firstFreeSlot active slots = some (slot, mask))
    (sorted : slots.Pairwise (· < ·)) (member : other ∈ slots) (low : other < 16)
    (less : other < slot) : active.has other = true := by
  induction slots with
  | nil => cases member
  | cons head rest ih =>
    obtain ⟨below, sorted⟩ := List.pairwise_cons.mp sorted
    simp only [firstFreeSlot] at found
    cases made : ActiveGamepads.fromId head with
    | none =>
      rcases List.mem_cons.mp member with rfl | inRest
      · rw [ActiveGamepads.from_id_eq_some.mpr ⟨low, rfl⟩] at made
        cases made
      · exact ih (by simpa only [made] using found) sorted inRest
    | some headMask =>
      simp only [made] at found
      by_cases taken : active.contains headMask = true
      · rcases List.mem_cons.mp member with rfl | inRest
        · exact (ActiveGamepads.contains_eq_has made).symm.trans taken
        · exact ih (by simpa only [taken, ↓reduceIte] using found) sorted inRest
      · simp only [taken, Bool.false_eq_true, ↓reduceIte, Option.some.injEq,
          Prod.mk.injEq] at found
        obtain ⟨rfl, rfl⟩ := found
        rcases List.mem_cons.mp member with rfl | inRest
        · exact absurd less (UInt8.lt_irrefl _)
        · exact absurd less (UInt8.lt_asymm (below other inRest))

/-- Everything an allocation can do: hand back the slot the gamepad has, find
all sixteen taken, or take a slot whose bit was clear. -/
theorem allocate_gamepad_slot_cases (input : StreamInput) (clientId : UInt32) (localId : UInt8) :
    (∃ slot, input.gamepadSlots.lookup (clientId, localId) = some slot ∧
      allocateGamepadSlot input clientId localId = (some (slot, input.activeGamepads), input)) ∨
    (input.gamepadSlots.lookup (clientId, localId) = none ∧
      (∀ slot < 16, input.activeGamepads.has slot = true) ∧
      allocateGamepadSlot input clientId localId = (none, input)) ∨
    ∃ slot mask, input.gamepadSlots.lookup (clientId, localId) = none ∧
      ActiveGamepads.fromId slot = some mask ∧ input.activeGamepads.has slot = false ∧
      allocateGamepadSlot input clientId localId =
        (some (slot, input.activeGamepads.insert mask),
          { input with
            activeGamepads := input.activeGamepads.insert mask
            gamepadSlots := input.gamepadSlots.insert (clientId, localId) slot }) := by
  cases known : input.gamepadSlots.lookup (clientId, localId) with
  | some slot => exact .inl ⟨slot, rfl, by simp only [allocateGamepadSlot, known]⟩
  | none =>
    cases found : firstFreeSlot input.activeGamepads slotNumbers with
    | none =>
      refine .inr (.inl ⟨rfl, fun slot low => ?_, by simp only [allocateGamepadSlot, known, found]⟩)
      exact first_free_slot_none found ((mem_slotNumbers slot).mpr low) low
    | some free =>
      obtain ⟨made, clear⟩ := first_free_slot_some found
      exact .inr (.inr ⟨free.1, free.2, rfl, made, clear, by
        simp only [allocateGamepadSlot, known, found]⟩)

/-- A gamepad takes the smallest slot there is. -/
theorem allocate_gamepad_slot_least {input : StreamInput}
    (unknown : input.gamepadSlots.lookup (clientId, localId) = none)
    (ran : (allocateGamepadSlot input clientId localId).1 = some (slot, active))
    (less : other < slot) : input.activeGamepads.has other = true := by
  cases found : firstFreeSlot input.activeGamepads slotNumbers with
  | none => simp [allocateGamepadSlot, unknown, found] at ran
  | some free =>
    obtain ⟨first, mask⟩ := free
    simp only [allocateGamepadSlot, unknown, found, Option.some.injEq, Prod.mk.injEq] at ran
    obtain ⟨rfl, _⟩ := ran
    obtain ⟨made, _⟩ := first_free_slot_some found
    have low := UInt8.lt_trans less (ActiveGamepads.from_id_eq_some.mp made).1
    exact first_free_slot_least found (by decide) ((mem_slotNumbers other).mpr low) low less

/-- Everything a release can do to a state in step: nothing when the gamepad
has no slot, else forget the entry and clear its bit. -/
theorem release_gamepad_slot_cases (agreed : SlotsInStep input)
    (clientId : UInt32) (localId : UInt8) :
    (input.gamepadSlots.lookup (clientId, localId) = none ∧
      releaseGamepadSlot input clientId localId = (none, input)) ∨
    ∃ slot mask, input.gamepadSlots.lookup (clientId, localId) = some slot ∧
      ActiveGamepads.fromId slot = some mask ∧
      releaseGamepadSlot input clientId localId =
        (some (slot, input.activeGamepads.remove mask),
          { input with
            activeGamepads := input.activeGamepads.remove mask
            gamepadSlots := input.gamepadSlots.erase (clientId, localId) }) := by
  cases known : input.gamepadSlots.lookup (clientId, localId) with
  | none => exact .inl ⟨rfl, by simp only [releaseGamepadSlot, known]⟩
  | some slot =>
    have made := ActiveGamepads.from_id_eq_some.mpr ⟨agreed.bounded _ _ known, rfl⟩
    exact .inr ⟨slot, _, rfl, made, by simp only [releaseGamepadSlot, known, made]⟩

theorem lookup_insert_eq (slots : AList fun _ : ClientPad => UInt8) (key other : ClientPad)
    (slot : UInt8) : (slots.insert key slot).lookup other =
      if other = key then some slot else slots.lookup other := by
  by_cases same : other = key
  · subst other
    simp
  · simp [same, AList.lookup_insert_ne same]

theorem lookup_erase_eq (slots : AList fun _ : ClientPad => UInt8) (key other : ClientPad) :
    (slots.erase key).lookup other = if other = key then none else slots.lookup other := by
  by_cases same : other = key
  · subst other
    simp
  · simp [same, AList.lookup_erase_ne same]

theorem allocate_keeps_step (agreed : SlotsInStep input) (clientId : UInt32) (localId : UInt8) :
    SlotsInStep (allocateGamepadSlot input clientId localId).2 := by
  obtain ⟨slot, known, ran⟩ | ⟨unknown, full, ran⟩ | ⟨slot, mask, unknown, made, clear, ran⟩ :=
    allocate_gamepad_slot_cases input clientId localId
  · rwa [ran]
  · rwa [ran]
  · rw [ran]
    -- A clear bit means that no gamepad has the slot yet.
    have unowned : ∀ key, input.gamepadSlots.lookup key ≠ some slot := fun key owned =>
      absurd ((agreed.mirrored slot).mpr ⟨key, owned⟩) (by simp [clear])
    refine ⟨?_, ?_, ?_⟩
    · intro key other taken first second
      simp only [lookup_insert_eq] at first second
      split at first <;> split at second
      · simp_all
      · exact absurd second (by cases first; exact unowned other)
      · exact absurd first (by cases second; exact unowned key)
      · exact agreed.exclusive key other taken first second
    · intro key taken owned
      simp only [lookup_insert_eq] at owned
      split at owned
      · cases owned
        exact (ActiveGamepads.from_id_eq_some.mp made).1
      · exact agreed.bounded key taken owned
    · intro taken
      simp only [ActiveGamepads.has_insert made, Bool.or_eq_true, decide_eq_true_eq,
        agreed.mirrored taken, lookup_insert_eq]
      constructor
      · rintro (⟨key, owned⟩ | rfl)
        · refine ⟨key, ?_⟩
          rw [if_neg (by rintro rfl; simp [unknown] at owned)]
          exact owned
        · exact ⟨(clientId, localId), if_pos rfl⟩
      · rintro ⟨key, owned⟩
        split at owned
        · exact .inr (by cases owned; rfl)
        · exact .inl ⟨key, owned⟩

theorem release_keeps_step (agreed : SlotsInStep input) (clientId : UInt32) (localId : UInt8) :
    SlotsInStep (releaseGamepadSlot input clientId localId).2 := by
  obtain ⟨unknown, ran⟩ | ⟨slot, mask, known, made, ran⟩ :=
    release_gamepad_slot_cases agreed clientId localId
  · rwa [ran]
  · rw [ran]
    have kept : ∀ key taken, (input.gamepadSlots.erase (clientId, localId)).lookup key =
        some taken → key ≠ (clientId, localId) ∧ input.gamepadSlots.lookup key = some taken := by
      intro key taken owned
      rw [lookup_erase_eq] at owned
      split at owned
      · cases owned
      · exact ⟨‹_›, owned⟩
    refine ⟨?_, ?_, ?_⟩
    · intro key other taken first second
      exact agreed.exclusive key other taken (kept key taken first).2 (kept other taken second).2
    · intro key taken owned
      exact agreed.bounded key taken (kept key taken owned).2
    · intro taken
      simp only [ActiveGamepads.has_remove made, Bool.and_eq_true, decide_eq_true_eq,
        agreed.mirrored taken]
      constructor
      · rintro ⟨⟨key, owned⟩, other⟩
        have different : key ≠ (clientId, localId) := by
          rintro rfl
          exact other (Option.some.inj (owned.symm.trans known))
        exact ⟨key, by rw [lookup_erase_eq, if_neg different]; exact owned⟩
      · rintro ⟨key, owned⟩
        obtain ⟨different, owned⟩ := kept key taken owned
        refine ⟨⟨key, owned⟩, ?_⟩
        rintro rfl
        exact different (agreed.exclusive key _ taken owned known)

theorem release_client_keeps_step (agreed : SlotsInStep input) (clientId : UInt32)
    (order : List UInt8) : SlotsInStep (releaseClientGamepads input clientId order).2 := by
  induction order generalizing input with
  | nil => exact agreed
  | cons localId rest ih => exact ih (release_keeps_step agreed clientId localId)

/-- A new gamepad gets a slot that nobody had, and keeps it. -/
theorem allocate_new (agreed : SlotsInStep input)
    (unknown : input.gamepadSlots.lookup (clientId, localId) = none)
    (ran : (allocateGamepadSlot input clientId localId).1 = some (slot, active)) :
    (∀ key, input.gamepadSlots.lookup key ≠ some slot) ∧
      (allocateGamepadSlot input clientId localId).2.gamepadSlots.lookup (clientId, localId) = some slot ∧
      (allocateGamepadSlot input clientId localId).2.activeGamepads = active ∧ active.has slot = true := by
  obtain ⟨_, known, _⟩ | ⟨_, _, full⟩ | ⟨free, mask, _, made, clear, took⟩ :=
    allocate_gamepad_slot_cases input clientId localId
  · cases known.symm.trans unknown
  · rw [full] at ran
    cases ran
  · rw [took] at ran ⊢
    obtain ⟨rfl, rfl⟩ := Prod.mk.inj (Option.some.inj ran)
    refine ⟨fun key owned => ?_, AList.lookup_insert _, rfl, ?_⟩
    · rw [(agreed.mirrored free).mpr ⟨key, owned⟩] at clear
      cases clear
    · simp [ActiveGamepads.has_insert made]

/-- Allocating moves no other gamepad. -/
theorem allocate_frame (input : StreamInput) (clientId : UInt32) (localId : UInt8)
    (different : key ≠ (clientId, localId)) :
    (allocateGamepadSlot input clientId localId).2.gamepadSlots.lookup key =
      input.gamepadSlots.lookup key := by
  obtain ⟨_, _, ran⟩ | ⟨_, _, ran⟩ | ⟨_, _, _, _, _, ran⟩ :=
    allocate_gamepad_slot_cases input clientId localId
  · rw [ran]
  · rw [ran]
  · rw [ran, lookup_insert_eq, if_neg different]

/-- A release forgets its own gamepad and moves no other one. -/
theorem release_lookup (agreed : SlotsInStep input) (clientId : UInt32) (localId : UInt8)
    (key : ClientPad) :
    (releaseGamepadSlot input clientId localId).2.gamepadSlots.lookup key =
      if key = (clientId, localId) then none else input.gamepadSlots.lookup key := by
  obtain ⟨unknown, ran⟩ | ⟨_, _, _, _, ran⟩ := release_gamepad_slot_cases agreed clientId localId
  · rw [ran]
    split
    · subst key
      exact unknown
    · rfl
  · rw [ran]
    exact lookup_erase_eq ..

/-- A release gives back the slot that the gamepad had. -/
theorem release_returns (agreed : SlotsInStep input) (clientId : UInt32) (localId : UInt8) :
    (releaseGamepadSlot input clientId localId).1.map Prod.fst =
      input.gamepadSlots.lookup (clientId, localId) := by
  obtain ⟨unknown, ran⟩ | ⟨_, _, known, _, ran⟩ := release_gamepad_slot_cases agreed clientId localId
  · rw [ran, unknown]
    rfl
  · rw [ran, known]
    rfl

theorem release_client_lookup (agreed : SlotsInStep input) (clientId : UInt32)
    (order : List UInt8) (key : ClientPad) :
    (releaseClientGamepads input clientId order).2.gamepadSlots.lookup key =
      if key.1 = clientId ∧ key.2 ∈ order then none else input.gamepadSlots.lookup key := by
  induction order generalizing input with
  | nil => simp [releaseClientGamepads]
  | cons localId rest ih =>
    obtain ⟨keyClient, keyLocal⟩ := key
    simp only [releaseClientGamepads, ih (release_keeps_step agreed clientId localId),
      release_lookup agreed, List.mem_cons, Prod.mk.injEq]
    by_cases owner : keyClient = clientId <;> by_cases first : keyLocal = localId <;>
      simp [owner, first]

theorem release_keeps_controllers (input : StreamInput) (clientId : UInt32) (localId : UInt8) :
    (releaseGamepadSlot input clientId localId).2.controllers = input.controllers := by
  unfold releaseGamepadSlot
  split
  · rfl
  · dsimp only
    split <;> rfl

theorem release_client_keeps_controllers (input : StreamInput) (clientId : UInt32)
    (order : List UInt8) :
    (releaseClientGamepads input clientId order).2.controllers = input.controllers := by
  induction order generalizing input with
  | nil => rfl
  | cons localId rest ih =>
    exact (ih (releaseGamepadSlot input clientId localId).2).trans
      (release_keeps_controllers input clientId localId)

theorem mem_localIds (input : StreamInput) (clientId : UInt32) (localId : UInt8) :
    localId ∈ localIds input clientId ↔
      ∃ slot, input.gamepadSlots.lookup (clientId, localId) = some slot := by
  rw [← Option.isSome_iff_exists, AList.lookup_isSome, AList.mem_keys]
  simp [localIds]

end StreamInput

/-- The three operations on the slots. Releasing all of a client's gamepads
carries the order in which the hash map listed them. -/
inductive SlotOp where
  | allocate (clientId : UInt32) (localId : UInt8)
  | release (clientId : UInt32) (localId : UInt8)
  | releaseClient (clientId : UInt32) (order : List UInt8)
  deriving DecidableEq, Repr

namespace SlotOp
open StreamInput

def clientId : SlotOp → UInt32
  | allocate clientId _ | release clientId _ | releaseClient clientId _ => clientId

def step (input : StreamInput) : SlotOp → Option StreamInput
  | allocate clientId localId => some (allocateGamepadSlot input clientId localId).2
  | release clientId localId => some (releaseGamepadSlot input clientId localId).2
  | releaseClient clientId order =>
    if order.Perm (localIds input clientId) then
      some (releaseClientGamepads input clientId order).2
    else none

theorem step_keeps (agreed : SlotsInStep input) (taken : step input op = some next) :
    SlotsInStep next := by
  cases op with
  | allocate clientId localId =>
    cases taken
    exact allocate_keeps_step agreed clientId localId
  | release clientId localId =>
    cases taken
    exact release_keeps_step agreed clientId localId
  | releaseClient clientId order =>
    simp only [step, Option.ite_none_right_eq_some, Option.some.injEq] at taken
    obtain ⟨_, rfl⟩ := taken
    exact release_client_keeps_step agreed clientId order

theorem reachable_in_step (reached : Reachable step StreamInput.new input) :
    SlotsInStep input :=
  reachable_invariant _ new_in_step (fun _ _ _ => step_keeps) reached

/-- An operation of one client leaves every other client's slots alone. -/
theorem step_frame (agreed : SlotsInStep input) (taken : step input op = some next)
    (foreign : key.1 ≠ op.clientId) :
    next.gamepadSlots.lookup key = input.gamepadSlots.lookup key := by
  cases op with
  | allocate clientId localId =>
    cases taken
    exact allocate_frame input clientId localId (by rintro rfl; exact foreign rfl)
  | release clientId localId =>
    cases taken
    rw [release_lookup agreed, if_neg (by rintro rfl; exact foreign rfl)]
  | releaseClient clientId order =>
    simp only [step, Option.ite_none_right_eq_some, Option.some.injEq] at taken
    obtain ⟨_, rfl⟩ := taken
    rw [release_client_lookup agreed, if_neg fun owned => foreign owned.1]

/-- What is left of a client whose gamepads were all released. -/
theorem release_client_forgets {clientId : UInt32} (agreed : SlotsInStep input)
    (taken : step input (.releaseClient clientId order) = some next) (localId : UInt8) :
    next.gamepadSlots.lookup (clientId, localId) = none := by
  simp only [step, Option.ite_none_right_eq_some, Option.some.injEq] at taken
  obtain ⟨listed, rfl⟩ := taken
  rw [release_client_lookup agreed]
  split
  · rfl
  · next absent =>
    refine Option.eq_none_iff_forall_ne_some.mpr fun slot owned => absent ⟨rfl, ?_⟩
    exact listed.mem_iff.mpr ((mem_localIds input clientId localId).mpr ⟨slot, owned⟩)

/-- After any operations of any clients the map and the mask agree. Allocating
again returns the same slot and changes nothing, an allocation fails exactly
for a new gamepad with all sixteen slots owned and else stores a slot that was
free, a release gives it back, and no operation reaches into another client's
slots. -/
theorem gamepad_slots_stay_allocated (reached : Reachable step StreamInput.new input) :
    SlotsInStep input ∧
    (∀ clientId localId slot, input.gamepadSlots.lookup (clientId, localId) = some slot →
      allocateGamepadSlot input clientId localId =
        (some (slot, input.activeGamepads), input)) ∧
    (∀ clientId localId, (allocateGamepadSlot input clientId localId).1 = none ↔
      input.gamepadSlots.lookup (clientId, localId) = none ∧
        ∀ slot < 16, ∃ key, input.gamepadSlots.lookup key = some slot) ∧
    (∀ clientId localId slot active, input.gamepadSlots.lookup (clientId, localId) = none →
      (allocateGamepadSlot input clientId localId).1 = some (slot, active) →
      (∀ key, input.gamepadSlots.lookup key ≠ some slot) ∧
        (allocateGamepadSlot input clientId localId).2.gamepadSlots.lookup (clientId, localId) = some slot ∧
        (allocateGamepadSlot input clientId localId).2.activeGamepads = active ∧ active.has slot = true) ∧
    (∀ clientId localId, ∀ key ≠ (clientId, localId),
      (allocateGamepadSlot input clientId localId).2.gamepadSlots.lookup key = input.gamepadSlots.lookup key) ∧
    (∀ clientId localId,
      (releaseGamepadSlot input clientId localId).1.map Prod.fst = input.gamepadSlots.lookup (clientId, localId) ∧
      ∀ key, (releaseGamepadSlot input clientId localId).2.gamepadSlots.lookup key =
        if key = (clientId, localId) then none else input.gamepadSlots.lookup key) ∧
    (∀ clientId order next, step input (.releaseClient clientId order) = some next → ∀ localId,
      next.gamepadSlots.lookup (clientId, localId) = none) ∧
    ∀ op next, step input op = some next → ∀ key : ClientPad, key.1 ≠ op.clientId →
      next.gamepadSlots.lookup key = input.gamepadSlots.lookup key := by
  have agreed := reachable_in_step reached
  refine ⟨agreed, ?_, ?_, fun _ _ _ _ unknown ran => allocate_new agreed unknown ran,
    fun clientId localId _ different => allocate_frame input clientId localId different,
    fun clientId localId => ⟨release_returns agreed clientId localId, release_lookup agreed clientId localId⟩,
    fun _ _ _ taken localId => release_client_forgets agreed taken localId,
    fun op next taken key foreign => step_frame agreed taken foreign⟩
  · intro clientId localId slot known
    simp only [allocateGamepadSlot, known]
  · intro clientId localId
    simp only [← agreed.mirrored]
    obtain ⟨slot, known, ran⟩ | ⟨unknown, full, ran⟩ | ⟨slot, mask, unknown, made, clear, ran⟩ :=
      allocate_gamepad_slot_cases input clientId localId
    · simp [ran, known]
    · simpa [ran, unknown] using full
    · have low := (ActiveGamepads.from_id_eq_some.mp made).1
      simp only [ran, reduceCtorEq, false_iff, not_and]
      intro _ full
      simp [full slot low] at clear

/-- The first client's two gamepads go with it, and the next gamepad takes the
lower of their slots; the second client's gamepad keeps its own. -/
theorem gamepad_slots_of_two_clients : ∃ input,
    run step StreamInput.new [.allocate 0 0, .allocate 7 0, .allocate 0 1, .releaseClient 0 [0, 1]] = some input ∧
      SlotsInStep input ∧
      (allocateGamepadSlot input 9 5).2.gamepadSlots.lookup (9, 5) = some 0 ∧
      (allocateGamepadSlot input 9 5).2.gamepadSlots.lookup (7, 0) = some 1 := by
  have seen : (run step StreamInput.new
      [.allocate 0 0, .allocate 7 0, .allocate 0 1, .releaseClient 0 [0, 1]]).map (fun input =>
        (input.gamepadSlots.lookup (9, 5), input.gamepadSlots.lookup (7, 0),
          (allocateGamepadSlot input 9 5).1.map Prod.fst)) = some (none, some 1, some 0) := by decide
  obtain ⟨input, ran, same⟩ := Option.map_eq_some_iff.mp seen
  simp only [Prod.mk.injEq] at same
  obtain ⟨unknown, own, given⟩ := same
  obtain ⟨⟨slot, active⟩, given, rfl⟩ := Option.map_eq_some_iff.mp given
  obtain ⟨agreed, _, _, stores, keeps, _⟩ := gamepad_slots_stay_allocated ⟨_, ran⟩
  obtain ⟨_, stored, _⟩ := stores 9 5 0 active unknown given
  exact ⟨input, ran, agreed, stored, (keeps 9 5 (7, 0) (by decide)).trans own⟩

end SlotOp

end MoonlightWeb.Streamer

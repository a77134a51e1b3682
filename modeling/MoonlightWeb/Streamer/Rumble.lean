import MoonlightWeb.Lib.Framing
import MoonlightWeb.Streamer.Input

/-! The way back to the gamepads. The host names a rumbling gamepad by its slot.
The streamer sends the event on the "controllers" channel that was stored last,
whoever's that is, with the slot where the client expects its own number. -/
namespace MoonlightWeb.Streamer
open MoonlightWeb.Machine MoonlightWeb.Framing

namespace StreamInput

/-- The client whose channel a message is sent on, and the message. -/
def sendControllerRumble (input : StreamInput) (controllerNumber : UInt8)
    (lowFrequencyMotor highFrequencyMotor : UInt16) : Option (UInt32 × List UInt8) :=
  input.controllers.map fun controllers =>
    (controllers, [0, controllerNumber] ++ putU16 lowFrequencyMotor ++ putU16 highFrequencyMotor)

def sendControllerTriggerRumble (input : StreamInput) (controllerNumber : UInt8)
    (leftTriggerMotor rightTriggerMotor : UInt16) : Option (UInt32 × List UInt8) :=
  input.controllers.map fun controllers =>
    (controllers, [1, controllerNumber] ++ putU16 leftTriggerMotor ++ putU16 rightTriggerMotor)

/-- `controller_rumble` of the host's listener. -/
def controllerRumble (input : StreamInput) (controllerNumber lowFrequencyMotor
    highFrequencyMotor : UInt16) : Option (UInt32 × List UInt8) :=
  input.sendControllerRumble controllerNumber.toUInt8 lowFrequencyMotor highFrequencyMotor

/-- `controller_rumble_triggers` of the host's listener. -/
def controllerRumbleTriggers (input : StreamInput) (controllerNumber leftTriggerMotor
    rightTriggerMotor : UInt16) : Option (UInt32 × List UInt8) :=
  input.sendControllerTriggerRumble controllerNumber.toUInt8 leftTriggerMotor rightTriggerMotor

/-- Both kinds of event for a slot go to the client that has it, and name the
gamepad by that client's number. -/
def RumbleRouted (input : StreamInput) : Prop :=
  ∀ clientId localId slot, input.gamepadSlots.lookup (clientId, localId) = some slot →
    ∀ first second,
      input.controllerRumble slot.toUInt16 first second =
          some (clientId, [0, localId] ++ putU16 first ++ putU16 second) ∧
        input.controllerRumbleTriggers slot.toUInt16 first second =
          some (clientId, [1, localId] ++ putU16 first ++ putU16 second)

end StreamInput

/-- What changes the slots or the stored channel. Every operation runs under its
locks, so any interleaving of the handlers is a run of these. -/
inductive RumbleEvent where
  | dataChannel (clientId : UInt32) (label : List Char)
  | slots (op : SlotOp)
  deriving DecidableEq, Repr

namespace RumbleEvent
open StreamInput

def step (input : StreamInput) : RumbleEvent → Option StreamInput
  | dataChannel clientId label => some (onDataChannel clientId input label).2
  | slots op => SlotOp.step input op

/-- A "controllers" channel is stored only while all gamepads are its client's,
and a new gamepad takes a slot only for that client, and only with the number
that is the first free slot. -/
structure OneClientInOrder (before : StreamInput) (event : RumbleEvent) (_ : StreamInput) :
    Prop where
  channel : ∀ clientId label, event = .dataChannel clientId label →
    channelOfLabel label = some .controllers →
      ∀ key slot, before.gamepadSlots.lookup key = some slot → key.1 = clientId
  allocation : ∀ clientId localId, event = .slots (.allocate clientId localId) →
    before.gamepadSlots.lookup (clientId, localId) = none →
      (∃ slot < 16, before.activeGamepads.has slot = false) →
        before.controllers = some clientId ∧ localId < 16 ∧
          before.activeGamepads.has localId = false ∧
            ∀ slot < localId, before.activeGamepads.has slot = true

/-- An event finds its gamepad exactly if the stored channel is the client's and
the slot is the client's number. -/
theorem rumble_routed_iff (input : StreamInput) :
    input.RumbleRouted ↔ ∀ clientId localId slot,
      input.gamepadSlots.lookup (clientId, localId) = some slot →
        input.controllers = some clientId ∧ slot = localId := by
  have narrowed (slot : UInt8) : slot.toUInt16.toUInt8 = slot := UInt8.toUInt8_toUInt16 slot
  simp only [RumbleRouted, controllerRumble, controllerRumbleTriggers, sendControllerRumble,
    sendControllerTriggerRumble, narrowed]
  refine forall_congr' fun clientId => forall_congr' fun localId => forall_congr' fun slot =>
    forall_congr' fun _ => ?_
  cases input.controllers with
  | none => simp
  | some controllers =>
    simp only [Option.map_some, Option.some.injEq, Prod.mk.injEq, List.cons_append, List.cons.injEq]
    constructor
    · intro routed
      exact ⟨(routed 0 0).1.1, (routed 0 0).1.2.2.1⟩
    · rintro ⟨rfl, rfl⟩ first second
      simp

/-- A channel is stored for the gamepads of its own client only. -/
theorem data_channel_routed_iff {before after : StreamInput} (routed : before.RumbleRouted) :
    (onDataChannel clientId before label).2.RumbleRouted ↔
      OneClientInOrder before (.dataChannel clientId label) after := by
  rw [rumble_routed_iff] at routed ⊢
  by_cases stores : channelOfLabel label = some .controllers
  · have stored : (onDataChannel clientId before label).2 =
        { before with controllers := some clientId } := by
      simp only [onDataChannel, stores]
    rw [stored]
    constructor
    · intro routedAfter
      refine ⟨?_, by rintro _ _ ⟨⟩⟩
      rintro _ _ ⟨⟩ _ ⟨owner, localId⟩ slot found
      exact (Option.some.inj (routedAfter owner localId slot found).1).symm
    · intro inOrder owner localId slot found
      have own := inOrder.channel clientId label rfl stores (owner, localId) slot found
      exact ⟨congrArg some own.symm, (routed owner localId slot found).2⟩
  · have same : (onDataChannel clientId before label).2 = before := by
      unfold onDataChannel
      split
      · exact absurd ‹_› stores
      · rfl
      · rfl
    rw [same]
    refine iff_of_true routed ⟨?_, by rintro _ _ ⟨⟩⟩
    rintro _ _ ⟨⟩ isStored
    exact absurd isStored stores

/-- A gamepad is routed where its client's channel is the stored one and its
number is its slot; an allocation keeps to that exactly if it is in order. -/
theorem allocate_routed_iff {before after : StreamInput} (routed : before.RumbleRouted) :
    (before.allocateGamepadSlot clientId localId).2.RumbleRouted ↔
      OneClientInOrder before (.slots (.allocate clientId localId)) after := by
  rw [rumble_routed_iff] at routed ⊢
  obtain ⟨slot, known, ran⟩ | ⟨unknown, full, ran⟩ | ⟨slot, mask, unknown, made, clear, ran⟩ :=
    allocate_gamepad_slot_cases before clientId localId
  · rw [ran]
    refine iff_of_true routed ⟨by rintro _ _ ⟨⟩, ?_⟩
    rintro _ _ ⟨⟩ unknown
    cases known.symm.trans unknown
  · rw [ran]
    refine iff_of_true routed ⟨by rintro _ _ ⟨⟩, ?_⟩
    rintro _ _ ⟨⟩ _ ⟨free, low, isFree⟩
    cases (full free low).symm.trans isFree
  · have least (other : UInt8) (less : other < slot) :
        before.activeGamepads.has other = true :=
      allocate_gamepad_slot_least unknown (congrArg Prod.fst ran) less
    rw [ran]
    constructor
    · intro routedAfter
      obtain ⟨stored, rfl⟩ := routedAfter clientId localId slot (by simp)
      refine ⟨by rintro _ _ ⟨⟩, ?_⟩
      rintro _ _ ⟨⟩ _ _
      exact ⟨stored, (ActiveGamepads.from_id_eq_some.mp made).1, clear, least⟩
    · intro inOrder owner number found isSlot
      rw [lookup_insert_eq] at isSlot
      split at isSlot
      · cases isSlot
        rename_i isNew
        cases isNew
        obtain ⟨stored, low, free, below⟩ := inOrder.allocation clientId localId rfl unknown
          ⟨slot, (ActiveGamepads.from_id_eq_some.mp made).1, clear⟩
        refine ⟨stored, ?_⟩
        -- A smaller slot would be taken, and so would a smaller number.
        have order : slot < localId ∨ slot = localId ∨ localId < slot := by
          simp only [UInt8.lt_iff_toNat_lt, ← UInt8.toNat_inj]
          omega
        rcases order with less | same | more
        · cases (below slot less).symm.trans clear
        · exact same
        · cases (least _ more).symm.trans free
      · exact routed owner number found isSlot

/-- What takes gamepads away leaves the others where they are. -/
theorem routed_of_fewer {before after : StreamInput} (routed : before.RumbleRouted)
    (controllers : after.controllers = before.controllers)
    (fewer : ∀ pad slot, after.gamepadSlots.lookup pad = some slot →
      before.gamepadSlots.lookup pad = some slot) : after.RumbleRouted := by
  rw [rumble_routed_iff] at routed ⊢
  intro clientId localId slot found
  rw [controllers]
  exact routed clientId localId slot (fewer _ slot found)

theorem rumble_routed_step (before : StreamInput) (event : RumbleEvent) (after : StreamInput)
    (held : before.SlotsInStep ∧ before.RumbleRouted) (taken : step before event = some after) :
    after.RumbleRouted ↔ OneClientInOrder before event after := by
  obtain ⟨agreed, routed⟩ := held
  cases event with
  | dataChannel clientId label =>
    cases taken
    exact data_channel_routed_iff routed
  | slots op =>
    cases op with
    | allocate clientId localId =>
      cases taken
      exact allocate_routed_iff routed
    | release clientId localId =>
      cases taken
      refine iff_of_true (routed_of_fewer routed (release_keeps_controllers before clientId localId)
        fun pad slot found => ?_) ⟨by rintro _ _ ⟨⟩, by rintro _ _ ⟨⟩⟩
      rw [release_lookup agreed] at found
      split at found
      · cases found
      · exact found
    | releaseClient clientId order =>
      simp only [step, SlotOp.step, Option.ite_none_right_eq_some, Option.some.injEq] at taken
      obtain ⟨_, rfl⟩ := taken
      refine iff_of_true (routed_of_fewer routed
        (release_client_keeps_controllers before clientId order)
        fun pad slot found => ?_) ⟨by rintro _ _ ⟨⟩, by rintro _ _ ⟨⟩⟩
      rw [release_client_lookup agreed] at found
      split at found
      · cases found
      · exact found

theorem step_keeps_slots {before after : StreamInput} (agreed : before.SlotsInStep)
    (taken : step before event = some after) : after.SlotsInStep := by
  cases event with
  | dataChannel clientId label =>
    cases taken
    unfold onDataChannel
    split
    · exact ⟨agreed.exclusive, agreed.bounded, agreed.mirrored⟩
    · exact agreed
    · exact agreed
  | slots op => exact SlotOp.step_keeps agreed taken

/-- In every run, rumble finds its gamepad in every state exactly when only one
client at a time has gamepads, its channel is the stored one, and it numbers
them as the slots are given out. -/
theorem rumble_routed_along_iff (events : List RumbleEvent) :
    Along step (fun _ _ after => after.RumbleRouted) StreamInput.new events ↔
      Along step OneClientInOrder StreamInput.new events := by
  refine along_iff (fun input => input.SlotsInStep ∧ input.RumbleRouted) rumble_routed_step
    (fun before event after held taken inOrder => ?_) ⟨new_in_step, nofun⟩
  exact ⟨step_keeps_slots held.1 taken, (rumble_routed_step before event after held taken).mpr inOrder⟩

/-- The second client's channel is stored while the first one has a gamepad. -/
theorem rumble_goes_to_last_channel :
    ¬ ∀ events, Along step (fun _ _ after => after.RumbleRouted) StreamInput.new events := by
  intro claimed
  have routed := along_last (claimed ([.dataChannel 0 "controllers".toList,
    .slots (.allocate 0 0)] ++ [.dataChannel 1 "controllers".toList])) rfl rfl
  obtain ⟨sent, _⟩ := (rumble_routed_iff _).mp routed 0 0 0 rfl
  cases sent

end RumbleEvent

end MoonlightWeb.Streamer

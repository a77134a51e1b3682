import MoonlightWeb.Streamer.InputPeers

/-! What a detached client leaves behind. A detach lists the client's gamepads
once and then releases those, so it leaves none while the list stays complete; a
handler that takes a slot after the list was made keeps it for good. -/
namespace MoonlightWeb.Streamer
open MoonlightWeb.Machine

/-- The gamepads that a detach has listed and still has to release. -/
def Detach.left : Detach → Option (List UInt8)
  | .releasing _ localIds | .disconnecting _ _ _ localIds => some localIds
  | .broadcast _ => some []
  | .removePeer | .close _ | .count | .collect _ => none

/-- The task is a message handler of the client. -/
def PeerTask.HandlerOf (clientId : UInt32) : PeerTask → Prop
  | .allocate owner .. | .arrive owner .. | .release owner _ | .disconnect owner .. =>
    owner = clientId
  | .attach .. | .detach .. | .finished => False

namespace InputPeers

/-- No gamepad of the client is in the slot map, and every bit that is set is
there for a gamepad of another one. -/
def NoSlotLeft (input : StreamInput) (clientId : UInt32) : Prop :=
  (∀ localId, input.gamepadSlots.lookup (clientId, localId) = none) ∧
    ∀ slot, input.activeGamepads.has slot = true →
      ∃ key : ClientPad, key.1 ≠ clientId ∧ input.gamepadSlots.lookup key = some slot

/-- A client that was removed, with no handler running, has left no slot. -/
def DetachedClean (state : InputPeers) : Prop :=
  ∀ clientId, ⟨clientId, state.attachments clientId⟩ ∈ state.returned →
    (∀ task ∈ state.tasks, ¬task.HandlerOf clientId) →
      NoSlotLeft state.connection.input clientId

/-- No handler takes a new slot for a client that is being removed, once its
gamepads have been collected. -/
def AllocatesInTime (state : InputPeers) (event : PeerEvent) : Prop :=
  ∀ index order clientId localId supportedButtons capabilities, event = .run index order →
    state.tasks[index]? = some (.allocate clientId localId supportedButtons capabilities) →
    state.connection.input.lookupGamepadSlot clientId localId = none →
    (state.connection.input.allocateGamepadSlot clientId localId).1 ≠ none →
      ⟨clientId, state.attachments clientId⟩ ∉ state.collected

/-- All gamepads of a client that was not attached again are among the listed ones. -/
def Remaining (state : InputPeers) (removal : Removal) (localIds : List UInt8) : Prop :=
  removal ∈ state.collected ∧ (removal.attachment = state.attachments removal.clientId →
    ∀ localId slot, state.connection.input.gamepadSlots.lookup (removal.clientId, localId) =
      some slot → localId ∈ localIds)

structure Contained (state : InputPeers) : Prop where
  slots : state.connection.input.SlotsInStep
  begun : ∀ removal place, .detach removal place ∈ state.tasks →
    removal.attachment ≤ state.attachments removal.clientId
  past : ∀ removal ∈ state.collected, removal.attachment ≤ state.attachments removal.clientId
  remaining : ∀ removal place localIds, .detach removal place ∈ state.tasks →
    place.left = some localIds → Remaining state removal localIds
  gone : ∀ removal ∈ state.returned, Remaining state removal []

/-- What a step of one task may do to the others: release slots, take one for a
client that is not being removed, and attach a client. -/
structure Shifts (state next : InputPeers) : Prop where
  slots : next.connection.input.SlotsInStep
  attachments : ∀ clientId, state.attachments clientId ≤ next.attachments clientId
  collected : ∀ removal ∈ state.collected, removal ∈ next.collected
  fewer : ∀ removal ∈ state.collected,
    removal.attachment = state.attachments removal.clientId → ∀ localId slot,
      next.connection.input.gamepadSlots.lookup (removal.clientId, localId) = some slot →
        state.connection.input.gamepadSlots.lookup (removal.clientId, localId) = some slot

theorem Remaining.shifts {localIds : List UInt8} (remaining : Remaining state removal localIds)
    (contained : Contained state) (shifts : Shifts state next) :
    Remaining next removal localIds := by
  obtain ⟨member, listed⟩ := remaining
  refine ⟨shifts.collected removal member, fun current localId slot held => ?_⟩
  have before := contained.past removal member
  have grown := shifts.attachments removal.clientId
  have same : removal.attachment = state.attachments removal.clientId := by omega
  exact listed same localId slot (shifts.fewer removal member same localId slot held)

/-- A step that leaves the slots, or releases some. -/
theorem shifts_of_fewer (slots : next.connection.input.SlotsInStep)
    (attachments : ∀ clientId, state.attachments clientId ≤ next.attachments clientId)
    (collected : ∀ removal ∈ state.collected, removal ∈ next.collected)
    (fewer : ∀ key slot, next.connection.input.gamepadSlots.lookup key = some slot →
      state.connection.input.gamepadSlots.lookup key = some slot) : Shifts state next :=
  ⟨slots, attachments, collected, fun _ _ _ _ _ held => fewer _ _ held⟩

/-- What becomes of the task itself, and of the removals. -/
structure Moves (state next : InputPeers) (after : PeerTask) : Prop where
  shifts : Shifts state next
  past : ∀ removal ∈ next.collected, removal ∈ state.collected ∨
    removal.attachment ≤ next.attachments removal.clientId
  gone : ∀ removal ∈ next.returned, removal ∈ state.returned ∨ Remaining next removal []
  begun : ∀ removal place, after = .detach removal place →
    removal.attachment ≤ next.attachments removal.clientId
  remaining : ∀ removal place localIds, after = .detach removal place →
    place.left = some localIds → Remaining next removal localIds

theorem contained_moves (contained : Contained state) (moves : Moves state next after)
    (index : Nat) : Contained { next with tasks := state.tasks.set index after } where
  slots := moves.shifts.slots
  past := by
    intro removal member
    rcases moves.past removal member with old | new
    · exact Nat.le_trans (contained.past removal old) (moves.shifts.attachments removal.clientId)
    · exact new
  gone := by
    intro removal member
    rcases moves.gone removal member with old | new
    · have kept := (contained.gone removal old).shifts contained moves.shifts
      exact ⟨kept.1, kept.2⟩
    · exact new
  begun := by
    intro removal place member
    rcases List.mem_or_eq_of_mem_set member with old | new
    · exact Nat.le_trans (contained.begun removal place old)
        (moves.shifts.attachments removal.clientId)
    · exact moves.begun removal place new.symm
  remaining := by
    intro removal place localIds member left
    rcases List.mem_or_eq_of_mem_set member with old | new
    · have kept :=
        (contained.remaining removal place localIds old left).shifts contained moves.shifts
      exact ⟨kept.1, kept.2⟩
    · exact moves.remaining removal place localIds new.symm left

/-- A task that is no detach has only the shifts to account for. -/
private theorem moves_of_handler (shifts : Shifts state next)
    (collected : next.collected = state.collected) (returned : next.returned = state.returned)
    (handler : ∀ removal place, after ≠ .detach removal place) : Moves state next after where
  shifts := shifts
  past _ member := .inl (collected ▸ member)
  gone _ member := .inl (returned ▸ member)
  begun removal place isDetach := absurd isDetach (handler removal place)
  remaining removal place _ isDetach := absurd isDetach (handler removal place)

/-- A detach that goes on, with what it has then still to release. -/
private theorem moves_of_detach (shifts : Shifts state next)
    (collected : next.collected = state.collected) (returned : next.returned = state.returned)
    (begun : removal.attachment ≤ next.attachments removal.clientId)
    (remaining : ∀ localIds, place.left = some localIds → Remaining next removal localIds) :
    Moves state next (.detach removal place) where
  shifts := shifts
  past _ member := .inl (collected ▸ member)
  gone _ member := .inl (returned ▸ member)
  begun := by
    rintro _ _ ⟨⟩
    exact begun
  remaining := by
    rintro _ _ localIds ⟨⟩ left
    exact remaining localIds left

/-- A step that leaves the slots, the peers and the removals. -/
private theorem shifts_of_same (contained : Contained state)
    (input : next.connection.input = state.connection.input)
    (attachments : ∀ clientId, next.attachments clientId = state.attachments clientId)
    (collected : next.collected = state.collected) : Shifts state next := by
  apply shifts_of_fewer
  · rw [input]
    exact contained.slots
  · intro clientId
    exact (attachments clientId).ge
  · intro removal member
    rwa [collected]
  · intro key slot held
    rwa [input] at held

/-- Releasing a gamepad forgets no other one and adds none. -/
private theorem shifts_of_release (contained : Contained state) (clientId : UInt32)
    (localId : UInt8) : Shifts state
      (state.withInput (state.connection.input.releaseGamepadSlot clientId localId).2) := by
  apply shifts_of_fewer
  · exact StreamInput.release_keeps_step contained.slots clientId localId
  · intro owner
    exact Nat.le_refl _
  · intro removal member
    exact member
  · intro key slot held
    change (state.connection.input.releaseGamepadSlot clientId localId).2.gamepadSlots.lookup key =
      some slot at held
    rw [StreamInput.release_lookup contained.slots] at held
    split at held
    · cases held
    · exact held

private theorem runAttach_moves (contained : Contained state) (clientId : UInt32) (place : Attach) :
    Moves state (state.runAttach clientId place).1 (state.runAttach clientId place).2 := by
  cases place with
  | insert =>
    refine moves_of_handler ?_ rfl rfl (by simp [runAttach])
    apply shifts_of_fewer
    · exact contained.slots
    · intro owner
      simp [runAttach, attachments, List.countP_append]
    · intro removal member
      exact member
    · intro key slot held
      exact held
  | config count | broadcast count =>
    exact moves_of_handler (shifts_of_same contained rfl (fun _ => rfl) rfl) rfl rfl
      (by simp [runAttach])

private theorem countP_close (peers : List InputPeer) (index : Nat) (clientId : UInt32) :
    (peers.modify index fun peer => { peer with closed := true }).countP
        (fun peer => peer.clientId = clientId) =
      peers.countP fun peer => peer.clientId = clientId := by
  induction peers generalizing index with
  | nil => simp
  | cons peer rest ih => cases index <;> simp [List.countP_cons, ih]

/-- A detach lists all gamepads that the client has. -/
private theorem collect_moves (contained : Contained state)
    (member : .detach removal (.collect count) ∈ state.tasks)
    (lists : order.Perm (state.connection.input.localIds removal.clientId)) :
    Moves state { state with collected := removal :: state.collected }
      (.detach removal (.releasing count order)) where
  shifts := shifts_of_fewer contained.slots (fun _ => Nat.le_refl _)
    (fun _ old => List.mem_cons_of_mem _ old) fun _ _ held => held
  past := by
    intro other collected
    rcases List.mem_cons.mp collected with rfl | old
    · exact .inr (contained.begun other _ member)
    · exact .inl old
  gone _ returned := .inl returned
  begun := by
    rintro _ _ ⟨⟩
    exact contained.begun removal _ member
  remaining := by
    rintro _ _ localIds ⟨⟩ left
    cases left
    refine ⟨List.mem_cons_self, fun _ localId slot held => ?_⟩
    exact lists.mem_iff.mpr ((StreamInput.mem_localIds _ _ _).mpr ⟨slot, held⟩)

/-- The released gamepad is the one that leaves the list. -/
private theorem release_remaining (contained : Contained state)
    (listed : Remaining state removal (localId :: rest)) :
    Remaining (state.withInput
      (state.connection.input.releaseGamepadSlot removal.clientId localId).2) removal rest := by
  refine ⟨listed.1, fun current other slot held => ?_⟩
  have gone := StreamInput.release_lookup contained.slots removal.clientId localId
    (removal.clientId, other)
  rw [withInput] at held
  rw [gone] at held
  split at held
  · cases held
  · rename_i different
    rcases List.mem_cons.mp (listed.2 current other slot held) with same | later
    · exact absurd (by rw [same]) different
    · exact later

/-- A detach goes on: it lists all gamepads that the client has, and takes each
from the list when it releases it. -/
private theorem runDetach_moves (contained : Contained state)
    (member : .detach removal place ∈ state.tasks)
    (ran : state.runDetach order removal place = some (next, after)) : Moves state next after := by
  have begun := contained.begun removal place member
  have still := contained.remaining removal place
  have calm : Shifts state state := shifts_of_same contained rfl (fun _ => rfl) rfl
  cases place with
  | removePeer =>
    simp only [runDetach] at ran
    split at ran
    · cases ran
      refine moves_of_detach ?_ rfl rfl begun (by simp [Detach.left])
      exact shifts_of_same contained rfl (fun _ => rfl) rfl
    · cases ran
      exact moves_of_detach calm rfl rfl begun (by simp [Detach.left])
  | close peer =>
    cases ran
    have counts (clientId : UInt32) := countP_close state.peers peer clientId
    refine moves_of_detach ?_ rfl rfl ?_ (by simp [Detach.left])
    · exact shifts_of_same contained rfl counts rfl
    · exact begun.trans (counts removal.clientId).ge
  | count =>
    cases ran
    exact moves_of_detach calm rfl rfl begun (by simp [Detach.left])
  | collect count =>
    simp only [runDetach, Option.ite_none_right_eq_some, Option.some.injEq] at ran
    obtain ⟨lists, ran⟩ := ran
    cases ran
    exact collect_moves contained member lists
  | releasing count localIds =>
    have listed := still localIds member rfl
    cases localIds with
    | nil =>
      cases ran
      refine moves_of_detach calm rfl rfl begun fun localIds left => ?_
      cases left
      exact listed
    | cons localId rest =>
      have shifts := shifts_of_release contained removal.clientId localId
      have remaining := release_remaining contained listed
      simp only [runDetach] at ran
      rcases released : (state.connection.input.releaseGamepadSlot removal.clientId localId).1
        with _ | ⟨slot, active⟩
      · rw [released] at ran
        cases ran
        refine moves_of_detach shifts rfl rfl begun fun localIds left => ?_
        cases left
        exact remaining
      · rw [released] at ran
        cases ran
        refine moves_of_detach shifts rfl rfl begun fun localIds left => ?_
        cases left
        exact remaining
  | disconnecting slot active count rest =>
    cases ran
    have same : ∀ clientId, (state.call (disconnected slot active)).attachments clientId =
        state.attachments clientId := by simp [attachments]
    have shifts : Shifts state (state.call (disconnected slot active)) :=
      shifts_of_same contained (by simp) same (by simp)
    refine moves_of_detach shifts (by simp) (by simp) ?_ fun localIds left => ?_
    · exact begun.trans (same removal.clientId).ge
    · cases left
      exact (still rest member rfl).shifts contained shifts
  | broadcast count =>
    cases ran
    have listed := still [] member rfl
    refine ⟨?_, ?_, ?_, by simp, by simp⟩
    · exact shifts_of_same contained rfl (fun _ => rfl) rfl
    · intro other collected
      exact .inl collected
    · intro other returned
      rcases List.mem_cons.mp returned with rfl | old
      · exact .inr listed
      · exact .inl old

/-- An add handler moves no gamepad of another client, and takes no slot for one
whose gamepads have been collected. -/
private theorem shifts_of_allocate (contained : Contained state) (clientId : UInt32)
    (localId : UInt8)
    (inTime : state.connection.input.lookupGamepadSlot clientId localId = none →
      (state.connection.input.allocateGamepadSlot clientId localId).1 ≠ none →
        ⟨clientId, state.attachments clientId⟩ ∉ state.collected) :
    Shifts state
      (state.withInput (state.connection.input.allocateGamepadSlot clientId localId).2) := by
  refine ⟨?_, fun _ => Nat.le_refl _, fun _ member => member, ?_⟩
  · exact StreamInput.allocate_keeps_step contained.slots clientId localId
  · rintro ⟨owner, attachment⟩ member current other slot held
    dsimp only at current held ⊢
    by_cases same : (owner, other) = (clientId, localId)
    · cases same
      change (state.connection.input.allocateGamepadSlot clientId localId).2.gamepadSlots.lookup
        (clientId, localId) = some slot at held
      obtain ⟨_, _, ran⟩ | ⟨_, _, ran⟩ | ⟨_, _, unknown, _, _, ran⟩ :=
        state.connection.input.allocate_gamepad_slot_cases clientId localId
      · rwa [ran] at held
      · rwa [ran] at held
      · rw [current] at member
        exact absurd member (inTime unknown (by simp [ran]))
    · change (state.connection.input.allocateGamepadSlot clientId localId).2.gamepadSlots.lookup
        (owner, other) = some slot at held
      rwa [StreamInput.allocate_frame _ _ _ same] at held

theorem runTask_moves (contained : Contained state) (member : before ∈ state.tasks)
    (inTime : ∀ clientId localId supportedButtons capabilities,
      before = .allocate clientId localId supportedButtons capabilities →
      state.connection.input.lookupGamepadSlot clientId localId = none →
      (state.connection.input.allocateGamepadSlot clientId localId).1 ≠ none →
        ⟨clientId, state.attachments clientId⟩ ∉ state.collected)
    (ran : state.runTask order before = some (next, after)) : Moves state next after := by
  cases before with
  | attach clientId place =>
    have moves := runAttach_moves contained clientId place
    rw [Option.some.inj ran] at moves
    exact moves
  | allocate clientId localId supportedButtons capabilities =>
    have shifts := shifts_of_allocate contained clientId localId (inTime _ _ _ _ rfl)
    simp only [runTask] at ran
    rcases allocated : (state.connection.input.allocateGamepadSlot clientId localId).1
      with _ | ⟨slot, active⟩
    all_goals
      rw [allocated] at ran
      cases ran
      exact moves_of_handler shifts rfl rfl (by simp)
  | release clientId localId =>
    have shifts := shifts_of_release contained clientId localId
    simp only [runTask] at ran
    rcases released : (state.connection.input.releaseGamepadSlot clientId localId).1
      with _ | ⟨slot, active⟩
    all_goals
      rw [released] at ran
      cases ran
      exact moves_of_handler shifts rfl rfl (by simp)
  | arrive clientId slot active supportedButtons capabilities | disconnect clientId slot active =>
    cases ran
    refine moves_of_handler ?_ (by simp) (by simp) (by simp)
    exact shifts_of_same contained (by simp) (by simp [attachments]) (by simp)
  | detach removal place => exact runDetach_moves contained member ran
  | finished => cases ran

/-- A new task starts; a detach starts with nothing listed. -/
private theorem contained_begun (contained : Contained state)
    (begun : ∀ removal place, task = .detach removal place → place.left = none ∧
      removal.attachment ≤ state.attachments removal.clientId) :
    Contained { state with tasks := state.tasks ++ [task] } where
  slots := contained.slots
  past := contained.past
  gone := by
    intro removal member
    have kept := contained.gone removal member
    exact ⟨kept.1, kept.2⟩
  begun := by
    intro removal place member
    rcases List.mem_append.mp member with old | new
    · exact contained.begun removal place old
    · exact (begun removal place (List.mem_singleton.mp new).symm).2
  remaining := by
    intro removal place localIds member left
    rcases List.mem_append.mp member with old | new
    · have kept := contained.remaining removal place localIds old left
      exact ⟨kept.1, kept.2⟩
    · rw [(begun removal place (List.mem_singleton.mp new).symm).1] at left
      cases left

theorem step_keeps_contained (state : InputPeers) (event : PeerEvent) (next : InputPeers)
    (contained : Contained state) (taken : step state event = some next)
    (inTime : AllocatesInTime state event) : Contained next := by
  cases event with
  | stream up =>
    cases taken
    refine ⟨contained.slots, contained.begun, contained.past, ?_, ?_⟩
    · intro removal place localIds member left
      have kept := contained.remaining removal place localIds member left
      exact ⟨kept.1, kept.2⟩
    · intro removal member
      have kept := contained.gone removal member
      exact ⟨kept.1, kept.2⟩
  | attach clientId =>
    cases taken
    exact contained_begun contained (by simp)
  | message peer message =>
    obtain ⟨task, received, rfl⟩ := Option.map_eq_some_iff.mp taken
    refine contained_begun contained ?_
    rintro removal place rfl
    obtain ⟨peer, _, received⟩ := Option.bind_eq_some_iff.mp received
    split at received
    · cases received
    · split at received
      · rename_i message _ _
        cases message <;> cases received
      · cases received
  | detach clientId =>
    cases taken
    refine contained_begun contained ?_
    rintro _ _ ⟨⟩
    exact ⟨rfl, Nat.le_refl _⟩
  | run index order =>
    obtain ⟨before, atIndex, taken⟩ := Option.bind_eq_some_iff.mp taken
    obtain ⟨⟨moved, after⟩, ran, rfl⟩ := Option.map_eq_some_iff.mp taken
    refine contained_moves contained (runTask_moves contained (List.mem_of_getElem? atIndex) ?_ ran)
      index
    rintro clientId localId supportedButtons capabilities rfl
    exact inTime index order clientId localId supportedButtons capabilities rfl atIndex

theorem new_contained : Contained new := by
  refine ⟨StreamInput.new_in_step, ?_, ?_, ?_, ?_⟩ <;> simp [new]

/-- Where a removal has returned, the map holds none of the client's gamepads,
and the mask then none either. -/
theorem detached_clean (contained : Contained state) : DetachedClean state := by
  intro clientId returned _
  have absent : ∀ localId,
      state.connection.input.gamepadSlots.lookup (clientId, localId) = none := by
    intro localId
    cases held : state.connection.input.gamepadSlots.lookup (clientId, localId) with
    | none => rfl
    | some slot =>
      have listed := (contained.gone _ returned).2 rfl localId slot held
      cases listed
  refine ⟨absent, fun slot set => ?_⟩
  obtain ⟨key, held⟩ := (contained.slots.mirrored slot).mp set
  refine ⟨key, ?_, held⟩
  rintro rfl
  rw [absent key.2] at held
  cases held

/-- In every run in which no handler takes a slot for a client after its gamepads
were collected, a client that was removed has left no slot. -/
theorem detached_clients_leave_no_slot (events : List PeerEvent)
    (inTime : Along step (fun state event _ => AllocatesInTime state event) new events) :
    Along step (fun _ _ next => DetachedClean next) new events := by
  apply along_imp Contained _ step_keeps_contained new_contained inTime
  intro state event next contained taken obeyed
  exact detached_clean (step_keeps_contained state event next contained taken obeyed)

/-- Client 1 is attached and adds its gamepad 0. -/
private def joins : List PeerEvent := [.attach 1, .run 0 [], .message 0 (List.replicate 8 0)]

/-- The detach of client 1 up to its list. -/
private def detachesUpToCollect : List PeerEvent := [.detach 1, .run 2 [], .run 2 [], .run 2 []]

private theorem in_time_of_uncollected (none : state.collected = []) :
    AllocatesInTime state event := by
  intro _ _ _ _ _ _ _ _ _ _ member
  rw [none] at member
  cases member

/-- The gamepad that was added before the detach is released by it. -/
theorem detached_client_released :
    Along step (fun _ _ next => DetachedClean next) new
      (joins ++ [.run 1 [], .run 1 []] ++ detachesUpToCollect ++
        [.run 2 [0], .run 2 [], .run 2 [], .run 2 [], .run 2 []]) := by
  apply detached_clients_leave_no_slot
  iterate 10 refine along_cons rfl (in_time_of_uncollected rfl) ?_
  iterate 4
    refine along_cons rfl ?_ ?_
    · rintro _ _ _ _ _ _ ⟨⟩ atIndex
      cases atIndex
  trivial

/-- The handler of the add message was started before the detach and takes its
slot after the list was made: the client is gone and the slot stays taken. -/
theorem late_add_leaks_slot :
    ∃ final, run step new (joins ++ detachesUpToCollect ++
      [.run 2 [], .run 1 [], .run 1 [], .run 2 [], .run 2 []]) = some final ∧
        ¬DetachedClean final := by
  have ended : (run step new (joins ++ detachesUpToCollect ++
      [.run 2 [], .run 1 [], .run 1 [], .run 2 [], .run 2 []])).map (fun final =>
        (final.tasks, final.returned, final.attachments 1,
          final.connection.input.lookupGamepadSlot 1 0)) =
      some ([.attach 1 (.config 1), .finished, .finished], [⟨1, 1⟩], 1, some 0) := by
    decide
  obtain ⟨final, ran, fields⟩ := Option.map_eq_some_iff.mp ended
  simp only [Prod.mk.injEq] at fields
  obtain ⟨tasks, returned, attached, held⟩ := fields
  refine ⟨final, ran, fun clean => ?_⟩
  have left := clean 1 (by simp [returned, attached]) (by simp [tasks, PeerTask.HandlerOf])
  have absent := left.1 0
  rw [StreamInput.lookupGamepadSlot, absent] at held
  cases held

end InputPeers

end MoonlightWeb.Streamer

import MoonlightWeb.Client.Registration
import MoonlightWeb.Client.RegistryWalk

/-! The controller states that reach a channel. The detector takes a state as
sent once it has recorded it, but a channel drops what comes before it is open,
and a new peer's channel starts with nothing. -/
namespace MoonlightWeb.Client
open MoonlightWeb.Machine

namespace StreamInput

/-- The last state sent on a channel, which starts neutral. -/
def lastSent (sent : List GamepadState) : GamepadState := sent.head?.getD .neutral

/-- The states of one controller's updates, the first one first. -/
def statesFor (id : Nat) (updates : List Update) : List GamepadState :=
  (updates.filter fun update => update.internalId = id).map Update.state

theorem statesFor_cons (id : Nat) (update : Update) (rest : List Update) :
    statesFor id (update :: rest) =
      if update.internalId = id then update.state :: statesFor id rest else statesFor id rest := by
  unfold statesFor
  by_cases same : update.internalId = id <;> simp [same]

theorem statesFor_append (id : Nat) (first second : List Update) :
    statesFor id (first ++ second) = statesFor id first ++ statesFor id second := by
  simp [statesFor]

theorem statesFor_eq_nil_iff {id : Nat} :
    statesFor id updates = [] ↔ ∀ update ∈ updates, update.internalId ≠ id := by
  simp [statesFor]

theorem statesFor_perm (same : first.Perm second) (id : Nat) :
    (statesFor id first).Perm (statesFor id second) := (same.filter _).map _

/-- The updates that are sent: those that mirror none before them. -/
def delivered (sentBySignature : Sent) : List Update → List Update
  | [] => []
  | update :: rest =>
    if suppressed sentBySignature update then delivered sentBySignature rest
    else if update.state.isNeutralGamepadState then update :: delivered sentBySignature rest
    else update :: delivered (sentBySignature.set update.state.buildGamepadStateSignature
      (update.gamepadId, update.timestamp)) rest

/-- The updates of a poll that are suppressed as mirrored virtual duplicates. -/
def suppressedUpdates (input : StreamInput) (browser : Browser) : List Update :=
  match input.gamepads.entries with
  | [] => []
  | [_] => []
  | _ => mirrored .empty (sortUpdates (input.collectUpdates browser).2)

def sendAll (input : StreamInput) (updates : List Update) : StreamInput :=
  updates.foldl (fun input update => input.sendController update.internalId update.state) input

theorem sendUpdates_eq (input : StreamInput) (sentBySignature : Sent) (updates : List Update) :
    input.sendUpdates sentBySignature updates =
      input.sendAll (delivered sentBySignature updates) := by
  induction updates generalizing input sentBySignature with
  | nil => rfl
  | cons update rest ih =>
    unfold sendUpdates delivered
    split
    · exact ih input sentBySignature
    · dsimp only
      split <;> exact ih _ _

/-- Every update is sent or suppressed. -/
theorem delivered_append_mirrored_perm (sentBySignature : Sent) (updates : List Update) :
    (delivered sentBySignature updates ++ mirrored sentBySignature updates).Perm updates := by
  induction updates generalizing sentBySignature with
  | nil => rfl
  | cons update rest ih =>
    unfold delivered mirrored
    split
    · exact List.perm_middle.trans ((ih sentBySignature).cons update)
    · split <;> exact (ih _).cons update

theorem trySend_eq_opened {channel : RTCDataChannel μ} :
    channel.trySend message = ⟨.opened, sent⟩ ↔
      ∃ earlier, channel = ⟨.opened, earlier⟩ ∧ sent = message :: earlier := by
  obtain ⟨readyState, earlier⟩ := channel
  cases readyState <;> simp [RTCDataChannel.trySend, eq_comm]

/-- A state reaches the channel if that is open; one that has to be made first
drops it. -/
theorem sendController_opened {input : StreamInput} {id probe : Nat} {state : GamepadState} :
    (input.sendController id state).controllerInputs.get probe = some ⟨.opened, sent⟩ ↔
      ∃ earlier, input.controllerInputs.get probe = some ⟨.opened, earlier⟩ ∧
        sent = if id = probe then state :: earlier else earlier := by
  unfold sendController tryOpenControllerChannel
  cases held : input.controllerInputs.get id with
  | some channel =>
    simp only [held, OrderedMap.get_set]
    by_cases same : id = probe
    · subst same
      simp [held, trySend_eq_opened]
    · simp [same, Ne.symm same]
  | none =>
    by_cases peer : input.peer = true
    · by_cases same : id = probe
      · subst same
        simp [peer, OrderedMap.get_set, held, RTCDataChannel.create, RTCDataChannel.trySend]
      · simp [peer, OrderedMap.get_set, same, Ne.symm same]
    · by_cases same : id = probe
      · subst same
        simp [peer, held]
      · simp [peer, held, same]

theorem sendAll_opened {input : StreamInput} {id : Nat} :
    (input.sendAll updates).controllerInputs.get id = some ⟨.opened, sent⟩ ↔
      ∃ earlier, input.controllerInputs.get id = some ⟨.opened, earlier⟩ ∧
        sent = (statesFor id updates).reverse ++ earlier := by
  induction updates generalizing input with
  | nil => simp [sendAll, statesFor]
  | cons update rest ih =>
    have onward : input.sendAll (update :: rest) =
      (input.sendController update.internalId update.state).sendAll rest := rfl
    rw [onward, ih, statesFor_cons]
    simp only [sendController_opened]
    by_cases same : update.internalId = id
    · simp only [same, if_true, List.reverse_cons, List.append_assoc]
      constructor
      · rintro ⟨middle, ⟨earlier, held, rfl⟩, isSent⟩
        exact ⟨earlier, held, isSent⟩
      · rintro ⟨earlier, held, isSent⟩
        exact ⟨_, ⟨earlier, held, rfl⟩, isSent⟩
    · simp [same]

theorem detect_extract (input : StreamInput) (entry : RegisteredGamepad) (gamepad : Gamepad) :
    (input.detect entry gamepad).1.extract = input.extract := by
  unfold detect
  dsimp only
  split <;> rfl

theorem detect_controllerInputs (input : StreamInput) (entry : RegisteredGamepad)
    (gamepad : Gamepad) :
    (input.detect entry gamepad).1.controllerInputs = input.controllerInputs := by
  unfold detect
  dsimp only
  split <;> rfl

/-- The detector leaves the records of the other controllers alone. -/
theorem detect_isRecorded_other {input : StreamInput} {entry : RegisteredGamepad} {id : Nat}
    (other : entry.internalId ≠ id) (gamepad : Gamepad) (state : GamepadState) :
    (input.detect entry gamepad).1.isRecorded id state = input.isRecorded id state := by
  unfold detect
  dsimp only
  split
  · rfl
  · simp [isRecorded, OrderedMap.get_set, Ne.symm other]

/-- Once read, a state is the recorded one. -/
theorem detect_isRecorded (input : StreamInput) (entry : RegisteredGamepad) (gamepad : Gamepad) :
    (input.detect entry gamepad).1.isRecorded entry.internalId (input.extract gamepad) = true := by
  unfold detect
  dsimp only
  split
  · assumption
  · simp [isRecorded, OrderedMap.get_set, GamepadState.areGamepadStatesEqual_refl]

theorem detect_states (input : StreamInput) (entry : RegisteredGamepad) (gamepad : Gamepad)
    (id : Nat) :
    statesFor id (input.detect entry gamepad).2 =
      if entry.internalId = id ∧ input.isRecorded id (input.extract gamepad) = false then
        [input.extract gamepad] else [] := by
  unfold detect
  dsimp only
  by_cases same : entry.internalId = id
  · subst same
    split <;> rename_i recorded <;> simp [recorded, statesFor]
  · split <;> simp [same, statesFor]

theorem detectAll_controllerInputs (input : StreamInput)
    (pads : List (RegisteredGamepad × Gamepad)) :
    (input.detectAll pads).1.controllerInputs = input.controllerInputs := by
  induction pads generalizing input with
  | nil => rfl
  | cons pad rest ih => exact (ih _).trans (detect_controllerInputs input pad.1 pad.2)

/-- A controller has one update when its state differs from the recorded one,
and none otherwise, however often its pad is read. -/
theorem detectAll_states (input : StreamInput) (id : Nat) (state : GamepadState)
    (same : ∀ entry gamepad, (entry, gamepad) ∈ pads → entry.internalId = id →
      input.extract gamepad = state) :
    statesFor id (input.detectAll pads).2 =
      if input.isRecorded id state = false ∧ id ∈ pads.map (fun pad => pad.1.internalId) then
        [state] else [] := by
  induction pads generalizing input with
  | nil => simp [detectAll, statesFor]
  | cons pad rest ih =>
    obtain ⟨entry, gamepad⟩ := pad
    have later := ih (input.detect entry gamepad).1 fun entry gamepad member isId => by
      rw [detect_extract]
      exact same entry gamepad (.tail _ member) isId
    simp only [detectAll, statesFor_append, detect_states, later]
    by_cases isId : entry.internalId = id
    · have isState := same entry gamepad (.head _) isId
      have recorded := detect_isRecorded input entry gamepad
      rw [isId, isState] at recorded
      simp [isId, isState, recorded]
    · simp only [isId, false_and, if_false, List.nil_append]
      refine if_congr ?_ rfl rfl
      rw [detect_isRecorded_other isId]
      simp [Ne.symm isId]

/-- One controller has one pad, whatever indices it is read at. -/
theorem polled_consistent {input : StreamInput} (held : input.Distinct)
    (first : (entry, gamepad) ∈ input.polled browser)
    (second : (otherEntry, otherGamepad) ∈ input.polled browser)
    (same : entry.internalId = otherEntry.internalId) : gamepad = otherGamepad := by
  obtain ⟨index, member, isOf⟩ := polled_reads first
  obtain ⟨other, otherMember, otherOf⟩ := polled_reads second
  obtain rfl := held index entry other otherEntry member otherMember same
  cases (input.gamepads.mem_entries_iff.mp member).symm.trans
    (input.gamepads.mem_entries_iff.mp otherMember)
  exact Option.some.inj (isOf.symm.trans otherOf)

theorem sendAll_gamepads (input : StreamInput) (updates : List Update) :
    (input.sendAll updates).gamepads = input.gamepads := by
  induction updates generalizing input with
  | nil => rfl
  | cons update rest ih =>
    refine (ih _).trans ?_
    unfold sendController tryOpenControllerChannel
    dsimp only
    split <;> split <;> try split
    all_goals rfl

/-- A poll detects over the pads it reads, and sends the updates that are not
suppressed. It reads every pad that it leaves registered where the browser has
it. -/
theorem onGamepadUpdate_eq (input : StreamInput) (browser : Browser) :
    ∃ registry sends, input.onGamepadUpdate browser =
        { (input.detectAll (input.polled browser)).1 with gamepads := registry }.sendAll sends ∧
      (sends ++ input.suppressedUpdates browser).Perm
        (input.detectAll (input.polled browser)).2 ∧
      ∀ index entry gamepad, (index, entry) ∈ registry.entries →
        padAt browser index entry = some gamepad → (entry, gamepad) ∈ input.polled browser := by
  unfold onGamepadUpdate polled suppressedUpdates
  cases isRegistry : input.gamepads.entries with
  | nil => exact ⟨input.gamepads, [], rfl, .refl _, by simp [isRegistry]⟩
  | cons first rest =>
    obtain ⟨index, entry⟩ := first
    cases rest with
    | nil =>
      dsimp only
      refine ⟨input.gamepads, (input.detectAll ((padAt browser index entry).map fun gamepad =>
        (entry, gamepad)).toList).2, ?_, by simp, fun other otherEntry gamepad member here => ?_⟩
      · cases padAt browser index entry with
        | none => rfl
        | some gamepad =>
          have kept : (input.detect entry gamepad).1.gamepads = input.gamepads := by
            unfold detect
            dsimp only
            split <;> rfl
          simp [detectAll, sendAll, ← kept]
      · rw [isRegistry] at member
        cases List.mem_singleton.mp member
        simp [here]
    | cons second rest =>
      dsimp only
      rw [collectUpdates, walk_eq]
      dsimp only
      rw [detectAll_registry]
      refine ⟨_, _, sendUpdates_eq _ _ _, ?_, fun _ _ _ => relocateAll_registered⟩
      exact (delivered_append_mirrored_perm _ _).trans (List.mergeSort_perm _ _)

/-- The fuel of the walk never runs out before a pad is read. -/
theorem registered_polled {input : StreamInput}
    (member : (index, entry) ∈ (input.onGamepadUpdate browser).gamepads.entries)
    (here : padAt browser index entry = some gamepad) :
    (entry, gamepad) ∈ input.polled browser := by
  obtain ⟨registry, sends, isPoll, _, readsAll⟩ := onGamepadUpdate_eq input browser
  rw [isPoll, sendAll_gamepads] at member
  exact readsAll index entry gamepad member here

/-- What a poll puts on an open channel: the state of its controller, unless that
is the recorded one. -/
theorem onGamepadUpdate_sent {input : StreamInput} (held : input.Distinct)
    (read : (entry, gamepad) ∈ input.polled browser)
    (shown : ∀ update ∈ input.suppressedUpdates browser, update.internalId ≠ entry.internalId) :
    (input.onGamepadUpdate browser).controllerInputs.get entry.internalId =
        some ⟨.opened, sent⟩ ↔
      ∃ earlier, input.controllerInputs.get entry.internalId = some ⟨.opened, earlier⟩ ∧
        sent = if input.isRecorded entry.internalId (input.extract gamepad) = true then earlier
          else input.extract gamepad :: earlier := by
  obtain ⟨registry, sends, isPoll, accounted, _⟩ := onGamepadUpdate_eq input browser
  have states := detectAll_states input entry.internalId (input.extract gamepad)
    fun other otherPad member same => by
      rw [polled_consistent held member read same]
  have isRead : entry.internalId ∈ (input.polled browser).map (fun pad => pad.1.internalId) :=
    List.mem_map.mpr ⟨_, read, rfl⟩
  have all := statesFor_perm accounted entry.internalId
  rw [statesFor_append, statesFor_eq_nil_iff.mpr shown, List.append_nil, states] at all
  rw [isPoll, sendAll_opened]
  simp only [detectAll_controllerInputs]
  refine exists_congr fun earlier => and_congr_right fun _ => ?_
  cases recorded : input.isRecorded entry.internalId (input.extract gamepad) with
  | true =>
    rw [recorded, if_neg (by simp), List.perm_nil] at all
    simp [all]
  | false =>
    rw [recorded, if_pos ⟨rfl, isRead⟩, List.perm_singleton] at all
    simp [all]

/-- A state that is recorded has no update to suppress. -/
theorem recorded_shown {input : StreamInput} (held : input.Distinct)
    (read : (entry, gamepad) ∈ input.polled browser)
    (recorded : input.isRecorded entry.internalId (input.extract gamepad) = true) :
    ∀ update ∈ input.suppressedUpdates browser, update.internalId ≠ entry.internalId := by
  obtain ⟨registry, sends, _, accounted, _⟩ := onGamepadUpdate_eq input browser
  have states := detectAll_states input entry.internalId (input.extract gamepad)
    fun other otherPad member same => by
      rw [polled_consistent held member read same]
  rw [if_neg (by simp [recorded]), statesFor_eq_nil_iff] at states
  exact fun update member => states update
    (accounted.mem_iff.mp (List.mem_append_right _ member))

end StreamInput

open StreamInput

/-- After a poll, the last state on the open channel of each controller it has
read is the state it read, unless its update was suppressed. -/
def Delivered (page : Page) (event : PageEvent) (after : Page) : Prop :=
  event = .poll → ∀ entry gamepad, (entry, gamepad) ∈ page.input.polled page.browser →
    ∀ sent, after.input.controllerInputs.get entry.internalId = some ⟨.opened, sent⟩ →
      (∀ update ∈ page.input.suppressedUpdates page.browser,
        update.internalId ≠ entry.internalId) →
      (lastSent sent).areGamepadStatesEqual (page.input.extract gamepad) = true

/-- A poll that finds a pad as it is recorded, with its channel open, has sent there
last what is no different. -/
def SentAsRecorded (page : Page) (event : PageEvent) (_ : Page) : Prop :=
  event = .poll → ∀ entry gamepad, (entry, gamepad) ∈ page.input.polled page.browser →
    ∀ sent, page.input.controllerInputs.get entry.internalId = some ⟨.opened, sent⟩ →
      page.input.isRecorded entry.internalId (page.input.extract gamepad) = true →
        (lastSent sent).areGamepadStatesEqual (page.input.extract gamepad) = true

/-- What is recorded of such a pad is what was sent there last. -/
def RecordSent (page : Page) (event : PageEvent) (_ : Page) : Prop :=
  event = .poll → ∀ entry gamepad, (entry, gamepad) ∈ page.input.polled page.browser →
    ∀ sent, page.input.controllerInputs.get entry.internalId = some ⟨.opened, sent⟩ →
      page.input.isRecorded entry.internalId (page.input.extract gamepad) = true →
        page.input.previousStates.get entry.internalId = some (lastSent sent)

theorem RecordSent.asRecorded {page after : Page} (recordSent : RecordSent page event after) :
    SentAsRecorded page event after := by
  intro isPoll entry gamepad read sent isOpen recorded
  have isLast := recordSent isPoll entry gamepad read sent isOpen recorded
  rw [isRecorded, isLast] at recorded
  exact recorded

theorem step_keeps_distinct {page next : Page} (held : page.input.Distinct)
    (taken : page.step event = some next) : next.input.Distinct := by
  cases event with
  | setPeer | gamepadsChange | setConfig | setTeslaSwapOverride =>
    cases taken
    exact held
  | controllersOpen | controllerInputOpen =>
    simp only [Page.step] at taken
    split at taken
    · cases taken
      exact held
    · cases taken
  | controllersClose | controllerInputClose =>
    obtain ⟨channel, _, rfl⟩ := Option.map_eq_some_iff.mp taken
    exact held
  | streamStart now =>
    cases taken
    exact (onStreamStart_announces page.input page.browser now).2.2.1 held
  | gamepadConnected index gamepad now =>
    cases taken
    exact (onGamepadConnect_keeps page.input index gamepad now).distinct held
  | gamepadDisconnected index =>
    cases taken
    exact (onGamepadDisconnect_keeps page.input index).distinct held
  | pendingTimer =>
    simp only [Page.step, Option.ite_none_right_eq_some, Option.some.injEq] at taken
    obtain ⟨_, rfl⟩ := taken
    exact (onPendingTimer_keeps page.input page.browser).distinct held
  | poll =>
    cases taken
    exact (onGamepadUpdate_keeps page.input page.browser).distinct held

/-- A poll that finds its pads changed sends them; only a record that was not
sent can go wrong. -/
theorem poll_delivers_iff {page : Page} (held : page.input.Distinct)
    (taken : page.step event = some next) :
    Delivered page event next ↔ SentAsRecorded page event next := by
  refine forall_congr' fun isPoll => forall_congr' fun entry => forall_congr' fun gamepad =>
    forall_congr' fun read => ?_
  subst isPoll
  cases taken
  cases recorded : page.input.isRecorded entry.internalId (page.input.extract gamepad) with
  | true =>
    have shown := recorded_shown held read recorded
    simp only [onGamepadUpdate_sent held read shown, recorded, if_true]
    constructor
    · intro delivered sent open_ _
      exact delivered sent ⟨sent, open_, rfl⟩ shown
    · rintro asRecorded sent ⟨_, open_, rfl⟩ _
      exact asRecorded sent open_ trivial
  | false =>
    constructor
    · intro _ sent _ same
      cases same
    · intro _ sent isSent shown
      obtain ⟨earlier, _, rfl⟩ := (onGamepadUpdate_sent held read shown).mp isSent
      simp [recorded, lastSent, GamepadState.areGamepadStatesEqual_refl]

/-- In every run, each poll leaves the polled states on the open channels exactly
when none of its pads is as recorded without the record, or a state like it, having been
sent. Every pad that a poll leaves registered where the browser has it is one it read. -/
theorem states_delivered_iff (events : List PageEvent) :
    (Along Page.step Delivered Page.start events ↔
      Along Page.step SentAsRecorded Page.start events) ∧
    (Along Page.step RecordSent Page.start events →
      Along Page.step Delivered Page.start events) ∧
    ∀ (input : StreamInput) (browser : Browser) (index : Nat) (entry : RegisteredGamepad)
      (gamepad : Gamepad), (index, entry) ∈ (input.onGamepadUpdate browser).gamepads.entries →
        padAt browser index entry = some gamepad → (entry, gamepad) ∈ input.polled browser := by
  have exactly : Along Page.step Delivered Page.start events ↔
      Along Page.step SentAsRecorded Page.start events :=
    along_iff (fun page => page.input.Distinct)
      (fun _ _ _ held taken => poll_delivers_iff held taken)
      (fun _ _ _ held taken _ => step_keeps_distinct held taken)
      nofun
  refine ⟨exactly, fun recordSent => exactly.mpr ?_,
    fun input browser index entry gamepad member here => registered_polled member here⟩
  refine along_imp (fun _ => True) ?_ ?_ trivial recordSent
  · exact fun page event next _ _ recordSent => recordSent.asRecorded
  · exact fun _ _ _ _ _ _ => trivial

private def heldPad : Gamepad := ⟨"Pad", 0, [⟨true, 1⟩], []⟩

/-- A button goes down, and the poll that records it makes the channel, which
opens later. -/
private def pressedWhileConnecting : List PageEvent :=
  [.setPeer, .controllersOpen, .streamStart 0, .gamepadsChange [some heldPad],
    .gamepadConnected 0 heldPad 0, .pendingTimer, .poll, .controllerInputOpen 0]

/-- A button that is held still is never sent on the channel. -/
theorem held_button_never_sent :
    ¬ ∀ events, Along Page.step Delivered Page.start events := by
  intro claimed
  let before := (run Page.step Page.start pressedWhileConnecting).getD .start
  have ran : run Page.step Page.start pressedWhileConnecting = some before := by decide +kernel
  have delivered := along_last (claimed (pressedWhileConnecting ++ [.poll])) ran rfl rfl
    ⟨0, "Pad", none, false⟩ heldPad (by decide +kernel) [] (by decide +kernel) (by decide +kernel)
  exact absurd delivered (by decide +kernel)

end MoonlightWeb.Client

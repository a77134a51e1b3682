import MoonlightWeb.Streamer.Buffer
import MoonlightWeb.Streamer.GamepadSlots

/-! What the streamer does with a message on one of a client's input channels.
Each handler reads its fields one after the other through the cursor and then
calls the host stream; the calls are recorded as host events. A field is read
where the previous ones left the cursor, so a message that ends before the last
field starts sends a getter behind the end. -/
namespace MoonlightWeb.Streamer
open MoonlightWeb.Machine ByteBuffer

/-- One call on the Moonlight stream. The float fields are kept as bits. -/
inductive HostEvent where
  | sendTouch (pointerId x y pressureOrDistance contactAreaMajor contactAreaMinor : UInt32)
      (rotation : Option UInt16) (eventType : TouchEventType)
  | sendMouseMove (deltaX deltaY : Int16)
  | sendMousePosition (x y referenceWidth referenceHeight : Int16)
  | sendMouseButton (action : MouseButtonAction) (button : MouseButton)
  | sendHighResScroll (amount : Int16)
  | sendHighResHorizontalScroll (amount : Int16)
  | sendScroll (clicks : Int8)
  | sendHorizontalScroll (clicks : Int8)
  | sendKeyboardEventNonStandard (keyCode : Int16) (action : KeyAction) (modifiers flags : BitVec 8)
  | sendText (text : List Char)
  | sendControllerArrival (slot : UInt8) (active : ActiveGamepads) (type : ControllerType)
      (supportedButtons : BitVec 32) (capabilities : BitVec 16)
  | sendMultiController (slot : UInt8) (active : ActiveGamepads) (buttons : BitVec 32)
      (leftTrigger rightTrigger : UInt8) (leftStickX leftStickY rightStickX rightStickY : Int16)
  deriving DecidableEq, Repr

def onTouchMessage : Getter (List HostEvent) := do
  let ty ← getU8
  let eventType : Option TouchEventType :=
    if ty = 0 then some .down else if ty = 1 then some .move
    else if ty = 2 then some .cancel else none
  match eventType with
  | none => return []
  | some eventType =>
    let pointerId ← getU32
    let x ← getF32
    let y ← getF32
    let pressureOrDistance ← getF32
    let contactAreaMajor ← getF32
    let contactAreaMinor ← getF32
    let rotation ← getU16
    return [.sendTouch pointerId x y pressureOrDistance contactAreaMajor contactAreaMinor
      (some rotation) eventType]

def onMouseMessage : Getter (List HostEvent) := do
  let ty ← getU8
  if ty = 0 then
    let deltaX ← getI16
    let deltaY ← getI16
    return [.sendMouseMove deltaX deltaY]
  else if ty = 1 then
    let x ← getI16
    let y ← getI16
    let referenceWidth ← getI16
    let referenceHeight ← getI16
    return [.sendMousePosition x y referenceWidth referenceHeight]
  else if ty = 2 then
    let pressed ← getBool
    let number ← getU8
    return match MouseButton.fromU8 number with
      | none => []
      | some button => [.sendMouseButton (if pressed then .press else .release) button]
  else if ty = 3 then
    let deltaX ← getI16
    let deltaY ← getI16
    return (if deltaY ≠ 0 then [.sendHighResScroll deltaY] else []) ++
      if deltaX ≠ 0 then [.sendHighResHorizontalScroll deltaX] else []
  else if ty = 4 then
    let deltaX ← getI8
    let deltaY ← getI8
    return (if deltaY ≠ 0 then [.sendScroll deltaY] else []) ++
      if deltaX ≠ 0 then [.sendHorizontalScroll deltaX] else []
  else return []

def onKeyboardMessage : Getter (List HostEvent) := do
  let ty ← getU8
  if ty = 0 then
    let pressed ← getBool
    let bits ← getU8
    let modifiers := (fromBits KeyModifiers.all bits.toBitVec).getD 0
    let key ← getU16
    return [.sendKeyboardEventNonStandard key.toInt16 (if pressed then .down else .up) modifiers 0]
  else if ty = 1 then
    let len ← getU8
    let text ← getUtf8 len.toNat
    return match text with
      | .error _ => []
      | .ok key => [.sendText key]
  else return []

structure StreamConnection where
  input : StreamInput
  /-- Whether the Moonlight stream is up. -/
  stream : Bool
  deriving DecidableEq

/-- The calls a handler made and the slots it left. -/
abbrev Outcome := List HostEvent × StreamInput

def onControllerMessage (clientId : UInt32) (connection : StreamConnection) : Getter Outcome := do
  let ty ← getU8
  if ty = 0 then
    let localId ← getU8
    let buttons ← getU32
    let supportedButtons := (fromBits ControllerButtons.all buttons.toBitVec).getD
      ControllerButtons.all
    let bits ← getU16
    let capabilities := (fromBits ControllerCapabilities.all bits.toBitVec).getD 0
    return match connection.input.allocateGamepadSlot clientId localId with
      | (none, input) => ([], input)
      | (some (slot, active), input) =>
        (if connection.stream then
          [.sendControllerArrival slot active .unknown supportedButtons capabilities] else [], input)
  else if ty = 1 then
    let localId ← getU8
    return match connection.input.releaseGamepadSlot clientId localId with
      | (some (slot, active), input) =>
        (if connection.stream then [.sendMultiController slot active 0 0 0 0 0 0 0] else [], input)
      | (none, input) => ([], input)
  else return ([], connection.input)

def onControllerInputMessage (clientId : UInt32) (localId : UInt8)
    (connection : StreamConnection) : Getter Outcome := do
  if connection.stream then
    let ty ← getU8
    if ty = 0 then
      match connection.input.lookupGamepadSlot clientId localId with
      | none => return ([], connection.input)
      | some slot =>
        match ActiveGamepads.fromId slot with
        | none => return ([], connection.input)
        | some mask =>
          let active := connection.input.activeGamepads
          if active.contains mask then
            let bits ← getU32
            match fromBits ControllerButtons.all bits.toBitVec with
            | none => return ([], connection.input)
            | some buttons =>
              let leftTrigger ← getU8
              let rightTrigger ← getU8
              let leftStickX ← getI16
              let leftStickY ← getI16
              let rightStickX ← getI16
              let rightStickY ← getI16
              return ([.sendMultiController slot active buttons leftTrigger rightTrigger
                leftStickX leftStickY rightStickX rightStickY], connection.input)
          else return ([], connection.input)
    else return ([], connection.input)
  else return ([], connection.input)

/-- Rust's `u8` parser: a plus sign may come first, then at least one digit. -/
def parseU8 (text : List Char) : Option UInt8 :=
  let digits := if text.head? = some '+' then text.tail else text
  if digits ≠ [] ∧ digits.all Char.isDigit then
    let number := digits.foldl (fun total digit => total * 10 + (digit.toNat - 48)) 0
    if number < 256 then some (UInt8.ofNat number) else none
  else none

/-- The handler `on_data_channel` hangs on a channel. -/
inductive InputChannel where
  | mouse | touch | keyboard | controllers
  | controller (localId : UInt8)
  deriving DecidableEq, Repr

def channelOfLabel (label : List Char) : Option InputChannel :=
  if label = "mouseClicks".toList ∨ label = "mouseAbsolute".toList ∨
      label = "mouseRelative".toList then some .mouse
  else if label = "touch".toList then some .touch
  else if label = "keyboard".toList then some .keyboard
  else if label = "controllers".toList then some .controllers
  else if "controller".toList <+: label then
    (parseU8 (label.drop "controller".toList.length)).map .controller
  else none

/-- Whether the channel is an input channel, and the slots with the
"controllers" channel stored for rumble. -/
def onDataChannel (clientId : UInt32) (input : StreamInput) (label : List Char) :
    Bool × StreamInput :=
  match channelOfLabel label with
  | some .controllers => (true, { input with controllers := some clientId })
  | some _ => (true, input)
  | none => (false, input)

/-- `create_simple_handler`: a message before the stream is up is dropped. -/
def simpleHandler (connection : StreamConnection) (handler : Getter (List HostEvent)) :
    Getter Outcome := do
  if connection.stream then return (← handler, connection.input)
  else return ([], connection.input)

/-- The handler a message of one client on one channel is given to. -/
def handler (clientId : UInt32) (connection : StreamConnection) : InputChannel → Getter Outcome
  | .mouse => simpleHandler connection onMouseMessage
  | .touch => simpleHandler connection onTouchMessage
  | .keyboard => simpleHandler connection onKeyboardMessage
  | .controllers => onControllerMessage clientId connection
  | .controller localId => onControllerInputMessage clientId localId connection

def onMessage (clientId : UInt32) (connection : StreamConnection) (channel : InputChannel)
    (message : List UInt8) : Except Panic Outcome := do
  return (← (handler clientId connection channel).run (.new message)).1

/-- Where the last field of a message starts, the way its handler reads it:
the type byte, and for a controller's input also the slot table and the button
bits, decide which fields there are. -/
def lastFieldStart (clientId : UInt32) (connection : StreamConnection) (message : List UInt8) :
    InputChannel → Nat
  | .touch => if connection.stream then touchStart (message.getD 0 0) else 0
  | .mouse => if connection.stream then mouseStart (message.getD 0 0) else 0
  | .keyboard => if connection.stream then keyboardStart (message.getD 0 0) else 0
  | .controllers => if message.getD 0 0 = 0 then 6 else 0
  | .controller localId =>
    if connection.stream ∧ message.getD 0 0 = 0 ∧
        (connection.input.lookupGamepadSlot clientId localId).isSome then
      if (fromBits ControllerButtons.all
          (u32FromBytes false (window message 1 4)).toBitVec).isSome then 13 else 1
    else 0
where
  touchStart (ty : UInt8) : Nat := if ty = 0 ∨ ty = 1 ∨ ty = 2 then 25 else 0
  mouseStart (ty : UInt8) : Nat :=
    if ty = 0 ∨ ty = 3 then 3 else if ty = 1 then 7 else if ty = 2 ∨ ty = 4 then 2 else 0
  keyboardStart (ty : UInt8) : Nat := if ty = 0 then 3 else 0

private theorem type_byte_present (message : List UInt8) (nonzero : message.getD 0 0 ≠ 0) :
    1 ≤ message.length := by
  cases message with
  | nil => exact absurd rfl nonzero
  | cons => exact Nat.le_add_left ..

private theorem touch_finishes (message : List UInt8) :
    Finishes onTouchMessage (.new message) ↔
      lastFieldStart.touchStart (message.getD 0 0) ≤ message.length := by
  obtain ⟨ty, first⟩ : ∃ ty, message.getD 0 0 = ty := ⟨_, rfl⟩
  simp only [onTouchMessage, finishes_getU8, new_position, new_buffer, first,
    lastFieldStart.touchStart]
  by_cases down : ty = 0
  · simp [down, -bind_pure_comp]
    omega
  by_cases move : ty = 1
  · simp [move, -bind_pure_comp]
    omega
  by_cases cancel : ty = 2
  · simp [cancel, -bind_pure_comp]
    omega
  · simp [down, move, cancel]

private theorem mouse_finishes (message : List UInt8) :
    Finishes onMouseMessage (.new message) ↔
      lastFieldStart.mouseStart (message.getD 0 0) ≤ message.length := by
  obtain ⟨ty, first⟩ : ∃ ty, message.getD 0 0 = ty := ⟨_, rfl⟩
  simp only [onMouseMessage, finishes_getU8, new_position, new_buffer, first,
    lastFieldStart.mouseStart]
  by_cases move : ty = 0
  · simp [move, -bind_pure_comp]
    omega
  by_cases place : ty = 1
  · simp [place, -bind_pure_comp]
    omega
  by_cases click : ty = 2
  · simp [click, -bind_pure_comp]
    omega
  by_cases wheel : ty = 3
  · simp [wheel, -bind_pure_comp]
    omega
  by_cases notch : ty = 4
  · simp [notch, -bind_pure_comp]
    omega
  · simp [move, place, click, wheel, notch]

private theorem keyboard_finishes (message : List UInt8) :
    Finishes onKeyboardMessage (.new message) ↔
      lastFieldStart.keyboardStart (message.getD 0 0) ≤ message.length := by
  obtain ⟨ty, first⟩ : ∃ ty, message.getD 0 0 = ty := ⟨_, rfl⟩
  simp only [onKeyboardMessage, finishes_getU8, new_position, new_buffer, first,
    lastFieldStart.keyboardStart]
  by_cases key : ty = 0
  · simp [key, -bind_pure_comp]
    omega
  by_cases text : ty = 1
  · have present := type_byte_present message (by rw [first]; exact key)
    simp [text, finishes_getUtf8, present, -bind_pure_comp]
  · simp [key, text]

private theorem controllers_finishes (message : List UInt8) :
    Finishes (onControllerMessage clientId connection) (.new message) ↔
      lastFieldStart clientId connection message .controllers ≤ message.length := by
  obtain ⟨ty, first⟩ : ∃ ty, message.getD 0 0 = ty := ⟨_, rfl⟩
  simp only [onControllerMessage, finishes_getU8, new_position, new_buffer, first,
    lastFieldStart]
  by_cases add : ty = 0
  · simp [add, -bind_pure_comp]
    omega
  by_cases remove : ty = 1
  · have present := type_byte_present message (by rw [first]; exact add)
    simp [remove, present, -bind_pure_comp]
  · simp [add, remove]

/-- With the slots in step, the only question before the buttons is whether the
gamepad has a slot. -/
private theorem controller_input_finishes (agreed : connection.input.SlotsInStep)
    (message : List UInt8) :
    Finishes (onControllerInputMessage clientId localId connection) (.new message) ↔
      lastFieldStart clientId connection message (.controller localId) ≤ message.length := by
  by_cases up : connection.stream = true
  swap
  · simp [onControllerInputMessage, lastFieldStart, up]
  obtain ⟨ty, first⟩ : ∃ ty, message.getD 0 0 = ty := ⟨_, rfl⟩
  simp only [onControllerInputMessage, lastFieldStart, up, ↓reduceIte, finishes_getU8,
    new_position, new_buffer, first, true_and]
  by_cases state : ty = 0
  swap
  · simp [state]
  cases known : connection.input.lookupGamepadSlot clientId localId with
  | none => simp [state]
  | some slot =>
    obtain ⟨mask, made⟩ : ∃ mask, ActiveGamepads.fromId slot = some mask :=
      ⟨_, ActiveGamepads.from_id_eq_some.mpr ⟨agreed.bounded _ _ known, rfl⟩⟩
    have active : connection.input.activeGamepads.contains mask = true := by
      rw [ActiveGamepads.contains_eq_has made, agreed.mirrored]
      exact ⟨_, known⟩
    cases buttons : fromBits ControllerButtons.all
        (u32FromBytes false (window message 1 4)).toBitVec with
    | none => simp [state, made, active, buttons, -bind_pure_comp]
    | some bits =>
      simp [state, made, active, buttons, -bind_pure_comp]
      omega

private theorem touch_missing_as_zero : MissingAsZero onTouchMessage := by
  refine missing_as_zero_bind reads_getU8.missing_as_zero fun ty => ?_
  dsimp only
  split
  · exact missing_as_zero_pure _
  · refine missing_as_zero_bind reads_getU32.missing_as_zero fun pointerId => ?_
    iterate 5 refine missing_as_zero_bind reads_getF32.missing_as_zero fun _ => ?_
    exact missing_as_zero_bind reads_getU16.missing_as_zero fun rotation => missing_as_zero_pure _

private theorem mouse_missing_as_zero : MissingAsZero onMouseMessage := by
  refine missing_as_zero_bind reads_getU8.missing_as_zero fun ty => ?_
  split
  · iterate 2 refine missing_as_zero_bind reads_getI16.missing_as_zero fun _ => ?_
    exact missing_as_zero_pure _
  split
  · iterate 4 refine missing_as_zero_bind reads_getI16.missing_as_zero fun _ => ?_
    exact missing_as_zero_pure _
  split
  · refine missing_as_zero_bind reads_getBool.missing_as_zero fun pressed => ?_
    exact missing_as_zero_bind reads_getU8.missing_as_zero fun number => missing_as_zero_pure _
  split
  · iterate 2 refine missing_as_zero_bind reads_getI16.missing_as_zero fun _ => ?_
    exact missing_as_zero_pure _
  split
  · iterate 2 refine missing_as_zero_bind reads_getI8.missing_as_zero fun _ => ?_
    exact missing_as_zero_pure _
  · exact missing_as_zero_pure _

private theorem controllers_missing_as_zero (clientId : UInt32) (connection : StreamConnection) :
    MissingAsZero (onControllerMessage clientId connection) := by
  refine missing_as_zero_bind reads_getU8.missing_as_zero fun ty => ?_
  split
  · refine missing_as_zero_bind reads_getU8.missing_as_zero fun localId => ?_
    refine missing_as_zero_bind reads_getU32.missing_as_zero fun buttons => ?_
    exact missing_as_zero_bind reads_getU16.missing_as_zero fun bits => missing_as_zero_pure _
  split
  · exact missing_as_zero_bind reads_getU8.missing_as_zero fun localId => missing_as_zero_pure _
  · exact missing_as_zero_pure _

private theorem controller_input_missing_as_zero (clientId : UInt32) (localId : UInt8)
    (connection : StreamConnection) :
    MissingAsZero (onControllerInputMessage clientId localId connection) := by
  unfold onControllerInputMessage
  split
  swap
  · exact missing_as_zero_pure _
  refine missing_as_zero_bind reads_getU8.missing_as_zero fun ty => ?_
  split
  swap
  · exact missing_as_zero_pure _
  split
  · exact missing_as_zero_pure _
  split
  · exact missing_as_zero_pure _
  dsimp only
  split
  swap
  · exact missing_as_zero_pure _
  refine missing_as_zero_bind reads_getU32.missing_as_zero fun bits => ?_
  split
  · exact missing_as_zero_pure _
  · iterate 2 refine missing_as_zero_bind reads_getU8.missing_as_zero fun _ => ?_
    iterate 4 refine missing_as_zero_bind reads_getI16.missing_as_zero fun _ => ?_
    exact missing_as_zero_pure _

/-- A keyboard message that got through is the same with zeros behind it, or
its text was incomplete and it was dropped. -/
private theorem keyboard_missing_as_zero {cursor : ByteBuffer}
    (ran : onKeyboardMessage.run cursor = .ok (events, after)) (zeros : Nat) :
    events = [] ∨
      onKeyboardMessage.run (cursor.padded zeros) = .ok (events, after.padded zeros) := by
  unfold onKeyboardMessage at ran ⊢
  obtain ⟨ty, later, read, ran⟩ := run_bind_ok ran
  rw [reads_getU8.missing_as_zero.run_bind read]
  by_cases key : ty = 0
  · right
    have fields : MissingAsZero (do
        let pressed ← getBool
        let bits ← getU8
        let modifiers := (fromBits KeyModifiers.all bits.toBitVec).getD 0
        let key ← getU16
        return [HostEvent.sendKeyboardEventNonStandard key.toInt16
          (if pressed then .down else .up) modifiers 0]) := by
      refine missing_as_zero_bind reads_getBool.missing_as_zero fun pressed => ?_
      refine missing_as_zero_bind reads_getU8.missing_as_zero fun bits => ?_
      exact missing_as_zero_bind reads_getU16.missing_as_zero fun key => missing_as_zero_pure _
    rw [if_pos key] at ran ⊢
    exact fields later events after zeros ran
  by_cases text : ty = 1
  · rw [if_neg key, if_pos text] at ran ⊢
    obtain ⟨len, past, read, ran⟩ := run_bind_ok ran
    rw [reads_getU8.missing_as_zero.run_bind read]
    obtain ⟨found, behind, read, ran⟩ := run_bind_ok ran
    cases ran
    cases found with
    | error reason => exact .inl rfl
    | ok text =>
      right
      rw [StateT.run_bind, get_utf8_padded read zeros]
      rfl
  · rw [if_neg key, if_neg text] at ran ⊢
    exact .inr (missing_as_zero_pure _ later events after zeros ran)

/-- One event of the connection: the stream comes up or goes down, a channel
is opened, a client's message arrives, or a client leaves and the gamepads the
hash map lists for it are released. -/
inductive ConnectionEvent where
  | stream (up : Bool)
  | dataChannel (clientId : UInt32) (label : List Char)
  | message (clientId : UInt32) (channel : InputChannel) (message : List UInt8)
  | detach (clientId : UInt32) (order : List UInt8)

namespace StreamConnection

def new : StreamConnection := ⟨.new, false⟩

/-- A panic ends the process, so no state follows it. -/
def step (connection : StreamConnection) : ConnectionEvent → Option StreamConnection
  | .stream up => some { connection with stream := up }
  | .dataChannel clientId label =>
    some { connection with input := (onDataChannel clientId connection.input label).2 }
  | .message clientId channel message =>
    match onMessage clientId connection channel message with
    | .error _ => none
    | .ok outcome => some { connection with input := outcome.2 }
  | .detach clientId order =>
    if order.Perm (connection.input.localIds clientId) then
      some { connection with input := (connection.input.releaseClientGamepads clientId order).2 }
    else none

private theorem simple_handler_keeps (connection : StreamConnection)
    (getter : Getter (List HostEvent)) :
    Yields (fun outcome => outcome.2 = connection.input) (simpleHandler connection getter) := by
  unfold simpleHandler
  split
  · exact yields_bind fun events => yields_pure rfl
  · exact yields_pure rfl

private theorem controllers_keeps (agreed : connection.input.SlotsInStep) :
    Yields (fun outcome => outcome.2.SlotsInStep) (onControllerMessage clientId connection) := by
  refine yields_bind fun ty => ?_
  split
  · refine yields_bind fun localId => yields_bind fun buttons => yields_bind fun bits => ?_
    have kept := StreamInput.allocate_keeps_step agreed clientId localId
    split <;> rename_i ran <;> exact yields_pure (by rwa [ran] at kept)
  split
  · refine yields_bind fun localId => ?_
    have kept := StreamInput.release_keeps_step agreed clientId localId
    split <;> rename_i ran <;> exact yields_pure (by rwa [ran] at kept)
  · exact yields_pure agreed

private theorem controller_input_keeps (clientId : UInt32) (localId : UInt8)
    (connection : StreamConnection) :
    Yields (fun outcome => outcome.2 = connection.input)
      (onControllerInputMessage clientId localId connection) := by
  unfold onControllerInputMessage
  split
  swap
  · exact yields_pure rfl
  refine yields_bind fun ty => ?_
  split
  swap
  · exact yields_pure rfl
  split
  · exact yields_pure rfl
  split
  · exact yields_pure rfl
  dsimp only
  split
  swap
  · exact yields_pure rfl
  refine yields_bind fun bits => ?_
  split
  · exact yields_pure rfl
  · iterate 6 refine yields_bind fun _ => ?_
    exact yields_pure rfl

theorem on_message_ok : onMessage clientId connection channel message = .ok outcome ↔
    ∃ after, (handler clientId connection channel).run (.new message) = .ok (outcome, after) := by
  unfold onMessage
  cases (handler clientId connection channel).run (.new message) with
  | error panic =>
    refine ⟨fun ran => ?_, fun ⟨_, ran⟩ => ?_⟩ <;> cases ran
  | ok result =>
    refine ⟨fun ran => ?_, fun ⟨_, ran⟩ => ?_⟩ <;> cases ran
    · exact ⟨result.2, rfl⟩
    · rfl

theorem message_keeps_slots (agreed : connection.input.SlotsInStep)
    (ran : onMessage clientId connection channel message = .ok outcome) :
    outcome.2.SlotsInStep := by
  obtain ⟨after, ran⟩ := on_message_ok.mp ran
  cases channel with
  | mouse | touch | keyboard =>
    rw [simple_handler_keeps connection _ _ _ _ ran]
    exact agreed
  | controllers => exact controllers_keeps agreed _ _ _ ran
  | controller localId =>
    rw [controller_input_keeps clientId localId connection _ _ _ ran]
    exact agreed

theorem step_keeps_slots (agreed : connection.input.SlotsInStep)
    (taken : step connection event = some next) : next.input.SlotsInStep := by
  cases event with
  | stream up =>
    cases taken
    exact agreed
  | dataChannel clientId label =>
    cases taken
    unfold onDataChannel
    split
    · exact ⟨agreed.exclusive, agreed.bounded, agreed.mirrored⟩
    all_goals exact agreed
  | message clientId channel message =>
    simp only [step] at taken
    cases ran : onMessage clientId connection channel message with
    | error panic => simp [ran] at taken
    | ok outcome =>
      simp only [ran, Option.some.injEq] at taken
      cases taken
      exact message_keeps_slots agreed ran
  | detach clientId order =>
    simp only [step, Option.ite_none_right_eq_some, Option.some.injEq] at taken
    obtain ⟨_, rfl⟩ := taken
    exact StreamInput.release_client_keeps_step agreed clientId order

/-- Whatever clients sent so far, the slots are in step. -/
theorem reachable_slots_in_step (reached : Reachable step new connection) :
    connection.input.SlotsInStep :=
  reachable_invariant (fun connection => connection.input.SlotsInStep)
    StreamInput.new_in_step (fun _ _ _ => step_keeps_slots) reached

private theorem simple_handler_finishes (up : connection.stream = true)
    (getter : Getter (List HostEvent)) (cursor : ByteBuffer) :
    Finishes (simpleHandler connection getter) cursor ↔ Finishes getter cursor := by
  unfold simpleHandler
  rw [if_pos up]
  constructor
  · rintro ⟨value, ran⟩
    obtain ⟨middle, later, ran, _⟩ := run_bind_ok ran
    exact ⟨_, ran⟩
  · rintro ⟨value, ran⟩
    exact ⟨((value.1, connection.input), value.2), by rw [StateT.run_bind, ran]; rfl⟩

/-- The handlers panic exactly on the messages that end before their last
field starts. -/
theorem handler_finishes (agreed : connection.input.SlotsInStep) (clientId : UInt32)
    (channel : InputChannel) (message : List UInt8) :
    Finishes (handler clientId connection channel) (.new message) ↔
      lastFieldStart clientId connection message channel ≤ message.length := by
  cases channel with
  | controllers => exact controllers_finishes message
  | controller localId => exact controller_input_finishes agreed message
  | mouse | touch | keyboard =>
    by_cases up : connection.stream = true
    · simp only [handler, simple_handler_finishes up, lastFieldStart, if_pos up, mouse_finishes,
        touch_finishes, keyboard_finishes]
    · simp [handler, simpleHandler, lastFieldStart, up]

private theorem simple_handler_missing_as_zero {getter : Getter (List HostEvent)}
    (reads : ∀ {cursor : ByteBuffer} {events after}, getter.run cursor = .ok (events, after) →
      ∀ zeros, events = [] ∨ getter.run (cursor.padded zeros) = .ok (events, after.padded zeros))
    (ran : (simpleHandler connection getter).run cursor = .ok (outcome, after)) (zeros : Nat) :
    outcome = ([], connection.input) ∨
      (simpleHandler connection getter).run (cursor.padded zeros) =
        .ok (outcome, after.padded zeros) := by
  unfold simpleHandler at ran ⊢
  by_cases up : connection.stream = true
  · rw [if_pos up] at ran ⊢
    obtain ⟨events, later, read, ran⟩ := run_bind_ok ran
    cases ran
    obtain rfl | padded := reads read zeros
    · exact .inl rfl
    · exact .inr (by rw [StateT.run_bind, padded]; rfl)
  · rw [if_neg up] at ran
    cases ran
    exact .inl rfl

/-- A handler that got through ignored the message, or reads the same when
zeros follow it. -/
theorem handler_missing_as_zero
    (ran : (handler clientId connection channel).run cursor = .ok (outcome, after))
    (zeros : Nat) :
    outcome = ([], connection.input) ∨
      (handler clientId connection channel).run (cursor.padded zeros) =
        .ok (outcome, after.padded zeros) := by
  cases channel with
  | mouse =>
    exact simple_handler_missing_as_zero (fun read zeros =>
      .inr (mouse_missing_as_zero _ _ _ zeros read)) ran zeros
  | touch =>
    exact simple_handler_missing_as_zero (fun read zeros =>
      .inr (touch_missing_as_zero _ _ _ zeros read)) ran zeros
  | keyboard => exact simple_handler_missing_as_zero keyboard_missing_as_zero ran zeros
  | controllers => exact .inr (controllers_missing_as_zero clientId connection _ _ _ zeros ran)
  | controller localId =>
    exact .inr (controller_input_missing_as_zero clientId localId connection _ _ _ zeros ran)

/-- The handler finishes, and it either ignored the message or did what it
does with any number of zeros behind the message. -/
def ReadsMissingAsZero (connection : StreamConnection) (clientId : UInt32)
    (channel : InputChannel) (message : List UInt8) : Prop :=
  ∃ outcome, onMessage clientId connection channel message = .ok outcome ∧
    (outcome = ([], connection.input) ∨ ∀ zeros,
      onMessage clientId connection channel (message ++ List.replicate zeros 0) = .ok outcome)

/-- After any events of any clients, a message is read with its missing bytes as
zero, or ignored, exactly when it reaches at least the start of its last field;
any shorter message ends the process. -/
theorem message_reads_missing_as_zero_iff (reached : Reachable step new connection)
    (clientId : UInt32) (channel : InputChannel) (message : List UInt8) :
    ReadsMissingAsZero connection clientId channel message ↔
      lastFieldStart clientId connection message channel ≤ message.length := by
  rw [← handler_finishes (reachable_slots_in_step reached)]
  constructor
  · rintro ⟨outcome, ran, _⟩
    obtain ⟨after, ran⟩ := on_message_ok.mp ran
    exact ⟨_, ran⟩
  · rintro ⟨⟨outcome, after⟩, ran⟩
    refine ⟨outcome, on_message_ok.mpr ⟨after, ran⟩, ?_⟩
    by_cases ignored : outcome = ([], connection.input)
    · exact .inl ignored
    · refine .inr fun zeros => on_message_ok.mpr ⟨after.padded zeros, ?_⟩
      exact (handler_missing_as_zero ran zeros).resolve_left ignored

/-- A full touch message on a live stream, one byte longer than its last field
needs. -/
theorem touch_message_reads_missing_as_zero :
    ReadsMissingAsZero ⟨.new, true⟩ 0 .touch (List.replicate 26 1) :=
  (message_reads_missing_as_zero_iff ⟨[.stream true], rfl⟩ 0 .touch _).mpr (by decide)

/-- An empty touch message on a live stream counts as a touch down, and the
pointer id is then read from behind the end. -/
theorem empty_touch_message_panics :
    ¬ ∀ connection clientId channel message, Reachable step new connection →
      ReadsMissingAsZero connection clientId channel message := by
  intro always
  obtain ⟨outcome, ran, _⟩ := always ⟨.new, true⟩ 0 .touch [] ⟨[.stream true], rfl⟩
  cases ran

end StreamConnection

end MoonlightWeb.Streamer

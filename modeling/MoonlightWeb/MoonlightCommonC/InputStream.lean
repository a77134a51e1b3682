import MoonlightWeb.MoonlightCommonC.LinkedBlockingQueue

/-! The input on its way to the host. Every call of the application queues a packet; one
thread takes the packets and sends them. Motion is not in the packets: it is added up
beside the queue, and a packet only marks that some is to be sent. -/
namespace MoonlightWeb.MoonlightCommonC
open Machine

abbrev Bytes := List UInt8

/-- The host, as far as the input depends on it: the first part of its version, and what it supports. -/
structure InputConfig where
  generation : Nat
  sunshine : Bool
  needsBatchedScroll : Bool
  penTouchEvents : Bool
  controllerTouchEvents : Bool
  haptics : Bool

def MAX_GAMEPADS : UInt8 := 16

def MAX_MOTION_EVENTS : Int := 2

def MAX_QUEUED_INPUT_PACKETS : Nat := 150

def LI_WHEEL_DELTA : Int := 120

def LI_ERR_UNSUPPORTED : Int := -5501

def CTRL_CHANNEL_GENERIC : UInt8 := 0x00
def CTRL_CHANNEL_KEYBOARD : UInt8 := 0x02
def CTRL_CHANNEL_MOUSE : UInt8 := 0x03
def CTRL_CHANNEL_PEN : UInt8 := 0x04
def CTRL_CHANNEL_TOUCH : UInt8 := 0x05
def CTRL_CHANNEL_UTF8 : UInt8 := 0x06
def CTRL_CHANNEL_GAMEPAD_BASE : UInt8 := 0x10
def CTRL_CHANNEL_SENSOR_BASE : UInt8 := 0x20

def SPECIAL_FLAG : Int32 := 0x0400
def MISC_FLAG : Int32 := 0x200000

def LI_TOUCH_EVENT_HOVER : UInt8 := 0x00
def LI_TOUCH_EVENT_MOVE : UInt8 := 0x03

def LI_MOTION_TYPE_GYRO : UInt8 := 0x02

def MODIFIER_SHIFT : UInt8 := 0x01
def MODIFIER_CTRL : UInt8 := 0x02
def MODIFIER_ALT : UInt8 := 0x04
def MODIFIER_META : UInt8 := 0x08

/-- Up, down, leave and cancel events are not batched. -/
def TOUCH_EVENT_IS_BATCHABLE (eventType : UInt8) : Bool :=
  eventType = LI_TOUCH_EVENT_HOVER || eventType = LI_TOUCH_EVENT_MOVE

inductive KeyAction
  | down
  | up
  deriving DecidableEq

inductive ButtonAction
  | press
  | release
  deriving DecidableEq

/-- A float is the four bytes that are sent for it. -/
abbrev NetFloat := UInt32

/-- Both zeros are equal to zero. -/
def NetFloat.isZero (value : NetFloat) : Bool := value &&& 0x7fffffff = 0

structure ControllerPacket where
  buttonFlags : Int16
  leftTrigger : UInt8
  rightTrigger : UInt8
  leftStickX : Int16
  leftStickY : Int16
  rightStickX : Int16
  rightStickY : Int16
  deriving DecidableEq

structure MultiControllerPacket extends ControllerPacket where
  controllerNumber : Int16
  activeGamepadMask : Int16
  buttonFlags2 : Int16
  deriving DecidableEq

structure TouchPacket where
  eventType : UInt8
  pointerId : UInt32
  rotation : UInt16
  x : NetFloat
  y : NetFloat
  pressureOrDistance : NetFloat
  contactAreaMajor : NetFloat
  contactAreaMinor : NetFloat
  deriving DecidableEq

structure PenPacket where
  eventType : UInt8
  toolType : UInt8
  penButtons : UInt8
  x : NetFloat
  y : NetFloat
  pressureOrDistance : NetFloat
  rotation : UInt16
  tilt : UInt8
  contactAreaMajor : NetFloat
  contactAreaMinor : NetFloat
  deriving DecidableEq

structure ControllerArrivalPacket where
  controllerNumber : UInt8
  type : UInt8
  capabilities : UInt16
  supportedButtonFlags : UInt32
  deriving DecidableEq

structure ControllerTouchPacket where
  controllerNumber : UInt8
  eventType : UInt8
  pointerId : UInt32
  x : NetFloat
  y : NetFloat
  pressure : NetFloat
  deriving DecidableEq

structure ControllerMotionPacket where
  controllerNumber : UInt8
  motionType : UInt8
  x : NetFloat
  y : NetFloat
  z : NetFloat
  deriving DecidableEq

structure ControllerBatteryPacket where
  controllerNumber : UInt8
  batteryState : UInt8
  batteryPercentage : UInt8
  deriving DecidableEq

/-- The kinds of packets, told apart by their magic numbers. -/
inductive Packet
  | haptics (enable : UInt16)
  | keyboard (action : KeyAction) (flags : UInt8) (keyCode : Int16) (modifiers : UInt8)
  | mouseMoveRel (deltaX deltaY : Int16)
  | mouseMoveAbs (x y width height : Int16)
  | mouseButton (action : ButtonAction) (button : UInt8)
  | controller (packet : ControllerPacket)
  | multiController (packet : MultiControllerPacket)
  | scroll (amount : Int16)
  | hscroll (amount : Int16)
  | touch (packet : TouchPacket)
  | pen (packet : PenPacket)
  | controllerArrival (packet : ControllerArrivalPacket)
  | controllerTouch (packet : ControllerTouchPacket)
  | controllerMotion (packet : ControllerMotionPacket)
  | controllerBattery (packet : ControllerBatteryPacket)
  | unicode (text : Bytes)
  deriving DecidableEq

structure PacketHolder where
  reliable : Bool
  channelId : UInt8
  packet : Packet
  deriving DecidableEq

structure Sensor where
  x : NetFloat
  y : NetFloat
  z : NetFloat
  deriving DecidableEq

structure SensorState extends Sensor where
  dirty : Bool

structure RelativeMouseState where
  deltaX : Int
  deltaY : Int
  dirty : Bool

structure Position where
  x : Int16
  y : Int16
  width : Int16
  height : Int16
  deriving DecidableEq

structure AbsoluteMouseState extends Position where
  dirty : Bool

/-- Where the sending thread is: at the queue, with a packet that it has taken (and how far it is
with its text), or gone. It goes when the queue is drained or when a send has failed. -/
inductive InputSendThread
  | waiting
  | busy (holder : PacketHolder) (next : Nat)
  | ended
  | failed
  deriving DecidableEq

/-- The last two are history. -/
structure InputStream where
  initialized : Bool
  batchedScrollDelta : Int
  currentPenButtonState : UInt8
  currentGamepadSensorState : UInt8 → UInt8 → SensorState
  currentRelativeMouseState : RelativeMouseState
  currentAbsoluteMouseState : AbsoluteMouseState
  packetQueue : BlockingQueue PacketHolder
  thread : InputSendThread
  sent : List PacketHolder
  queued : List PacketHolder

namespace InputStream

def initializeInputStream : InputStream where
  initialized := false
  batchedScrollDelta := 0
  currentPenButtonState := 0
  currentGamepadSensorState := fun _ _ => ⟨⟨0, 0, 0⟩, false⟩
  currentRelativeMouseState := ⟨0, 0, false⟩
  currentAbsoluteMouseState := ⟨⟨0, 0, 0, 0⟩, false⟩
  packetQueue := .empty MAX_QUEUED_INPUT_PACKETS
  thread := .waiting
  sent := []
  queued := []

/-! ## The calls of the application

Each returns its error code. `allocated` tells which allocations of packet holders succeed. -/

def statusCode : Status → Int
  | .success => 0
  | .interrupted => 1
  | .boundExceeded => 2
  | .noElement => 3
  | .userWake => 4

/-- A signed sum that overflows has no defined value. -/
def plusInt (first second : Int) : Option Int :=
  if -0x80000000 ≤ first + second ∧ first + second < 0x80000000 then some (first + second) else none

/-- The holder is filled and offered to the queue, or given up. -/
def queuePacket (stream : InputStream) (allocated : Bool) (holder : PacketHolder) : Int × InputStream :=
  if allocated then
    let offered := stream.packetQueue.offer holder
    (statusCode offered.1, { stream with
      packetQueue := offered.2
      queued := if offered.1 = LBQ_SUCCESS then stream.queued ++ [holder] else stream.queued })
  else (-1, stream)

def sendEnableHaptics (config : InputConfig) (allocated : Nat → Bool) (stream : InputStream) : Int × InputStream :=
  if config.haptics then
    stream.queuePacket (allocated 0) { reliable := true, channelId := CTRL_CHANNEL_GENERIC, packet := .haptics 1 }
  else (0, stream)

/-- The motion is kept also where no packet could be queued for it. -/
def liSendMouseMoveEvent (allocated : Nat → Bool) (deltaX deltaY : Int16) (stream : InputStream) :
    Option (Int × InputStream) :=
  if !stream.initialized then some (-2, stream)
  else if deltaX = 0 ∧ deltaY = 0 then some (0, stream)
  else do
    let state := stream.currentRelativeMouseState
    let x ← plusInt state.deltaX deltaX.toInt
    let y ← plusInt state.deltaY deltaY.toInt
    let moved := { stream with currentRelativeMouseState := { state with deltaX := x, deltaY := y } }
    if state.dirty then some (0, moved)
    else
      let offered := moved.queuePacket (allocated 0)
        { reliable := true, channelId := CTRL_CHANNEL_MOUSE, packet := .mouseMoveRel 0 0 }
      some (offered.1, { offered.2 with
        currentRelativeMouseState := { deltaX := x, deltaY := y, dirty := offered.1 = 0 } })

def liSendMousePositionEvent (allocated : Nat → Bool) (x y referenceWidth referenceHeight : Int16)
    (stream : InputStream) : Int × InputStream :=
  if !stream.initialized then (-2, stream)
  else
    let state : AbsoluteMouseState :=
      ⟨⟨x, y, referenceWidth, referenceHeight⟩, stream.currentAbsoluteMouseState.dirty⟩
    let moved := { stream with currentAbsoluteMouseState := state }
    if state.dirty then (0, moved)
    else
      let offered := moved.queuePacket (allocated 0)
        { reliable := true, channelId := CTRL_CHANNEL_MOUSE, packet := .mouseMoveAbs 0 0 0 0 }
      (offered.1, { offered.2 with currentAbsoluteMouseState := { state with dirty := offered.1 = 0 } })

def liSendMouseButtonEvent (allocated : Nat → Bool) (action : ButtonAction) (button : UInt8)
    (stream : InputStream) : Int × InputStream :=
  if !stream.initialized then (-2, stream)
  else stream.queuePacket (allocated 0)
    { reliable := true, channelId := CTRL_CHANNEL_MOUSE, packet := .mouseButton action button }

/-- The modifier flags that the key events of the modifiers themselves may have. -/
def fixedModifiers (keyCode : Int16) (modifiers : UInt8) : UInt8 :=
  let key := keyCode &&& 0xFF
  if key = 0x5B ∨ key = 0x5C then modifiers &&& ~~~MODIFIER_META
  else if key = 0xA0 then modifiers ||| MODIFIER_SHIFT
  else if key = 0xA1 then modifiers &&& ~~~MODIFIER_SHIFT
  else if key = 0xA2 then modifiers ||| MODIFIER_CTRL
  else if key = 0xA3 then modifiers &&& ~~~MODIFIER_CTRL
  else if key = 0xA4 then modifiers ||| MODIFIER_ALT
  else if key = 0xA5 then modifiers &&& ~~~MODIFIER_ALT
  else modifiers

def liSendKeyboardEvent2 (config : InputConfig) (allocated : Nat → Bool) (keyCode : Int16) (keyAction : KeyAction)
    (modifiers flags : UInt8) (stream : InputStream) : Int × InputStream :=
  if !stream.initialized then (-2, stream)
  else
    let modifiers := if config.sunshine then modifiers else fixedModifiers keyCode modifiers
    stream.queuePacket (allocated 0)
      { reliable := true
        channelId := CTRL_CHANNEL_KEYBOARD
        packet := .keyboard keyAction (if config.sunshine then flags else 0) keyCode modifiers }

def liSendKeyboardEvent (config : InputConfig) (allocated : Nat → Bool) (keyCode : Int16) (keyAction : KeyAction)
    (modifiers : UInt8) (stream : InputStream) : Int × InputStream :=
  stream.liSendKeyboardEvent2 config allocated keyCode keyAction modifiers 0

def liSendUtf8TextEvent (allocated : Nat → Bool) (text : Bytes) (stream : InputStream) : Int × InputStream :=
  if !stream.initialized then (-2, stream)
  else stream.queuePacket (allocated 0)
    { reliable := true, channelId := CTRL_CHANNEL_UTF8, packet := .unicode text }

/-- A negative value comes from a caller that passed a short. -/
def knownButtons (config : InputConfig) (buttonFlags : Int32) : Int32 :=
  let buttonFlags := if buttonFlags < 0 then buttonFlags &&& 0xFFFF else buttonFlags
  if !config.sunshine ∧ buttonFlags &&& MISC_FLAG ≠ 0 then buttonFlags ||| SPECIAL_FLAG else buttonFlags

def sendControllerEventInternal (config : InputConfig) (allocated : Bool)
    (controllerNumber activeGamepadMask : Int16) (buttonFlags : Int32) (leftTrigger rightTrigger : UInt8)
    (leftStickX leftStickY rightStickX rightStickY : Int16) (stream : InputStream) : Int × InputStream :=
  if !stream.initialized then (-2, stream)
  else
    let buttonFlags := knownButtons config buttonFlags
    let controllerNumber := if config.sunshine then controllerNumber % 16 else controllerNumber % 4
    let activeGamepadMask := if config.sunshine then activeGamepadMask else activeGamepadMask &&& 0xF
    let packet : ControllerPacket :=
      ⟨buttonFlags.toInt16, leftTrigger, rightTrigger, leftStickX, leftStickY, rightStickX, rightStickY⟩
    stream.queuePacket allocated
      { reliable := true
        channelId := CTRL_CHANNEL_GAMEPAD_BASE + controllerNumber.toUInt16.toUInt8
        packet :=
          if config.generation = 3 then .controller packet
          else .multiController { packet with
            controllerNumber := controllerNumber
            activeGamepadMask := activeGamepadMask
            buttonFlags2 := if config.sunshine then (buttonFlags >>> 16).toInt16 else 0 } }

def liSendControllerEvent (config : InputConfig) (allocated : Nat → Bool) (buttonFlags : Int32)
    (leftTrigger rightTrigger : UInt8) (leftStickX leftStickY rightStickX rightStickY : Int16)
    (stream : InputStream) : Int × InputStream :=
  stream.sendControllerEventInternal config (allocated 0) 0 0x1 buttonFlags leftTrigger rightTrigger leftStickX
    leftStickY rightStickX rightStickY

def liSendMultiControllerEvent (config : InputConfig) (allocated : Nat → Bool)
    (controllerNumber activeGamepadMask : Int16) (buttonFlags : Int32) (leftTrigger rightTrigger : UInt8)
    (leftStickX leftStickY rightStickX rightStickY : Int16) (stream : InputStream) : Int × InputStream :=
  stream.sendControllerEventInternal config (allocated 0) controllerNumber activeGamepadMask buttonFlags leftTrigger
    rightTrigger leftStickX leftStickY rightStickX rightStickY

def scrollHolder (amount : Int) : PacketHolder :=
  { reliable := true, channelId := CTRL_CHANNEL_MOUSE, packet := .scroll (Int16.ofInt amount) }

/-- What has been added up leaves in whole clicks. Each round takes one off, which bounds them. -/
def sendBatchedScroll (allocated : Nat → Bool) : (limit round : Nat) → InputStream → Int × InputStream
  | 0, _, stream => (0, stream)
  | limit + 1, round, stream =>
    if LI_WHEEL_DELTA ≤ stream.batchedScrollDelta.natAbs then
      let scrollAmount := if 0 < stream.batchedScrollDelta then LI_WHEEL_DELTA else -LI_WHEEL_DELTA
      let offered := stream.queuePacket (allocated round) (scrollHolder scrollAmount)
      if offered.1 = 0 then
        sendBatchedScroll allocated limit (round + 1)
          { offered.2 with batchedScrollDelta := stream.batchedScrollDelta - scrollAmount }
      else offered
    else (0, stream)

def liSendHighResScrollEvent (config : InputConfig) (allocated : Nat → Bool) (scrollAmount : Int16)
    (stream : InputStream) : Option (Int × InputStream) :=
  if !stream.initialized then some (-2, stream)
  else if scrollAmount = 0 then some (0, stream)
  else if config.needsBatchedScroll then do
    let turned := (stream.batchedScrollDelta < 0 ∧ 0 < scrollAmount) ∨ (0 < stream.batchedScrollDelta ∧ scrollAmount < 0)
    let batchedScrollDelta ← plusInt (if turned then 0 else stream.batchedScrollDelta) scrollAmount.toInt
    some (sendBatchedScroll allocated (batchedScrollDelta.natAbs + 1) 0
      { stream with batchedScrollDelta := batchedScrollDelta })
  else some (stream.queuePacket (allocated 0) (scrollHolder scrollAmount.toInt))

def liSendScrollEvent (config : InputConfig) (allocated : Nat → Bool) (scrollClicks : Int8)
    (stream : InputStream) : Option (Int × InputStream) :=
  stream.liSendHighResScrollEvent config allocated (Int16.ofInt (scrollClicks.toInt * LI_WHEEL_DELTA))

def liSendHighResHScrollEvent (config : InputConfig) (allocated : Nat → Bool) (scrollAmount : Int16)
    (stream : InputStream) : Int × InputStream :=
  if !stream.initialized then (-2, stream)
  else if !config.sunshine then (LI_ERR_UNSUPPORTED, stream)
  else if scrollAmount = 0 then (0, stream)
  else stream.queuePacket (allocated 0)
    { reliable := true, channelId := CTRL_CHANNEL_MOUSE, packet := .hscroll scrollAmount }

def liSendHScrollEvent (config : InputConfig) (allocated : Nat → Bool) (scrollClicks : Int8)
    (stream : InputStream) : Int × InputStream :=
  stream.liSendHighResHScrollEvent config allocated (Int16.ofInt (scrollClicks.toInt * LI_WHEEL_DELTA))

def liSendTouchEvent (config : InputConfig) (allocated : Nat → Bool) (packet : TouchPacket)
    (stream : InputStream) : Int × InputStream :=
  if !stream.initialized then (-2, stream)
  else if !config.penTouchEvents then (LI_ERR_UNSUPPORTED, stream)
  else stream.queuePacket (allocated 0)
    { reliable := !TOUCH_EVENT_IS_BATCHABLE packet.eventType, channelId := CTRL_CHANNEL_TOUCH, packet := .touch packet }

/-- An event that changes the buttons must not be dropped. -/
def liSendPenEvent (config : InputConfig) (allocated : Nat → Bool) (packet : PenPacket)
    (stream : InputStream) : Int × InputStream :=
  if !stream.initialized then (-2, stream)
  else if !config.penTouchEvents then (LI_ERR_UNSUPPORTED, stream)
  else if !allocated 0 then (-1, stream)
  else
    let unchanged := packet.penButtons ^^^ stream.currentPenButtonState = 0
    queuePacket { stream with currentPenButtonState := packet.penButtons } true
      { reliable := !(TOUCH_EVENT_IS_BATCHABLE packet.eventType && unchanged)
        channelId := CTRL_CHANNEL_PEN
        packet := .pen packet }

/-- Also an event of the controller, for a host that does not know arrivals. -/
def liSendControllerArrivalEvent (config : InputConfig) (allocated : Nat → Bool) (controllerNumber : UInt8)
    (activeGamepadMask : UInt16) (type : UInt8) (supportedButtonFlags : UInt32) (capabilities : UInt16)
    (stream : InputStream) : Int × InputStream :=
  if !stream.initialized then (-2, stream)
  else
    let controllerNumber := controllerNumber % MAX_GAMEPADS
    let arrived :=
      if config.sunshine then
        stream.queuePacket (allocated 0)
          { reliable := true
            channelId := CTRL_CHANNEL_GAMEPAD_BASE + controllerNumber
            packet := .controllerArrival ⟨controllerNumber, type, capabilities, supportedButtonFlags⟩ }
      else (0, stream)
    if arrived.1 = 0 then
      arrived.2.sendControllerEventInternal config (allocated 1) controllerNumber.toUInt16.toInt16
        activeGamepadMask.toInt16 0 0 0 0 0 0 0
    else arrived

def liSendControllerTouchEvent (config : InputConfig) (allocated : Nat → Bool) (packet : ControllerTouchPacket)
    (stream : InputStream) : Int × InputStream :=
  if !stream.initialized then (-2, stream)
  else if !config.controllerTouchEvents then (LI_ERR_UNSUPPORTED, stream)
  else
    let controllerNumber := packet.controllerNumber % MAX_GAMEPADS
    stream.queuePacket (allocated 0)
      { reliable := !TOUCH_EVENT_IS_BATCHABLE packet.eventType
        channelId := CTRL_CHANNEL_GAMEPAD_BASE + controllerNumber
        packet := .controllerTouch { packet with controllerNumber := controllerNumber } }

def setSensor (stream : InputStream) (controllerNumber motionType : UInt8) (state : SensorState) : InputStream :=
  { stream with
    currentGamepadSensorState := fun controller motion =>
      if controller = controllerNumber ∧ motion = motionType then state
      else stream.currentGamepadSensorState controller motion }

/-- The motion type 0 passes the check, and what it writes is in front of the array. -/
def liSendControllerMotionEvent (config : InputConfig) (allocated : Nat → Bool) (controllerNumber motionType : UInt8)
    (x y z : NetFloat) (stream : InputStream) : Option (Int × InputStream) :=
  if !stream.initialized then some (-2, stream)
  else if MAX_MOTION_EVENTS ≤ (motionType.toNat : Int) - 1 then some (-3, stream)
  else if !config.controllerTouchEvents then some (LI_ERR_UNSUPPORTED, stream)
  else if motionType = 0 then none
  else
    let controllerNumber := controllerNumber % MAX_GAMEPADS
    let dirty := (stream.currentGamepadSensorState controllerNumber motionType).dirty
    let moved := stream.setSensor controllerNumber motionType ⟨⟨x, y, z⟩, dirty⟩
    if dirty then some (0, moved)
    else
      let offered := moved.queuePacket (allocated 0)
        { reliable := false
          channelId := CTRL_CHANNEL_SENSOR_BASE + controllerNumber
          packet := .controllerMotion ⟨controllerNumber, motionType, 0, 0, 0⟩ }
      some (offered.1, offered.2.setSensor controllerNumber motionType ⟨⟨x, y, z⟩, offered.1 = 0⟩)

def liSendControllerBatteryEvent (config : InputConfig) (allocated : Nat → Bool) (packet : ControllerBatteryPacket)
    (stream : InputStream) : Int × InputStream :=
  if !stream.initialized then (-2, stream)
  else if !config.sunshine then (LI_ERR_UNSUPPORTED, stream)
  else
    let controllerNumber := packet.controllerNumber % MAX_GAMEPADS
    stream.queuePacket (allocated 0)
      { reliable := true
        channelId := CTRL_CHANNEL_GAMEPAD_BASE + controllerNumber
        packet := .controllerBattery { packet with controllerNumber := controllerNumber } }

inductive Call
  | mouseMove (deltaX deltaY : Int16)
  | mousePosition (x y referenceWidth referenceHeight : Int16)
  | mouseButton (action : ButtonAction) (button : UInt8)
  | keyboard2 (keyCode : Int16) (keyAction : KeyAction) (modifiers flags : UInt8)
  | keyboard (keyCode : Int16) (keyAction : KeyAction) (modifiers : UInt8)
  | utf8Text (text : Bytes)
  | controller (buttonFlags : Int32) (leftTrigger rightTrigger : UInt8)
      (leftStickX leftStickY rightStickX rightStickY : Int16)
  | multiController (controllerNumber activeGamepadMask : Int16) (buttonFlags : Int32)
      (leftTrigger rightTrigger : UInt8) (leftStickX leftStickY rightStickX rightStickY : Int16)
  | highResScroll (scrollAmount : Int16)
  | scroll (scrollClicks : Int8)
  | highResHScroll (scrollAmount : Int16)
  | hscroll (scrollClicks : Int8)
  | touch (packet : TouchPacket)
  | pen (packet : PenPacket)
  | controllerArrival (controllerNumber : UInt8) (activeGamepadMask : UInt16) (type : UInt8)
      (supportedButtonFlags : UInt32) (capabilities : UInt16)
  | controllerTouch (packet : ControllerTouchPacket)
  | controllerMotion (controllerNumber motionType : UInt8) (x y z : NetFloat)
  | controllerBattery (packet : ControllerBatteryPacket)

def Call.apply (config : InputConfig) (allocated : Nat → Bool) (stream : InputStream) :
    Call → Option (Int × InputStream)
  | .mouseMove deltaX deltaY => stream.liSendMouseMoveEvent allocated deltaX deltaY
  | .mousePosition x y width height => some (stream.liSendMousePositionEvent allocated x y width height)
  | .mouseButton action button => some (stream.liSendMouseButtonEvent allocated action button)
  | .keyboard2 keyCode keyAction modifiers flags =>
    some (stream.liSendKeyboardEvent2 config allocated keyCode keyAction modifiers flags)
  | .keyboard keyCode keyAction modifiers =>
    some (stream.liSendKeyboardEvent config allocated keyCode keyAction modifiers)
  | .utf8Text text => some (stream.liSendUtf8TextEvent allocated text)
  | .controller buttons left right leftX leftY rightX rightY =>
    some (stream.liSendControllerEvent config allocated buttons left right leftX leftY rightX rightY)
  | .multiController number mask buttons left right leftX leftY rightX rightY =>
    some (stream.liSendMultiControllerEvent config allocated number mask buttons left right leftX leftY rightX rightY)
  | .highResScroll scrollAmount => stream.liSendHighResScrollEvent config allocated scrollAmount
  | .scroll scrollClicks => stream.liSendScrollEvent config allocated scrollClicks
  | .highResHScroll scrollAmount => some (stream.liSendHighResHScrollEvent config allocated scrollAmount)
  | .hscroll scrollClicks => some (stream.liSendHScrollEvent config allocated scrollClicks)
  | .touch packet => some (stream.liSendTouchEvent config allocated packet)
  | .pen packet => some (stream.liSendPenEvent config allocated packet)
  | .controllerArrival number mask type buttons capabilities =>
    some (stream.liSendControllerArrivalEvent config allocated number mask type buttons capabilities)
  | .controllerTouch packet => some (stream.liSendControllerTouchEvent config allocated packet)
  | .controllerMotion number motionType x y z =>
    stream.liSendControllerMotionEvent config allocated number motionType x y z
  | .controllerBattery packet => some (stream.liSendControllerBatteryEvent config allocated packet)

/-- The packets can be sent now. -/
def startInputStream (config : InputConfig) (allocated : Nat → Bool) (stream : InputStream) : InputStream :=
  (({ stream with initialized := true } : InputStream).sendEnableHaptics config allocated).2

/-! ## The sending thread -/

/-- Whether the packet that was taken can go out as the next one. Only what changes no buttons is
left out. -/
def batchable (holder next : PacketHolder) : Bool :=
  match holder.packet, next.packet with
  | .multiController origPkt, .multiController newPkt =>
    newPkt.buttonFlags = origPkt.buttonFlags && newPkt.buttonFlags2 = origPkt.buttonFlags2 &&
      newPkt.controllerNumber = origPkt.controllerNumber && newPkt.activeGamepadMask = origPkt.activeGamepadMask
  | .pen pen, .pen newPen =>
    TOUCH_EVENT_IS_BATCHABLE pen.eventType && pen.penButtons = newPen.penButtons && pen.eventType = newPen.eventType
  | _, _ => false

/-- A controller packet is updated, a pen packet replaced. -/
def batch (holder next : PacketHolder) : PacketHolder :=
  match holder.packet, next.packet with
  | .multiController origPkt, .multiController newPkt =>
    { holder with packet := .multiController { origPkt with
      leftTrigger := newPkt.leftTrigger
      rightTrigger := newPkt.rightTrigger
      leftStickX := newPkt.leftStickX
      leftStickY := newPkt.leftStickY
      rightStickX := newPkt.rightStickX
      rightStickY := newPkt.rightStickY } }
  | _, _ => next

/-- A send that fails ends the thread. -/
def sendInputPacket (stream : InputStream) (holder : PacketHolder) (ok : Bool) (after : InputSendThread) : InputStream :=
  if ok then { stream with sent := stream.sent ++ [holder], thread := after } else { stream with thread := .failed }

def INT16_MIN : Int := -0x8000
def INT16_MAX : Int := 0x7fff

/-- As much of a delta as one packet can carry. -/
def nextDelta (delta : Int) : Int :=
  if delta < INT16_MIN then INT16_MIN else if INT16_MAX < delta then INT16_MAX else delta

/-- One round of the loop that sends the motion. -/
def sendMotion (stream : InputStream) (holder : PacketHolder) (ok : Bool) : InputStream :=
  let state := stream.currentRelativeMouseState
  if state.deltaX = 0 ∧ state.deltaY = 0 then
    { stream with currentRelativeMouseState := { state with dirty := false }, thread := .waiting }
  else
    let x := nextDelta state.deltaX
    let y := nextDelta state.deltaY
    sendInputPacket
      { stream with
        currentRelativeMouseState := { state with deltaX := state.deltaX - x, deltaY := state.deltaY - y } }
      { holder with packet := .mouseMoveRel (Int16.ofInt x) (Int16.ofInt y) } ok stream.thread

def sendPosition (stream : InputStream) (holder : PacketHolder) (ok : Bool) : InputStream :=
  let state := stream.currentAbsoluteMouseState
  sendInputPacket { stream with currentAbsoluteMouseState := { state with dirty := false } }
    { holder with packet := .mouseMoveAbs state.x state.y (state.width - 1) (state.height - 1) } ok .waiting

/-- A gyroscope at rest is not lost on the way. -/
def sendSensor (stream : InputStream) (holder : PacketHolder) (packet : ControllerMotionPacket) (ok : Bool) :
    InputStream :=
  let state := stream.currentGamepadSensorState packet.controllerNumber packet.motionType
  let still := packet.motionType = LI_MOTION_TYPE_GYRO ∧ state.x.isZero ∧ state.y.isZero ∧ state.z.isZero
  (stream.setSensor packet.controllerNumber packet.motionType { state with dirty := false }).sendInputPacket
    { holder with reliable := still, packet := .controllerMotion { packet with x := state.x, y := state.y, z := state.z } }
    ok .waiting

def codePointLength (firstByte : UInt8) : Option Nat :=
  if firstByte &&& 0x80 = 0x00 then some 1
  else if firstByte &&& 0xE0 = 0xC0 then some 2
  else if firstByte &&& 0xF0 = 0xE0 then some 3
  else if firstByte &&& 0xF8 = 0xF0 then some 4
  else none

/-- One round of the loop that sends a text. For a code point that is cut off, what lies behind the
text would be sent. -/
def sendText (stream : InputStream) (holder : PacketHolder) (text : Bytes) (next : Nat) (ok : Bool) :
    Option InputStream :=
  match text[next]? with
  | none => some { stream with thread := .waiting }
  | some firstByte =>
    match codePointLength firstByte with
    | none => some { stream with thread := .waiting }
    | some length =>
      if next + length ≤ text.length then
        some (stream.sendInputPacket { holder with packet := .unicode ((text.drop next).take length) } ok
          (.busy holder (next + length)))
      else none

/-- What the thread does next. It holds the mutex of the motion where it reads it. -/
def inputSendThreadProc (stream : InputStream) (ok : Bool) : Option InputStream :=
  match stream.thread with
  | .ended => none
  | .failed => none
  | .waiting =>
    match stream.packetQueue.wait with
    | none => none
    | some (_, some holder, queue) => some { stream with packetQueue := queue, thread := .busy holder 0 }
    | some (_, none, queue) => some { stream with packetQueue := queue, thread := .ended }
  | .busy holder next =>
    match holder.packet with
    | .mouseMoveRel _ _ => some (stream.sendMotion holder ok)
    | .mouseMoveAbs _ _ _ _ => some (stream.sendPosition holder ok)
    | .controllerMotion packet => some (stream.sendSensor holder packet ok)
    | .unicode text => stream.sendText holder text next ok
    | _ =>
      match stream.packetQueue.peek with
      | (_, some following) =>
        if batchable holder following then
          some { stream with
            packetQueue := stream.packetQueue.poll.2.2
            thread := .busy (batch holder following) next }
        else some (stream.sendInputPacket holder ok .waiting)
      | (_, none) => some (stream.sendInputPacket holder ok .waiting)

/-- A call of the application with the code that it returns, or what the thread does next. -/
inductive Event
  | start (allocated : Nat → Bool)
  | call (request : Call) (allocated : Nat → Bool) (code : Int)
  | thread (ok : Bool)
  | stop
  | drain

def step (config : InputConfig) (stream : InputStream) : Event → Option InputStream
  | .start allocated => some (stream.startInputStream config allocated)
  | .call request allocated code =>
    (request.apply config allocated stream).bind fun returned => if returned.1 = code then some returned.2 else none
  | .thread ok => stream.inputSendThreadProc ok
  | .stop => some { stream with initialized := false }
  | .drain => some { stream with packetQueue := stream.packetQueue.signalDrain }

end InputStream

end MoonlightWeb.MoonlightCommonC

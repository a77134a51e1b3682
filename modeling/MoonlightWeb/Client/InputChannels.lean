import MoonlightWeb.Client.ByteBuffer
import MoonlightWeb.Client.StreamInput
import MoonlightWeb.Lib.Framing

/-! The senders of a `StreamInput`. All of them fill one buffer and hand it to a
channel, which takes it only while it is open. -/
namespace MoonlightWeb.Client
open MoonlightWeb.Throwing MoonlightWeb.Framing

inductive ChannelName where
  | keyboard | mouseClicks | mouseAbsolute | mouseRelative | touch | controllers
  | controller (id : Nat)
  deriving DecidableEq, Repr

structure InputChannels where
  buffer : ByteBuffer
  peer : Bool
  channels : OrderedMap ChannelName (RTCDataChannel (List UInt8))
  deriving DecidableEq

abbrev Send := Action BufferError InputChannels

structure Touch where
  identifier : ℤ
  clientX : ℚ
  clientY : ℚ
  force : ℚ
  radiusX : ℚ
  radiusY : ℚ
  rotationAngle : ℚ
  deriving DecidableEq

structure DOMRect where
  left : ℚ
  top : ℚ
  width : ℚ
  height : ℚ
  deriving DecidableEq

structure AsciiKey where
  virtualKey : Nat
  shift : Bool
  deriving DecidableEq, Repr

/-- A table of characters and their virtual keys. -/
def lookUpKey (table : List (Char × Nat)) (character : Char) : Option Nat :=
  (table.find? fun entry => entry.1 = character).map Prod.snd

def directKeys : List (Char × Nat) :=
  [(' ', 0x20), ('-', 0xbd), ('=', 0xbb), ('[', 0xdb), (']', 0xdd), ('\\', 0xdc), (';', 0xba),
    (Char.ofNat 39, 0xde), ('\x60', 0xc0), (',', 0xbc), ('.', 0xbe), ('/', 0xbf)]

def shiftedKeys : List (Char × Nat) :=
  [('!', 0x31), ('@', 0x32), ('#', 0x33), ('$', 0x34), ('%', 0x35), ('^', 0x36), ('&', 0x37),
    ('*', 0x38), ('(', 0x39), (')', 0x30), ('_', 0xbd), ('+', 0xbb), ('\x7b', 0xdb), ('\x7d', 0xdd),
    ('|', 0xdc), (':', 0xba), ('\x22', 0xde), ('~', 0xc0), ('<', 0xbc), ('>', 0xbe), ('?', 0xbf)]

/-- Letters and digits have the code of their capital as their key. -/
def asciiCharacterToKey (character : Char) : Option AsciiKey :=
  if 'a' ≤ character ∧ character ≤ 'z' then some ⟨character.toNat - 32, false⟩
  else if 'A' ≤ character ∧ character ≤ 'Z' then some ⟨character.toNat, true⟩
  else if '0' ≤ character ∧ character ≤ '9' then some ⟨character.toNat, false⟩
  else
    match lookUpKey directKeys character with
    | some key => some ⟨key, false⟩
    | none => (lookUpKey shiftedKeys character).map fun key => ⟨key, true⟩

def MASK_SHIFT : Nat := 1

/-- One coordinate within an extent. A quotient by zero is no number, which is
within every extent, or infinite, which is within none. -/
def normalized (offset extent : ℚ) : Option Number :=
  if extent = 0 then if offset = 0 then some none else none
  else if offset / extent < 0 ∨ 1 < offset / extent then none
  else some (some (offset / extent))

def calcNormalizedPosition (clientX clientY : ℚ) (rect : DOMRect) : Option (Number × Number) :=
  match normalized (clientX - rect.left) rect.width, normalized (clientY - rect.top) rect.height with
  | some x, some y => some (x, y)
  | _, _ => none

namespace InputChannels

def new : InputChannels := ⟨.new 1024, false, .empty⟩

def setPeer (sender : InputChannels) : InputChannels :=
  { sender with
    peer := true
    channels := [.keyboard, .mouseClicks, .mouseAbsolute, .mouseRelative, .touch,
      .controllers].foldl (fun channels name => channels.set name .create)
        (if sender.peer then .empty else sender.channels) }

def put (fields : Put Unit) : Send Unit := do
  let sender ← get
  set { sender with buffer := (perform fields sender.buffer).2 }
  match (perform fields sender.buffer).1 with
  | .ok _ => pure ()
  | .error error => throw error

def resetBuffer : Send Unit := do
  let sender ← get
  set { sender with buffer := sender.buffer.reset }

def trySendChannel (name : ChannelName) : Send Unit := do
  let sender ← get
  match sender.channels.get name with
  | some channel =>
    if channel.readyState = .opened then
      let buffer := sender.buffer.flip
      if buffer.getReadView = [] then
        set { sender with buffer }
        throw .illegalBufferSize
      else
        set { sender with
          buffer, channels := sender.channels.set name (channel.trySend buffer.getReadView) }
    else pure ()
  | none => pure ()

/-- What most senders do: a message of its own for one channel. -/
def sendMessage (name : ChannelName) (fields : Put Unit) : Send Unit := do
  resetBuffer
  put fields
  trySendChannel name

def keyFields (isDown : Bool) (key modifiers : Nat) : Put Unit := do
  putU8 (some 0)
  putBool isDown
  putU8 (some modifiers)
  putU16 (some key)

/-- The one sender that does not reset the buffer. -/
def sendKey (isDown : Bool) (key modifiers : Nat) : Send Unit := do
  put (keyFields isDown key modifiers)
  trySendChannel .keyboard

def sendKeyEvent (isDown : Bool) (key : Option Nat) (modifiers : Nat) : Send Unit := do
  resetBuffer
  match key with
  | none | some 0 => pure ()
  | some key => sendKey isDown key modifiers

def textFields (chunk : List Char) : Put Unit := do
  putU8 (some 1)
  putU8 (some chunk.length)
  putUtf8 chunk

def sendUnicodeText (text : List Char) : Send Unit :=
  (chunks 255 text).forM fun chunk => sendMessage .keyboard (textFields chunk)

def flushUnicodeRemainder (unicodeRemainder : List Char) : Send Unit :=
  if unicodeRemainder = [] then pure () else sendUnicodeText unicodeRemainder

/-- The loop of `sendText`. -/
def sendCharacters (unicodeRemainder : List Char) : List Char → Send Unit
  | [] => flushUnicodeRemainder unicodeRemainder
  | character :: rest =>
    match asciiCharacterToKey character with
    | none => sendCharacters (unicodeRemainder ++ [character]) rest
    | some key => do
      flushUnicodeRemainder unicodeRemainder
      let modifiers := if key.shift then MASK_SHIFT else 0
      sendKey true key.virtualKey modifiers
      sendKey false key.virtualKey modifiers
      sendCharacters [] rest

def sendText (text : List Char) : Send Unit := sendCharacters [] text

def sendMouseMove (movementX movementY : ℚ) : Send Unit :=
  sendMessage .mouseRelative do
    putU8 (some 0)
    putI16 (some movementX)
    putI16 (some movementY)

def sendMousePosition (x y : Number) (referenceWidth referenceHeight : ℚ) : Send Unit :=
  sendMessage .mouseAbsolute do
    putU8 (some 1)
    putI16 x
    putI16 y
    putI16 (some referenceWidth)
    putI16 (some referenceHeight)

def sendMouseButton (isDown : Bool) (button : Nat) : Send Unit :=
  sendMessage .mouseClicks do
    putU8 (some 2)
    putBool isDown
    putU8 (some button)

def wheelHighResFields (deltaX deltaY : ℤ) : Put Unit := do
  putU8 (some 3)
  putI16 (some deltaX)
  putI16 (some deltaY)

def sendMouseWheelHighRes (deltaX deltaY : ℤ) : Send Unit :=
  sendMessage .mouseClicks (wheelHighResFields deltaX deltaY)

def wheelFields (deltaX deltaY : ℤ) : Put Unit := do
  putU8 (some 4)
  putI8 (some deltaX)
  putI8 (some deltaY)

def sendMouseWheel (deltaX deltaY : ℤ) : Send Unit :=
  sendMessage .mouseClicks (wheelFields deltaX deltaY)

/-- A touch outside the picture is given up when its id is already written. -/
def sendTouch (type : Nat) (touch : Touch) (rect : DOMRect) : Send Unit := do
  resetBuffer
  put do
    putU8 (some type)
    putU32 (some touch.identifier)
  match calcNormalizedPosition touch.clientX touch.clientY rect with
  | none => pure ()
  | some (x, y) =>
    put do
      putF32 x
      putF32 y
      putF32 (some touch.force)
      putF32 (some touch.radiusX)
      putF32 (some touch.radiusY)
      putU16 (some touch.rotationAngle)
    trySendChannel .touch

def sendControllerAdd (id supportedButtons capabilities : Nat) : Send Unit :=
  sendMessage .controllers do
    putU8 (some 0)
    putU8 (some id)
    putU32 (some supportedButtons)
    putU16 (some capabilities)

def sendControllerRemove (id : Nat) : Send Unit :=
  sendMessage .controllers do
    putU8 (some 1)
    putU8 (some id)

def tryOpenControllerChannel (id : Nat) : Send Unit := do
  let sender ← get
  match sender.channels.get (.controller id) with
  | some _ => pure ()
  | none =>
    if sender.peer then
      set { sender with channels := sender.channels.set (.controller id) .create }
    else pure ()

def clamped (low high value : ℚ) : ℚ := max low (min high value)

def sendController (id : Nat) (state : GamepadState) : Send Unit := do
  resetBuffer
  put do
    putU8 (some 0)
    putU32 (some state.buttonFlags.toNat)
    putU8 (some (clamped 0 1 state.leftTrigger * 255))
    putU8 (some (clamped 0 1 state.rightTrigger * 255))
    putI16 (some (clamped (-1) 1 state.leftStickX * 32767))
    putI16 (some (clamped (-1) 1 (-state.leftStickY) * 32767))
    putI16 (some (clamped (-1) 1 state.rightStickX * 32767))
    putI16 (some (clamped (-1) 1 (-state.rightStickY) * 32767))
  tryOpenControllerChannel id
  trySendChannel (.controller id)

end InputChannels

/-- One call of a sender. -/
inductive SendOperation where
  | keyEvent (isDown : Bool) (key : Option Nat) (modifiers : Nat)
  | key (isDown : Bool) (key modifiers : Nat)
  | text (text : List Char)
  | mouseMove (movementX movementY : ℚ)
  | mousePosition (x y : Number) (referenceWidth referenceHeight : ℚ)
  | mouseButton (isDown : Bool) (button : Nat)
  | mouseWheelHighRes (deltaX deltaY : ℤ)
  | mouseWheel (deltaX deltaY : ℤ)
  | touch (type : Nat) (touch : Touch) (rect : DOMRect)
  | controllerAdd (id supportedButtons capabilities : Nat)
  | controllerRemove (id : Nat)
  | controller (id : Nat) (state : GamepadState)
  deriving DecidableEq

open InputChannels in
def SendOperation.send : SendOperation → Send Unit
  | .keyEvent isDown virtualKey modifiers => sendKeyEvent isDown virtualKey modifiers
  | .key isDown virtualKey modifiers => sendKey isDown virtualKey modifiers
  | .text characters => sendText characters
  | .mouseMove movementX movementY => sendMouseMove movementX movementY
  | .mousePosition x y referenceWidth referenceHeight =>
    sendMousePosition x y referenceWidth referenceHeight
  | .mouseButton isDown button => sendMouseButton isDown button
  | .mouseWheelHighRes deltaX deltaY => sendMouseWheelHighRes deltaX deltaY
  | .mouseWheel deltaX deltaY => sendMouseWheel deltaX deltaY
  | .touch type contact rect => sendTouch type contact rect
  | .controllerAdd id supportedButtons capabilities =>
    sendControllerAdd id supportedButtons capabilities
  | .controllerRemove id => sendControllerRemove id
  | .controller id state => sendController id state

namespace InputChannels

/-- A call of a sender, or a change of the channels between two calls. -/
inductive Event where
  | send (operation : SendOperation)
  | setPeer
  | channel (name : ChannelName) (readyState : ReadyState)
  deriving DecidableEq

def step (sender : InputChannels) : Event → Option InputChannels
  | .send operation => some (perform operation.send sender).2
  | .setPeer => some sender.setPeer
  | .channel name readyState =>
    (sender.channels.get name).map fun channel =>
      { sender with channels := sender.channels.set name { channel with readyState } }

theorem perform_put (fields : Put Unit) (sender : InputChannels) :
    perform (put fields) sender = ((perform fields sender.buffer).1,
      { sender with buffer := (perform fields sender.buffer).2 }) := by
  unfold put
  rw [perform_get_bind, perform_bind_ok (perform_set _ _)]
  cases (perform fields sender.buffer).1 <;> rfl

/-- A channel is open with these messages on it. -/
structure ChannelOpen (sender : InputChannels) (name : ChannelName) (sent : List (List UInt8)) :
    Prop where
  opened : sender.channels.get name = some ⟨.opened, sent⟩
  size : sender.buffer.bytes.length = 1024

/-- What was written since the cursor was at the start goes out as one message. -/
theorem sends_written {sender : InputChannels} (held : sender.ChannelOpen name sent)
    (room : sender.buffer.fits data) (filled : data ≠ []) :
    ∃ after, perform (trySendChannel name)
        { sender with buffer := sender.buffer.written data } = (.ok (), after) ∧
      after.ChannelOpen name ((sender.buffer.bytes.take sender.buffer.position ++ data) :: sent) ∧
      after.buffer.position = 0 := by
  have view := ByteBuffer.read_flipped room
  have some : sender.buffer.bytes.take sender.buffer.position ++ data ≠ [] := by
    simp [filled]
  let message := sender.buffer.bytes.take sender.buffer.position ++ data
  refine ⟨{ sender with
    buffer := (sender.buffer.written data).flip
    channels := sender.channels.set name ⟨.opened, message :: sent⟩ }, ?_, ?_, rfl⟩
  · unfold trySendChannel
    rw [perform_get_bind]
    simp only [held.opened, view, some, if_true, if_false, RTCDataChannel.trySend]
    exact perform_set _ _
  · constructor
    · rw [OrderedMap.get_set, if_pos rfl]
    · exact (ByteBuffer.written_size room).trans held.size

/-- A message that fits the buffer goes out as it was written. -/
theorem sendMessage_open {sender : InputChannels} (held : sender.ChannelOpen name sent)
    (wrote : ∀ buffer : ByteBuffer, buffer.fits data →
      perform fields buffer = (.ok (), buffer.written data))
    (filled : data ≠ []) (short : data.length ≤ 1024) :
    ∃ after, perform (sendMessage name fields) sender = (.ok (), after) ∧
      after.ChannelOpen name (data :: sent) ∧ after.buffer.position = 0 := by
  let cleared : InputChannels := { sender with buffer := sender.buffer.reset }
  have resets : perform resetBuffer sender = (.ok (), cleared) := rfl
  have heldCleared : cleared.ChannelOpen name sent := ⟨held.opened, held.size⟩
  have start : cleared.buffer.position = 0 := rfl
  have fits : cleared.buffer.fits data := by
    rw [ByteBuffer.fits, start, heldCleared.size]
    omega
  obtain ⟨after, sends, opened, reset⟩ := sends_written heldCleared fits filled
  refine ⟨after, ?_, opened, reset⟩
  unfold sendMessage
  rw [perform_bind_ok resets, perform_bind, perform_put, wrote _ fits]
  exact sends

end InputChannels

end MoonlightWeb.Client

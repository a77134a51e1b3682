import MoonlightWeb.Client.InputChannels
import MoonlightWeb.Client.Registration

/-! What arrives on the keyboard channel. A key is written where the buffer's
cursor stands, so it is framed by itself only if the last message left the
buffer, or was given up before it wrote anything. -/
namespace MoonlightWeb.Client
open MoonlightWeb.Machine MoonlightWeb.Throwing MoonlightWeb.Framing

def keyMessage (isDown : Bool) (key modifiers : Nat) : List UInt8 :=
  [0, if isDown then 1 else 0, UInt8.ofNat modifiers] ++ u16Bytes (UInt16.ofNat key)

def textMessage (chunk : List Char) : List UInt8 :=
  [1, UInt8.ofNat chunk.length] ++ utf8Bytes chunk

/-- The messages of a text: its keys, and what has none in chunks between them. -/
def textMessages (unicodeRemainder : List Char) : List Char → List (List UInt8)
  | [] => (chunks 255 unicodeRemainder).map textMessage
  | character :: rest =>
    match asciiCharacterToKey character with
    | none => textMessages (unicodeRemainder ++ [character]) rest
    | some key =>
      let modifiers := if key.shift then MASK_SHIFT else 0
      (chunks 255 unicodeRemainder).map textMessage ++
        keyMessage true key.virtualKey modifiers :: keyMessage false key.virtualKey modifiers ::
          textMessages [] rest

/-- The messages a call is to put on the keyboard channel. -/
def SendOperation.keyboardMessages : SendOperation → List (List UInt8)
  | .keyEvent _ none _ => []
  | .keyEvent isDown (some virtualKey) modifiers =>
    if virtualKey = 0 then [] else [keyMessage isDown virtualKey modifiers]
  | .key isDown virtualKey modifiers => [keyMessage isDown virtualKey modifiers]
  | .text characters => textMessages [] characters
  | _ => []

def SendOperation.isKeyboard : SendOperation → Bool
  | .keyEvent .. | .key .. | .text .. => true
  | _ => false

def startsWithKey (text : List Char) : Bool :=
  match text with
  | [] => false
  | character :: _ => (asciiCharacterToKey character).isSome

/-- Whether a call writes a key before it resets the buffer. -/
def SendOperation.writesKeyFirst : SendOperation → Bool
  | .key .. => true
  | .text characters => startsWithKey characters
  | _ => false

namespace InputChannels

theorem writes_keyFields (isDown : Bool) (key modifiers : Nat) :
    Writes (keyFields isDown key modifiers) (keyMessage isDown key modifiers) := by
  have type : Writes (putU8 (some 0)) [0] := writes_putU8 0
  have down : Writes (putBool isDown) [if isDown then 1 else 0] := by
    cases isDown
    · exact writes_putU8 0
    · exact writes_putU8 1
  have code : Writes (putU16 (some key)) (u16Bytes (UInt16.ofNat key)) := by
    rw [putU16, toInteger_natCast, u16_ofInt_natCast]
    exact writes_putBytes _
  have all := writes_bind type (writes_bind down (writes_bind (writes_putU8 modifiers) code))
  simpa [keyFields, keyMessage] using all

theorem length_keyMessage (isDown : Bool) (key modifiers : Nat) :
    (keyMessage isDown key modifiers).length = 5 := rfl

/-- A key that is written from the start of the buffer is a message of its own;
from anywhere else it comes behind what is there. -/
theorem sendKey_open {sender : InputChannels} (held : sender.ChannelOpen .keyboard sent)
    (room : sender.buffer.position + 5 ≤ 1024) (isDown : Bool) (key modifiers : Nat) :
    ∃ after, perform (sendKey isDown key modifiers) sender = (.ok (), after) ∧
      after.ChannelOpen .keyboard ((sender.buffer.bytes.take sender.buffer.position ++
        keyMessage isDown key modifiers) :: sent) ∧ after.buffer.position = 0 := by
  have fits : sender.buffer.fits (keyMessage isDown key modifiers) := by
    rw [ByteBuffer.fits, length_keyMessage, held.size]
    exact room
  have wrote := (writes_keyFields isDown key modifiers).room sender.buffer fits
  obtain ⟨after, sends, opened, reset⟩ := sends_written held fits (List.cons_ne_nil _ _)
  refine ⟨after, ?_, opened, reset⟩
  unfold sendKey
  rw [perform_bind, perform_put, wrote]
  exact sends

theorem sendKey_reset {sender : InputChannels} (held : sender.ChannelOpen .keyboard sent)
    (reset : sender.buffer.position = 0) (isDown : Bool) (key modifiers : Nat) :
    ∃ after, perform (sendKey isDown key modifiers) sender = (.ok (), after) ∧
      after.ChannelOpen .keyboard (keyMessage isDown key modifiers :: sent) ∧
      after.buffer.position = 0 := by
  have room : sender.buffer.position + 5 ≤ 1024 := by omega
  have sends := sendKey_open held room isDown key modifiers
  rwa [reset, List.take_zero, List.nil_append] at sends

theorem sendKey_overflows {sender : InputChannels} (held : sender.ChannelOpen .keyboard sent)
    (tight : 1024 < sender.buffer.position + 5) (isDown : Bool) (key modifiers : Nat) :
    ∃ after, perform (sendKey isDown key modifiers) sender = (.error .range, after) ∧
      after.channels = sender.channels := by
  have overflows : ¬ sender.buffer.fits (keyMessage isDown key modifiers) := by
    rw [ByteBuffer.fits, length_keyMessage, held.size]
    omega
  obtain ⟨buffer, threw⟩ := (writes_keyFields isDown key modifiers).overflow sender.buffer overflows
  have put : perform (put (keyFields isDown key modifiers)) sender =
      (.error .range, { sender with buffer }) := by rw [perform_put, threw]
  exact ⟨_, perform_bind_error put, rfl⟩

theorem utf8Bytes_length_le (text : List Char) : (utf8Bytes text).length ≤ 4 * text.length := by
  induction text with
  | nil => exact Nat.zero_le _
  | cons char rest ih =>
    have short := char.utf8Size_le_four
    simp only [utf8Bytes, List.flatMap_cons, List.length_append, List.length_cons,
      String.length_utf8EncodeChar] at ih ⊢
    omega

theorem perform_textFields {buffer : ByteBuffer} (room : buffer.fits (textMessage chunk)) :
    perform (textFields chunk) buffer = (.ok (), buffer.written (textMessage chunk)) := by
  obtain ⟨header, body⟩ := (ByteBuffer.fits_append _ _).mp room
  have wroteHeader : Writes (putU8 (some 1) >>= fun _ => putU8 (some chunk.length))
      [1, UInt8.ofNat chunk.length] := writes_bind (writes_putU8 1) (writes_putU8 chunk.length)
  have joined : textFields chunk =
      (putU8 (some 1) >>= fun _ => putU8 (some chunk.length)) >>= fun _ => putUtf8 chunk := by
    rw [bind_assoc]
    rfl
  rw [joined, perform_bind_ok (wroteHeader.room _ header), perform_putUtf8 body,
    ByteBuffer.written_written header]
  rfl

/-- A chunk always fits the buffer, whatever the size of its characters. -/
theorem sendChunk_open {sender : InputChannels} (held : sender.ChannelOpen .keyboard sent)
    (short : chunk.length ≤ 255) :
    ∃ after, perform (sendMessage .keyboard (textFields chunk)) sender = (.ok (), after) ∧
      after.ChannelOpen .keyboard (textMessage chunk :: sent) ∧ after.buffer.position = 0 := by
  have bytes := utf8Bytes_length_le chunk
  refine sendMessage_open held (fun buffer room => perform_textFields room) (by simp [textMessage]) ?_
  simp only [textMessage, List.length_append, List.length_cons, List.length_nil]
  omega

/-- Only a list without chunks leaves the cursor where it was. -/
theorem sendChunks_open (list : List (List Char)) {sender : InputChannels}
    (held : sender.ChannelOpen .keyboard sent) (short : ∀ chunk ∈ list, chunk.length ≤ 255) :
    ∃ after, perform (list.forM fun chunk => sendMessage .keyboard (textFields chunk)) sender =
        (.ok (), after) ∧
      after.ChannelOpen .keyboard ((list.map textMessage).reverse ++ sent) ∧
      (list = [] ∧ after = sender ∨ after.buffer.position = 0) := by
  induction list generalizing sender sent with
  | nil => exact ⟨sender, rfl, held, .inl ⟨rfl, rfl⟩⟩
  | cons chunk rest ih =>
    obtain ⟨middle, sends, opened, reset⟩ := sendChunk_open held (short chunk (by simp))
    obtain ⟨after, others, final, cursor⟩ := ih opened fun chunk member =>
      short chunk (by simp [member])
    refine ⟨after, ?_, ?_, .inr ?_⟩
    · exact (perform_bind_ok sends).trans others
    · simpa using final
    · rcases cursor with ⟨-, rfl⟩ | start
      · exact reset
      · exact start

theorem flush_open {sender : InputChannels} (held : sender.ChannelOpen .keyboard sent)
    (unicodeRemainder : List Char) :
    ∃ after, perform (flushUnicodeRemainder unicodeRemainder) sender = (.ok (), after) ∧
      after.ChannelOpen .keyboard (((chunks 255 unicodeRemainder).map textMessage).reverse ++ sent) ∧
      (unicodeRemainder = [] ∧ after = sender ∨ after.buffer.position = 0) := by
  unfold flushUnicodeRemainder
  by_cases empty : unicodeRemainder = []
  · subst empty
    exact ⟨sender, rfl, held, .inl ⟨rfl, rfl⟩⟩
  · rw [if_neg empty]
    obtain ⟨after, sends, opened, cursor⟩ := sendChunks_open (chunks 255 unicodeRemainder) held
      fun chunk member => mem_chunks_length member
    refine ⟨after, sends, opened, .inr ?_⟩
    rcases cursor with ⟨none, -⟩ | start
    · exact absurd none (chunks_ne_nil 255 empty)
    · exact start

/-- A text is framed if the cursor is at the start before its first key. -/
theorem sendCharacters_open (text unicodeRemainder : List Char) {sender : InputChannels}
    (held : sender.ChannelOpen .keyboard sent)
    (ready : sender.buffer.position = 0 ∨ unicodeRemainder ≠ [] ∨ startsWithKey text = false) :
    ∃ after, perform (sendCharacters unicodeRemainder text) sender = (.ok (), after) ∧
      after.ChannelOpen .keyboard ((textMessages unicodeRemainder text).reverse ++ sent) := by
  induction text generalizing unicodeRemainder sender sent with
  | nil =>
    obtain ⟨after, sends, opened, -⟩ := flush_open held unicodeRemainder
    exact ⟨after, sends, opened⟩
  | cons character rest ih =>
    unfold sendCharacters textMessages
    cases typed : asciiCharacterToKey character with
    | none => exact ih _ held (.inr (.inl (by simp)))
    | some key =>
      obtain ⟨flushed, flushes, open₀, cursor⟩ := flush_open held unicodeRemainder
      have start : flushed.buffer.position = 0 := by
        rcases cursor with ⟨none, rfl⟩ | start
        · rcases ready with reset | some | slow
          · exact reset
          · exact absurd none some
          · simp [startsWithKey, typed] at slow
        · exact start
      obtain ⟨down, presses, open₁, start₁⟩ := sendKey_reset open₀ start true key.virtualKey
        (if key.shift then MASK_SHIFT else 0)
      obtain ⟨up, releases, open₂, start₂⟩ := sendKey_reset open₁ start₁ false key.virtualKey
        (if key.shift then MASK_SHIFT else 0)
      obtain ⟨after, others, final⟩ := ih [] open₂ (.inl start₂)
      refine ⟨after, ?_, by simpa using final⟩
      rw [perform_bind_ok flushes, perform_bind_ok presses, perform_bind_ok releases, others]

theorem starts_with_key {text : List Char} (starts : startsWithKey text = true) :
    ∃ character rest key, text = character :: rest ∧ asciiCharacterToKey character = some key := by
  cases text with
  | nil => cases starts
  | cons character rest =>
    obtain ⟨key, typed⟩ := Option.isSome_iff_exists.mp starts
    exact ⟨character, rest, key, rfl, typed⟩

/-- A call that starts with a key takes what is before the cursor into that
key's message, where the buffer has room for both. -/
theorem sends_behind {operation : SendOperation} (keyFirst : operation.writesKeyFirst = true)
    {sender : InputChannels} (held : sender.ChannelOpen .keyboard sent)
    (room : sender.buffer.position + 5 ≤ 1024) :
    ∃ first rest, operation.keyboardMessages = first :: rest ∧ first.length = 5 ∧
      ∃ after, perform operation.send sender = (.ok (), after) ∧ after.ChannelOpen .keyboard
        (rest.reverse ++ (sender.buffer.bytes.take sender.buffer.position ++ first) :: sent) := by
  cases operation with
  | key isDown key modifiers =>
    obtain ⟨after, sends, opened, -⟩ := sendKey_open held room isDown key modifiers
    exact ⟨_, [], rfl, rfl, after, sends, opened⟩
  | text characters =>
    obtain ⟨character, rest, key, rfl, typed⟩ := starts_with_key keyFirst
    obtain ⟨down, presses, open₁, start₁⟩ := sendKey_open held room true key.virtualKey
      (if key.shift then MASK_SHIFT else 0)
    obtain ⟨up, releases, open₂, start₂⟩ := sendKey_reset open₁ start₁ false key.virtualKey
      (if key.shift then MASK_SHIFT else 0)
    obtain ⟨after, others, final⟩ := sendCharacters_open rest [] open₂ (.inl start₂)
    refine ⟨keyMessage true key.virtualKey (if key.shift then MASK_SHIFT else 0),
      keyMessage false key.virtualKey (if key.shift then MASK_SHIFT else 0) ::
        textMessages [] rest, ?_, rfl, after, ?_, ?_⟩
    · simp [SendOperation.keyboardMessages, textMessages, typed, chunks, chunksWithin]
    · have flushes : perform (flushUnicodeRemainder []) sender = (.ok (), sender) := rfl
      simp only [SendOperation.send, sendText, sendCharacters, typed]
      rw [perform_bind_ok flushes, perform_bind_ok presses, perform_bind_ok releases, others]
    · simpa using final
  | _ => simp [SendOperation.writesKeyFirst] at keyFirst

theorem throws_behind {operation : SendOperation} (keyFirst : operation.writesKeyFirst = true)
    {sender : InputChannels} (held : sender.ChannelOpen .keyboard sent)
    (tight : 1024 < sender.buffer.position + 5) :
    ∃ after, perform operation.send sender = (.error .range, after) ∧
      after.channels = sender.channels := by
  cases operation with
  | key isDown key modifiers => exact sendKey_overflows held tight isDown key modifiers
  | text characters =>
    obtain ⟨character, rest, key, rfl, typed⟩ := starts_with_key keyFirst
    obtain ⟨after, threw, same⟩ := sendKey_overflows held tight true key.virtualKey
      (if key.shift then MASK_SHIFT else 0)
    refine ⟨after, ?_, same⟩
    have flushes : perform (flushUnicodeRemainder []) sender = (.ok (), sender) := rfl
    simp only [SendOperation.send, sendText, sendCharacters, typed]
    rw [perform_bind_ok flushes, perform_bind_error threw]
  | _ => simp [SendOperation.writesKeyFirst] at keyFirst

/-- A relation of two states: the buffer keeps its size, and the keyboard
channel is the same if it met the condition before. -/
def LeavesKeyboard (quiet : Option (RTCDataChannel (List UInt8)) → Prop)
    (before after : InputChannels) : Prop :=
  SameSize before.buffer after.buffer ∧
    (quiet (before.channels.get .keyboard) →
      after.channels.get .keyboard = before.channels.get .keyboard)

section Leaves
variable {quiet : Option (RTCDataChannel (List UInt8)) → Prop}

instance : Std.Refl (LeavesKeyboard quiet) := ⟨fun _ => ⟨rfl, fun _ => rfl⟩⟩

instance : IsTrans InputChannels (LeavesKeyboard quiet) where
  trans _ _ _ first second := by
    refine ⟨IsTrans.trans _ _ _ first.1 second.1, fun before => ?_⟩
    have middle := first.2 before
    exact (second.2 (middle ▸ before)).trans middle

theorem put_leaves {fields : Put Unit} (sized : Within SameSize fields) :
    Within (LeavesKeyboard quiet) (put fields) := by
  intro sender
  rw [perform_put]
  exact ⟨sized sender.buffer, fun _ => rfl⟩

theorem reset_leaves : Within (LeavesKeyboard quiet) resetBuffer :=
  fun _ => ⟨rfl, fun _ => rfl⟩

theorem trySend_leaves (name : ChannelName)
    (idle : name = .keyboard → ∀ channel, quiet (some channel) → channel.readyState ≠ .opened) :
    Within (LeavesKeyboard quiet) (trySendChannel name) := by
  intro sender
  unfold trySendChannel
  rw [perform_get_bind]
  cases found : sender.channels.get name with
  | none => exact ⟨rfl, fun _ => rfl⟩
  | some channel =>
    by_cases opened : channel.readyState = .opened
    · simp only [opened, if_true]
      split
      · exact ⟨rfl, fun _ => rfl⟩
      · refine ⟨rfl, fun before => ?_⟩
        have other : name ≠ .keyboard := by
          intro same
          subst same
          rw [found] at before
          exact idle rfl channel before opened
        rw [perform_set, OrderedMap.get_set, if_neg other.symm]
    · simp only [opened, if_false]
      exact ⟨rfl, fun _ => rfl⟩

theorem sendMessage_leaves (name : ChannelName) {fields : Put Unit}
    (sized : Within SameSize fields)
    (idle : name = .keyboard → ∀ channel, quiet (some channel) → channel.readyState ≠ .opened) :
    Within (LeavesKeyboard quiet) (sendMessage name fields) :=
  within_bind reset_leaves fun _ => within_bind (put_leaves sized) fun _ =>
    trySend_leaves name idle

theorem sendKey_leaves (isDown : Bool) (key modifiers : Nat)
    (idle : ∀ channel, quiet (some channel) → channel.readyState ≠ .opened) :
    Within (LeavesKeyboard quiet) (sendKey isDown key modifiers) := by
  have sized : Within SameSize (keyFields isDown key modifiers) :=
    within_bind (putBytes_same_size _) fun _ => within_bind (putBytes_same_size _) fun _ =>
      within_bind (putBytes_same_size _) fun _ => putBytes_same_size _
  exact within_bind (put_leaves sized) fun _ => trySend_leaves .keyboard fun _ => idle

theorem flush_leaves (unicodeRemainder : List Char)
    (idle : ∀ channel, quiet (some channel) → channel.readyState ≠ .opened) :
    Within (LeavesKeyboard quiet) (flushUnicodeRemainder unicodeRemainder) := by
  unfold flushUnicodeRemainder
  split
  · exact within_pure _
  · refine within_forM _ fun chunk => sendMessage_leaves .keyboard ?_ fun _ => idle
    exact within_bind (putBytes_same_size _) fun _ => within_bind (putBytes_same_size _) fun _ =>
      putUtf8_same_size chunk

theorem sendCharacters_leaves (text unicodeRemainder : List Char)
    (idle : ∀ channel, quiet (some channel) → channel.readyState ≠ .opened) :
    Within (LeavesKeyboard quiet) (sendCharacters unicodeRemainder text) := by
  induction text generalizing unicodeRemainder with
  | nil => exact flush_leaves unicodeRemainder idle
  | cons character rest ih =>
    unfold sendCharacters
    cases asciiCharacterToKey character with
    | none => exact ih _
    | some key =>
      refine within_bind (flush_leaves unicodeRemainder idle) fun _ => ?_
      refine within_bind (sendKey_leaves true key.virtualKey _ idle) fun _ => ?_
      exact within_bind (sendKey_leaves false key.virtualKey _ idle) fun _ => ih []

theorem tryOpen_leaves (id : Nat) : Within (LeavesKeyboard quiet) (tryOpenControllerChannel id) := by
  intro sender
  unfold tryOpenControllerChannel
  rw [perform_get_bind]
  cases sender.channels.get (.controller id) with
  | some channel => exact ⟨rfl, fun _ => rfl⟩
  | none =>
    by_cases peer : sender.peer = true
    · simp only [peer, if_true, perform_set]
      refine ⟨rfl, fun _ => ?_⟩
      rw [OrderedMap.get_set, if_neg (by simp)]
    · simp only [peer]
      exact ⟨rfl, fun _ => rfl⟩

theorem other_leaves (operation : SendOperation) (other : operation.isKeyboard = false) :
    Within (LeavesKeyboard quiet) operation.send := by
  have put (data : List UInt8) {rest : Put Unit} (later : Within SameSize rest) :
      Within SameSize (putBytes data >>= fun _ => rest) :=
    within_bind (putBytes_same_size data) fun _ => later
  have last (data : List UInt8) : Within SameSize (putBytes data) := putBytes_same_size data
  have elsewhere (name : ChannelName) (away : name ≠ .keyboard) {fields : Put Unit}
      (sized : Within SameSize fields) : Within (LeavesKeyboard quiet) (sendMessage name fields) :=
    sendMessage_leaves name sized fun same => absurd same away
  cases operation with
  | keyEvent | key | text => simp [SendOperation.isKeyboard] at other
  | mouseMove movementX movementY =>
    exact elsewhere .mouseRelative (by simp) (put _ (put _ (last _)))
  | mousePosition x y referenceWidth referenceHeight =>
    exact elsewhere .mouseAbsolute (by simp) (put _ (put _ (put _ (put _ (last _)))))
  | mouseButton isDown button => exact elsewhere .mouseClicks (by simp) (put _ (put _ (last _)))
  | mouseWheelHighRes deltaX deltaY =>
    exact elsewhere .mouseClicks (by simp) (put _ (put _ (last _)))
  | mouseWheel deltaX deltaY => exact elsewhere .mouseClicks (by simp) (put _ (put _ (last _)))
  | controllerAdd id supportedButtons capabilities =>
    exact elsewhere .controllers (by simp) (put _ (put _ (put _ (last _))))
  | controllerRemove id => exact elsewhere .controllers (by simp) (put _ (last _))
  | touch type touch rect =>
    refine within_bind reset_leaves fun _ => within_bind (put_leaves (put _ (last _))) fun _ => ?_
    cases calcNormalizedPosition touch.clientX touch.clientY rect with
    | none => exact within_pure _
    | some position =>
      refine within_bind (put_leaves (put _ (put _ (put _ (put _ (put _ (last _))))))) fun _ => ?_
      exact trySend_leaves .touch fun same => absurd same (by simp)
  | controller id state =>
    refine within_bind reset_leaves fun _ => within_bind (put_leaves ?_) fun _ => ?_
    · exact put _ (put _ (put _ (put _ (put _ (put _ (put _ (last _)))))))
    · refine within_bind (tryOpen_leaves id) fun _ => ?_
      exact trySend_leaves (.controller id) fun same => absurd same (by simp)

/-- Calls that are about keys leave the keyboard channel alone while it is not open. -/
theorem send_leaves (operation : SendOperation)
    (idle : ∀ channel, quiet (some channel) → channel.readyState ≠ .opened) :
    Within (LeavesKeyboard quiet) operation.send := by
  cases operation with
  | keyEvent isDown key modifiers =>
    refine within_bind reset_leaves fun _ => ?_
    match key with
    | none | some 0 => exact within_pure _
    | some (key + 1) => exact sendKey_leaves isDown (key + 1) modifiers idle
  | key isDown key modifiers => exact sendKey_leaves isDown key modifiers idle
  | text characters => exact sendCharacters_leaves characters [] idle
  | _ => exact other_leaves _ rfl

end Leaves

theorem sendKeyEvent_open {sender : InputChannels} (held : sender.ChannelOpen .keyboard sent)
    (isDown : Bool) (key : Option Nat) (modifiers : Nat) :
    ∃ after, perform (sendKeyEvent isDown key modifiers) sender = (.ok (), after) ∧
      after.ChannelOpen .keyboard
        ((SendOperation.keyEvent isDown key modifiers).keyboardMessages.reverse ++ sent) := by
  let cleared : InputChannels := { sender with buffer := sender.buffer.reset }
  have resets : perform resetBuffer sender = (.ok (), cleared) := rfl
  have opened : cleared.ChannelOpen .keyboard sent := ⟨held.opened, held.size⟩
  unfold sendKeyEvent
  rw [perform_bind_ok resets]
  match key with
  | none | some 0 => exact ⟨cleared, rfl, opened⟩
  | some (key + 1) =>
    obtain ⟨after, sends, final, -⟩ := sendKey_reset opened rfl isDown (key + 1) modifiers
    exact ⟨after, sends, final⟩

/-- A call put its own messages on the open keyboard channel: in their order, and all
of them unless it threw. -/
def SendsFramed (sender : InputChannels) (operation : SendOperation) (sent : List (List UInt8)) :
    Prop :=
  ∃ added, (perform operation.send sender).2.channels.get .keyboard =
      some ⟨.opened, added.reverse ++ sent⟩ ∧
    added <+: operation.keyboardMessages ∧
    ((perform operation.send sender).1 = .ok () → added = operation.keyboardMessages)

/-- A call puts its own messages on the keyboard channel if that is open, else nothing. -/
def Framed (sender : InputChannels) (event : Event) (after : InputChannels) : Prop :=
  match event with
  | .send operation =>
    match sender.channels.get .keyboard with
    | some ⟨.opened, sent⟩ => SendsFramed sender operation sent
    | channel => after.channels.get .keyboard = channel
  | _ => True

/-- A call that starts with a key finds the cursor at the start of the buffer, or
too near its end for a key. -/
def CursorReady (sender : InputChannels) (event : Event) (_ : InputChannels) : Prop :=
  match event with
  | .send operation =>
    operation.writesKeyFirst = true →
      (∃ sent, sender.channels.get .keyboard = some ⟨.opened, sent⟩) →
        sender.buffer.position = 0 ∨ 1024 < sender.buffer.position + 5
  | _ => True

theorem buffer_size_kept {sender : InputChannels} (size : sender.buffer.bytes.length = 1024)
    (taken : sender.step event = some after) : after.buffer.bytes.length = 1024 := by
  cases event with
  | send operation =>
    cases taken
    have leaves : Within (LeavesKeyboard fun _ => False) operation.send :=
      send_leaves operation fun _ never => absurd never id
    exact (leaves sender).1.trans size
  | setPeer =>
    cases taken
    exact size
  | channel name readyState =>
    obtain ⟨channel, -, rfl⟩ := Option.map_eq_some_iff.mp taken
    exact size

theorem sends_framed_of_open {operation : SendOperation} {sender after : InputChannels}
    (sends : perform operation.send sender = (.ok (), after))
    (opened : after.ChannelOpen .keyboard (operation.keyboardMessages.reverse ++ sent)) :
    SendsFramed sender operation sent := by
  rw [SendsFramed, sends]
  exact ⟨operation.keyboardMessages, opened.opened, List.prefix_refl _, fun _ => rfl⟩

/-- A call that resets the buffer before its first key is framed from everywhere. -/
theorem later_key_framed {operation : SendOperation} (later : operation.writesKeyFirst = false)
    {sender : InputChannels} (held : sender.ChannelOpen .keyboard sent) :
    SendsFramed sender operation sent := by
  cases keys : operation.isKeyboard with
  | false =>
    have leaves : Within (LeavesKeyboard fun _ => True) operation.send := other_leaves operation keys
    have none : operation.keyboardMessages = [] := by
      cases operation <;> first | rfl | simp [SendOperation.isKeyboard] at keys
    refine ⟨[], ((leaves sender).2 trivial).trans held.opened, List.nil_prefix, fun _ => none.symm⟩
  | true =>
    cases operation with
    | keyEvent isDown key modifiers =>
      obtain ⟨after, sends, opened⟩ := sendKeyEvent_open held isDown key modifiers
      exact sends_framed_of_open sends opened
    | text characters =>
      obtain ⟨after, sends, opened⟩ := sendCharacters_open characters [] held (.inr (.inr later))
      exact sends_framed_of_open sends opened
    | key => simp [SendOperation.writesKeyFirst] at later
    | _ => simp [SendOperation.isKeyboard] at keys

/-- The key a call starts with is framed exactly if nothing is before the cursor,
or if the key does not fit behind it. -/
theorem first_key_framed_iff {operation : SendOperation} (keyFirst : operation.writesKeyFirst = true)
    {sender : InputChannels} (held : sender.ChannelOpen .keyboard sent) :
    SendsFramed sender operation sent ↔
      sender.buffer.position = 0 ∨ 1024 < sender.buffer.position + 5 := by
  rcases Nat.lt_or_ge 1024 (sender.buffer.position + 5) with tight | room
  · obtain ⟨after, threw, same⟩ := throws_behind keyFirst held tight
    refine iff_of_true ?_ (.inr tight)
    rw [SendsFramed, threw]
    refine ⟨[], ?_, List.nil_prefix, fun ok => by cases ok⟩
    rw [same]
    exact held.opened
  · obtain ⟨first, rest, messages, five, after, sends, opened⟩ := sends_behind keyFirst held room
    constructor
    · rintro ⟨added, reads, -, all⟩
      rw [sends] at reads all
      rw [all rfl, messages, opened.opened] at reads
      -- both lists of sent messages have the first key's at the same place
      have sameKey : sender.buffer.bytes.take sender.buffer.position ++ first = first := by
        simpa using reads
      have lengths := congrArg List.length sameKey
      rw [List.length_append, List.length_take, held.size] at lengths
      left
      omega
    · rintro (start | tight)
      · rw [start, List.take_zero, List.nil_append] at opened
        refine sends_framed_of_open sends ?_
        rw [messages, List.reverse_cons, List.append_assoc]
        exact opened
      · omega

theorem framed_iff_ready {sender : InputChannels} (size : sender.buffer.bytes.length = 1024)
    (taken : sender.step event = some after) :
    Framed sender event after ↔ CursorReady sender event after := by
  cases event with
  | setPeer | channel => exact Iff.rfl
  | send operation =>
    cases taken
    simp only [Framed, CursorReady]
    split
    · rename_i sent opened
      have held : sender.ChannelOpen .keyboard sent := ⟨opened, size⟩
      cases keyFirst : operation.writesKeyFirst with
      | false => exact iff_of_true (later_key_framed keyFirst held) fun never => by cases never
      | true =>
        rw [first_key_framed_iff keyFirst held]
        exact ⟨fun ready _ _ => ready, fun ready => ready rfl ⟨sent, opened⟩⟩
    · rename_i closed
      have leaves : Within (LeavesKeyboard fun channel => ∀ sent, channel ≠ some ⟨.opened, sent⟩)
          operation.send := by
        refine send_leaves operation fun channel idle opened => ?_
        obtain ⟨readyState, sent⟩ := channel
        cases opened
        exact idle sent rfl
      refine iff_of_true ((leaves sender).2 closed) fun _ opened => ?_
      obtain ⟨sent, opened⟩ := opened
      exact absurd opened (closed sent)

/-- What puts the cursor elsewhere: a touch that is given up behind its id. -/
theorem touch_outside {sender : InputChannels} (size : sender.buffer.bytes.length = 1024)
    {touch : Touch} {rect : DOMRect}
    (outside : calcNormalizedPosition touch.clientX touch.clientY rect = none) (type : Nat) :
    ∃ after, perform (sendTouch type touch rect) sender = (.ok (), after) ∧
      after.channels = sender.channels ∧ after.buffer.position = 5 ∧
      after.buffer.bytes.length = 1024 := by
  let cleared : InputChannels := { sender with buffer := sender.buffer.reset }
  have resets : perform resetBuffer sender = (.ok (), cleared) := rfl
  let data := UInt8.ofNat type :: u32Bytes (UInt32.ofInt (toInteger (some touch.identifier)))
  have fits : cleared.buffer.fits data := by
    have five : data.length = 5 := rfl
    have start : cleared.buffer.position = 0 := rfl
    have kept : cleared.buffer.bytes.length = 1024 := size
    rw [ByteBuffer.fits, five, start, kept]
    omega
  have wrote : Writes (putU8 (some type) >>= fun _ => putU32 (some touch.identifier)) data :=
    writes_bind (writes_putU8 type) (writes_putBytes _)
  refine ⟨{ sender with buffer := cleared.buffer.written data }, ?_, rfl, rfl, ?_⟩
  · unfold sendTouch
    rw [perform_bind_ok resets, perform_bind, perform_put, wrote.room _ fits]
    simp only [outside]
    rfl
  · exact (ByteBuffer.written_size fits).trans size

/-- The keyboard messages of a run are framed exactly if every key that starts a
call finds the buffer reset. -/
theorem keyboard_framed_iff (events : List Event) :
    Along step Framed .new events ↔ Along step CursorReady .new events := by
  refine along_iff (fun sender => sender.buffer.bytes.length = 1024) ?_ ?_ ?_
  · exact fun sender event after size taken => framed_iff_ready size taken
  · exact fun sender event after size taken _ => buffer_size_kept size taken
  · exact List.length_replicate

/-- A touch outside the picture, and then a key: its message begins with the touch. -/
theorem key_behind_touch : ¬ Along step Framed .new
    [.setPeer, .channel .keyboard .opened,
      .send (.touch 0 ⟨1, -1, 0, 0, 0, 0, 0⟩ ⟨0, 0, 1, 1⟩), .send (.text ['a'])] := by
  intro framed
  let connected : InputChannels := { InputChannels.new.setPeer with
    channels := InputChannels.new.setPeer.channels.set .keyboard ⟨.opened, []⟩ }
  have size : connected.buffer.bytes.length = 1024 := List.length_replicate
  let touch : Touch := ⟨1, -1, 0, 0, 0, 0, 0⟩
  have outside : calcNormalizedPosition touch.clientX touch.clientY ⟨0, 0, 1, 1⟩ = none := by
    decide +kernel
  obtain ⟨before, touched, same, five, sizeBefore⟩ :=
    touch_outside size outside 0
  have taken : step before (.send (.text ['a'])) =
    some (perform (SendOperation.text ['a']).send before).2 := rfl
  have opens : InputChannels.new.setPeer.step (.channel .keyboard .opened) = some connected := rfl
  have touches : connected.step (.send (.touch 0 ⟨1, -1, 0, 0, 0, 0, 0⟩ ⟨0, 0, 1, 1⟩)) =
      some before := congrArg some (congrArg Prod.snd touched)
  have last := (((framed _ rfl).2 _ opens).2 _ touches).2 _ taken
  have opened : before.channels.get .keyboard = some ⟨.opened, []⟩ := by
    rw [same]
    rfl
  rcases (framed_iff_ready sizeBefore taken).mp last.1 rfl ⟨[], opened⟩ with start | tight <;> omega

end InputChannels

end MoonlightWeb.Client

import MoonlightWeb.Client.KeyboardFraming
import MoonlightWeb.Lib.Utf16
import MoonlightWeb.Streamer.Input

/-! Text from the page to the host. The page holds it as 16-bit units, counts its code
points and sends UTF-8; the streamer reads as many characters as it was told to. -/
namespace MoonlightWeb.Client
open MoonlightWeb.Machine MoonlightWeb.Throwing MoonlightWeb.Framing

/-! ## The page's strings -/

namespace JsString
open Utf16

/-- As many code points as there is room for, with the number of units read. -/
def encodeInto : Nat → List (List UInt16) → List Char × Nat
  | _, [] => ([], 0)
  | room, point :: rest =>
    let char := scalar point
    if char.utf8Size ≤ room then
      let result := encodeInto (room - char.utf8Size) rest
      (char :: result.1, point.length + result.2)
    else ([], 0)

def putUtf8 (text : List UInt16) : Put Unit := do
  let buffer ← get
  let result := encodeInto (buffer.bytes.length - buffer.position) (codePoints text)
  set (buffer.written (utf8Bytes result.1))
  if result.2 = text.length then pure () else throw .failedToPutUtf8

/-- `chunk` is an array of code points. -/
def textFields (chunk : List (List UInt16)) : Put Unit := do
  putU8 (some 1)
  putU8 (some chunk.length)
  putUtf8 chunk.flatten

def sendUnicodeText (text : List UInt16) : Send Unit :=
  (chunks 255 (codePoints text)).forM fun chunk =>
    InputChannels.sendMessage .keyboard (textFields chunk)

theorem encodable_initial (room : Nat) (text : List Char) : encodable room text <+: text := by
  induction text generalizing room with
  | nil => exact List.prefix_refl []
  | cons char rest ih =>
    unfold encodable
    split
    · exact (List.prefix_cons_inj char).mpr (ih _)
    · exact List.nil_prefix

theorem encodeInto_units (room : Nat) (text : List Char) :
    encodeInto room (text.map units) =
      (encodable room text, (encode (encodable room text)).length) := by
  induction text generalizing room with
  | nil => rfl
  | cons char rest ih =>
    rw [List.map_cons, encodeInto, scalar_units, encodable]
    dsimp only
    split
    · rw [ih]
      change (_, _) = (_, (units char ++ encode _).length)
      rw [List.length_append]
    · rfl

/-- Of a well-formed string the encoder reads whole characters, so that its units are
all read exactly when its characters are. -/
theorem putUtf8_encode (text : List Char) : putUtf8 (encode text) = Client.putUtf8 text := by
  unfold putUtf8 Client.putUtf8
  refine congrArg (get >>= ·) (funext fun buffer => ?_)
  rw [codePoints_encode, encodeInto_units]
  dsimp only
  simp only [length_encode_initial (encodable_initial _ text)]

theorem sendUnicodeText_encode (text : List Char) :
    sendUnicodeText (encode text) = InputChannels.sendUnicodeText text := by
  have same (chunk : List Char) : textFields (chunk.map units) = InputChannels.textFields chunk := by
    unfold textFields InputChannels.textFields
    rw [List.length_map]
    exact congrArg (fun put => putU8 (some 1) >>= fun _ => putU8 (some chunk.length) >>= fun _ => put)
      (putUtf8_encode chunk)
  unfold sendUnicodeText InputChannels.sendUnicodeText
  rw [codePoints_encode, chunks_map]
  simp only [List.forM_eq_forM, List.forM_map, same]

end JsString

/-! ## The streamer -/

section Streamer
open Streamer Streamer.ByteBuffer

theorem validChars_utf8Bytes (text : List Char) : validChars text.length (utf8Bytes text) = some text := by
  induction text with
  | nil => rfl
  | cons char rest ih =>
    have split : utf8Bytes (char :: rest) = String.utf8EncodeChar char ++ utf8Bytes rest := rfl
    have size : (String.utf8EncodeChar char).length = char.utf8Size :=
      String.length_utf8EncodeChar char
    rw [List.length_cons, validChars, split, List.toByteArray_append,
      ByteArray.utf8DecodeChar?_utf8EncodeChar_append]
    dsimp only
    rw [← size, List.drop_left, ih]
    rfl

theorem run_getU8 {cursor : Streamer.ByteBuffer} (inside : cursor.position ≤ cursor.buffer.length) :
    getU8.run cursor = .ok (cursor.buffer.getD cursor.position 0, cursor.advance 1) := by
  rw [reads_getU8, if_pos inside]
  rfl

/-- The rest of a message that is a text is read as that text. -/
theorem run_getUtf8 {cursor : Streamer.ByteBuffer} (inside : cursor.position ≤ cursor.buffer.length)
    (isText : cursor.buffer.drop cursor.position = utf8Bytes text) :
    ∃ after, (getUtf8 text.length).run cursor = .ok (.ok text, after) := by
  unfold getUtf8
  change ∃ after, (if text.length = 0 then _ else _) = _
  by_cases none : text.length = 0
  · rw [if_pos none, List.eq_nil_of_length_eq_zero none]
    exact ⟨cursor, rfl⟩
  · have filled : ¬ (utf8Bytes text).isEmpty = true := by
      cases text with
      | nil => exact absurd rfl none
      | cons char rest =>
        have positive := char.utf8Size_pos
        rw [← String.length_utf8EncodeChar char] at positive
        intro isEmpty
        have bytes : String.utf8EncodeChar char ++ utf8Bytes rest = [] := List.isEmpty_iff.mp isEmpty
        rw [(List.append_eq_nil_iff.mp bytes).1] at positive
        cases positive
    rw [if_neg none, if_neg (Nat.not_lt.mpr inside), isText]
    dsimp only
    rw [if_neg filled, validChars_utf8Bytes]
    exact ⟨_, rfl⟩

/-- A text message as it is read: its type, its number of characters, and these. -/
theorem onKeyboardMessage_text {chunk : List Char} (short : chunk.length ≤ 255) :
    ∃ after, onKeyboardMessage.run (.new (textMessage chunk)) = .ok ([.sendText chunk], after) := by
  have count : (UInt8.ofNat chunk.length).toNat = chunk.length :=
    UInt8.toNat_ofNat_of_lt' (Nat.lt_succ_of_le short)
  have long : 2 ≤ (textMessage chunk).length := by
    rw [textMessage, List.length_append]
    exact Nat.le_add_right 2 _
  let start := Streamer.ByteBuffer.new (textMessage chunk)
  have first : getU8.run start = .ok (1, start.advance 1) :=
    run_getU8 (Nat.zero_le _)
  have second : getU8.run (start.advance 1) =
      .ok (UInt8.ofNat chunk.length, (start.advance 1).advance 1) :=
    run_getU8 (show 1 ≤ (textMessage chunk).length by omega)
  obtain ⟨after, third⟩ : ∃ after, (getUtf8 chunk.length).run ((start.advance 1).advance 1) =
      .ok (.ok chunk, after) := run_getUtf8 long rfl
  refine ⟨after, ?_⟩
  have isText : ¬(1 : UInt8) = 0 := by decide
  rw [onKeyboardMessage, run_bind_of_ok first, if_neg isText, if_pos rfl, run_bind_of_ok second,
    count, run_bind_of_ok third]
  rfl

/-! ## There and back -/

/-- What arrives at the host of one message. -/
def received (message : List UInt8) : Except Panic (List HostEvent) := do
  return (← onKeyboardMessage.run (.new message)).1

/-- Whatever was sent before, the messages of a text are read as chunks of that text:
whole characters, no more than their length byte can tell, in messages that fit the
buffer. -/
theorem text_round_trip (text : List Char) {sender : InputChannels}
    (reached : Reachable InputChannels.step .new sender)
    (opened : sender.channels.get .keyboard = some ⟨.opened, sent⟩) :
    ∃ after, ∃ messages : List (List UInt8), ∃ texts : List (List Char),
      perform (JsString.sendUnicodeText (Utf16.encode text)) sender = (.ok (), after) ∧
      after.channels.get .keyboard = some ⟨.opened, messages.reverse ++ sent⟩ ∧
      (∀ message ∈ messages, message.length ≤ 1024) ∧
      messages.map received = texts.map (fun text => .ok [.sendText text]) ∧
      messages = texts.map textMessage ∧
      (∀ text ∈ texts, (UInt8.ofNat text.length).toNat = text.length) ∧
      texts.flatten = text := by
  have size : sender.buffer.bytes.length = 1024 :=
    reachable_invariant (fun sender : InputChannels => sender.buffer.bytes.length = 1024)
      List.length_replicate
      (fun _ _ _ size taken => InputChannels.buffer_size_kept size taken) reached
  have short (chunk : List Char) (member : chunk ∈ chunks 255 text) : chunk.length ≤ 255 :=
    mem_chunks_length member
  obtain ⟨after, sends, final, -⟩ :=
    InputChannels.sendChunks_open (chunks 255 text) ⟨opened, size⟩ short
  refine ⟨after, (chunks 255 text).map textMessage, chunks 255 text, ?_, final.opened, ?_, ?_, rfl,
    ?_, chunks_flatten (by decide) text⟩
  · rw [JsString.sendUnicodeText_encode]
    exact sends
  · intro message member
    obtain ⟨chunk, isChunk, rfl⟩ := List.mem_map.mp member
    have few := short chunk isChunk
    have bytes := InputChannels.utf8Bytes_length_le chunk
    rw [textMessage, List.length_append, List.length_cons, List.length_cons, List.length_nil]
    omega
  · rw [List.map_map]
    apply List.map_congr_left
    intro chunk member
    obtain ⟨cursor, ran⟩ := onKeyboardMessage_text (short chunk member)
    change received (textMessage chunk) = _
    unfold received
    rw [ran]
    rfl
  · intro chunk member
    exact UInt8.toNat_ofNat_of_lt' (Nat.lt_succ_of_le (short chunk member))

/-- Characters of one to four bytes, the last of which has two units in the page. -/
def oneToFourBytes : List Char := [0x65, 0xe9, 0x20ac, 0x1f600].map Char.ofNat

theorem one_to_four_bytes_arrive : ∃ sender after : InputChannels,
    ∃ messages : List (List UInt8), ∃ texts : List (List Char),
      perform (JsString.sendUnicodeText [0x65, 0xe9, 0x20ac, 0xd83d, 0xde00]) sender =
        (.ok (), after) ∧
      after.channels.get .keyboard = some ⟨.opened, messages.reverse⟩ ∧
      messages.map received = texts.map (fun text => .ok [.sendText text]) ∧
      texts.flatten = oneToFourBytes := by
  let sender : InputChannels := { InputChannels.new.setPeer with
    channels := InputChannels.new.setPeer.channels.set .keyboard ⟨.opened, []⟩ }
  have reached : Reachable InputChannels.step .new sender :=
    ⟨[.setPeer, .channel .keyboard .opened], rfl⟩
  have encoded : Utf16.encode oneToFourBytes = [0x65, 0xe9, 0x20ac, 0xd83d, 0xde00] := by decide
  obtain ⟨after, messages, texts, sends, final, -, arrives, -, -, whole⟩ :=
    text_round_trip oneToFourBytes reached rfl
  rw [encoded] at sends
  rw [List.append_nil] at final
  exact ⟨sender, after, messages, texts, sends, final, arrives, whole⟩

end Streamer

end MoonlightWeb.Client

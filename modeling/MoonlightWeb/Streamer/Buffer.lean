import Mathlib.Algebra.GroupWithZero.Nat
import Mathlib.Data.List.GetD
import Mathlib.Tactic.Common

/-! The cursor over one received message. A getter slices the message at the
cursor and then moves on, whether or not the bytes were there; slicing from
behind the end is the one thing that can go wrong. Everything later modules
need is that a getter started at or before the end reads the message as if
zeros followed it. -/
namespace MoonlightWeb.Streamer

/-- A panic of the running process. The only one a getter can raise is a slice
whose range does not lie inside the message. -/
inductive Panic where
  | sliceOutOfRange
  deriving DecidableEq, Repr

inductive Utf8Error where
  | invalidChunks | bufferTooSmall
  deriving DecidableEq, Repr

structure ByteBuffer where
  position : Nat
  littleEndian : Bool
  buffer : List UInt8
  deriving DecidableEq, Repr

abbrev Getter := StateT ByteBuffer (Except Panic)

namespace ByteBuffer

def new (buffer : List UInt8) : ByteBuffer := ⟨0, false, buffer⟩

def advance (cursor : ByteBuffer) (count : Nat) : ByteBuffer :=
  { cursor with position := cursor.position + count }

/-- `&data[start..stop]` -/
def slice (data : List UInt8) (start stop : Nat) : Except Panic (List UInt8) :=
  if start ≤ stop ∧ stop ≤ data.length then .ok ((data.drop start).take (stop - start))
  else .error .sliceOutOfRange

/-- The filled array of the given length. -/
def getU8Array (length : Nat) : Getter (List UInt8) := fun cursor => do
  let data := cursor.buffer
  let available := data.length - cursor.position
  let toCopy := min available length
  let copied ← slice data cursor.position (cursor.position + toCopy)
  return (copied ++ List.replicate (length - toCopy) 0, cursor.advance length)

def u16FromBytes (littleEndian : Bool) : List UInt8 → UInt16
  | [a, b] =>
    if littleEndian then b.toUInt16 <<< 8 ||| a.toUInt16 else a.toUInt16 <<< 8 ||| b.toUInt16
  | _ => 0

def u32FromBytes (littleEndian : Bool) : List UInt8 → UInt32
  | [a, b, c, d] =>
    if littleEndian then
      d.toUInt32 <<< 24 ||| c.toUInt32 <<< 16 ||| b.toUInt32 <<< 8 ||| a.toUInt32
    else a.toUInt32 <<< 24 ||| b.toUInt32 <<< 16 ||| c.toUInt32 <<< 8 ||| d.toUInt32
  | _ => 0

def getU8 : Getter UInt8 := do return (← getU8Array 1).headD 0

def getBool : Getter Bool := do return (← getU8) != 0

def getI8 : Getter Int8 := do return (← getU8).toInt8

def getU16 : Getter UInt16 := do
  let littleEndian := (← get).littleEndian
  return u16FromBytes littleEndian (← getU8Array 2)

def getI16 : Getter Int16 := do return (← getU16).toInt16

def getU32 : Getter UInt32 := do
  let littleEndian := (← get).littleEndian
  return u32FromBytes littleEndian (← getU8Array 4)

/-- The bits of the float: nothing the streamer does looks inside it. -/
def getF32 : Getter UInt32 := getU32

/-- The first characters of the longest well-formed prefix, when it has that
many. -/
def validChars : Nat → List UInt8 → Option (List Char)
  | 0, _ => some []
  | count + 1, data =>
    match data.toByteArray.utf8DecodeChar? 0 with
    | none => none
    | some char => (validChars count (data.drop char.utf8Size)).map (char :: ·)

def getUtf8 (characters : Nat) : Getter (Except Utf8Error (List Char)) := fun cursor =>
  if characters = 0 then .ok (.ok [], cursor)
  else if cursor.position > cursor.buffer.length then .ok (.error .bufferTooSmall, cursor)
  else
    let rest := cursor.buffer.drop cursor.position
    -- `utf8_chunks` yields no chunk only for an empty slice.
    if rest.isEmpty then .ok (.error .invalidChunks, cursor)
    else
      match validChars characters rest with
      | none => .ok (.error .bufferTooSmall, cursor)
      | some text => .ok (.ok text, cursor.advance (text.map Char.utf8Size).sum)

/-- The bytes from a position on, with zeros behind the end of the message. -/
def window (data : List UInt8) (position length : Nat) : List UInt8 :=
  (List.range length).map fun index => data.getD (position + index) 0

private theorem copied_is_window (data : List UInt8) (position length : Nat) :
    (data.drop position).take (min (data.length - position) length) ++
      List.replicate (length - min (data.length - position) length) 0 =
        window data position length := by
  apply List.ext_getElem
  · simp only [window, List.length_append, List.length_take, List.length_drop,
      List.length_replicate, List.length_map, List.length_range]
    omega
  · intro index inCopied inWindow
    simp only [window, List.length_map, List.length_range] at inWindow
    rw [List.getElem_append]
    split
    · rename_i inside
      have stored : position + index < data.length := by
        simp only [List.length_take, List.length_drop] at inside
        omega
      simp [window, List.getElem?_eq_getElem stored]
    · rename_i outside
      have missing : data.length ≤ position + index := by
        simp only [List.length_take, List.length_drop] at outside
        omega
      simp [window, List.getElem?_eq_none missing]

/-- A getter panics exactly when the cursor is already behind the end, and
reads missing bytes as zero otherwise. -/
theorem run_getU8Array (length : Nat) (cursor : ByteBuffer) :
    (getU8Array length).run cursor =
      if cursor.position ≤ cursor.buffer.length then
        .ok (window cursor.buffer cursor.position length, cursor.advance length)
      else .error .sliceOutOfRange := by
  by_cases inside : cursor.position ≤ cursor.buffer.length
  · have range : cursor.position ≤ cursor.position +
          min (cursor.buffer.length - cursor.position) length ∧
        cursor.position + min (cursor.buffer.length - cursor.position) length ≤
          cursor.buffer.length := by omega
    simp only [getU8Array, StateT.run, slice, if_pos range, if_pos inside, Nat.add_sub_cancel_left]
    exact congrArg (fun bytes => Except.ok (bytes, cursor.advance length))
      (copied_is_window cursor.buffer cursor.position length)
  · have range : ¬ (cursor.position ≤ cursor.position +
          min (cursor.buffer.length - cursor.position) length ∧
        cursor.position + min (cursor.buffer.length - cursor.position) length ≤
          cursor.buffer.length) := by omega
    simp only [getU8Array, StateT.run, slice, if_neg range, if_neg inside]
    rfl

/-- The getter does not panic when started at the cursor. -/
def Finishes (getter : Getter α) (cursor : ByteBuffer) : Prop :=
  ∃ value, getter.run cursor = .ok value

@[simp] theorem finishes_pure (value : α) (cursor : ByteBuffer) :
    Finishes (pure value) cursor := ⟨(value, cursor), rfl⟩

/-- The getter decodes the next bytes of the message, zeros where it has ended,
and panics when started behind the end. -/
def Reads (getter : Getter α) (length : Nat) (decode : Bool → List UInt8 → α) : Prop :=
  ∀ cursor : ByteBuffer, getter.run cursor =
    if cursor.position ≤ cursor.buffer.length then
      .ok (decode cursor.littleEndian (window cursor.buffer cursor.position length),
        cursor.advance length)
    else .error .sliceOutOfRange

theorem Reads.map {getter : Getter α} (reads : Reads getter length decode) (finish : α → β) :
    Reads (do return finish (← getter)) length fun order bytes => finish (decode order bytes) := by
  intro cursor
  rw [StateT.run_bind, reads cursor]
  split <;> rfl

theorem reads_getU8 : Reads getU8 1 fun _ bytes => bytes.headD 0 :=
  (show Reads (getU8Array 1) 1 fun _ bytes => bytes from run_getU8Array 1).map (·.headD 0)

theorem reads_getBool : Reads getBool 1 fun _ bytes => bytes.headD 0 != 0 :=
  reads_getU8.map (· != 0)

theorem reads_getI8 : Reads getI8 1 fun _ bytes => (bytes.headD 0).toInt8 :=
  reads_getU8.map UInt8.toInt8

private theorem reads_with_order (length : Nat) (fromBytes : Bool → List UInt8 → α) :
    Reads (do
      let littleEndian := (← get).littleEndian
      return fromBytes littleEndian (← getU8Array length)) length fromBytes := by
  intro cursor
  change ((getU8Array length).run cursor >>= fun read =>
    .ok (fromBytes cursor.littleEndian read.1, read.2)) = _
  rw [run_getU8Array]
  split <;> rfl

theorem reads_getU16 : Reads getU16 2 u16FromBytes := reads_with_order 2 u16FromBytes

theorem reads_getI16 : Reads getI16 2 fun order bytes => (u16FromBytes order bytes).toInt16 :=
  reads_getU16.map UInt16.toInt16

theorem reads_getU32 : Reads getU32 4 u32FromBytes := reads_with_order 4 u32FromBytes

theorem reads_getF32 : Reads getF32 4 u32FromBytes := reads_getU32

/-- A getter followed by more finishes when it starts inside the message and
the rest finishes on what it read. -/
theorem Reads.finishes_bind {getter : Getter α} (reads : Reads getter length decode)
    (next : α → Getter β) (cursor : ByteBuffer) :
    Finishes (getter >>= next) cursor ↔
      cursor.position ≤ cursor.buffer.length ∧
        Finishes (next (decode cursor.littleEndian
          (window cursor.buffer cursor.position length))) (cursor.advance length) := by
  rw [Finishes, StateT.run_bind, reads cursor]
  by_cases inside : cursor.position ≤ cursor.buffer.length
  · simp only [inside, true_and]
    rfl
  · simp only [inside, false_and, iff_false]
    rintro ⟨value, ran⟩
    cases ran

section Fields
variable (cursor : ByteBuffer)

@[simp] theorem finishes_getU8 (next : UInt8 → Getter β) :
    Finishes (getU8 >>= next) cursor ↔ cursor.position ≤ cursor.buffer.length ∧
      Finishes (next (cursor.buffer.getD cursor.position 0)) (cursor.advance 1) :=
  reads_getU8.finishes_bind next cursor

@[simp] theorem finishes_getBool (next : Bool → Getter β) :
    Finishes (getBool >>= next) cursor ↔ cursor.position ≤ cursor.buffer.length ∧
      Finishes (next (cursor.buffer.getD cursor.position 0 != 0)) (cursor.advance 1) :=
  reads_getBool.finishes_bind next cursor

@[simp] theorem finishes_getI8 (next : Int8 → Getter β) :
    Finishes (getI8 >>= next) cursor ↔ cursor.position ≤ cursor.buffer.length ∧
      Finishes (next (cursor.buffer.getD cursor.position 0).toInt8) (cursor.advance 1) :=
  reads_getI8.finishes_bind next cursor

@[simp] theorem finishes_getU16 (next : UInt16 → Getter β) :
    Finishes (getU16 >>= next) cursor ↔ cursor.position ≤ cursor.buffer.length ∧
      Finishes (next (u16FromBytes cursor.littleEndian
        (window cursor.buffer cursor.position 2))) (cursor.advance 2) :=
  reads_getU16.finishes_bind next cursor

@[simp] theorem finishes_getI16 (next : Int16 → Getter β) :
    Finishes (getI16 >>= next) cursor ↔ cursor.position ≤ cursor.buffer.length ∧
      Finishes (next (u16FromBytes cursor.littleEndian
        (window cursor.buffer cursor.position 2)).toInt16) (cursor.advance 2) :=
  reads_getI16.finishes_bind next cursor

@[simp] theorem finishes_getU32 (next : UInt32 → Getter β) :
    Finishes (getU32 >>= next) cursor ↔ cursor.position ≤ cursor.buffer.length ∧
      Finishes (next (u32FromBytes cursor.littleEndian
        (window cursor.buffer cursor.position 4))) (cursor.advance 4) :=
  reads_getU32.finishes_bind next cursor

@[simp] theorem finishes_getF32 (next : UInt32 → Getter β) :
    Finishes (getF32 >>= next) cursor ↔ cursor.position ≤ cursor.buffer.length ∧
      Finishes (next (u32FromBytes cursor.littleEndian
        (window cursor.buffer cursor.position 4))) (cursor.advance 4) :=
  reads_getF32.finishes_bind next cursor

end Fields

@[simp] theorem advance_position (cursor : ByteBuffer) (count : Nat) :
    (cursor.advance count).position = cursor.position + count := rfl

@[simp] theorem advance_buffer (cursor : ByteBuffer) (count : Nat) :
    (cursor.advance count).buffer = cursor.buffer := rfl

@[simp] theorem advance_littleEndian (cursor : ByteBuffer) (count : Nat) :
    (cursor.advance count).littleEndian = cursor.littleEndian := rfl

@[simp] theorem new_position (message : List UInt8) : (new message).position = 0 := rfl

@[simp] theorem new_buffer (message : List UInt8) : (new message).buffer = message := rfl

@[simp] theorem new_littleEndian (message : List UInt8) : (new message).littleEndian = false := rfl

/-- The same cursor with zeros behind the message. -/
def padded (cursor : ByteBuffer) (zeros : Nat) : ByteBuffer :=
  { cursor with buffer := cursor.buffer ++ List.replicate zeros 0 }

theorem window_padded (data : List UInt8) (zeros position length : Nat) :
    window (data ++ List.replicate zeros 0) position length = window data position length := by
  apply List.map_congr_left
  intro index _
  by_cases stored : position + index < data.length
  · rw [List.getD_append _ _ _ _ stored]
  · have ended : data.length ≤ position + index := Nat.le_of_not_lt stored
    rw [List.getD_append_right _ _ _ _ ended, List.getD_eq_default _ _ ended]
    rw [List.getD_eq_getElem?_getD, List.getElem?_replicate]
    split <;> rfl

/-- A getter that got through reads the same when zeros follow the message:
this is what reading missing bytes as zero means. -/
def MissingAsZero (getter : Getter α) : Prop :=
  ∀ (cursor : ByteBuffer) value after zeros, getter.run cursor = .ok (value, after) →
    getter.run (cursor.padded zeros) = .ok (value, after.padded zeros)

theorem missing_as_zero_pure (value : α) : MissingAsZero (pure value : Getter α) := by
  intro cursor value after zeros ran
  cases ran
  rfl

theorem run_bind_of_ok {getter : Getter α} (ran : getter.run cursor = .ok (middle, later))
    (next : α → Getter β) : (getter >>= next).run cursor = (next middle).run later := by
  rw [StateT.run_bind, ran]
  rfl

theorem run_bind_ok {getter : Getter α} {next : α → Getter β}
    (ran : (getter >>= next).run cursor = .ok (value, after)) :
    ∃ middle later, getter.run cursor = .ok (middle, later) ∧
      (next middle).run later = .ok (value, after) := by
  rw [StateT.run_bind] at ran
  cases read : getter.run cursor with
  | error panic =>
    rw [read] at ran
    cases ran
  | ok result =>
    rw [read] at ran
    exact ⟨result.1, result.2, rfl, ran⟩

/-- What follows a getter that got through starts from the padded cursor. -/
theorem MissingAsZero.run_bind {getter : Getter α} (first : MissingAsZero getter)
    (ran : getter.run cursor = .ok (middle, later)) (next : α → Getter β) (zeros : Nat) :
    (getter >>= next).run (cursor.padded zeros) = (next middle).run (later.padded zeros) :=
  run_bind_of_ok (first cursor middle later zeros ran) next

theorem missing_as_zero_bind {getter : Getter α} {next : α → Getter β}
    (first : MissingAsZero getter) (rest : ∀ value, MissingAsZero (next value)) :
    MissingAsZero (getter >>= next) := by
  intro cursor value after zeros ran
  obtain ⟨middle, later, read, ran⟩ := run_bind_ok ran
  rw [first.run_bind read]
  exact rest middle later value after zeros ran

/-- Whatever the getter returns satisfies the property. -/
def Yields (property : α → Prop) (getter : Getter α) : Prop :=
  ∀ cursor value after, getter.run cursor = .ok (value, after) → property value

theorem yields_pure (held : property value) : Yields property (pure value) := by
  intro cursor value after ran
  cases ran
  exact held

theorem yields_bind {getter : Getter α} {next : α → Getter β}
    (rest : ∀ value, Yields property (next value)) : Yields property (getter >>= next) := by
  intro cursor value after ran
  obtain ⟨middle, later, _, ran⟩ := run_bind_ok ran
  exact rest middle later value after ran

theorem Reads.missing_as_zero {getter : Getter α} (reads : Reads getter length decode) :
    MissingAsZero getter := by
  intro cursor value after zeros ran
  rw [reads cursor] at ran
  split at ran
  · rename_i inside
    cases ran
    have longer : (cursor.padded zeros).position ≤ (cursor.padded zeros).buffer.length := by
      simp only [padded, List.length_append]
      omega
    rw [reads (cursor.padded zeros), if_pos longer]
    simp only [padded, window_padded]
    rfl
  · cases ran

/-- Reading text never panics: it looks at the end before it slices. -/
theorem get_utf8_returns (characters : Nat) (cursor : ByteBuffer) :
    ∃ text after, (getUtf8 characters).run cursor = .ok (text, after) := by
  simp only [getUtf8, StateT.run]
  split
  · exact ⟨_, _, rfl⟩
  split
  · exact ⟨_, _, rfl⟩
  split
  · exact ⟨_, _, rfl⟩
  split <;> exact ⟨_, _, rfl⟩

theorem finishes_getUtf8 (cursor : ByteBuffer)
    (next : Except Utf8Error (List Char) → Getter β)
    (rest : ∀ text after, Finishes (next text) after) :
    Finishes (getUtf8 characters >>= next) cursor := by
  obtain ⟨text, after, ran⟩ := get_utf8_returns characters cursor
  rw [Finishes, StateT.run_bind, ran]
  exact rest text after

private theorem valid_chars_append (found : validChars count data = some text)
    (more : List UInt8) : validChars count (data ++ more) = some text := by
  induction count generalizing data text with
  | zero => exact found
  | succ count ih =>
    simp only [validChars] at found ⊢
    cases decoded : data.toByteArray.utf8DecodeChar? 0 with
    | none => simp [decoded] at found
    | some char =>
      simp only [decoded, Option.map_eq_some_iff] at found
      obtain ⟨rest, found, rfl⟩ := found
      have kept : (data ++ more).toByteArray.utf8DecodeChar? 0 = some char := by
        rw [List.toByteArray_append]
        exact ByteArray.utf8DecodeChar?_append_eq_some decoded _
      have fits : char.utf8Size ≤ data.length := by
        simpa using ByteArray.le_size_of_utf8DecodeChar?_eq_some decoded
      simp only [kept, Option.map_eq_some_iff]
      exact ⟨rest, by rw [List.drop_append_of_le_length fits]; exact ih found, rfl⟩

/-- Text that was complete stays the same when zeros follow the message. -/
theorem get_utf8_padded {cursor : ByteBuffer}
    (ran : (getUtf8 characters).run cursor = .ok (.ok text, after)) (zeros : Nat) :
    (getUtf8 characters).run (cursor.padded zeros) = .ok (.ok text, after.padded zeros) := by
  by_cases none : characters = 0
  · subst none
    cases ran
    rfl
  · simp only [getUtf8, StateT.run, none, ↓reduceIte] at ran ⊢
    split at ran
    · cases ran
    rename_i inside
    split at ran
    · cases ran
    rename_i filled
    split at ran
    · cases ran
    rename_i found
    cases ran
    have inPadded : ¬ (cursor.padded zeros).position > (cursor.padded zeros).buffer.length := by
      simp only [padded, List.length_append]
      omega
    have rest : (cursor.padded zeros).buffer.drop (cursor.padded zeros).position =
        cursor.buffer.drop cursor.position ++ List.replicate zeros 0 :=
      List.drop_append_of_le_length (Nat.le_of_not_lt inside)
    have stillFilled : ¬ (cursor.buffer.drop cursor.position ++
        List.replicate zeros (0 : UInt8)).isEmpty = true := fun empty =>
      filled (List.isEmpty_iff.mpr (List.append_eq_nil_iff.mp (List.isEmpty_iff.mp empty)).1)
    simp only [if_neg inPadded, rest, valid_chars_append found, if_neg stillFilled]
    rfl

end ByteBuffer

end MoonlightWeb.Streamer

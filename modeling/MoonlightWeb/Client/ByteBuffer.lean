import Mathlib.Algebra.Order.Field.Rat
import Mathlib.Algebra.Order.Group.Abs
import Mathlib.Data.Int.Log
import Mathlib.Data.Rat.Floor
import MoonlightWeb.Lib.Throwing

/-! The buffer the page builds its messages in. One buffer serves all of them: a
put writes where the last one ended, only `reset` and `flip` move the cursor
back, and what was written before stays. -/
namespace MoonlightWeb.Client
open MoonlightWeb.Throwing

inductive BufferError where
  /-- The `RangeError` of a view that is written behind its end. -/
  | range
  | failedToPutUtf8
  | illegalBufferSize
  deriving DecidableEq, Repr

structure ByteBuffer where
  position : Nat
  limit : Nat
  bytes : List UInt8
  deriving DecidableEq, Repr

/-- A put keeps what it wrote before it threw. -/
abbrev Put := Action BufferError ByteBuffer

/-- A number of the page: `none` is not a number. -/
abbrev Number := Option ℚ

/-- The integer part, which the integer views store modulo their size. -/
def trunc (number : ℚ) : ℤ := if 0 ≤ number then ⌊number⌋ else ⌈number⌉

def toInteger (number : Number) : ℤ := (number.map trunc).getD 0

def roundHalfEven (number : ℚ) : ℤ :=
  let below := ⌊number⌋
  let rest := number - below
  if rest < 1 / 2 then below
  else if 1 / 2 < rest then below + 1
  else if below % 2 = 0 then below else below + 1

/-- The bits of the nearest single-precision float. The implicit first bit of the
mantissa counts towards the exponent above it. -/
def float32Bits : Number → UInt32
  | none => 0x7fc00000
  | some number =>
    let sign : Nat := if number < 0 then 0x80000000 else 0
    if number = 0 then 0
    else
      let exponent := max (Int.log 2 |number|) (-126)
      let mantissa := roundHalfEven (|number| / (2 : ℚ) ^ (exponent - 23))
      let bits := (exponent + 126).toNat * 0x800000 + mantissa.toNat
      UInt32.ofNat (sign + min bits 0x7f800000)

example : float32Bits (some 1) = 0x3f800000 := by decide +kernel
example : float32Bits (some (-1 / 10)) = 0xbdcccccd := by decide +kernel

def u16Bytes (number : UInt16) : List UInt8 := [(number >>> 8).toUInt8, number.toUInt8]

def u32Bytes (number : UInt32) : List UInt8 :=
  [(number >>> 24).toUInt8, (number >>> 16).toUInt8, (number >>> 8).toUInt8, number.toUInt8]

def utf8Bytes (text : List Char) : List UInt8 := text.flatMap String.utf8EncodeChar

namespace ByteBuffer

def new (length : Nat) : ByteBuffer := ⟨0, 0, List.replicate length 0⟩

/-- The buffer after bytes were written at the cursor. -/
def written (buffer : ByteBuffer) (data : List UInt8) : ByteBuffer :=
  { buffer with
    position := buffer.position + data.length
    bytes := buffer.bytes.take buffer.position ++ data ++
      buffer.bytes.drop (buffer.position + data.length) }

def fits (buffer : ByteBuffer) (data : List UInt8) : Prop :=
  buffer.position + data.length ≤ buffer.bytes.length

instance (buffer : ByteBuffer) (data : List UInt8) : Decidable (buffer.fits data) :=
  inferInstanceAs (Decidable (_ ≤ _))

def reset (buffer : ByteBuffer) : ByteBuffer := { buffer with position := 0, limit := 0 }

def flip (buffer : ByteBuffer) : ByteBuffer :=
  { buffer with position := 0, limit := buffer.position }

def getReadView (buffer : ByteBuffer) : List UInt8 := buffer.bytes.take buffer.limit

end ByteBuffer

/-- A view writes all of a number or nothing. -/
def putBytes (data : List UInt8) : Put Unit := do
  let buffer ← get
  if buffer.fits data then set (buffer.written data) else throw .range

def putU8 (number : Number) : Put Unit := putBytes [UInt8.ofInt (toInteger number)]

def putBool (data : Bool) : Put Unit := putU8 (some (if data then 1 else 0))

def putI8 (number : Number) : Put Unit := putU8 number

def putU16 (number : Number) : Put Unit := putBytes (u16Bytes (UInt16.ofInt (toInteger number)))

def putI16 (number : Number) : Put Unit := putU16 number

def putU32 (number : Number) : Put Unit := putBytes (u32Bytes (UInt32.ofInt (toInteger number)))

def putF32 (number : Number) : Put Unit := putBytes (u32Bytes (float32Bits number))

/-- The characters of a text that an encoder can still write. -/
def encodable : Nat → List Char → List Char
  | _, [] => []
  | room, char :: rest =>
    if char.utf8Size ≤ room then char :: encodable (room - char.utf8Size) rest else []

/-- The encoder stops at the first character that has no room. -/
def putUtf8 (text : List Char) : Put Unit := do
  let buffer ← get
  let read := encodable (buffer.bytes.length - buffer.position) text
  set (buffer.written (utf8Bytes read))
  if read = text then pure () else throw .failedToPutUtf8

namespace ByteBuffer

theorem written_size {buffer : ByteBuffer} (room : buffer.fits data) :
    (buffer.written data).bytes.length = buffer.bytes.length := by
  unfold fits at room
  simp only [written, List.length_append, List.length_take, List.length_drop]
  omega

theorem written_written {buffer : ByteBuffer} (room : buffer.fits first) (second : List UInt8) :
    (buffer.written first).written second = buffer.written (first ++ second) := by
  have before : (buffer.bytes.take buffer.position).length = buffer.position := by
    unfold fits at room
    rw [List.length_take]
    omega
  have joined : (buffer.bytes.take buffer.position ++ first).length =
      buffer.position + first.length := by
    rw [List.length_append, before]
  simp only [written, List.length_append, Nat.add_assoc, mk.injEq, true_and]
  rw [← joined, List.take_left, List.append_assoc, joined, List.drop_append, ← List.append_assoc]
  simp [before, List.drop_drop]

theorem fits_append {buffer : ByteBuffer} (first second : List UInt8) :
    buffer.fits (first ++ second) ↔ buffer.fits first ∧ (buffer.written first).fits second := by
  constructor
  · intro room
    have roomFirst : buffer.fits first := by
      unfold fits at room ⊢
      rw [List.length_append] at room
      omega
    refine ⟨roomFirst, ?_⟩
    unfold fits at room ⊢
    rw [written_size roomFirst]
    simp only [written, List.length_append] at room ⊢
    omega
  · rintro ⟨roomFirst, room⟩
    unfold fits at room ⊢
    rw [written_size roomFirst] at room
    simp only [written, List.length_append] at room ⊢
    omega

/-- What is sent of a buffer that was filled at its cursor. -/
theorem read_flipped {buffer : ByteBuffer} (room : buffer.fits data) :
    (buffer.written data).flip.getReadView = buffer.bytes.take buffer.position ++ data := by
  have before : (buffer.bytes.take buffer.position).length = buffer.position := by
    unfold fits at room
    rw [List.length_take]
    omega
  have joined : (buffer.bytes.take buffer.position ++ data).length =
      buffer.position + data.length := by
    rw [List.length_append, before]
  simp only [getReadView, flip, written]
  rw [← joined, List.take_left]

end ByteBuffer

/-- The puts write the bytes one after the other, or throw for want of room. -/
structure Writes (fields : Put Unit) (data : List UInt8) : Prop where
  room : ∀ buffer : ByteBuffer, buffer.fits data →
    perform fields buffer = (.ok (), buffer.written data)
  overflow : ∀ buffer : ByteBuffer, ¬ buffer.fits data →
    ∃ after, perform fields buffer = (.error .range, after)

theorem writes_putBytes (data : List UInt8) : Writes (putBytes data) data where
  room buffer room := by simp [putBytes, room]
  overflow buffer tight := ⟨buffer, by simp [putBytes, tight]⟩

theorem writes_bind {first second : Put Unit} (writesFirst : Writes first data)
    (writesSecond : Writes second more) : Writes (first >>= fun _ => second) (data ++ more) where
  room buffer room := by
    obtain ⟨roomFirst, roomSecond⟩ := (ByteBuffer.fits_append data more).mp room
    rw [perform_bind_ok (writesFirst.room buffer roomFirst),
      writesSecond.room _ roomSecond, ByteBuffer.written_written roomFirst]
  overflow buffer tight := by
    by_cases roomFirst : buffer.fits data
    · rw [perform_bind_ok (writesFirst.room buffer roomFirst)]
      exact writesSecond.overflow _ fun roomSecond =>
        tight ((ByteBuffer.fits_append data more).mpr ⟨roomFirst, roomSecond⟩)
    · obtain ⟨after, threw⟩ := writesFirst.overflow buffer roomFirst
      exact ⟨after, perform_bind_error threw⟩

theorem length_encodable_le (room : Nat) (text : List Char) :
    (utf8Bytes (encodable room text)).length ≤ room := by
  induction text generalizing room with
  | nil => exact Nat.zero_le room
  | cons char rest ih =>
    unfold encodable
    split
    · have shorter := ih (room - char.utf8Size)
      simp only [utf8Bytes, List.flatMap_cons, List.length_append,
        String.length_utf8EncodeChar] at shorter ⊢
      omega
    · exact Nat.zero_le room

theorem encodable_eq (fits : (utf8Bytes text).length ≤ room) : encodable room text = text := by
  induction text generalizing room with
  | nil => rfl
  | cons char rest ih =>
    simp only [utf8Bytes, List.flatMap_cons, List.length_append,
      String.length_utf8EncodeChar] at fits
    have first : char.utf8Size ≤ room := by omega
    have others : (utf8Bytes rest).length ≤ room - char.utf8Size := by
      unfold utf8Bytes
      omega
    rw [encodable, if_pos first, ih others]

theorem perform_putUtf8 {buffer : ByteBuffer} (room : buffer.fits (utf8Bytes text)) :
    perform (putUtf8 text) buffer = (.ok (), buffer.written (utf8Bytes text)) := by
  have enough : (utf8Bytes text).length ≤ buffer.bytes.length - buffer.position := by
    unfold ByteBuffer.fits at room
    omega
  rw [putUtf8, perform_get_bind, encodable_eq enough, perform_bind_ok (perform_set _ _),
    if_pos rfl, perform_pure]

theorem toInteger_intCast (number : ℤ) : toInteger (some (number : ℚ)) = number := by
  unfold toInteger
  simp only [Option.map_some, Option.getD_some, trunc]
  split
  · exact Int.floor_intCast number
  · exact Int.ceil_intCast number

theorem toInteger_natCast (number : Nat) : toInteger (some (number : ℚ)) = number :=
  toInteger_intCast number

theorem u8_ofInt_natCast (number : Nat) : UInt8.ofInt number = UInt8.ofNat number := by
  have same : ((number : ℤ) % 2 ^ 8).toNat = number % 2 ^ 8 := by omega
  rw [UInt8.ofInt, same, UInt8.ofNat_mod_size]

theorem u16_ofInt_natCast (number : Nat) : UInt16.ofInt number = UInt16.ofNat number := by
  have same : ((number : ℤ) % 2 ^ 16).toNat = number % 2 ^ 16 := by omega
  rw [UInt16.ofInt, same, UInt16.ofNat_mod_size]

theorem writes_putU8 (number : Nat) : Writes (putU8 (some number)) [UInt8.ofNat number] := by
  rw [putU8, toInteger_natCast, u8_ofInt_natCast]
  exact writes_putBytes _

/-- No put makes the buffer longer or shorter. -/
def SameSize (before after : ByteBuffer) : Prop := after.bytes.length = before.bytes.length

instance : Std.Refl SameSize := ⟨fun _ => rfl⟩

instance : IsTrans ByteBuffer SameSize := ⟨fun _ _ _ first second => second.trans first⟩

theorem putBytes_same_size (data : List UInt8) : Within SameSize (putBytes data) := by
  intro buffer
  by_cases room : buffer.fits data
  · rw [(writes_putBytes data).room buffer room]
    exact ByteBuffer.written_size room
  · simp [putBytes, room, SameSize]

theorem putUtf8_same_size (text : List Char) : Within SameSize (putUtf8 text) := by
  intro buffer
  rw [putUtf8, perform_get_bind, perform_bind_ok (perform_set _ _)]
  have shorter := length_encodable_le (buffer.bytes.length - buffer.position) text
  generalize encodable (buffer.bytes.length - buffer.position) text = read at shorter ⊢
  have kept : (buffer.written (utf8Bytes read)).bytes.length = buffer.bytes.length := by
    simp only [ByteBuffer.written, List.length_append, List.length_take, List.length_drop]
    omega
  split <;> exact kept

end MoonlightWeb.Client

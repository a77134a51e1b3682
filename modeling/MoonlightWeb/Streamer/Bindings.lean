import Mathlib.Data.BitVec
import Mathlib.Tactic.Common

/-! The flag sets and enumerations of the Moonlight protocol library that the
streamer's input code reads and passes on. Flag sets keep their raw bits, as
`bitflags` does; an enumeration keeps the number the C header gives it. -/
namespace MoonlightWeb.Streamer

/-- The set of connected gamepads, one bit for each of Sunshine's 16 slots. -/
structure ActiveGamepads where
  bits : BitVec 16
  deriving DecidableEq, Repr

namespace ActiveGamepads

def empty : ActiveGamepads := ⟨0#16⟩

/-- All sixteen `GAMEPAD_n` flags. -/
def all : ActiveGamepads := ⟨0xFFFF#16⟩

def fromBitsTruncate (bits : BitVec 16) : ActiveGamepads := ⟨bits &&& all.bits⟩

def fromId (id : UInt8) : Option ActiveGamepads :=
  if id ≥ 16 then none else some (fromBitsTruncate (1#16 <<< id.toNat))

def contains (pads mask : ActiveGamepads) : Bool := pads.bits &&& mask.bits == mask.bits

def insert (pads mask : ActiveGamepads) : ActiveGamepads := ⟨pads.bits ||| mask.bits⟩

def remove (pads mask : ActiveGamepads) : ActiveGamepads := ⟨pads.bits &&& ~~~mask.bits⟩

/-- The bit of one slot. -/
def has (pads : ActiveGamepads) (slot : UInt8) : Bool := pads.bits.getLsbD slot.toNat

variable {pads mask : ActiveGamepads} {slot other : UInt8}

@[simp] theorem has_empty (slot : UInt8) : empty.has slot = false := by
  simp [has, empty]

/-- The mask of a slot below 16 is that one bit; no other number has a mask. -/
theorem from_id_eq_some :
    fromId slot = some mask ↔ slot < 16 ∧ mask = ⟨1#16 <<< slot.toNat⟩ := by
  have allKnown (bits : BitVec 16) : fromBitsTruncate bits = ⟨bits⟩ :=
    congrArg ActiveGamepads.mk (BitVec.and_allOnes (x := bits))
  by_cases low : slot < 16
  · have notHigh : ¬ slot ≥ 16 := UInt8.not_le.mpr low
    simp [fromId, notHigh, low, allKnown, eq_comm]
  · have high : slot ≥ 16 := UInt8.not_lt.mp low
    simp [fromId, high, low]

private theorem mask_bit (low : slot < 16) (bit : Nat) :
    (1#16 <<< slot.toNat).getLsbD bit = decide (bit = slot.toNat) := by
  have bound : slot.toNat < 16 := low
  rw [← BitVec.twoPow_eq, BitVec.getLsbD_twoPow]
  by_cases same : bit = slot.toNat
  · simp [same, bound]
  · simp [same, Ne.symm same]

theorem has_insert (made : fromId slot = some mask) :
    (pads.insert mask).has other = (pads.has other || decide (other = slot)) := by
  obtain ⟨low, rfl⟩ := from_id_eq_some.mp made
  simp [has, insert, mask_bit low, UInt8.toNat_inj]

theorem has_remove (made : fromId slot = some mask) :
    (pads.remove mask).has other = (pads.has other && decide (other ≠ slot)) := by
  obtain ⟨low, rfl⟩ := from_id_eq_some.mp made
  simp only [has, remove, BitVec.getLsbD_and, BitVec.getLsbD_not, mask_bit low]
  by_cases narrow : other.toNat < 16
  · simp [narrow, UInt8.toNat_inj]
  · simp [BitVec.getLsbD_of_ge pads.bits _ (Nat.le_of_not_lt narrow)]

/-- Containing the mask of a slot is having its bit. -/
theorem contains_eq_has (made : fromId slot = some mask) :
    pads.contains mask = pads.has slot := by
  obtain ⟨low, rfl⟩ := from_id_eq_some.mp made
  apply Bool.eq_iff_iff.mpr
  simp only [contains, beq_iff_eq, has]
  constructor
  · intro same
    have bit := congrArg (fun bits => bits.getLsbD slot.toNat) same
    simpa only [BitVec.getLsbD_and, mask_bit low, decide_true, Bool.and_true] using bit
  · intro held
    apply BitVec.eq_of_getLsbD_eq
    intro bit _
    by_cases same : bit = slot.toNat
    · simp [same, held]
    · simp [mask_bit low, same]

end ActiveGamepads

/-- `bitflags`' `from_bits`: bits outside the known flags are refused. -/
def fromBits (known bits : BitVec w) : Option (BitVec w) :=
  if bits &&& ~~~known = 0 then some bits else none

namespace ControllerButtons

def A : BitVec 32 := 0x1000
def B : BitVec 32 := 0x2000
def X : BitVec 32 := 0x4000
def Y : BitVec 32 := 0x8000
def UP : BitVec 32 := 0x0001
def DOWN : BitVec 32 := 0x0002
def LEFT : BitVec 32 := 0x0004
def RIGHT : BitVec 32 := 0x0008
def LB : BitVec 32 := 0x0100
def RB : BitVec 32 := 0x0200
def PLAY : BitVec 32 := 0x0010
def BACK : BitVec 32 := 0x0020
def LS_CLK : BitVec 32 := 0x0040
def RS_CLK : BitVec 32 := 0x0080
def SPECIAL : BitVec 32 := 0x0400
def PADDLE1 : BitVec 32 := 0x010000
def PADDLE2 : BitVec 32 := 0x020000
def PADDLE3 : BitVec 32 := 0x040000
def PADDLE4 : BitVec 32 := 0x080000
def TOUCHPAD : BitVec 32 := 0x100000
def MISC : BitVec 32 := 0x200000

def all : BitVec 32 :=
  A ||| B ||| X ||| Y ||| UP ||| DOWN ||| LEFT ||| RIGHT ||| LB ||| RB ||| PLAY ||| BACK |||
    LS_CLK ||| RS_CLK ||| SPECIAL ||| PADDLE1 ||| PADDLE2 ||| PADDLE3 ||| PADDLE4 ||| TOUCHPAD |||
    MISC

end ControllerButtons

namespace ControllerCapabilities

def ANALOG_TRIGGERS : BitVec 16 := 0x01
def RUMBLE : BitVec 16 := 0x02
def TRIGGER_RUMBLE : BitVec 16 := 0x04
def TOUCHPAD : BitVec 16 := 0x08
def ACCEL : BitVec 16 := 0x10
def GYRO : BitVec 16 := 0x20
def BATTERY_STATE : BitVec 16 := 0x40
def RGB_LED : BitVec 16 := 0x80

def all : BitVec 16 :=
  ANALOG_TRIGGERS ||| RUMBLE ||| TRIGGER_RUMBLE ||| TOUCHPAD ||| ACCEL ||| GYRO |||
    BATTERY_STATE ||| RGB_LED

end ControllerCapabilities

namespace KeyModifiers

def SHIFT : BitVec 8 := 0x01
def CTRL : BitVec 8 := 0x02
def ALT : BitVec 8 := 0x04
def META : BitVec 8 := 0x08

def all : BitVec 8 := SHIFT ||| CTRL ||| ALT ||| META

end KeyModifiers

inductive KeyAction where
  | up | down
  deriving DecidableEq, Repr

inductive MouseButtonAction where
  | press | release
  deriving DecidableEq, Repr

inductive MouseButton where
  | left | middle | right | x1 | x2
  deriving DecidableEq, Repr

def MouseButton.fromU8 (number : UInt8) : Option MouseButton :=
  match number.toNat with
  | 1 => some .left
  | 2 => some .middle
  | 3 => some .right
  | 4 => some .x1
  | 5 => some .x2
  | _ => none

inductive TouchEventType where
  | hover | down | up | move | cancel | buttonOnly | hoverLeave | cancelAll
  deriving DecidableEq, Repr

inductive ControllerType where
  | unknown | xbox | playStation | nintendo
  deriving DecidableEq, Repr

end MoonlightWeb.Streamer

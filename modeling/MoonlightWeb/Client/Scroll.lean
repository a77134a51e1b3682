import Mathlib.Data.PNat.Basic
import Mathlib.Tactic.Linarith
import MoonlightWeb.Client.InputChannels
import MoonlightWeb.Streamer.Input

/-! Scrolling, from the deltas of the page to the calls on the host stream. The page
sends whole multiples of a quantum and keeps the rest for the next delta; the
field that carries them is 16 or 8 bits wide. -/
namespace MoonlightWeb.Client
open MoonlightWeb.Machine MoonlightWeb.Throwing

inductive MouseScrollMode where
  | highres | normal
  deriving DecidableEq, Repr

structure ScrollRemainder where
  scrollRemainderX : ℚ
  scrollRemainderY : ℚ
  deriving DecidableEq

/-- The whole multiple of the quantum that is sent of an axis. -/
def wholeScroll (remainder : ℚ) (quantum : ℕ+) : ℤ := trunc (remainder / quantum) * quantum

/-- The remainder that is left, and the message if there is one. -/
def sendAccumulatedScroll (mode : MouseScrollMode) (deltaX deltaY : ℚ) (quantum : ℕ+)
    (kept : ScrollRemainder) : ScrollRemainder × Option SendOperation :=
  let remainderX := kept.scrollRemainderX + deltaX
  let remainderY := kept.scrollRemainderY + deltaY
  let integerX := wholeScroll remainderX quantum
  let integerY := wholeScroll remainderY quantum
  if integerX = 0 ∧ integerY = 0 then (⟨remainderX, remainderY⟩, none)
  else
    (⟨remainderX - integerX, remainderY - integerY⟩,
      match mode with
      | .highres => some (.mouseWheelHighRes integerX integerY)
      | .normal => some (.mouseWheel integerX integerY))

namespace Scroll
open MoonlightWeb.Streamer (HostEvent onMouseMessage)
open MoonlightWeb.Streamer.ByteBuffer (u16FromBytes)

/-- The page with its mouse channel, and what was passed to `sendAccumulatedScroll`
since the remainder was reset. -/
structure Scrolling where
  mode : MouseScrollMode
  kept : ScrollRemainder
  sender : InputChannels
  passedX : ℚ
  passedY : ℚ

def start (mode : MouseScrollMode) (sender : InputChannels) : Scrolling := ⟨mode, ⟨0, 0⟩, sender, 0, 0⟩

inductive Event where
  | scroll (deltaX deltaY : ℚ) (quantum : ℕ+)
  | setConfig (mode : MouseScrollMode)

def onMouseWheel (deltaX deltaY : ℚ) : Event := .scroll (deltaX / 5) (-deltaY / 5) 1

def step (page : Scrolling) : Event → Option Scrolling
  | .setConfig mode => some { page with mode }
  | .scroll deltaX deltaY quantum =>
    let (kept, message) := sendAccumulatedScroll page.mode deltaX deltaY quantum page.kept
    some {
      mode := page.mode
      kept
      sender := match message with
        | none => page.sender
        | some operation => (perform operation.send page.sender).2
      passedX := page.passedX + deltaX
      passedY := page.passedY + deltaY }

/-- What the host is told of a message. -/
def hostEvents (message : List UInt8) : List HostEvent :=
  match onMouseMessage.run (.new message) with
  | .ok (events, _) => events
  | .error _ => []

def scrolledX : HostEvent → ℤ
  | .sendHighResHorizontalScroll amount => amount.toInt
  | .sendHorizontalScroll clicks => clicks.toInt
  | _ => 0

def scrolledY : HostEvent → ℤ
  | .sendHighResScroll amount => amount.toInt
  | .sendScroll clicks => clicks.toInt
  | _ => 0

/-- The sum over all host events of the messages. -/
def decoded (axis : HostEvent → ℤ) (messages : List (List UInt8)) : ℤ :=
  ((messages.flatMap hostEvents).map axis).sum

theorem decoded_cons (axis : HostEvent → ℤ) (message : List UInt8) (rest : List (List UInt8)) :
    decoded axis (message :: rest) = ((hostEvents message).map axis).sum + decoded axis rest := by
  simp [decoded]

/-- The bytes of a wheel message. -/
def wheelMessage : MouseScrollMode → ℤ → ℤ → List UInt8
  | .highres, deltaX, deltaY =>
    [3] ++ (u16Bytes (UInt16.ofInt deltaX) ++ u16Bytes (UInt16.ofInt deltaY))
  | .normal, deltaX, deltaY => [4] ++ ([UInt8.ofInt deltaX] ++ [UInt8.ofInt deltaY])

/-- What a field of the mode makes of a number. -/
def wrapped : MouseScrollMode → ℤ → ℤ
  | .highres, number => (Int16.ofInt number).toInt
  | .normal, number => (Int8.ofInt number).toInt

/-- The numbers a field of the mode can hold. -/
def holds : MouseScrollMode → ℤ → Prop
  | .highres, number => -32768 ≤ number ∧ number < 32768
  | .normal, number => -128 ≤ number ∧ number < 128

theorem wrapped_eq_iff (mode : MouseScrollMode) (number : ℤ) :
    wrapped mode number = number ↔ holds mode number := by
  cases mode with
  | highres =>
    rw [wrapped, Int16.toInt_ofInt, Int.bmod_eq_iff (by decide)]
    simp [holds]
  | normal =>
    rw [wrapped, Int8.toInt_ofInt, Int.bmod_eq_iff (by decide)]
    simp [holds]

theorem u16_read_back (number : UInt16) : u16FromBytes false (u16Bytes number) = number := by
  have bound : number.toNat < 65536 := number.toNat_lt
  have high : (number.toNat >>> 8 % 256) <<< 8 % 65536 = (number.toNat >>> 8) <<< 8 := by
    have small : number.toNat / 2 ^ 8 < 256 := by omega
    rw [Nat.shiftRight_eq_div_pow, Nat.shiftLeft_eq, Nat.mod_eq_of_lt small]
    omega
  have low : number.toNat % 256 < 2 ^ 8 := Nat.mod_lt _ (by decide)
  apply UInt16.toNat_inj.mp
  simp only [u16FromBytes, u16Bytes, Bool.false_eq_true, if_false, UInt16.toNat_or,
    UInt16.toNat_shiftLeft, UInt8.toNat_toUInt16, UInt16.toNat_toUInt8, UInt16.toNat_shiftRight]
  simp only [UInt16.reduceToNat, Nat.reduceMod, Nat.reducePow, high]
  rw [← Nat.shiftLeft_add_eq_or_of_lt low, Nat.shiftLeft_eq, Nat.shiftRight_eq_div_pow]
  omega

theorem toInt16_ofInt (number : ℤ) : (UInt16.ofInt number).toInt16 = Int16.ofInt number := by
  apply Int16.toBitVec_inj.mp
  apply BitVec.eq_of_toNat_eq
  change (BitVec.ofNat 16 (number % 2 ^ 16).toNat).toNat = (BitVec.ofInt 16 number).toNat
  rw [BitVec.toNat_ofNat, BitVec.toNat_ofInt]
  omega

theorem toInt8_ofInt (number : ℤ) : (UInt8.ofInt number).toInt8 = Int8.ofInt number := by
  apply Int8.toBitVec_inj.mp
  apply BitVec.eq_of_toNat_eq
  change (BitVec.ofNat 8 (number % 2 ^ 8).toNat).toNat = (BitVec.ofInt 8 number).toNat
  rw [BitVec.toNat_ofNat, BitVec.toNat_ofInt]
  omega

/-- Both axes come out of the streamer as their fields hold them. -/
theorem wheel_decoded (mode : MouseScrollMode) (deltaX deltaY : ℤ) :
    ((hostEvents (wheelMessage mode deltaX deltaY)).map scrolledX).sum = wrapped mode deltaX ∧
      ((hostEvents (wheelMessage mode deltaX deltaY)).map scrolledY).sum = wrapped mode deltaY := by
  cases mode with
  | highres =>
    have x := congrArg UInt16.toInt16 (u16_read_back (UInt16.ofInt deltaX))
    have y := congrArg UInt16.toInt16 (u16_read_back (UInt16.ofInt deltaY))
    rw [toInt16_ofInt] at x y
    have read : hostEvents (wheelMessage .highres deltaX deltaY) =
        (if Int16.ofInt deltaY ≠ 0 then [.sendHighResScroll (Int16.ofInt deltaY)] else []) ++
          if Int16.ofInt deltaX ≠ 0 then [.sendHighResHorizontalScroll (Int16.ofInt deltaX)]
          else [] := by
      rw [← x, ← y]
      rfl
    rw [read]
    by_cases zeroX : Int16.ofInt deltaX = 0 <;> by_cases zeroY : Int16.ofInt deltaY = 0 <;>
      simp [zeroX, zeroY, scrolledX, scrolledY, wrapped]
  | normal =>
    have read : hostEvents (wheelMessage .normal deltaX deltaY) =
        (if Int8.ofInt deltaY ≠ 0 then [.sendScroll (Int8.ofInt deltaY)] else []) ++
          if Int8.ofInt deltaX ≠ 0 then [.sendHorizontalScroll (Int8.ofInt deltaX)] else [] := by
      rw [← toInt8_ofInt, ← toInt8_ofInt]
      rfl
    rw [read]
    by_cases zeroX : Int8.ofInt deltaX = 0 <;> by_cases zeroY : Int8.ofInt deltaY = 0 <;>
      simp [zeroX, zeroY, scrolledX, scrolledY, wrapped]

/-- The call that sends a wheel message. -/
def wheelOperation : MouseScrollMode → ℤ → ℤ → SendOperation
  | .highres => .mouseWheelHighRes
  | .normal => .mouseWheel

/-- A wheel message goes out on the open mouse channel whatever it carries. -/
theorem wheel_sent {sender : InputChannels} (held : sender.ChannelOpen .mouseClicks sent)
    (mode : MouseScrollMode) (deltaX deltaY : ℤ) :
    (perform (wheelOperation mode deltaX deltaY).send sender).2.ChannelOpen .mouseClicks
      (wheelMessage mode deltaX deltaY :: sent) := by
  have number (width : ℤ) : toInteger (some (width : ℚ)) = width := toInteger_intCast width
  cases mode with
  | highres =>
    have x : Writes (putI16 (some deltaX)) (u16Bytes (UInt16.ofInt deltaX)) := by
      rw [putI16, putU16, number]
      exact writes_putBytes _
    have y : Writes (putI16 (some deltaY)) (u16Bytes (UInt16.ofInt deltaY)) := by
      rw [putI16, putU16, number]
      exact writes_putBytes _
    have wrote := writes_bind (writes_putU8 3) (writes_bind x y)
    obtain ⟨after, sends, opened, -⟩ := InputChannels.sendMessage_open held wrote.room
      (by simp) (by simp [u16Bytes])
    have same : perform (wheelOperation .highres deltaX deltaY).send sender = (.ok (), after) := sends
    rw [same]
    exact opened
  | normal =>
    have x : Writes (putI8 (some deltaX)) [UInt8.ofInt deltaX] := by
      rw [putI8, putU8, number]
      exact writes_putBytes _
    have y : Writes (putI8 (some deltaY)) [UInt8.ofInt deltaY] := by
      rw [putI8, putU8, number]
      exact writes_putBytes _
    have wrote := writes_bind (writes_putU8 4) (writes_bind x y)
    obtain ⟨after, sends, opened, -⟩ := InputChannels.sendMessage_open held wrote.room
      (by simp) (by simp)
    have same : perform (wheelOperation .normal deltaX deltaY).send sender = (.ok (), after) := sends
    rw [same]
    exact opened

/-- The mouse channel is open, and in each axis what the streamer decodes behind the
messages that were there and what is kept make up what was passed. -/
def Balanced (sent : List (List UInt8)) (page : Scrolling) : Prop :=
  ∃ added, page.sender.ChannelOpen .mouseClicks (added ++ sent) ∧
    decoded scrolledX added + page.kept.scrollRemainderX = page.passedX ∧
    decoded scrolledY added + page.kept.scrollRemainderY = page.passedY

def Conserved (sent : List (List UInt8)) (_ : Scrolling) (_ : Event) (page : Scrolling) : Prop :=
  Balanced sent page

/-- What a delta makes whole fits the fields of the mode. -/
def FieldsHold (page : Scrolling) (event : Event) (_ : Scrolling) : Prop :=
  match event with
  | .scroll deltaX deltaY quantum =>
    holds page.mode (wholeScroll (page.kept.scrollRemainderX + deltaX) quantum) ∧
      holds page.mode (wholeScroll (page.kept.scrollRemainderY + deltaY) quantum)
  | .setConfig _ => True

instance (mode : MouseScrollMode) (number : ℤ) : Decidable (holds mode number) :=
  match mode with
  | .highres => inferInstanceAs (Decidable (_ ∧ _))
  | .normal => inferInstanceAs (Decidable (_ ∧ _))

instance (page : Scrolling) (event : Event) (after : Scrolling) :
    Decidable (FieldsHold page event after) :=
  match event with
  | .scroll _ _ _ => inferInstanceAs (Decidable (_ ∧ _))
  | .setConfig _ => inferInstanceAs (Decidable True)

theorem holds_zero (mode : MouseScrollMode) : holds mode 0 := by
  cases mode <;> simp [holds]

private theorem kept_small {remainder passed : ℚ} {sum : ℤ} (balance : sum + remainder = passed)
    (delta : ℚ) : sum + (remainder + delta) = passed + delta := by linarith

/-- An axis stays balanced exactly if its field brings back the number it was given. -/
private theorem axis_balanced_iff {remainder passed : ℚ} {sum : ℤ}
    (balance : sum + remainder = passed) (delta : ℚ) (mode : MouseScrollMode) (whole : ℤ) :
    ((wrapped mode whole + sum : ℤ) : ℚ) + (remainder + delta - whole) = passed + delta ↔
      holds mode whole := by
  rw [← wrapped_eq_iff]
  constructor
  · intro balanced
    push_cast at balanced
    have same : (wrapped mode whole : ℚ) = whole := by linarith
    exact_mod_cast same
  · intro same
    rw [same]
    push_cast
    linarith

theorem scroll_sends {x y : ℤ} (mode : MouseScrollMode) (deltaX deltaY : ℚ) (quantum : ℕ+)
    (kept : ScrollRemainder) (wholeX : wholeScroll (kept.scrollRemainderX + deltaX) quantum = x)
    (wholeY : wholeScroll (kept.scrollRemainderY + deltaY) quantum = y) (some : ¬ (x = 0 ∧ y = 0)) :
    sendAccumulatedScroll mode deltaX deltaY quantum kept =
      (⟨kept.scrollRemainderX + deltaX - x, kept.scrollRemainderY + deltaY - y⟩,
        .some (wheelOperation mode x y)) := by
  subst wholeX wholeY
  unfold sendAccumulatedScroll
  simp only [if_neg some]
  cases mode <;> rfl

theorem scroll_quiet (mode : MouseScrollMode) (deltaX deltaY : ℚ) (quantum : ℕ+)
    (kept : ScrollRemainder) (zeroX : wholeScroll (kept.scrollRemainderX + deltaX) quantum = 0)
    (zeroY : wholeScroll (kept.scrollRemainderY + deltaY) quantum = 0) :
    sendAccumulatedScroll mode deltaX deltaY quantum kept =
      (⟨kept.scrollRemainderX + deltaX, kept.scrollRemainderY + deltaY⟩, none) := by
  unfold sendAccumulatedScroll
  exact if_pos ⟨zeroX, zeroY⟩

theorem balanced_iff_holds (balanced : Balanced sent page) (taken : step page event = some after) :
    Balanced sent after ↔ FieldsHold page event after := by
  obtain ⟨added, opened, sumX, sumY⟩ := balanced
  cases event with
  | setConfig mode =>
    cases taken
    exact iff_of_true ⟨added, opened, sumX, sumY⟩ trivial
  | scroll deltaX deltaY quantum =>
    obtain ⟨x, wholeX⟩ : ∃ x, wholeScroll (page.kept.scrollRemainderX + deltaX) quantum = x := ⟨_, rfl⟩
    obtain ⟨y, wholeY⟩ : ∃ y, wholeScroll (page.kept.scrollRemainderY + deltaY) quantum = y := ⟨_, rfl⟩
    simp only [FieldsHold, wholeX, wholeY]
    by_cases small : x = 0 ∧ y = 0
    · obtain ⟨rfl, rfl⟩ := small
      rw [step, scroll_quiet page.mode deltaX deltaY quantum page.kept wholeX wholeY] at taken
      cases taken
      refine iff_of_true ?_ ⟨holds_zero _, holds_zero _⟩
      exact ⟨added, opened, kept_small sumX deltaX, kept_small sumY deltaY⟩
    · rw [step, scroll_sends page.mode deltaX deltaY quantum page.kept wholeX wholeY small] at taken
      cases taken
      have wheel := wheel_sent opened page.mode x y
      obtain ⟨readX, readY⟩ := wheel_decoded page.mode x y
      rw [← axis_balanced_iff sumX deltaX, ← axis_balanced_iff sumY deltaY, ← readX, ← readY,
        ← decoded_cons, ← decoded_cons]
      constructor
      · rintro ⟨more, reopened, balances⟩
        have same := wheel.opened.symm.trans reopened.opened
        simp only [Option.some.injEq, RTCDataChannel.mk.injEq, true_and, ← List.cons_append,
          List.append_cancel_right_eq] at same
        rw [same]
        exact balances
      · intro balances
        exact ⟨_ :: added, wheel, balances⟩

theorem start_balanced (mode : MouseScrollMode) {sender : InputChannels}
    (opened : sender.ChannelOpen .mouseClicks sent) : Balanced sent (start mode sender) :=
  ⟨[], opened, by simp [decoded, start], by simp [decoded, start]⟩

/-- Nothing scrolled is lost, doubled or turned around exactly if each whole
number that is sent fits the field of its mode. -/
theorem scroll_conserved_iff (mode : MouseScrollMode) {sender : InputChannels}
    (opened : sender.ChannelOpen .mouseClicks sent) (events : List Event) :
    Along step (Conserved sent) (start mode sender) events ↔
      Along step FieldsHold (start mode sender) events := by
  refine along_iff (Balanced sent) ?_ ?_ ?_
  · intro page event after balanced taken
    exact balanced_iff_holds balanced taken
  · intro page event after balanced taken held
    exact (balanced_iff_holds balanced taken).mpr held
  · exact start_balanced mode opened

/-- A page whose mouse channel just opened. -/
def opened : InputChannels :=
  { InputChannels.new.setPeer with
    channels := InputChannels.new.setPeer.channels.set .mouseClicks ⟨.opened, []⟩ }

theorem opened_mouseClicks : opened.ChannelOpen .mouseClicks [] := ⟨rfl, List.length_replicate⟩

/-- Halves of a tick add up, and what is left of them goes along into the other mode. -/
def smallTurns : List Event :=
  [.scroll 3 (-1 / 2) 1, .scroll 0 (-3 / 4) 1, .setConfig .highres, .scroll (-401 / 2) (-1 / 8) 1]

theorem small_scroll_conserved : Along step (Conserved []) (start .normal opened) smallTurns :=
  (scroll_conserved_iff .normal opened_mouseClicks smallTurns).mpr (by decide +kernel)

/-- A turn of the wheel by 640 pixels goes the other way in the normal mode. -/
theorem flick_reversed : ¬ Along step (Conserved []) (start .normal opened)
    [onMouseWheel 0 (-640)] := by
  intro conserved
  have taken : ∃ next, step (start .normal opened) (onMouseWheel 0 (-640)) = some next := ⟨_, rfl⟩
  obtain ⟨next, taken⟩ := taken
  have balanced := start_balanced .normal opened_mouseClicks
  have fits := (balanced_iff_holds balanced taken).mp (conserved next taken).1
  have y : wholeScroll (0 + - -640 / 5) 1 = 128 := by decide +kernel
  simp only [FieldsHold, onMouseWheel, start, y, holds] at fits
  omega

end Scroll

end MoonlightWeb.Client

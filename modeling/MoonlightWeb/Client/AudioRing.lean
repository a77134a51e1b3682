import MoonlightWeb.Client.StreamAudio
import MoonlightWeb.Lib.RingBuffer

/-! The ring of audio packets behind the decoder of the main thread: 128 slots, a head
and a tail that wrap, and a timer while packets are left. The queue of `StreamAudio` is
what the ring holds. -/
namespace MoonlightWeb.Client
open MoonlightWeb.Machine MoonlightWeb.RingBuffer

/-- `drainTimers` counts the timeouts that will call `drainAudioQueue`. `decoded` has
what the decoder was given, a cleared slot included, and `arrived` the packets
dispatched. -/
structure AudioRing (Packet : Type) where
  audioRingBuffer : List (Option Packet)
  audioRingHead : Nat
  audioRingTail : Nat
  audioDrainScheduled : Bool
  drainTimers : Nat
  decoded : List (Option Packet)
  arrived : List Packet

namespace AudioRing

variable {Packet : Type}

def start : AudioRing Packet where
  audioRingBuffer := List.replicate 128 none
  audioRingHead := 0
  audioRingTail := 0
  audioDrainScheduled := false
  drainTimers := 0
  decoded := []
  arrived := []

def audioRingMask : Nat := 127

def AUDIO_DRAIN_BATCH_SIZE : Nat := 4

/-- One turn of the loop of `drainAudioQueue`. What the decoder throws is caught. -/
def decodeNext (ring : AudioRing Packet) : AudioRing Packet :=
  { ring with
    audioRingBuffer := ring.audioRingBuffer.set ring.audioRingTail none
    audioRingTail := (ring.audioRingTail + 1) &&& audioRingMask
    decoded := ring.decoded ++ [ring.audioRingBuffer[ring.audioRingTail]?.join] }

/-- The loop, with the packets that the batch may still have. -/
def drainBatch : Nat → AudioRing Packet → AudioRing Packet
  | 0, ring => ring
  | count + 1, ring =>
    if ring.audioRingTail ≠ ring.audioRingHead then drainBatch count ring.decodeNext else ring

def drainAudioQueue (ring : AudioRing Packet) : AudioRing Packet :=
  let ring := ring.drainBatch AUDIO_DRAIN_BATCH_SIZE
  if ring.audioRingTail ≠ ring.audioRingHead then
    { ring with drainTimers := ring.drainTimers + 1 }
  else { ring with audioDrainScheduled := false }

/-- On overflow the oldest packet goes. -/
def put (ring : AudioRing Packet) (packet : Packet) : AudioRing Packet :=
  let nextHead := (ring.audioRingHead + 1) &&& audioRingMask
  let ring := if nextHead = ring.audioRingTail then
      { ring with
        audioRingBuffer := ring.audioRingBuffer.set ring.audioRingTail none
        audioRingTail := (ring.audioRingTail + 1) &&& audioRingMask }
    else ring
  { ring with
    audioRingBuffer := ring.audioRingBuffer.set ring.audioRingHead (some packet)
    audioRingHead := nextHead
    arrived := ring.arrived ++ [packet] }

/-- Where no worker takes the packets. -/
def dispatchAudioPacket (ring : AudioRing Packet) (packet : Packet) : AudioRing Packet :=
  let ring := ring.put packet
  if ring.audioDrainScheduled then ring
  else { ring with audioDrainScheduled := true }.drainAudioQueue

inductive Event (Packet : Type) where
  | dispatch (packet : Packet)
  | drainTick

def step (ring : AudioRing Packet) : Event Packet → Option (AudioRing Packet)
  | .dispatch packet => some (ring.dispatchAudioPacket packet)
  | .drainTick =>
    if 0 < ring.drainTimers then
      some { ring with drainTimers := ring.drainTimers - 1 }.drainAudioQueue
    else none

/-! ## The packets in the ring -/

/-- The slots from the tail to the head are these packets. -/
structure Holds (ring : AudioRing Packet) (packets : List Packet) : Prop where
  slots : ring.audioRingBuffer.length = 128
  head : ring.audioRingHead < 128
  tail : ring.audioRingTail < 128
  filled : window ring.audioRingBuffer ring.audioRingTail
    (occupied 128 ring.audioRingHead ring.audioRingTail) = packets.map some

theorem and_mask (position : Nat) : position &&& audioRingMask = position % 128 :=
  Nat.and_two_pow_sub_one_eq_mod position 7

theorem holds_start : (start : AudioRing Packet).Holds [] where
  slots := List.length_replicate
  head := Nat.zero_lt_succ _
  tail := Nat.zero_lt_succ _
  filled := by
    have empty : occupied 128 (start : AudioRing Packet).audioRingHead
      (start : AudioRing Packet).audioRingTail = 0 := occupied_self 128 0
    rw [empty, window_zero, List.map_nil]

theorem Holds.length {ring : AudioRing Packet} (holds : ring.Holds packets) :
    occupied 128 ring.audioRingHead ring.audioRingTail = packets.length := by
  have count := congrArg List.length holds.filled
  have room : occupied 128 ring.audioRingHead ring.audioRingTail < 128 := occupied_lt (by decide)
  rwa [length_window (by rw [holds.slots]; omega), List.length_map] at count

theorem Holds.length_lt {ring : AudioRing Packet} (holds : ring.Holds packets) :
    packets.length < 128 :=
  holds.length ▸ occupied_lt (by decide)

theorem Holds.empty_iff {ring : AudioRing Packet} (holds : ring.Holds packets) :
    ring.audioRingTail = ring.audioRingHead ↔ packets = [] := by
  rw [← occupied_eq_zero_iff holds.head holds.tail, holds.length, List.length_eq_zero_iff]

theorem Holds.next {ring : AudioRing Packet} (holds : ring.Holds (packet :: rest)) :
    ring.audioRingBuffer[ring.audioRingTail]?.join = some packet := by
  have room := holds.length_lt
  have first : (window ring.audioRingBuffer ring.audioRingTail (packet :: rest).length)[0]? =
      ring.audioRingBuffer[(ring.audioRingTail + 0) % ring.audioRingBuffer.length]? :=
    getElem?_window (by rw [holds.slots]; omega) (Nat.zero_lt_succ _)
  rw [← holds.length, holds.filled, Nat.add_zero, holds.slots, Nat.mod_eq_of_lt holds.tail] at first
  rw [← first]
  rfl

/-- The tail leaves the oldest packet behind. -/
theorem Holds.dropped {ring after : AudioRing Packet} (holds : ring.Holds (packet :: rest))
    (cleared : after.audioRingBuffer = ring.audioRingBuffer.set ring.audioRingTail none)
    (sameHead : after.audioRingHead = ring.audioRingHead)
    (moved : after.audioRingTail = (ring.audioRingTail + 1) &&& audioRingMask) :
    after.Holds rest := by
  have count : occupied 128 ring.audioRingHead ring.audioRingTail = rest.length + 1 := holds.length
  have room := holds.length_lt
  rw [List.length_cons] at room
  have left : occupied 128 ring.audioRingHead ((ring.audioRingTail + 1) % 128) = rest.length := by
    rw [occupied_advance_tail holds.head holds.tail (by omega), count, Nat.add_sub_cancel]
  rw [and_mask] at moved
  constructor
  · rw [cleared, List.length_set, holds.slots]
  · exact sameHead ▸ holds.head
  · exact moved ▸ Nat.mod_lt _ (by decide)
  · have shown : window (ring.audioRingBuffer.set ring.audioRingTail none)
        ((ring.audioRingTail + 1) % ring.audioRingBuffer.length) rest.length =
          (window ring.audioRingBuffer ring.audioRingTail (rest.length + 1)).drop 1 :=
      window_set_tail (by rw [holds.slots]; exact holds.tail) (by rw [holds.slots]; omega) none
    rw [holds.slots, ← count, holds.filled] at shown
    rw [cleared, sameHead, moved, left, shown]
    rfl

theorem holds_decodeNext {ring : AudioRing Packet} (holds : ring.Holds (packet :: rest)) :
    ring.decodeNext.Holds rest ∧ ring.decodeNext.decoded = ring.decoded ++ [some packet] :=
  ⟨holds.dropped rfl rfl rfl, by rw [decodeNext, holds.next]⟩

theorem holds_drainBatch {ring : AudioRing Packet} (holds : ring.Holds packets) (count : Nat) :
    (ring.drainBatch count).Holds (packets.drop count) ∧
      (ring.drainBatch count).decoded = ring.decoded ++ (packets.take count).map some := by
  induction count generalizing ring packets with
  | zero => exact ⟨holds, by rw [drainBatch, List.take_zero, List.map_nil, List.append_nil]⟩
  | succ count ih =>
    rw [drainBatch]
    cases packets with
    | nil =>
      rw [if_neg (not_not.mpr (holds.empty_iff.mpr rfl))]
      exact ⟨holds, (List.append_nil _).symm⟩
    | cons packet rest =>
      have some : ring.audioRingTail ≠ ring.audioRingHead := fun same =>
        List.cons_ne_nil _ _ (holds.empty_iff.mp same)
      obtain ⟨held, decoded⟩ := holds_decodeNext holds
      obtain ⟨left, given⟩ := ih held
      rw [if_pos some]
      exact ⟨left, by rw [given, decoded, List.append_assoc]; rfl⟩

theorem drainBatch_rest (count : Nat) (ring : AudioRing Packet) :
    (ring.drainBatch count).arrived = ring.arrived ∧
      (ring.drainBatch count).audioDrainScheduled = ring.audioDrainScheduled ∧
      (ring.drainBatch count).drainTimers = ring.drainTimers := by
  induction count generalizing ring with
  | zero => exact ⟨rfl, rfl, rfl⟩
  | succ count ih =>
    rw [drainBatch]
    split_ifs
    · exact ih ring.decodeNext
    · exact ⟨rfl, rfl, rfl⟩

/-- What a full ring keeps of its packets. -/
def kept (packets : List Packet) : List Packet :=
  if packets.length = audioRingMask then packets.drop 1 else packets

theorem full_iff {ring : AudioRing Packet} (holds : ring.Holds packets) :
    (ring.audioRingHead + 1) &&& audioRingMask = ring.audioRingTail ↔
      packets.length = audioRingMask := by
  have count := holds.length
  have headLt := holds.head
  have tailLt := holds.tail
  rw [occupied_eq headLt tailLt] at count
  rw [and_mask, wrap_eq (by omega), ← count, audioRingMask]
  split_ifs <;> omega

theorem holds_put {ring : AudioRing Packet} (holds : ring.Holds packets) (packet : Packet) :
    (ring.put packet).Holds (kept packets ++ [packet]) := by
  obtain ⟨roomy, isRoomy⟩ : ∃ roomy : AudioRing Packet, roomy =
      if (ring.audioRingHead + 1) &&& audioRingMask = ring.audioRingTail then
        { ring with
          audioRingBuffer := ring.audioRingBuffer.set ring.audioRingTail none
          audioRingTail := (ring.audioRingTail + 1) &&& audioRingMask }
      else ring := ⟨_, rfl⟩
  have sameHead : roomy.audioRingHead = ring.audioRingHead := by
    rw [isRoomy]
    split_ifs <;> rfl
  have held : roomy.Holds (kept packets) := by
    rw [isRoomy, kept]
    simp only [full_iff holds]
    split_ifs with full
    · cases packets with
      | nil => exact absurd full (Nat.zero_ne_add_one _)
      | cons oldest rest => exact holds.dropped rfl rfl rfl
    · exact holds
  have room : (kept packets).length + 1 < 128 := by
    have below := holds.length_lt
    rw [kept, audioRingMask]
    split_ifs
    · rw [List.length_drop]
      omega
    · omega
  have count := held.length
  have head := head_eq held.head held.tail
  have wrote : window (push roomy.audioRingBuffer [some packet] roomy.audioRingHead)
      roomy.audioRingTail (occupied 128 roomy.audioRingHead roomy.audioRingTail + 1) =
        window roomy.audioRingBuffer roomy.audioRingTail
          (occupied 128 roomy.audioRingHead roomy.audioRingTail) ++ [some packet] :=
    window_push (by rw [held.slots]; exact held.tail) (by rw [held.slots]; exact head)
      (by rw [held.slots, count, List.length_singleton]; omega)
  rw [push_singleton (by rw [held.slots]; exact held.head), held.filled] at wrote
  have put_eq : ring.put packet = { roomy with
      audioRingBuffer := roomy.audioRingBuffer.set roomy.audioRingHead (some packet)
      audioRingHead := (ring.audioRingHead + 1) &&& audioRingMask
      arrived := roomy.arrived ++ [packet] } := by
    rw [isRoomy]
    rfl
  rw [put_eq, ← sameHead, and_mask]
  constructor
  · rw [List.length_set, held.slots]
  · exact Nat.mod_lt _ (by decide)
  · exact held.tail
  · rw [occupied_advance_head held.head held.tail (by omega), List.map_append]
    exact wrote

/-! ## Runs -/

/-- A ring between two calls. A timer is set exactly while a drain is scheduled, and
the decoder was given packets that have gone by, in order. -/
structure Intact (ring : AudioRing Packet) (packets : List Packet) : Prop where
  holds : ring.Holds packets
  timers : ring.drainTimers = if ring.audioDrainScheduled then 1 else 0
  scheduled : packets ≠ [] → ring.audioDrainScheduled
  inOrder : ∃ passed given : List Packet, ring.arrived = passed ++ packets ∧ given.Sublist passed ∧
    ring.decoded = given.map some

/-- Intact, whatever it holds. -/
def Sound (ring : AudioRing Packet) : Prop := ∃ packets, ring.Intact packets

/-- A drain gives the decoder the oldest packets, as many as one batch has. A
dispatch that finds no drain scheduled drains at once, behind the packet it puts in,
and loses the oldest of 127 queued packets. -/
def Accounted (before : AudioRing Packet) (event : Event Packet) (after : AudioRing Packet) : Prop :=
  ∃ packets given left, before.Holds packets ∧ after.Holds left ∧
    after.decoded = before.decoded ++ given.map some ∧
    match event with
    | .drainTick => given = packets.take AUDIO_DRAIN_BATCH_SIZE ∧ packets = given ++ left
    | .dispatch packet => ∃ queued,
      ((packets.length < 127 ∧ queued = packets ++ [packet]) ∨
        ∃ oldest rest, packets = oldest :: rest ∧ packets.length = 127 ∧
          queued = rest ++ [packet]) ∧
      (given = if before.audioDrainScheduled then [] else queued.take AUDIO_DRAIN_BATCH_SIZE) ∧
      queued = given ++ left

/-- A drain that was scheduled, with no timer set any more. -/
theorem drainAudioQueue_spec (ring : AudioRing Packet) (holds : ring.Holds packets)
    (scheduled : ring.audioDrainScheduled = true) (noTimer : ring.drainTimers = 0) :
    ring.drainAudioQueue.Holds (packets.drop AUDIO_DRAIN_BATCH_SIZE) ∧
      ring.drainAudioQueue.decoded =
        ring.decoded ++ (packets.take AUDIO_DRAIN_BATCH_SIZE).map some ∧
      ring.drainAudioQueue.arrived = ring.arrived ∧
      ring.drainAudioQueue.audioDrainScheduled =
        !(packets.drop AUDIO_DRAIN_BATCH_SIZE).isEmpty ∧
      ring.drainAudioQueue.drainTimers =
        if ring.drainAudioQueue.audioDrainScheduled then 1 else 0 := by
  obtain ⟨holds, decoded⟩ := holds_drainBatch holds AUDIO_DRAIN_BATCH_SIZE
  obtain ⟨sameArrived, sameScheduled, sameTimers⟩ := drainBatch_rest AUDIO_DRAIN_BATCH_SIZE ring
  rw [drainAudioQueue]
  by_cases empty : packets.drop AUDIO_DRAIN_BATCH_SIZE = []
  · rw [if_neg (not_not.mpr (holds.empty_iff.mpr empty)), empty]
    rw [empty] at holds
    exact ⟨⟨holds.slots, holds.head, holds.tail, holds.filled⟩, decoded, sameArrived, rfl,
      sameTimers.trans noTimer⟩
  · rw [if_pos (mt holds.empty_iff.mp empty), List.isEmpty_eq_false_iff.mpr empty]
    refine ⟨⟨holds.slots, holds.head, holds.tail, holds.filled⟩, decoded, sameArrived,
      sameScheduled.trans scheduled, ?_⟩
    rw [if_pos (sameScheduled.trans scheduled)]
    exact congrArg (· + 1) (sameTimers.trans noTimer)

theorem eq_lost_append (packets : List Packet) :
    packets = packets.take (packets.length - (kept packets).length) ++ kept packets := by
  rw [kept]
  split_ifs with full
  · have one : packets.length - (packets.drop 1).length = 1 := by
      rw [List.length_drop, full]
      decide
    rw [one, List.take_append_drop]
  · rw [Nat.sub_self, List.take_zero, List.nil_append]

/-- A dispatch puts the packet behind what the ring keeps, and drains on the spot unless
a drain is scheduled. -/
theorem dispatch_spec {ring : AudioRing Packet} (intact : ring.Intact packets)
    (packet : Packet) :
    ∃ given left, (ring.dispatchAudioPacket packet).Intact left ∧
      (ring.dispatchAudioPacket packet).decoded = ring.decoded ++ given.map some ∧
      (given = if ring.audioDrainScheduled then []
        else (kept packets ++ [packet]).take AUDIO_DRAIN_BATCH_SIZE) ∧
      kept packets ++ [packet] = given ++ left := by
  have put := holds_put intact.holds packet
  have putRest : (ring.put packet).arrived = ring.arrived ++ [packet] ∧
      (ring.put packet).audioDrainScheduled = ring.audioDrainScheduled ∧
      (ring.put packet).drainTimers = ring.drainTimers ∧
      (ring.put packet).decoded = ring.decoded := by
    rw [AudioRing.put]
    split_ifs <;> exact ⟨rfl, rfl, rfl, rfl⟩
  obtain ⟨arrived, sameScheduled, sameTimers, sameDecoded⟩ := putRest
  obtain ⟨passed, decoded, isArrived, inOrder, isDecoded⟩ := intact.inOrder
  have conserved : ring.arrived ++ [packet] =
      (passed ++ packets.take (packets.length - (kept packets).length)) ++
        (kept packets ++ [packet]) := by
    rw [List.append_assoc, ← List.append_assoc _ (kept packets), ← eq_lost_append, isArrived,
      List.append_assoc]
  have goneBy := inOrder.trans (List.sublist_append_left passed
    (packets.take (packets.length - (kept packets).length)))
  rw [dispatchAudioPacket]
  by_cases scheduled : ring.audioDrainScheduled = true
  · rw [if_pos (sameScheduled.trans scheduled)]
    refine ⟨[], kept packets ++ [packet], ⟨put, ?_, fun _ => sameScheduled.trans scheduled,
      _, decoded, arrived.trans conserved, goneBy, sameDecoded.trans isDecoded⟩, ?_,
        (if_pos scheduled).symm, rfl⟩
    · rw [sameTimers, sameScheduled, intact.timers]
    · rw [sameDecoded, List.map_nil, List.append_nil]
  · have idle : ring.drainTimers = 0 := by rw [intact.timers, if_neg scheduled]
    rw [if_neg (by rw [sameScheduled]; exact scheduled)]
    obtain ⟨holds, given, drained, isScheduled, timers⟩ :=
      drainAudioQueue_spec { ring.put packet with audioDrainScheduled := true }
        ⟨put.slots, put.head, put.tail, put.filled⟩ rfl (sameTimers.trans idle)
    have given' : ({ ring.put packet with
        audioDrainScheduled := true }.drainAudioQueue).decoded = ring.decoded ++
          ((kept packets ++ [packet]).take AUDIO_DRAIN_BATCH_SIZE).map some :=
      given.trans (congrArg (· ++ _) sameDecoded)
    refine ⟨(kept packets ++ [packet]).take AUDIO_DRAIN_BATCH_SIZE, _,
      ⟨holds, timers, fun some => ?_, (passed ++
        packets.take (packets.length - (kept packets).length)) ++
          (kept packets ++ [packet]).take AUDIO_DRAIN_BATCH_SIZE,
        decoded ++ (kept packets ++ [packet]).take AUDIO_DRAIN_BATCH_SIZE, ?_,
        goneBy.append (List.Sublist.refl _), ?_⟩, given', (if_neg scheduled).symm,
          (List.take_append_drop ..).symm⟩
    · rw [isScheduled, List.isEmpty_eq_false_iff.mpr some]
      rfl
    · rw [drained, List.append_assoc, List.take_append_drop]
      exact arrived.trans conserved
    · rw [given', isDecoded, List.map_append]

theorem drainTick_spec {ring : AudioRing Packet} (intact : ring.Intact packets)
    (timer : 0 < ring.drainTimers) :
    ∃ given left, ({ ring with drainTimers := ring.drainTimers - 1 }.drainAudioQueue).Intact left ∧
      ({ ring with drainTimers := ring.drainTimers - 1 }.drainAudioQueue).decoded =
        ring.decoded ++ given.map some ∧
      given = packets.take AUDIO_DRAIN_BATCH_SIZE ∧ packets = given ++ left := by
  have timers := intact.timers
  have scheduled : ring.audioDrainScheduled = true := by
    by_contra idle
    rw [if_neg idle] at timers
    omega
  rw [if_pos scheduled] at timers
  obtain ⟨passed, decoded, isArrived, inOrder, isDecoded⟩ := intact.inOrder
  obtain ⟨holds, given, drained, isScheduled, timersAfter⟩ :=
    drainAudioQueue_spec { ring with drainTimers := ring.drainTimers - 1 }
      ⟨intact.holds.slots, intact.holds.head, intact.holds.tail, intact.holds.filled⟩ scheduled
      (show ring.drainTimers - 1 = 0 by omega)
  refine ⟨packets.take AUDIO_DRAIN_BATCH_SIZE, _, ⟨holds, timersAfter, fun some => ?_,
    passed ++ packets.take AUDIO_DRAIN_BATCH_SIZE,
    decoded ++ packets.take AUDIO_DRAIN_BATCH_SIZE, ?_,
    inOrder.append (List.Sublist.refl _), ?_⟩, given, rfl, (List.take_append_drop ..).symm⟩
  · rw [isScheduled, List.isEmpty_eq_false_iff.mpr some]
    rfl
  · rw [drained, List.append_assoc, List.take_append_drop]
    exact isArrived
  · rw [given, List.map_append]
    exact congrArg (· ++ _) isDecoded

theorem step_spec {before : AudioRing Packet} (intact : before.Intact packets)
    (taken : step before event = some after) :
    Accounted before event after ∧ ∃ left, after.Intact left := by
  cases event with
  | dispatch packet =>
    cases taken
    obtain ⟨given, left, still, decoded, isGiven, moved⟩ := dispatch_spec intact packet
    refine ⟨⟨packets, given, left, intact.holds, still.holds, decoded,
      kept packets ++ [packet], ?_, isGiven, moved⟩, left, still⟩
    rw [kept]
    split_ifs with full
    · cases packets with
      | nil => exact absurd full (Nat.zero_ne_add_one _)
      | cons oldest rest => exact .inr ⟨oldest, rest, rfl, full, rfl⟩
    · refine .inl ⟨?_, rfl⟩
      have below := intact.holds.length_lt
      have notFull : packets.length ≠ 127 := full
      omega
  | drainTick =>
    rw [step] at taken
    split_ifs at taken with timer
    cases taken
    obtain ⟨given, left, still, decoded, isGiven, moved⟩ := drainTick_spec intact timer
    exact ⟨⟨packets, given, left, intact.holds, still.holds, decoded, isGiven, moved⟩, left, still⟩

theorem intact_start : (start : AudioRing Packet).Intact [] where
  holds := holds_start
  timers := rfl
  scheduled := absurd rfl
  inOrder := ⟨[], [], rfl, List.Sublist.refl _, rfl⟩

/-- The new ring is intact. Wherever the indices of an intact ring stand, every run from
it decodes the packets in the order they came, loses only the oldest of 127, and has a
timer set while packets are queued. -/
theorem main_thread_audio_queue :
    (start : AudioRing Packet).Intact [] ∧
      ∀ (first : AudioRing Packet) (packets : List Packet) (events : List (Event Packet))
        (final : AudioRing Packet), first.Intact packets → run step first events = some final →
          (∃ left, final.Intact left) ∧ Along step Accounted first events := by
  have kept (ring : AudioRing Packet) (event : Event Packet) (next : AudioRing Packet)
      (sound : ring.Sound) (taken : step ring event = some next) : next.Sound := by
    obtain ⟨packets, intact⟩ := sound
    exact (step_spec intact taken).2
  refine ⟨intact_start, fun first packets events final intact ran => ?_⟩
  have began : first.Sound := ⟨packets, intact⟩
  have sound : final.Sound := run_preserves kept began ran
  refine ⟨sound, ?_⟩
  refine along_imp Sound (fun ring event next sound taken _ => ?_)
    (fun ring event next sound taken _ => kept ring event next sound taken) began
    (along_of_events (P := fun _ _ _ => True) fun _ _ _ _ => trivial)
  obtain ⟨packets, intact⟩ := sound
  exact (step_spec intact taken).1

/-- A ring of 127 packets whose head and tail have gone round. -/
def full : AudioRing Nat where
  audioRingBuffer := (List.range' 27 100).map some ++ none :: (List.range 27).map some
  audioRingHead := 100
  audioRingTail := 101
  audioDrainScheduled := true
  drainTimers := 1
  decoded := []
  arrived := List.range 127

theorem intact_full : full.Intact (List.range 127) where
  holds := ⟨by decide +kernel, by decide, by decide, by decide +kernel⟩
  timers := rfl
  scheduled := fun _ => rfl
  inOrder := ⟨[], [], rfl, List.Sublist.refl _, rfl⟩

/-- Packet 128 of a full ring is the end of packet 0, and the next drain decodes the
four after it. -/
theorem main_thread_audio_queue_full :
    ∃ final, run step full [.dispatch 127, .drainTick] = some final ∧
      final.decoded = [some 1, some 2, some 3, some 4] ∧ (∃ left, final.Intact left) ∧
        Along step Accounted full [.dispatch 127, .drainTick] := by
  have ended : (run step full [.dispatch 127, .drainTick]).map AudioRing.decoded =
      some [some 1, some 2, some 3, some 4] := by
    decide +kernel
  obtain ⟨final, ran, decoded⟩ := Option.map_eq_some_iff.mp ended
  exact ⟨final, ran, decoded,
    main_thread_audio_queue.2 full (List.range 127) _ final intact_full ran⟩

/-! ## The queue of a stream -/

/-- The ring behind the queue and the main thread's decoder of a stream. -/
structure Represents (ring : AudioRing AudioPacket) (stream : StreamAudio) : Prop where
  holds : ring.Holds stream.audioRing
  scheduled : ring.audioDrainScheduled = stream.audioDrainScheduled
  decoded : stream.audioDecoder.map (List.map some) = some ring.decoded

theorem foldl_decode (stream : StreamAudio) (packets : List AudioPacket) :
    packets.foldl StreamAudio.decode stream =
      { stream with audioDecoder := stream.audioDecoder.map (· ++ packets) } := by
  induction packets generalizing stream with
  | nil => simp only [List.foldl_nil, List.append_nil, Option.map_id']
  | cons packet rest ih =>
    rw [List.foldl_cons, ih, StreamAudio.decode]
    cases stream.audioDecoder with
    | none => rfl
    | some given =>
      simp only [Option.map_some, List.append_assoc, List.singleton_append]

theorem Represents.drain {ring : AudioRing AudioPacket} {stream : StreamAudio}
    (represents : ring.Represents stream) :
    ring.drainAudioQueue.Represents stream.drainAudioQueue := by
  obtain ⟨holds, decoded⟩ := holds_drainBatch represents.holds AUDIO_DRAIN_BATCH_SIZE
  obtain ⟨-, sameScheduled, -⟩ := drainBatch_rest AUDIO_DRAIN_BATCH_SIZE ring
  have given : ((stream.audioDecoder.map (· ++ stream.audioRing.take AUDIO_DRAIN_BATCH_SIZE)).map
      (List.map some)) = some (ring.drainBatch AUDIO_DRAIN_BATCH_SIZE).decoded := by
    have before := represents.decoded
    rw [decoded]
    cases known : stream.audioDecoder with
    | none => simp only [known, Option.map_none, reduceCtorEq] at before
    | some given =>
      simp only [known, Option.map_some, Option.some.injEq] at before ⊢
      rw [List.map_append, before]
  rw [drainAudioQueue, StreamAudio.drainAudioQueue, foldl_decode]
  by_cases empty : stream.audioRing.drop AUDIO_DRAIN_BATCH_SIZE = []
  · rw [if_neg (not_not.mpr (holds.empty_iff.mpr empty))]
    refine (if_pos empty).symm ▸ ⟨⟨holds.slots, holds.head, holds.tail, holds.filled⟩, rfl, given⟩
  · rw [if_pos (mt holds.empty_iff.mp empty)]
    refine (if_neg empty).symm ▸ ⟨⟨holds.slots, holds.head, holds.tail, holds.filled⟩,
      sameScheduled.trans represents.scheduled, given⟩

/-- Where no worker takes the packets, a stream's queue does what its ring does. -/
theorem Represents.dispatch {ring : AudioRing AudioPacket} {stream : StreamAudio}
    (represents : ring.Represents stream)
    (mainThread : ¬ (stream.useAudioDecodeWorker ∧ stream.audioDecodeWorker))
    (packet : AudioPacket) :
    (ring.dispatchAudioPacket packet).Represents (stream.dispatchAudioPacket packet) := by
  have putHolds := holds_put represents.holds packet
  have put : (ring.put packet).audioDrainScheduled = ring.audioDrainScheduled ∧
      (ring.put packet).decoded = ring.decoded := by
    rw [AudioRing.put]
    split_ifs <;> exact ⟨rfl, rfl⟩
  have queue : (if stream.audioRing.length + 1 = StreamAudio.AUDIO_RING_SLOTS then
      stream.audioRing.drop 1 else stream.audioRing) = kept stream.audioRing := by
    have sameTest : stream.audioRing.length + 1 = StreamAudio.AUDIO_RING_SLOTS ↔
        stream.audioRing.length = audioRingMask := Nat.succ_inj
    rw [kept]
    simp only [sameTest]
  have decoded := represents.decoded.trans (congrArg some put.2.symm)
  rw [dispatchAudioPacket, StreamAudio.dispatchAudioPacket, if_neg mainThread, queue]
  by_cases scheduled : ring.audioDrainScheduled = true
  · rw [if_pos (put.1.trans scheduled)]
    refine (if_pos (represents.scheduled.symm.trans scheduled)).symm ▸ ⟨putHolds, ?_, decoded⟩
    exact put.1.trans represents.scheduled
  · rw [if_neg (by rw [put.1]; exact scheduled)]
    have idle : ¬ stream.audioDrainScheduled = true := represents.scheduled ▸ scheduled
    refine (if_neg idle).symm ▸ ?_
    apply Represents.drain
    exact ⟨⟨putHolds.slots, putHolds.head, putHolds.tail, putHolds.filled⟩, rfl, decoded⟩

end AudioRing

end MoonlightWeb.Client

import Mathlib.Algebra.Order.Field.Rat
import Mathlib.Tactic.Linarith
import Mathlib.Tactic.NormNum
import MoonlightWeb.Lib.Machine
import MoonlightWeb.Streamer.Video

/-! The task that writes the samples of a track: a token bucket between the
channel the decoder fills and the RTP track. The task is a machine whose
location says where in its loop it stands; the decoder, the clock and the track
are its environment. A whole queue may be dropped at once, and the track numbers
a packet only when it is written. -/
namespace MoonlightWeb.Streamer
open MoonlightWeb.Machine

/-- How the library takes one written packet: no binding wants packets, it was
sent, or sending failed. -/
inductive Delivery where
  | paused | sent | failed
  deriving DecidableEq, Repr

/-- A track the pacer can write to. -/
class TrackLike (τ : Type) (S : outParam Type) where
  sampleSize : S → Nat
  /-- The sample as it is handed to the library, and the track after it. -/
  writeWithExtensions : τ → S → Delivery → S × τ

def withSequenceNumber (sample : Video.Packet) (number : UInt16) : Video.Packet :=
  { sample with header := { sample.header with sequenceNumber := number } }

structure SequencedTrackLocalStaticRTP where
  sequenceNumber : UInt16
  deriving DecidableEq, Repr

namespace SequencedTrackLocalStaticRTP

def new : SequencedTrackLocalStaticRTP := ⟨0⟩

/-- A paused track returns before it counts; any other write takes a number,
also one that fails. -/
def writeWithExtensions (track : SequencedTrackLocalStaticRTP) (sample : Video.Packet)
    (delivery : Delivery) : Video.Packet × SequencedTrackLocalStaticRTP :=
  if delivery = .paused then (sample, track)
  else
    (withSequenceNumber sample track.sequenceNumber, ⟨track.sequenceNumber + 1⟩)

instance : TrackLike SequencedTrackLocalStaticRTP Video.Packet where
  sampleSize sample := 12 + sample.payload.length
  writeWithExtensions := writeWithExtensions

end SequencedTrackLocalStaticRTP

def PACE_QUEUE_MAX : Nat := 4096

/-- Where the task stands in its loop. -/
inductive Location (S : Type) where
  | head | tryRecv | check | recv | refill | sleep | drain
  | write (sample : S)
  | finished
  deriving DecidableEq, Repr

/-- What happened so far, as far as anyone can tell from outside. -/
inductive Entry (S : Type) where
  | arrived (sample : S)
  | refilled (now : ℚ)
  | cleared (dropped : List S)
  | wrote (sample asWritten : S) (delivery : Delivery)
  deriving DecidableEq

structure SampleSender (τ S : Type) where
  track : τ
  /-- The channel, with its capacity and whether its sender is still there. -/
  channel : List S
  capacity : Nat
  connected : Bool
  rate : ℚ
  burstBytes : ℚ
  budget : ℚ
  lastRefill : ℚ
  queue : List S
  opened : Bool
  location : Location S
  /-- The newest entry comes first. -/
  log : List (Entry S)
  deriving DecidableEq

/-- What the decoder, the task, the clock and the track do. -/
inductive SenderEvent (S : Type) where
  | send (sample : S)
  | disconnect
  | run
  | clock (now : ℚ)
  | wake
  | delivery (delivery : Delivery)
  deriving DecidableEq

namespace SampleSender

variable {τ S : Type} [TrackLike τ S]

def new (track : τ) (capacity paceBytesPerSec : Nat) (now : ℚ) : SampleSender τ S :=
  let rate : ℚ := (max paceBytesPerSec 1 : Nat)
  let burstBytes : ℚ := max (rate * (5 / 1000)) 24000
  { track, capacity, rate, burstBytes
    channel := []
    connected := true
    budget := burstBytes
    lastRefill := now
    queue := []
    opened := true
    location := .head
    log := [] }

/-- One step of the task that waits for nobody. -/
def runStep (sender : SampleSender τ S) : Option (SampleSender τ S) :=
  match sender.location with
  | .head =>
    some { sender with
      location := if sender.opened || !sender.queue.isEmpty then .tryRecv else .finished }
  | .tryRecv =>
    match sender.channel with
    | sample :: rest => some { sender with channel := rest, queue := sender.queue ++ [sample] }
    | [] =>
      some { sender with opened := sender.opened && sender.connected, location := .check }
  | .check =>
    if sender.queue.length > PACE_QUEUE_MAX then
      some { sender with
        queue := []
        location := .head
        log := .cleared sender.queue :: sender.log }
    else if sender.queue.isEmpty then
      some { sender with location := if sender.opened then .recv else .finished }
    else some { sender with location := .refill }
  | .recv =>
    match sender.channel with
    | sample :: rest =>
      some { sender with channel := rest, queue := sender.queue ++ [sample], location := .head }
    | [] => if sender.connected then none else some { sender with opened := false, location := .head }
  | .sleep =>
    if sender.opened then
      match sender.channel with
      | sample :: rest => some { sender with channel := rest, queue := sender.queue ++ [sample] }
      | [] => if sender.connected then none else some { sender with opened := false }
    else none
  | .drain =>
    match sender.queue with
    | [] => some { sender with location := .head }
    | sample :: rest =>
      if sender.budget > 0 then
        some { sender with
          queue := rest
          budget := sender.budget - (TrackLike.sampleSize τ sample : Nat)
          location := .write sample }
      else some { sender with location := .head }
  | .refill | .write _ | .finished => none

def step (sender : SampleSender τ S) : SenderEvent S → Option (SampleSender τ S)
  | .send sample =>
    if sender.connected ∧ sender.channel.length < sender.capacity then
      some { sender with
        channel := sender.channel ++ [sample]
        log := .arrived sample :: sender.log }
    else none
  | .disconnect => if sender.connected then some { sender with connected := false } else none
  | .run => runStep sender
  | .clock now =>
    match sender.location with
    | .refill =>
      if sender.lastRefill ≤ now then
        let budget :=
          min (sender.budget + (now - sender.lastRefill) * sender.rate) sender.burstBytes
        some { sender with
          budget
          lastRefill := now
          location := if budget ≤ 0 then .sleep else .drain
          log := .refilled now :: sender.log }
      else none
    | _ => none
  | .wake =>
    match sender.location with
    | .sleep => some { sender with location := .head }
    | _ => none
  | .delivery delivery =>
    match sender.location with
    | .write sample =>
      let (asWritten, track) := TrackLike.writeWithExtensions sender.track sample delivery
      some { sender with
        track
        location := .drain
        log := .wrote sample asWritten delivery :: sender.log }
    | _ => none

/-- The task itself touches neither the track nor the log, but for a cleared
queue. -/
theorem run_step_log {sender : SampleSender τ S} (taken : runStep sender = some next) :
    next.track = sender.track ∧
      (next.log = sender.log ∨ next.log = .cleared sender.queue :: sender.log) := by
  cases place : sender.location with
  | head =>
    simp only [runStep, place, Option.some.injEq] at taken
    subst next
    exact ⟨rfl, .inl rfl⟩
  | tryRecv =>
    cases waiting : sender.channel <;>
      (simp only [runStep, place, waiting, Option.some.injEq] at taken
       subst next
       exact ⟨rfl, .inl rfl⟩)
  | check =>
    simp only [runStep, place] at taken
    split at taken
    · cases taken
      exact ⟨rfl, .inr rfl⟩
    · split at taken <;> cases taken <;> exact ⟨rfl, .inl rfl⟩
  | recv =>
    simp only [runStep, place] at taken
    split at taken
    · cases taken
      exact ⟨rfl, .inl rfl⟩
    · split at taken <;> cases taken
      exact ⟨rfl, .inl rfl⟩
  | sleep =>
    simp only [runStep, place] at taken
    split at taken
    · split at taken
      · cases taken
        exact ⟨rfl, .inl rfl⟩
      · split at taken <;> cases taken
        exact ⟨rfl, .inl rfl⟩
    · cases taken
  | drain =>
    simp only [runStep, place] at taken
    split at taken
    · cases taken
      exact ⟨rfl, .inl rfl⟩
    · split at taken <;> cases taken <;> exact ⟨rfl, .inl rfl⟩
  | refill | write sample | finished => simp [runStep, place] at taken

/-- Everything a step can do to the track and to the log: nothing, an entry
about something else, or one write. -/
theorem step_log_cases {sender : SampleSender τ S} (taken : step sender event = some next) :
    (next.track = sender.track ∧ (next.log = sender.log ∨
      ∃ entry, (∀ sample asWritten delivery, entry ≠ .wrote sample asWritten delivery) ∧
        next.log = entry :: sender.log)) ∨
    ∃ sample delivery, event = .delivery delivery ∧ sender.location = .write sample ∧
      next.track = (TrackLike.writeWithExtensions sender.track sample delivery).2 ∧
      next.log = .wrote sample (TrackLike.writeWithExtensions sender.track sample delivery).1
        delivery :: sender.log := by
  cases event with
  | send sample =>
    simp only [step, Option.ite_none_right_eq_some, Option.some.injEq] at taken
    obtain ⟨_, rfl⟩ := taken
    exact .inl ⟨rfl, .inr ⟨.arrived sample, by simp, rfl⟩⟩
  | disconnect =>
    simp only [step, Option.ite_none_right_eq_some, Option.some.injEq] at taken
    obtain ⟨_, rfl⟩ := taken
    exact .inl ⟨rfl, .inl rfl⟩
  | run =>
    obtain ⟨same, kept | cleared⟩ := run_step_log taken
    · exact .inl ⟨same, .inl kept⟩
    · exact .inl ⟨same, .inr ⟨.cleared sender.queue, by simp, cleared⟩⟩
  | clock now =>
    simp only [step] at taken
    split at taken
    · simp only [Option.ite_none_right_eq_some, Option.some.injEq] at taken
      obtain ⟨_, rfl⟩ := taken
      exact .inl ⟨rfl, .inr ⟨.refilled now, by simp, rfl⟩⟩
    · cases taken
  | wake =>
    simp only [step] at taken
    split at taken
    · cases taken
      exact .inl ⟨rfl, .inl rfl⟩
    · cases taken
  | delivery delivery =>
    simp only [step] at taken
    split at taken
    · rename_i sample writing
      cases taken
      exact .inr ⟨sample, delivery, rfl, writing, rfl, rfl⟩
    · cases taken

end SampleSender

namespace Entry

def isSent : Entry S → Bool
  | .wrote _ _ .sent => true
  | _ => false

def isFailed : Entry S → Bool
  | .wrote _ _ .failed => true
  | _ => false

def isCleared : Entry S → Bool
  | .cleared _ => true
  | _ => false

/-- A write that the track counted. -/
def takesNumber (entry : Entry S) : Bool := entry.isSent || entry.isFailed

end Entry

/-- Every counted packet carries the number of packets counted before it. -/
def Numbered : List (Entry Video.Packet) → Prop
  | [] => True
  | .wrote sample asWritten delivery :: older =>
    ((Entry.wrote sample asWritten delivery).takesNumber = true →
      asWritten.header.sequenceNumber = UInt16.ofNat (older.countP Entry.takesNumber)) ∧
      Numbered older
  | _ :: older => Numbered older

theorem numbered_older (newer : List (Entry Video.Packet)) (numbered : Numbered (newer ++ older)) : Numbered older := by
  induction newer with
  | nil => exact numbered
  | cons entry rest ih =>
    cases entry with
    | wrote sample asWritten delivery => exact ih numbered.2
    | arrived | refilled | cleared => exact ih numbered

theorem numbered_cons_other (other : ∀ sample asWritten delivery,
    entry ≠ Entry.wrote sample asWritten delivery) :
    Numbered (entry :: older) ↔ Numbered older := by
  cases entry with
  | wrote sample asWritten delivery => exact absurd rfl (other sample asWritten delivery)
  | arrived | refilled | cleared => exact Iff.rfl

theorem other_takes_no_number (other : ∀ sample asWritten delivery,
    entry ≠ Entry.wrote sample asWritten delivery) : entry.takesNumber = false := by
  cases entry with
  | wrote sample asWritten delivery => exact absurd rfl (other sample asWritten delivery)
  | arrived | refilled | cleared => rfl

section Sequenced

abbrev Sender := SampleSender SequencedTrackLocalStaticRTP Video.Packet

/-- The track and the log agree on how many packets were counted. -/
def Counted (sender : Sender) : Prop :=
  sender.track.sequenceNumber = UInt16.ofNat (sender.log.countP Entry.takesNumber) ∧
    Numbered sender.log

theorem step_keeps_counted (sender : Sender) (event : SenderEvent Video.Packet) (next : Sender)
    (counted : Counted sender) (taken : SampleSender.step sender event = some next) :
    Counted next := by
  obtain ⟨number, numbered⟩ := counted
  obtain ⟨same, kept | ⟨entry, other, added⟩⟩ | ⟨sample, delivery, _, _, track, added⟩ :=
    SampleSender.step_log_cases taken
  · exact ⟨by rw [same, kept, number], by rwa [kept]⟩
  · refine ⟨?_, by rw [added]; exact (numbered_cons_other other).mpr numbered⟩
    rw [same, added, List.countP_cons_of_neg (by simp [other_takes_no_number other]), number]
  · simp only [TrackLike.writeWithExtensions,
      SequencedTrackLocalStaticRTP.writeWithExtensions] at track added
    cases delivery with
    | paused =>
      simp only [↓reduceIte] at track added
      refine ⟨?_, by rw [added]; exact ⟨by simp [Entry.takesNumber, Entry.isSent, Entry.isFailed],
        numbered⟩⟩
      rw [track, added, List.countP_cons_of_neg
        (by simp [Entry.takesNumber, Entry.isSent, Entry.isFailed]), number]
    | sent | failed =>
      simp only [reduceCtorEq, ↓reduceIte] at track added
      refine ⟨?_, by rw [added]; exact ⟨fun _ => number, numbered⟩⟩
      rw [track, added, List.countP_cons_of_pos
        (by simp [Entry.takesNumber, Entry.isSent, Entry.isFailed])]
      simp [number, UInt16.ofNat_add]

/-- In every run the track numbers the packets it counts from zero on. -/
theorem reachable_counted {sender : Sender}
    (reached : Reachable SampleSender.step (SampleSender.new .new capacity rate now) sender) :
    Counted sender :=
  have initially : Counted (SampleSender.new .new capacity rate now) := ⟨rfl, trivial⟩
  reachable_invariant _ initially step_keeps_counted reached

/-- Where nothing was sent, only failed writes took numbers. -/
theorem counted_none_sent {entries : List (Entry S)} (noneSent : entries.countP Entry.isSent = 0) :
    entries.countP Entry.takesNumber = entries.countP Entry.isFailed := by
  apply List.countP_congr
  intro entry member
  have := List.countP_eq_zero.mp noneSent entry member
  simp [Entry.takesNumber, this]

/-- Two packets sent one after the other: the newest entries, the later packet,
what lies between, the earlier packet and the rest of the log. -/
structure ConsecutivelySent (log : List (Entry Video.Packet)) (later earlier : Video.Packet)
    (between : List (Entry Video.Packet)) : Prop where
  inLog : ∃ newer laterSample earlierSample older,
    log = newer ++ .wrote laterSample later .sent :: between ++
      .wrote earlierSample earlier .sent :: older
  noneSent : between.countP Entry.isSent = 0

/-- The numbers of two packets sent one after the other are apart by one and the
failed writes between them. -/
theorem consecutively_sent_numbers (numbered : Numbered log)
    (consecutive : ConsecutivelySent log later earlier between) :
    later.header.sequenceNumber = earlier.header.sequenceNumber + 1 +
      UInt16.ofNat (between.countP Entry.isFailed) := by
  obtain ⟨⟨newer, laterSample, earlierSample, older, rfl⟩, noneSent⟩ := consecutive
  rw [List.append_assoc, List.cons_append] at numbered
  obtain ⟨laterNumber, rest⟩ := numbered_older _ numbered
  obtain ⟨earlierNumber, _⟩ := numbered_older between rest
  rw [laterNumber rfl, earlierNumber rfl, List.countP_append, List.countP_cons_of_pos rfl,
    counted_none_sent noneSent]
  simp only [UInt16.ofNat_add]
  grind

/-- A dropped queue shows in the sequence numbers around it. -/
def DropsVisible (log : List (Entry Video.Packet)) : Prop :=
  ∀ later earlier between, ConsecutivelySent log later earlier between →
    between.any Entry.isCleared = true →
      later.header.sequenceNumber ≠ earlier.header.sequenceNumber + 1

/-- Some writes failed around every dropped queue, but not a whole round of
sequence numbers. -/
def FailuresAroundDrops (log : List (Entry Video.Packet)) : Prop :=
  ∀ later earlier between, ConsecutivelySent log later earlier between →
    between.any Entry.isCleared = true → between.countP Entry.isFailed % 65536 ≠ 0

private theorem number_round (failed : Nat) (number : UInt16) :
    number + UInt16.ofNat failed = number ↔ failed % 65536 = 0 := by
  rw [← UInt16.toNat_inj, UInt16.toNat_add, UInt16.toNat_ofNat']
  have := number.toNat_lt
  omega

/-- In every run, the dropped queues show in the sequence numbers exactly when
writes failed around each of them: the numbers are taken after the drop, so a
drop alone leaves them consecutive. -/
theorem drops_visible_iff {sender : Sender}
    (reached : Reachable SampleSender.step (SampleSender.new .new capacity rate now) sender) :
    DropsVisible sender.log ↔ FailuresAroundDrops sender.log := by
  have numbered := (reachable_counted reached).2
  refine forall_congr' fun later => forall_congr' fun earlier => forall_congr' fun between =>
    forall_congr' fun consecutive => forall_congr' fun _ => ?_
  rw [consecutively_sent_numbers numbered consecutive, Ne, Ne, not_iff_not,
    number_round (between.countP Entry.isFailed)]

/-- A task at the head of its loop with nothing to send. -/
structure Idle (sender : Sender) : Prop where
  atHead : sender.location = .head
  noneQueued : sender.queue = []
  noneWaiting : sender.channel = []
  room : 0 < sender.capacity
  connected : sender.connected = true
  opened : sender.opened = true

/-- The events by which one packet comes in and is written, from an idle task back
to its head. -/
def writeOne (sample : Video.Packet) (now : ℚ) (delivery : Delivery) : List (SenderEvent Video.Packet) :=
  [.send sample, .run, .run, .run, .run, .clock now, .run, .delivery delivery, .run]

/-- The task after `writeOne`, unless the track is paused. -/
def afterWriting (sender : Sender) (sample : Video.Packet) (delivery : Delivery) : Sender :=
  { sender with
    track := ⟨sender.track.sequenceNumber + 1⟩
    budget := min sender.budget sender.burstBytes - ((12 + sample.payload.length : Nat) : ℚ)
    log := .wrote sample (withSequenceNumber sample sender.track.sequenceNumber) delivery ::
      .refilled sender.lastRefill :: .arrived sample :: sender.log }

/-- An idle task takes a packet that comes in, and goes on to refill its budget. -/
private theorem run_receive {sender : Sender} (sample : Video.Packet) (idle : Idle sender) :
    run SampleSender.step sender [.send sample, .run, .run, .run, .run] = some { sender with
      queue := [sample]
      location := .refill
      log := .arrived sample :: sender.log } := by
  obtain ⟨track, channel, capacity, connected, rate, burst, budget, last, queue, opened,
    location, log⟩ := sender
  obtain ⟨rfl, rfl, rfl, room, rfl, rfl⟩ := idle
  simp only at room
  simp [run_cons, SampleSender.step, SampleSender.runStep, room, PACE_QUEUE_MAX]

/-- No time has passed since the last refill. -/
private theorem run_refill {sender : Sender} (atRefill : sender.location = .refill)
    (isLast : sender.lastRefill = now) (budget : 0 < min sender.budget sender.burstBytes) :
    run SampleSender.step sender [.clock now] = some { sender with
      budget := min sender.budget sender.burstBytes
      location := .drain
      log := .refilled now :: sender.log } := by
  subst isLast
  simp only [run_cons, run_nil, SampleSender.step, atRefill, le_refl, if_true, sub_self, zero_mul,
    add_zero, if_neg (not_le.mpr budget), Option.bind_some]

/-- The one packet in the queue is written, and the task is back at its head. -/
private theorem run_write {sender : Sender} (atDrain : sender.location = .drain)
    (one : sender.queue = [sample]) (budget : 0 < sender.budget) (counts : delivery ≠ .paused) :
    run SampleSender.step sender [.run, .delivery delivery, .run] = some { sender with
      track := ⟨sender.track.sequenceNumber + 1⟩
      budget := sender.budget - ((12 + sample.payload.length : Nat) : ℚ)
      queue := []
      location := .head
      log := .wrote sample (withSequenceNumber sample sender.track.sequenceNumber) delivery ::
        sender.log } := by
  simp only [run_cons, run_nil, SampleSender.step, SampleSender.runStep, atDrain, one, gt_iff_lt,
    if_pos budget, Option.bind_some, TrackLike.writeWithExtensions,
    SequencedTrackLocalStaticRTP.writeWithExtensions, TrackLike.sampleSize, if_neg counts]

private theorem run_writeOne {sender : Sender} (sample : Video.Packet) (idle : Idle sender)
    (budget : 0 < min sender.budget sender.burstBytes) (counts : delivery ≠ .paused) :
    run SampleSender.step sender (writeOne sample sender.lastRefill delivery) =
      some (afterWriting sender sample delivery) := by
  have split : writeOne sample sender.lastRefill delivery =
      [.send sample, .run, .run, .run, .run] ++
        ([.clock sender.lastRefill] ++ [.run, .delivery delivery, .run]) := rfl
  rw [split, run_append, run_receive sample idle, Option.bind_some, run_append,
    run_refill rfl rfl ?_, Option.bind_some, run_write rfl rfl ?_ counts]
  · rw [afterWriting, idle.atHead, idle.noneQueued]
  · exact budget
  · exact budget

/-- A burst that arrives while the task empties the channel all goes into the
queue. -/
private theorem run_burst (sender : Sender) (sample : Video.Packet) (count : Nat)
    (receiving : sender.location = .tryRecv) (noneWaiting : sender.channel = [])
    (room : 0 < sender.capacity) (connected : sender.connected = true) :
    run SampleSender.step sender (List.replicate count [.send sample, .run]).flatten =
      some { sender with
        queue := sender.queue ++ List.replicate count sample
        log := List.replicate count (.arrived sample) ++ sender.log } := by
  induction count generalizing sender with
  | zero => simp
  | succ count ih =>
    obtain ⟨track, channel, capacity, connected', rate, burst, budget', last, queue, opened',
      location, log⟩ := sender
    cases receiving
    cases noneWaiting
    cases connected
    simp only at room
    simp only [List.replicate_succ, List.flatten_cons, run_append]
    simp only [run_cons, run_nil, SampleSender.step, SampleSender.runStep, List.length_nil, room,
      and_self, ↓reduceIte, Option.bind_some, List.nil_append]
    rw [ih _ rfl rfl room rfl]
    have arrivals : List.replicate count (Entry.arrived sample) ++ .arrived sample :: log =
        .arrived sample :: (List.replicate count (.arrived sample) ++ log) := by
      rw [← List.cons_append, ← List.replicate_succ, List.replicate_succ', List.append_assoc]
      rfl
    simp [arrivals]

/-- The events by which a burst overflows an idle task's queue. -/
def overflow (sample : Video.Packet) : List (SenderEvent Video.Packet) :=
  [.run] ++ (List.replicate (PACE_QUEUE_MAX + 1) [.send sample, .run]).flatten ++ [.run, .run]

/-- The task after `overflow`. -/
def afterOverflow (sender : Sender) (sample : Video.Packet) : Sender :=
  { sender with
    log := .cleared (List.replicate (PACE_QUEUE_MAX + 1) sample) ::
      (List.replicate (PACE_QUEUE_MAX + 1) (.arrived sample) ++ sender.log) }

private theorem run_overflow {sender : Sender} (sample : Video.Packet) (idle : Idle sender) :
    run SampleSender.step sender (overflow sample) = some (afterOverflow sender sample) := by
  have begun : run SampleSender.step sender [.run] = some { sender with location := .tryRecv } := by
    simp [run_cons, SampleSender.step, SampleSender.runStep, idle.atHead, idle.opened]
  rw [overflow, run_append, run_append, begun, Option.bind_some,
    run_burst { sender with location := .tryRecv } sample _ rfl idle.noneWaiting
      idle.room idle.connected, Option.bind_some]
  have tooLong : (List.replicate (PACE_QUEUE_MAX + 1) sample).length > PACE_QUEUE_MAX := by
    rw [List.length_replicate]
    exact Nat.lt_succ_self _
  obtain ⟨track, channel, capacity, connected, rate, burst, budget, last, queue, opened,
    location, log⟩ := sender
  obtain ⟨rfl, rfl, rfl, room, rfl, rfl⟩ := idle
  simp only [run_cons, run_nil, SampleSender.step, SampleSender.runStep, Bool.and_self,
    Option.bind_some, List.nil_append, if_pos tooLong, afterOverflow]

/-- A packet, a dropped burst and another packet are sent one after the other,
with consecutive numbers. -/
private theorem run_through_overflow (sender : Sender) (sample : Video.Packet) (idle : Idle sender)
    (budget : ((12 + sample.payload.length : Nat) : ℚ) < min sender.budget sender.burstBytes) :
    ∃ final : Sender,
      run SampleSender.step sender (writeOne sample sender.lastRefill .sent ++ (overflow sample ++
        writeOne sample sender.lastRefill .sent)) = some final ∧
      ∃ later earlier between, ConsecutivelySent final.log later earlier between ∧
        between.any Entry.isCleared = true ∧
        later.header.sequenceNumber = earlier.header.sequenceNumber + 1 := by
  have enough : 0 < min sender.budget sender.burstBytes :=
    lt_of_le_of_lt (Nat.cast_nonneg _) budget
  have enoughLeft : 0 < min (min sender.budget sender.burstBytes -
      ((12 + sample.payload.length : Nat) : ℚ)) sender.burstBytes :=
    lt_min (sub_pos.mpr budget) (lt_min_iff.mp enough).2
  have idleAfter : Idle (afterWriting sender sample .sent) := { idle with }
  have idleAgain : Idle (afterOverflow (afterWriting sender sample .sent) sample) := { idle with }
  refine ⟨afterWriting (afterOverflow (afterWriting sender sample .sent) sample) sample .sent, ?_, ?_⟩
  · rw [run_append, run_writeOne sample idle enough (by decide), Option.bind_some, run_append,
      run_overflow sample idleAfter, Option.bind_some]
    exact run_writeOne sample idleAgain enoughLeft (by decide)
  · let number := sender.track.sequenceNumber
    refine ⟨withSequenceNumber sample (number + 1), withSequenceNumber sample number,
      .refilled sender.lastRefill :: .arrived sample ::
        .cleared (List.replicate (PACE_QUEUE_MAX + 1) sample) ::
          List.replicate (PACE_QUEUE_MAX + 1) (.arrived sample),
      ⟨⟨[], sample, sample, .refilled sender.lastRefill :: .arrived sample :: sender.log, ?_⟩, ?_⟩,
      ?_, rfl⟩
    · simp only [afterWriting, afterOverflow, number, List.nil_append, List.cons_append]
    · simp [List.countP_replicate, Entry.isSent]
    · simp [Entry.isCleared]

/-- In a log with two sent packets there is one pair of them. -/
theorem between_unique {between : List (Entry Video.Packet)} (noneSent : between.countP Entry.isSent = 0)
    (noneBefore : older.countP Entry.isSent = 0)
    (consecutive : ConsecutivelySent (.wrote laterSample later .sent :: between ++
      .wrote earlierSample earlier .sent :: older) later' earlier' between') : between' = between := by
  obtain ⟨⟨newer, laterSample', earlierSample', older', same⟩, noneSent'⟩ := consecutive
  have counts := congrArg (List.countP Entry.isSent) same
  cases newer with
  | nil =>
    have tails := (List.cons.inj same).2
    have first (entries rest : List (Entry Video.Packet)) (sample packet : Video.Packet)
        (none : entries.countP Entry.isSent = 0) :
        (entries ++ .wrote sample packet .sent :: rest).takeWhile (fun entry => !entry.isSent) = entries := by
      rw [List.takeWhile_append_of_pos, List.takeWhile_cons_of_neg, List.append_nil]
      · simp [Entry.isSent]
      · intro entry among
        simpa using List.countP_eq_zero.mp none entry among
    rw [← first between' older' earlierSample' earlier' noneSent', ← first between older earlierSample earlier noneSent]
    exact congrArg _ tails.symm
  | cons head newer =>
    obtain ⟨rfl, _⟩ := List.cons.inj same
    simp only [List.cons_append, List.countP_append, List.countP_cons, noneSent, noneBefore, noneSent', Entry.isSent,
      if_true] at counts
    omega

/-- Where a write failed behind the dropped burst, its number shows the drop. -/
private theorem run_through_failure (sender : Sender) (sample : Video.Packet) (idle : Idle sender)
    (fresh : sender.log = [])
    (budget : ((2 * (12 + sample.payload.length) : Nat) : ℚ) < min sender.budget sender.burstBytes) :
    ∃ final : Sender,
      run SampleSender.step sender (writeOne sample sender.lastRefill .sent ++ (overflow sample ++
        (writeOne sample sender.lastRefill .failed ++ writeOne sample sender.lastRefill .sent))) = some final ∧
      (∃ later earlier between, ConsecutivelySent final.log later earlier between ∧
        between.any Entry.isCleared = true) ∧
      FailuresAroundDrops final.log := by
  obtain ⟨size, isSize⟩ : ∃ size, size = 12 + sample.payload.length := ⟨_, rfl⟩
  have own : (0 : ℚ) ≤ (size : ℚ) := Nat.cast_nonneg _
  rw [← isSize] at budget
  push_cast at budget
  have most := min_le_right sender.budget sender.burstBytes
  let first := afterWriting sender sample .sent
  let dropped := afterOverflow first sample
  let failed := afterWriting dropped sample .failed
  have left : min first.budget first.burstBytes = min sender.budget sender.burstBytes - (size : ℚ) := by
    rw [isSize]
    exact min_eq_left ((sub_le_self _ (Nat.cast_nonneg _)).trans most)
  have leftAgain : min failed.budget failed.burstBytes = min sender.budget sender.burstBytes - 2 * (size : ℚ) := by
    have spent : failed.budget = min first.budget first.burstBytes - (size : ℚ) := by rw [isSize]; rfl
    have same : failed.burstBytes = sender.burstBytes := rfl
    rw [spent, left, same, min_eq_left (by linarith)]
    linarith
  have idleAfter : Idle first := { idle with }
  have idleAgain : Idle dropped := { idle with }
  have idleLast : Idle failed := { idle with }
  let number := sender.track.sequenceNumber
  let between : List (Entry Video.Packet) :=
    .refilled sender.lastRefill :: .arrived sample :: .wrote sample (withSequenceNumber sample (number + 1)) .failed ::
      .refilled sender.lastRefill :: .arrived sample :: .cleared (List.replicate (PACE_QUEUE_MAX + 1) sample) ::
        List.replicate (PACE_QUEUE_MAX + 1) (.arrived sample)
  have noneSent : between.countP Entry.isSent = 0 := by simp [between, List.countP_replicate, Entry.isSent]
  have log : (afterWriting failed sample .sent).log =
      .wrote sample (withSequenceNumber sample (number + 1 + 1)) .sent :: between ++
        .wrote sample (withSequenceNumber sample number) .sent :: [.refilled sender.lastRefill, .arrived sample] := by
    simp only [failed, dropped, first, between, afterWriting, afterOverflow, fresh, number, List.cons_append]
  refine ⟨afterWriting failed sample .sent, ?_, ⟨_, _, between, ⟨⟨[], _, _, _, log⟩, noneSent⟩, ?_⟩, ?_⟩
  · rw [run_append, run_writeOne sample idle (by linarith) (by decide), Option.bind_some, run_append,
      run_overflow sample idleAfter, Option.bind_some, run_append]
    have paid : 0 < min dropped.budget dropped.burstBytes := by
      have same : min dropped.budget dropped.burstBytes = min first.budget first.burstBytes := rfl
      rw [same, left]
      linarith
    have wrote : run SampleSender.step dropped (writeOne sample sender.lastRefill .failed) = some failed :=
      run_writeOne sample idleAgain paid (by decide)
    rw [wrote, Option.bind_some]
    exact run_writeOne sample idleLast (by rw [leftAgain]; linarith) (by decide)
  · simp [between, Entry.isCleared]
  · intro later earlier between' consecutive _
    rw [log] at consecutive
    have one : between.countP Entry.isFailed = 1 := by
      simp [between, List.countP_cons, List.countP_replicate, Entry.isFailed]
    rw [between_unique noneSent (by simp [Entry.isSent]) consecutive, one]
    decide

private def blank : Video.Packet := ⟨⟨2, false, false, false, 0, 0, 0, 0⟩, []⟩

/-- One packet is sent, a burst of more than the queue may hold is dropped, and
the packet sent next has the number that follows. -/
theorem drop_leaves_numbers_consecutive :
    ¬ ∀ (capacity paceBytesPerSec : Nat) (now : ℚ) (sender : Sender),
      Reachable SampleSender.step (SampleSender.new .new capacity paceBytesPerSec now) sender →
        DropsVisible sender.log := by
  intro claimed
  obtain ⟨final, ran, later, earlier, between, consecutive, dropped, follows⟩ :=
    run_through_overflow (SampleSender.new .new 8 187500 0) blank
      ⟨rfl, rfl, rfl, by decide, rfl, rfl⟩ (by norm_num [SampleSender.new, blank])
  exact claimed 8 187500 0 final ⟨_, ran⟩ later earlier between consecutive dropped follows

/-- After a dropped burst a failed write shows the drop; without one the condition does not hold,
and the drop does not show. -/
theorem drops_visible_after_failure :
    (∃ sender : Sender, Reachable SampleSender.step (SampleSender.new .new 8 187500 0) sender ∧
      (∃ later earlier between, ConsecutivelySent sender.log later earlier between ∧
        between.any Entry.isCleared = true) ∧ DropsVisible sender.log) ∧
    ∃ sender : Sender, Reachable SampleSender.step (SampleSender.new .new 8 187500 0) sender ∧
      ¬ FailuresAroundDrops sender.log := by
  have idle : Idle (SampleSender.new .new 8 187500 0) := ⟨rfl, rfl, rfl, by decide, rfl, rfl⟩
  constructor
  · obtain ⟨sender, ran, dropped, failures⟩ := run_through_failure (SampleSender.new .new 8 187500 0) blank idle rfl
      (by norm_num [SampleSender.new, blank])
    exact ⟨sender, ⟨_, ran⟩, dropped, (drops_visible_iff ⟨_, ran⟩).mpr failures⟩
  · obtain ⟨sender, ran, later, earlier, between, consecutive, dropped, follows⟩ :=
      run_through_overflow (SampleSender.new .new 8 187500 0) blank idle (by norm_num [SampleSender.new, blank])
    refine ⟨sender, ⟨_, ran⟩, fun failures => ?_⟩
    exact (drops_visible_iff ⟨_, ran⟩).mpr failures later earlier between consecutive dropped follows

end Sequenced

end MoonlightWeb.Streamer

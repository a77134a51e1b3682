import Mathlib.Algebra.GroupWithZero.Nat
import MoonlightWeb.Lib.Machine
import MoonlightWeb.Lib.RingBuffer

/-! The audio worklet: decoded PCM goes into a ring of samples for each channel, and
the rendering thread takes 128 frames at a time. Playback waits for the ring to fill
to the prime level and skips samples when it holds too many. -/
namespace MoonlightWeb.Client
open MoonlightWeb.Machine MoonlightWeb.RingBuffer

/-- The part of the processor that the statistics do not concern. -/
structure PcmPlaybackProcessor (α : Type) where
  ringL : List α
  ringR : List α
  writePos : Nat
  readPos : Nat
  underruns : Nat
  framesWritten : Nat
  drops : Nat
  priming : Bool

/-- The buffers a process call leaves; its first `read` frames came from the ring. -/
structure Quantum (α : Type) where
  outL : List α
  outR : List α
  read : Nat

namespace PcmPlaybackProcessor

def ringSize : Nat := 96000

def primeSamples : Nat := 14400

def targetSamples : Nat := 14400

def softOverrunSamples : Nat := 21600

def hardOverrunSamples : Nat := 38400

variable {α : Type}

def available (processor : PcmPlaybackProcessor α) : Nat :=
  occupied ringSize processor.writePos processor.readPos

def writeToRing (processor : PcmPlaybackProcessor α) (left right : List α) :
    PcmPlaybackProcessor α :=
  let len := left.length
  let freeSpace := ringSize - 1 - processor.available
  if freeSpace < len then processor
  else
    let firstPart := min len (ringSize - processor.writePos)
    let ringL := overlay processor.ringL (left.take firstPart) processor.writePos
    let ringR := overlay processor.ringR (right.take firstPart) processor.writePos
    { processor with
      ringL := if firstPart < len then overlay ringL (left.drop firstPart) 0 else ringL
      ringR := if firstPart < len then overlay ringR (right.drop firstPart) 0 else ringR
      writePos := (processor.writePos + len) % ringSize }

def handlePcm (processor : PcmPlaybackProcessor α) (left right : List α) :
    PcmPlaybackProcessor α :=
  let processor := processor.writeToRing left right
  { processor with framesWritten := processor.framesWritten + 1 }

variable [Zero α]

def start : PcmPlaybackProcessor α where
  ringL := List.replicate ringSize 0
  ringR := List.replicate ringSize 0
  writePos := 0
  readPos := 0
  underruns := 0
  framesWritten := 0
  drops := 0
  priming := true

/-- The buffers as the audio thread hands them in. -/
def silence (needed : Nat) : Quantum α where
  outL := List.replicate needed 0
  outR := List.replicate needed 0
  read := 0

/-- One channel of `_readFromRing`. -/
def readChannel (ring out : List α) (readPos toRead needed : Nat) : List α :=
  let firstPart := min toRead (ringSize - readPos)
  let out := overlay out (ring.extract readPos (readPos + firstPart)) 0
  let out := if firstPart < toRead then
      overlay out (ring.extract 0 (toRead - firstPart)) firstPart
    else out
  if toRead < needed then overlay out (List.replicate (needed - toRead) 0) toRead else out

def readFromRing (processor : PcmPlaybackProcessor α) (output : Quantum α)
    (toRead needed : Nat) : PcmPlaybackProcessor α × Quantum α :=
  ({ processor with readPos := (processor.readPos + toRead) % ringSize },
   { outL := readChannel processor.ringL output.outL processor.readPos toRead needed
     outR := readChannel processor.ringR output.outR processor.readPos toRead needed
     read := toRead })

/-- `Math.round(4 * t)`, with `t` the part of the way from the soft threshold to the
hard one. A half rounds up. -/
def extraSkip (available : Nat) : Nat :=
  let span := hardOverrunSamples - softOverrunSamples
  let above := min span (available - softOverrunSamples)
  (2 * 4 * above + span) / (2 * span)

def process (processor : PcmPlaybackProcessor α) (needed : Nat) :
    PcmPlaybackProcessor α × Quantum α :=
  let available := processor.available
  if available = 0 then
    if processor.priming then (processor, silence needed)
    else
      ({ processor with underruns := processor.underruns + 1, priming := true }, silence needed)
  else if processor.priming ∧ available < primeSamples then (processor, silence needed)
  else
    let processor := { processor with priming := false }
    if hardOverrunSamples < available then
      let excess := available - targetSamples
      let processor := { processor with
        readPos := (processor.readPos + excess) % ringSize
        drops := processor.drops + 1 }
      let newAvail := processor.available
      processor.readFromRing (silence needed) (min needed newAvail) needed
    else if softOverrunSamples < available then
      let (processor, output) := processor.readFromRing (silence needed) needed needed
      let skip := min (extraSkip available) (available - needed)
      if 0 < skip then
        ({ processor with readPos := (processor.readPos + skip) % ringSize }, output)
      else (processor, output)
    else processor.readFromRing (silence needed) (min needed available) needed

end PcmPlaybackProcessor

/-! ## The ring as a queue -/

namespace PcmPlaybackProcessor

variable {α : Type}

structure InRange (processor : PcmPlaybackProcessor α) : Prop where
  left : processor.ringL.length = ringSize
  right : processor.ringR.length = ringSize
  writePos : processor.writePos < ringSize
  readPos : processor.readPos < ringSize

/-- The frames between the read position and the write position. -/
def queued (processor : PcmPlaybackProcessor α) : List (α × α) :=
  (window processor.ringL processor.readPos processor.available).zip
    (window processor.ringR processor.readPos processor.available)

theorem available_lt (processor : PcmPlaybackProcessor α) : processor.available < ringSize :=
  occupied_lt (by decide)

theorem length_queued {processor : PcmPlaybackProcessor α} (inRange : processor.InRange) :
    processor.queued.length = processor.available := by
  have room := processor.available_lt
  rw [queued, List.length_zip, length_window (by rw [inRange.left]; omega),
    length_window (by rw [inRange.right]; omega), Nat.min_self]

/-- The read position moved over `count` frames, and the rings were left alone. -/
structure Moved (processor after : PcmPlaybackProcessor α) (count : Nat) : Prop where
  ringL : after.ringL = processor.ringL
  ringR : after.ringR = processor.ringR
  writePos : after.writePos = processor.writePos
  readPos : after.readPos = (processor.readPos + count) % ringSize

theorem Moved.inRange {processor : PcmPlaybackProcessor α} (moved : Moved processor after count)
    (inRange : processor.InRange) : after.InRange where
  left := moved.ringL ▸ inRange.left
  right := moved.ringR ▸ inRange.right
  writePos := moved.writePos ▸ inRange.writePos
  readPos := moved.readPos ▸ Nat.mod_lt _ (by decide)

theorem Moved.available {processor : PcmPlaybackProcessor α} (moved : Moved processor after count)
    (inRange : processor.InRange) (enough : count ≤ processor.available) :
    after.available = processor.available - count := by
  rw [PcmPlaybackProcessor.available, moved.writePos, moved.readPos,
    occupied_advance_tail inRange.writePos inRange.readPos enough, PcmPlaybackProcessor.available]

theorem Moved.queued {processor : PcmPlaybackProcessor α} (moved : Moved processor after count)
    (inRange : processor.InRange) (enough : count ≤ processor.available) :
    after.queued = processor.queued.drop count := by
  have room := processor.available_lt
  rw [PcmPlaybackProcessor.queued, PcmPlaybackProcessor.queued, List.zip_eq_zipWith, List.zip_eq_zipWith,
    List.drop_zipWith, drop_window (by rw [inRange.left]; omega) enough,
    drop_window (by rw [inRange.right]; omega) enough, inRange.left, inRange.right,
    moved.available inRange enough, moved.ringL, moved.ringR, moved.readPos]

theorem Moved.trans {processor : PcmPlaybackProcessor α} (first : Moved processor middle count)
    (second : Moved middle after more) : Moved processor after (count + more) where
  ringL := second.ringL.trans first.ringL
  ringR := second.ringR.trans first.ringR
  writePos := second.writePos.trans first.writePos
  readPos := by rw [second.readPos, first.readPos, Nat.mod_add_mod, Nat.add_assoc]

theorem writeToRing_full {processor : PcmPlaybackProcessor α}
    (full : ringSize - 1 - processor.available < left.length) (right : List α) :
    processor.writeToRing left right = processor := by
  rw [writeToRing, if_pos full]

theorem writeToRing_room {processor : PcmPlaybackProcessor α} (inRange : processor.InRange)
    (paired : left.length = right.length)
    (room : left.length ≤ ringSize - 1 - processor.available) :
    processor.writeToRing left right =
      { processor with
        ringL := push processor.ringL left processor.writePos
        ringR := push processor.ringR right processor.writePos
        writePos := (processor.writePos + left.length) % ringSize } := by
  rw [writeToRing, if_neg (by omega)]
  simp only [push, inRange.left, inRange.right, ← paired]

theorem inRange_writeToRing {processor : PcmPlaybackProcessor α} (inRange : processor.InRange)
    (paired : left.length = right.length) : (processor.writeToRing left right).InRange := by
  by_cases room : left.length ≤ ringSize - 1 - processor.available
  · rw [writeToRing_room inRange paired room]
    have below := inRange.writePos
    have positive : 0 < ringSize := by decide
    constructor
    · exact (length_push (by rw [inRange.left]; exact below)
        (by rw [inRange.left]; omega)).trans inRange.left
    · exact (length_push (by rw [inRange.right]; exact below)
        (by rw [inRange.right]; omega)).trans inRange.right
    · exact Nat.mod_lt _ positive
    · exact inRange.readPos
  · rw [writeToRing_full (by omega)]
    exact inRange

theorem available_writeToRing {processor : PcmPlaybackProcessor α} (inRange : processor.InRange)
    (paired : left.length = right.length)
    (room : left.length ≤ ringSize - 1 - processor.available) :
    (processor.writeToRing left right).available = processor.available + left.length := by
  have below := processor.available_lt
  rw [writeToRing_room inRange paired room]
  exact occupied_advance_head inRange.writePos inRange.readPos
    (show processor.available + left.length < ringSize by omega)

/-- An accepted chunk is appended. -/
theorem queued_writeToRing {processor : PcmPlaybackProcessor α} (inRange : processor.InRange)
    (paired : left.length = right.length)
    (room : left.length ≤ ringSize - 1 - processor.available) :
    (processor.writeToRing left right).queued = processor.queued ++ left.zip right := by
  have below := processor.available_lt
  have isHead := head_eq inRange.writePos inRange.readPos
  rw [queued, available_writeToRing inRange paired room, writeToRing_room inRange paired room]
  rw [window_push (by rw [inRange.left]; exact inRange.readPos)
      (by rw [inRange.left]; exact isHead) (by rw [inRange.left]; omega), paired,
    window_push (by rw [inRange.right]; exact inRange.readPos)
      (by rw [inRange.right]; exact isHead) (by rw [inRange.right]; omega),
    List.zip_append]
  · rfl
  · rw [length_window (by rw [inRange.left]; omega), length_window (by rw [inRange.right]; omega)]

/-! The counts of the statistics change none of this. -/

theorem available_counted (processor : PcmPlaybackProcessor α) (framesWritten : Nat) :
    { processor with framesWritten }.available = processor.available := rfl

theorem queued_counted (processor : PcmPlaybackProcessor α) (framesWritten : Nat) :
    { processor with framesWritten }.queued = processor.queued := rfl

theorem priming_counted (processor : PcmPlaybackProcessor α) (framesWritten : Nat) :
    { processor with framesWritten }.priming = processor.priming := rfl

theorem priming_written (processor : PcmPlaybackProcessor α) (ringL ringR : List α)
    (writePos : Nat) : { processor with ringL, ringR, writePos }.priming = processor.priming := rfl

theorem InRange.counted {processor : PcmPlaybackProcessor α} (inRange : processor.InRange)
    (framesWritten : Nat) : { processor with framesWritten }.InRange :=
  ⟨inRange.left, inRange.right, inRange.writePos, inRange.readPos⟩

theorem available_handlePcm (processor : PcmPlaybackProcessor α) (left right : List α) :
    (processor.handlePcm left right).available = (processor.writeToRing left right).available := by
  rw [handlePcm, available_counted]

theorem queued_handlePcm (processor : PcmPlaybackProcessor α) (left right : List α) :
    (processor.handlePcm left right).queued = (processor.writeToRing left right).queued := by
  rw [handlePcm, queued_counted]

theorem priming_handlePcm {processor : PcmPlaybackProcessor α} (inRange : processor.InRange)
    (paired : left.length = right.length) :
    (processor.handlePcm left right).priming = processor.priming := by
  rw [handlePcm, priming_counted]
  by_cases room : left.length ≤ ringSize - 1 - processor.available
  · rw [writeToRing_room inRange paired room, priming_written]
  · rw [writeToRing_full (not_le.mp room)]

theorem inRange_handlePcm {processor : PcmPlaybackProcessor α} (inRange : processor.InRange)
    (paired : left.length = right.length) : (processor.handlePcm left right).InRange :=
  (inRange_writeToRing inRange paired).counted _

/-! ## What a process call takes from the queue -/

variable [Zero α]

/-- Frames in the two buffers, and silence behind them. -/
def render (frames : List (α × α)) (needed : Nat) : Quantum α where
  outL := frames.map Prod.fst ++ List.replicate (needed - frames.length) 0
  outR := frames.map Prod.snd ++ List.replicate (needed - frames.length) 0
  read := frames.length

theorem readChannel_eq {ring : List α} {position toRead needed : Nat}
    (inRing : ring.length = ringSize) (positionLt : position < ringSize)
    (fewer : toRead ≤ needed) (room : toRead < ringSize) :
    readChannel ring (List.replicate needed 0) position toRead needed =
      window ring position toRead ++ List.replicate (needed - toRead) 0 := by
  set firstPart := min toRead (ringSize - position) with isFirst
  have inTwo : window ring position toRead =
      (ring.drop position).take toRead ++ ring.take (toRead - (ring.length - position)) :=
    window_eq_append (by omega) (by omega)
  have first : ring.extract position (position + firstPart) =
      (ring.drop position).take toRead := by
    rw [List.extract_eq_take_drop, Nat.add_sub_cancel_left, List.take_eq_take_iff,
      List.length_drop]
    omega
  have firstLength : ((ring.drop position).take toRead).length = firstPart := by
    rw [List.length_take, List.length_drop]
    omega
  have copied : (if firstPart < toRead then
        overlay (overlay (List.replicate needed 0) (ring.extract position (position + firstPart)) 0)
          (ring.extract 0 (toRead - firstPart)) firstPart
      else overlay (List.replicate needed 0) (ring.extract position (position + firstPart)) 0) =
      window ring position toRead ++ List.replicate (needed - toRead) 0 := by
    have start : overlay (List.replicate needed 0) ((ring.drop position).take toRead) 0 =
        (ring.drop position).take toRead ++ List.replicate (needed - firstPart) 0 := by
      rw [← firstLength, ← List.drop_replicate]
      exact overlay_append [] _ _ rfl
    rw [first, start, inTwo, inRing]
    by_cases wraps : firstPart < toRead
    · have second : toRead - firstPart = toRead - (ringSize - position) := by omega
      rw [if_pos wraps, overlay_append _ _ _ firstLength, List.drop_replicate,
        List.extract_eq_take_drop, List.drop_zero, Nat.sub_zero, List.length_take, second]
      congr 2
      omega
    · have nothing : toRead - (ringSize - position) = 0 := by omega
      have all : firstPart = toRead := by omega
      rw [if_neg wraps, nothing, List.take_zero, List.append_nil, all]
  rw [readChannel, ← isFirst]
  simp only [copied]
  split
  · rw [overlay_append _ _ _ (length_window (by omega)), List.length_replicate,
      List.drop_replicate, Nat.sub_self, List.replicate_zero, List.append_nil]
  · have nothing : needed - toRead = 0 := by omega
    rfl

theorem readFromRing_output {processor : PcmPlaybackProcessor α} (inRange : processor.InRange)
    (enough : toRead ≤ processor.available) (fewer : toRead ≤ needed) :
    (processor.readFromRing (silence needed) toRead needed).2 =
      render (processor.queued.take toRead) needed := by
  have room := processor.available_lt
  have shown : processor.queued.take toRead =
      (window processor.ringL processor.readPos toRead).zip
        (window processor.ringR processor.readPos toRead) := by
    rw [queued, List.zip_eq_zipWith, List.take_zipWith, take_window _ enough, take_window _ enough,
      List.zip_eq_zipWith]
  have leftLength : (window processor.ringL processor.readPos toRead).length = toRead :=
    length_window (by rw [inRange.left]; omega)
  have rightLength : (window processor.ringR processor.readPos toRead).length = toRead :=
    length_window (by rw [inRange.right]; omega)
  simp only [readFromRing, silence, render, shown,
    readChannel_eq inRange.left inRange.readPos fewer (by omega),
    readChannel_eq inRange.right inRange.readPos fewer (by omega), List.length_zip, leftLength,
    rightLength, Nat.min_self, List.map_fst_zip (leftLength.trans rightLength.symm).le,
    List.map_snd_zip (leftLength.trans rightLength.symm).ge]

theorem priming_readFromRing (processor : PcmPlaybackProcessor α) (output : Quantum α)
    (toRead needed : Nat) :
    (processor.readFromRing output toRead needed).1.priming = processor.priming := rfl

theorem moved_readFromRing (processor : PcmPlaybackProcessor α) (output : Quantum α)
    (toRead needed : Nat) :
    Moved processor (processor.readFromRing output toRead needed).1 toRead :=
  ⟨rfl, rfl, rfl, rfl⟩

/-- Nothing to play, or not enough to begin. -/
def Silent (processor : PcmPlaybackProcessor α) : Prop :=
  processor.available = 0 ∨ (processor.priming ∧ processor.available < primeSamples)

instance (processor : PcmPlaybackProcessor α) : Decidable processor.Silent :=
  inferInstanceAs (Decidable (_ ∨ _))

/-- What a hard overrun skips, before it plays. -/
def hardSkip (available : Nat) : Nat :=
  if hardOverrunSamples < available then available - targetSamples else 0

def played (available needed : Nat) : Nat :=
  if hardOverrunSamples < available then min needed targetSamples else min needed available

/-- What a soft overrun skips, after it has played. -/
def softSkip (available needed : Nat) : Nat :=
  if hardOverrunSamples < available then 0
  else if softOverrunSamples < available then min (extraSkip available) (available - needed)
  else 0

theorem turn_le (available : Nat) (small : needed ≤ 128) :
    hardSkip available + played available needed + softSkip available needed ≤ available := by
  by_cases hard : hardOverrunSamples < available
  · rw [hardSkip, played, softSkip, if_pos hard, if_pos hard, if_pos hard]
    simp only [hardOverrunSamples, targetSamples] at hard ⊢
    omega
  · rw [hardSkip, played, softSkip, if_neg hard, if_neg hard, if_neg hard]
    split_ifs <;> omega

theorem left_le (available needed : Nat) :
    available - (hardSkip available + played available needed + softSkip available needed) ≤
      hardOverrunSamples := by
  by_cases hard : hardOverrunSamples < available
  · rw [hardSkip, if_pos hard]
    simp only [hardOverrunSamples, targetSamples] at hard ⊢
    omega
  · exact (Nat.sub_le _ _).trans (not_lt.mp hard)

theorem played_le (available needed : Nat) : played available needed ≤ needed := by
  rw [played]
  split_ifs <;> exact Nat.min_le_left _ _

/-- A silent call leaves the ring alone and goes on to fill it. -/
theorem process_silent {processor : PcmPlaybackProcessor α} (inRange : processor.InRange)
    (silent : processor.Silent) (needed : Nat) :
    Moved processor (processor.process needed).1 0 ∧
      (processor.process needed).1.priming = true ∧
      (processor.process needed).2 = render [] needed := by
  have stays : processor.readPos = (processor.readPos + 0) % ringSize :=
    (Nat.mod_eq_of_lt inRange.readPos).symm
  obtain empty | filling := silent
  · by_cases priming : processor.priming = true
    · rw [process, if_pos empty, if_pos priming]
      exact ⟨⟨rfl, rfl, rfl, stays⟩, priming, rfl⟩
    · rw [process, if_pos empty, if_neg priming]
      exact ⟨⟨rfl, rfl, rfl, stays⟩, rfl, rfl⟩
  · by_cases empty : processor.available = 0
    · rw [process, if_pos empty, if_pos filling.1]
      exact ⟨⟨rfl, rfl, rfl, stays⟩, filling.1, rfl⟩
    · rw [process, if_neg empty, if_pos filling]
      exact ⟨⟨rfl, rfl, rfl, stays⟩, filling.1, rfl⟩

/-- Where a call that plays begins to read: behind what a hard overrun skips. -/
def begun (processor : PcmPlaybackProcessor α) : PcmPlaybackProcessor α :=
  if hardOverrunSamples < processor.available then
    { processor with
      priming := false
      readPos := (processor.readPos + (processor.available - targetSamples)) % ringSize
      drops := processor.drops + 1 }
  else { processor with priming := false }

omit [Zero α] in
theorem moved_begun {processor : PcmPlaybackProcessor α} (inRange : processor.InRange) :
    Moved processor processor.begun (hardSkip processor.available) := by
  unfold begun hardSkip
  split_ifs
  · exact ⟨rfl, rfl, rfl, rfl⟩
  · exact ⟨rfl, rfl, rfl, (Nat.mod_eq_of_lt inRange.readPos).symm⟩

omit [Zero α] in
theorem priming_begun (processor : PcmPlaybackProcessor α) : processor.begun.priming = false := by
  unfold begun
  split_ifs <;> rfl

/-- What a soft overrun does behind the frames that were read. -/
def skip (processor : PcmPlaybackProcessor α) (count : Nat) : PcmPlaybackProcessor α :=
  if 0 < count then { processor with readPos := (processor.readPos + count) % ringSize }
  else processor

omit [Zero α] in
theorem moved_skip {processor : PcmPlaybackProcessor α} (inRange : processor.InRange)
    (count : Nat) : Moved processor (processor.skip count) count := by
  unfold skip
  split_ifs with some
  · exact ⟨rfl, rfl, rfl, rfl⟩
  · rw [Nat.eq_zero_of_not_pos some]
    exact ⟨rfl, rfl, rfl, (Nat.mod_eq_of_lt inRange.readPos).symm⟩

omit [Zero α] in
theorem priming_skip (processor : PcmPlaybackProcessor α) (count : Nat) :
    (processor.skip count).priming = processor.priming := by
  unfold skip
  split_ifs <;> rfl

/-- The three ways to play differ in what they skip. -/
theorem process_eq {processor : PcmPlaybackProcessor α} (inRange : processor.InRange)
    (playing : ¬ processor.Silent) (small : needed ≤ 128) :
    processor.process needed =
      let read := processor.begun.readFromRing (silence needed)
        (played processor.available needed) needed
      (read.1.skip (softSkip processor.available needed), read.2) := by
  obtain ⟨notEmpty, notLow⟩ := not_or.mp playing
  have left := (moved_begun inRange).available inRange
    ((Nat.le_add_right _ _).trans ((Nat.le_add_right _ _).trans
      (turn_le processor.available small)))
  by_cases hard : hardOverrunSamples < processor.available
  · have newAvail : processor.begun.available = targetSamples := by
      rw [left, hardSkip, if_pos hard]
      simp only [hardOverrunSamples, targetSamples] at hard ⊢
      omega
    have turn : processor.process needed = processor.begun.readFromRing (silence needed)
        (min needed processor.begun.available) needed := by
      rw [process, if_neg notEmpty, if_neg notLow]
      dsimp only
      rw [if_pos hard, begun, if_pos hard]
    rw [turn, newAvail, played, softSkip, if_pos hard, if_pos hard]
    rfl
  · have isBegun : processor.begun = { processor with priming := false } := if_neg hard
    rw [process, if_neg notEmpty, if_neg notLow, isBegun, played, softSkip, if_neg hard,
      if_neg hard]
    dsimp only
    rw [if_neg hard]
    by_cases soft : softOverrunSamples < processor.available
    · have all : min needed processor.available = needed := by
        simp only [softOverrunSamples] at soft
        omega
      rw [if_pos soft, if_pos soft, all, skip]
      split_ifs <;> rfl
    · rw [if_neg soft, if_neg soft]
      rfl

theorem process_playing {processor : PcmPlaybackProcessor α} (inRange : processor.InRange)
    (playing : ¬ processor.Silent) (small : needed ≤ 128) :
    Moved processor (processor.process needed).1
        (hardSkip processor.available + played processor.available needed +
          softSkip processor.available needed) ∧
      (processor.process needed).1.priming = false ∧
      (processor.process needed).2 =
        render ((processor.queued.drop (hardSkip processor.available)).take
          (played processor.available needed)) needed := by
  have moved := moved_begun inRange
  have room := turn_le processor.available small
  have enough : hardSkip processor.available ≤ processor.available := by omega
  have read := moved.trans (moved_readFromRing processor.begun (silence needed)
    (played processor.available needed) needed)
  have output := readFromRing_output (moved.inRange inRange)
    (show played processor.available needed ≤ processor.begun.available by
      rw [moved.available inRange enough]; omega)
    (played_le processor.available needed)
  rw [moved.queued inRange enough] at output
  rw [process_eq inRange playing small]
  exact ⟨read.trans (moved_skip (read.inRange inRange) _),
    (priming_skip _ _).trans ((priming_readFromRing _ _ _ _).trans (priming_begun processor)),
    output⟩

end PcmPlaybackProcessor

/-! ## Sessions -/

/-- A processor and what is heard of it. `accepted` has the frames of the chunks that
found room, `heard` those read for the output. `starved` tells that the last frames
asked for were not all there. -/
structure PlaybackSession (α : Type) where
  processor : PcmPlaybackProcessor α
  accepted : List (α × α)
  heard : List (α × α)
  starved : Bool

namespace PlaybackSession
open PcmPlaybackProcessor

variable {α : Type}

inductive Event (α : Type) where
  | pcm (left right : List α)
  | process (frames : Nat)

/-- Chunks have two channels of one length, and a quantum has at most 128 frames. -/
def Event.WellFormed : Event α → Prop
  | .pcm left right => left.length = right.length
  | .process frames => frames ≤ 128

instance (event : Event α) : Decidable event.WellFormed :=
  match event with
  | .pcm left right => inferInstanceAs (Decidable (left.length = right.length))
  | .process frames => inferInstanceAs (Decidable (frames ≤ 128))

/-- Whether the ring has room for a chunk. -/
def HasRoom (processor : PcmPlaybackProcessor α) (left : List α) : Prop :=
  left.length ≤ ringSize - 1 - processor.available

instance (processor : PcmPlaybackProcessor α) (left : List α) :
    Decidable (HasRoom processor left) := inferInstanceAs (Decidable (_ ≤ _))

variable [Zero α]

def start : PlaybackSession α where
  processor := PcmPlaybackProcessor.start
  accepted := []
  heard := []
  starved := false

/-- A call for no frames leaves open whether the last ones were there. -/
def onEvent (session : PlaybackSession α) : Event α → PlaybackSession α
  | .pcm left right =>
    { session with
      processor := session.processor.handlePcm left right
      accepted := if HasRoom session.processor left then session.accepted ++ left.zip right
        else session.accepted }
  | .process frames =>
    let result := session.processor.process frames
    { session with
      processor := result.1
      heard := session.heard ++ (result.2.outL.zip result.2.outR).take result.2.read
      starved := result.2.read < frames ∨ (session.starved ∧ result.2.read = 0) }

theorem onEvent_process {session : PlaybackSession α}
    (turn : session.processor.process frames = (after, output)) :
    session.onEvent (.process frames) = ⟨after, session.accepted,
      session.heard ++ (output.outL.zip output.outR).take output.read,
      output.read < frames ∨ (session.starved ∧ output.read = 0)⟩ := by
  rw [onEvent, turn]

theorem onEvent_pcm {session : PlaybackSession α}
    (handled : session.processor.handlePcm left right = after) :
    session.onEvent (.pcm left right) = ⟨after,
      if HasRoom session.processor left then session.accepted ++ left.zip right
      else session.accepted, session.heard, session.starved⟩ := by
  rw [onEvent, handled]

def step (session : PlaybackSession α) (event : Event α) : Option (PlaybackSession α) :=
  if event.WellFormed then some (session.onEvent event) else none

/-! ## Every frame in its place -/

/-- What a process call does with the queued frames. A hard overrun skips the first of
them, down to the target, and a soft one a few behind those that are played. -/
structure Plays (before : PlaybackSession α) (frames : Nat) (after : PlaybackSession α)
    (first shown last : List (α × α)) : Prop where
  queued : before.processor.queued = first ++ (shown ++ (last ++ after.processor.queued))
  output : (before.processor.process frames).2 = render shown frames
  heard : after.heard = before.heard ++ shown
  accepted : after.accepted = before.accepted
  amount : shown.length = if before.processor.Silent then 0
    else min frames (before.processor.available - first.length)
  hard : first ≠ [] → hardOverrunSamples < before.processor.available ∧
    first.length = before.processor.available - targetSamples
  soft : last ≠ [] → softOverrunSamples < before.processor.available ∧
    before.processor.available ≤ hardOverrunSamples ∧ last.length ≤ 4
  low : after.processor.available ≤ hardOverrunSamples

/-- What happens to the queued frames: a chunk with no room is dropped whole, and a
process call outputs the next frames but those an overrun skips. -/
def Accounted (before : PlaybackSession α) : Event α → PlaybackSession α → Prop
  | .pcm left right, after =>
    after.heard = before.heard ∧
      if HasRoom before.processor left then
        after.accepted = before.accepted ++ left.zip right ∧
          after.processor.queued = before.processor.queued ++ left.zip right
      else
        after.accepted = before.accepted ∧ after.processor.queued = before.processor.queued
  | .process frames, after => ∃ first shown last, Plays before frames after first shown last

/-- What was heard has gone by in order, and what else was accepted is queued. -/
structure InOrder (session : PlaybackSession α) : Prop where
  inRange : session.processor.InRange
  passed : ∃ passed, session.accepted = passed ++ session.processor.queued ∧
    session.heard.Sublist passed

theorem inOrder_start : (start : PlaybackSession α).InOrder where
  inRange := ⟨List.length_replicate, List.length_replicate, Nat.zero_lt_succ _,
    Nat.zero_lt_succ _⟩
  passed := by
    have empty : (start : PlaybackSession α).processor.available = 0 := occupied_self _ _
    refine ⟨[], ?_, List.Sublist.refl _⟩
    rw [queued, empty, window_zero]
    rfl

theorem step_eq {session : PlaybackSession α} (taken : step session event = some after) :
    event.WellFormed ∧ session.onEvent event = after := by
  rw [step] at taken
  split at taken
  · exact ⟨‹_›, Option.some.inj taken⟩
  · cases taken

theorem zip_render (frames : List (α × α)) (needed : Nat) :
    ((render frames needed).outL.zip (render frames needed).outR).take (render frames needed).read =
      frames := by
  simp only [render]
  rw [List.zip_append (by rw [List.length_map, List.length_map]), List.take_append_of_le_length,
    List.take_of_length_le, ← List.unzip_fst, ← List.unzip_snd, List.zip_unzip]
  · rw [List.length_zip, List.length_map, List.length_map, Nat.min_self]
  · rw [List.length_zip, List.length_map, List.length_map, Nat.min_self]

theorem accounted_pcm {before : PlaybackSession α} (inRange : before.processor.InRange)
    (paired : left.length = right.length) :
    Accounted before (.pcm left right) (before.onEvent (.pcm left right)) := by
  have queue := queued_handlePcm before.processor left right
  generalize handled : before.processor.handlePcm left right = after at queue
  rw [onEvent_pcm handled]
  refine ⟨rfl, ?_⟩
  split_ifs with room
  · exact ⟨rfl, queue.trans (queued_writeToRing inRange paired room)⟩
  · have full : ringSize - 1 - before.processor.available < left.length := not_le.mp room
    rw [writeToRing_full full] at queue
    exact ⟨rfl, queue⟩

theorem eq_segments (frames : List β) (first shown last : Nat) :
    frames = frames.take first ++ ((frames.drop first).take shown ++
      ((frames.drop (first + shown)).take last ++ frames.drop (first + shown + last))) := by
  rw [← List.drop_drop (i := last), List.take_append_drop, ← List.drop_drop,
    List.take_append_drop, List.take_append_drop]

/-- A silent call plays none of the frames and takes none away. -/
theorem plays_silent {before : PlaybackSession α} (inRange : before.processor.InRange)
    (silent : before.processor.Silent) (frames : Nat) :
    Plays before frames (before.onEvent (.process frames)) [] [] [] := by
  cases turn : before.processor.process frames with
  | mk after output =>
    obtain ⟨moved, -, rendered⟩ := process_silent inRange silent frames
    rw [turn] at moved rendered
    have sameQueue := moved.queued inRange (Nat.zero_le _)
    have sameAvail := moved.available inRange (Nat.zero_le _)
    rw [List.drop_zero] at sameQueue
    rw [Nat.sub_zero] at sameAvail
    rw [onEvent_process turn]
    exact {
      queued := by rw [List.nil_append, List.nil_append, List.nil_append, sameQueue]
      output := by rw [turn]; exact rendered
      heard := by rw [show output = render [] frames from rendered, zip_render]
      accepted := rfl
      amount := (if_pos silent).symm
      hard := absurd rfl
      soft := absurd rfl
      low := by
        refine sameAvail.trans_le ?_
        obtain empty | ⟨-, filling⟩ := silent
        · rw [empty]
          exact Nat.zero_le _
        · exact filling.le.trans (by decide) }

theorem hardSkip_eq_or (available : Nat) :
    (hardOverrunSamples < available ∧ hardSkip available = available - targetSamples) ∨
      hardSkip available = 0 := by
  rw [hardSkip]
  split_ifs with hard
  · exact .inl ⟨hard, rfl⟩
  · exact .inr rfl

theorem softSkip_eq_or (available needed : Nat) :
    (softOverrunSamples < available ∧ available ≤ hardOverrunSamples ∧
      softSkip available needed ≤ 4) ∨ softSkip available needed = 0 := by
  rw [softSkip]
  split_ifs with hard soft
  · exact .inr rfl
  · refine .inl ⟨soft, not_lt.mp hard, (Nat.min_le_left _ _).trans ?_⟩
    simp only [extraSkip, hardOverrunSamples, softOverrunSamples]
    omega
  · exact .inr rfl

theorem played_eq (available needed : Nat) :
    played available needed = min needed (available - hardSkip available) := by
  rw [played, hardSkip]
  split_ifs with hard
  · simp only [hardOverrunSamples, targetSamples] at hard ⊢
    omega
  · rw [Nat.sub_zero]

/-- A call that plays takes the frames in the order of the queue. -/
theorem plays_playing {before : PlaybackSession α} (inRange : before.processor.InRange)
    (playing : ¬ before.processor.Silent) (small : frames ≤ 128) :
    ∃ first shown last, Plays before frames (before.onEvent (.process frames)) first shown last := by
  cases turn : before.processor.process frames with
  | mk after output =>
    obtain ⟨moved, -, rendered⟩ := process_playing inRange playing small
    rw [turn] at moved rendered
    have enough := turn_le before.processor.available small
    have left := moved.available inRange enough
    have all : before.processor.queued.length = before.processor.available :=
      length_queued inRange
    rw [onEvent_process turn]
    refine ⟨before.processor.queued.take (hardSkip before.processor.available),
      (before.processor.queued.drop (hardSkip before.processor.available)).take
        (played before.processor.available frames),
      (before.processor.queued.drop (hardSkip before.processor.available +
        played before.processor.available frames)).take
          (softSkip before.processor.available frames), ?_⟩
    have skipped : (before.processor.queued.take (hardSkip before.processor.available)).length =
        hardSkip before.processor.available := by
      rw [List.length_take, all]
      omega
    exact {
      queued := by
        dsimp only
        rw [moved.queued inRange enough]
        exact eq_segments ..
      output := by rw [turn]; exact rendered
      heard := by rw [show output = _ from rendered, zip_render]
      accepted := rfl
      amount := by
        rw [if_neg playing, skipped, ← played_eq, List.length_take, List.length_drop, all]
        omega
      hard := by
        intro some
        obtain ⟨hard, isSkip⟩ | none := hardSkip_eq_or before.processor.available
        · exact ⟨hard, skipped.trans isSkip⟩
        · rw [none, List.take_zero] at some
          exact absurd rfl some
      soft := by
        intro some
        obtain ⟨soft, notHard, few⟩ | none := softSkip_eq_or before.processor.available frames
        · exact ⟨soft, notHard, (List.length_take_le _ _).trans few⟩
        · rw [none, List.take_zero] at some
          exact absurd rfl some
      low := left ▸ left_le before.processor.available frames }

theorem accounted_process {before : PlaybackSession α} (inRange : before.processor.InRange)
    (small : frames ≤ 128) :
    Accounted before (.process frames) (before.onEvent (.process frames)) := by
  by_cases silent : before.processor.Silent
  · exact ⟨[], [], [], plays_silent inRange silent frames⟩
  · exact plays_playing inRange silent small

theorem accounted_step {before : PlaybackSession α} (inRange : before.processor.InRange)
    (taken : step before event = some after) : Accounted before event after := by
  obtain ⟨wellFormed, rfl⟩ := step_eq taken
  cases event with
  | pcm left right => exact accounted_pcm inRange wellFormed
  | process frames => exact accounted_process inRange wellFormed

theorem inRange_step {before : PlaybackSession α} (inRange : before.processor.InRange)
    (taken : step before event = some after) : after.processor.InRange := by
  obtain ⟨wellFormed, rfl⟩ := step_eq taken
  cases event with
  | pcm left right => exact inRange_handlePcm inRange wellFormed
  | process frames =>
    cases turn : before.processor.process frames with
    | mk after output =>
      have moved : ∃ count, Moved before.processor after count := by
        by_cases silent : before.processor.Silent
        · exact ⟨_, turn ▸ (process_silent inRange silent frames).1⟩
        · exact ⟨_, turn ▸ (process_playing inRange silent wellFormed).1⟩
      obtain ⟨count, moved⟩ := moved
      rw [onEvent_process turn]
      exact moved.inRange inRange

theorem inOrder_step {before : PlaybackSession α} (inOrder : before.InOrder)
    (taken : step before event = some after) : after.InOrder where
  inRange := inRange_step inOrder.inRange taken
  passed := by
    obtain ⟨passed, isAccepted, heard⟩ := inOrder.passed
    have accounted := accounted_step inOrder.inRange taken
    cases event with
    | pcm left right =>
      obtain ⟨sameHeard, accounted⟩ := accounted
      refine ⟨passed, ?_, sameHeard ▸ heard⟩
      split_ifs at accounted
      · rw [accounted.1, accounted.2, isAccepted, List.append_assoc]
      · rw [accounted.1, accounted.2, isAccepted]
    | process frames =>
      obtain ⟨first, shown, last, plays⟩ := accounted
      refine ⟨passed ++ (first ++ (shown ++ last)), ?_, ?_⟩
      · rw [plays.accepted, isAccepted, plays.queued]
        simp only [List.append_assoc]
      · rw [plays.heard]
        exact heard.append ((List.sublist_append_left shown last).trans
          (List.sublist_append_right first _))

/-! ## Playback after an underrun -/

/-- Frames are played after an underrun only from a primed ring. -/
def Resumes (before : PlaybackSession α) : Event α → PlaybackSession α → Prop
  | .pcm _ _, _ => True
  | .process frames, _ => before.starved → (before.processor.process frames).2.read ≠ 0 →
    primeSamples ≤ before.processor.available

/-- Where the last frames were not all there and priming has not begun, the ring is
found empty or primed. -/
def Refilled (before : PlaybackSession α) : Event α → PlaybackSession α → Prop
  | .pcm _ _, _ => True
  | .process frames, _ => before.starved → before.processor.priming = false → frames ≠ 0 →
    before.processor.available = 0 ∨ primeSamples ≤ before.processor.available

theorem read_process {processor : PcmPlaybackProcessor α} (inRange : processor.InRange)
    (small : frames ≤ 128) :
    (processor.process frames).2.read =
      if processor.Silent then 0 else played processor.available frames := by
  split_ifs with silent
  · rw [(process_silent inRange silent frames).2.2, render, List.length_nil]
  · have enough := turn_le processor.available small
    rw [(process_playing inRange silent small).2.2]
    simp only [render, List.length_take, List.length_drop, length_queued inRange]
    omega

theorem played_ne_zero_iff {available : Nat} (some : available ≠ 0) (frames : Nat) :
    played available frames ≠ 0 ↔ frames ≠ 0 := by
  rw [played]
  simp only [targetSamples]
  split_ifs <;> omega

theorem resumes_iff {before : PlaybackSession α} (inRange : before.processor.InRange)
    (taken : step before event = some after) :
    Resumes before event after ↔ Refilled before event after := by
  obtain ⟨wellFormed, rfl⟩ := step_eq taken
  cases event with
  | pcm left right => exact Iff.rfl
  | process frames =>
    refine imp_congr_right fun _ => ?_
    rw [read_process inRange wellFormed]
    by_cases silent : before.processor.Silent
    · rw [if_pos silent]
      refine ⟨fun _ playing _ => ?_, fun _ none => absurd rfl none⟩
      obtain empty | ⟨priming, -⟩ := silent
      · exact .inl empty
      · exact absurd priming (by rw [playing]; decide)
    · obtain ⟨some, notLow⟩ := not_or.mp silent
      rw [if_neg silent, played_ne_zero_iff some]
      refine ⟨fun resumes _ asked => .inr (resumes asked), fun refilled asked => ?_⟩
      cases priming : before.processor.priming with
      | true => exact not_lt.mp fun low => notLow ⟨priming, low⟩
      | false => exact (refilled priming asked).resolve_left some

/-- The read and write positions stay in the ring, which never fills up, and what is
heard is what was accepted but for the frames an overrun skipped. A run is silent
after every underrun until the ring is primed exactly where an underrun within a
quantum is followed by an empty ring or by a primed one. -/
theorem audio_worklet_ring {final : PlaybackSession α}
    (ran : run step start events = some final) :
    final.processor.InRange ∧ final.processor.available ≤ ringSize - 1 ∧
      (∃ passed, final.accepted = passed ++ final.processor.queued ∧
        final.heard.Sublist passed) ∧
      Along step Accounted start events ∧
      (Along step Resumes start events ↔ Along step Refilled start events) := by
  have kept (session : PlaybackSession α) (event : Event α) (next : PlaybackSession α)
      (held : session.InOrder) (taken : step session event = some next) : next.InOrder :=
    inOrder_step held taken
  have inOrder := run_preserves kept inOrder_start ran
  refine ⟨inOrder.inRange, Nat.le_sub_one_of_lt final.processor.available_lt, inOrder.passed,
    ?_, ?_⟩
  · refine along_imp InOrder (fun session event next held taken _ => ?_)
      (fun session event next held taken _ => kept session event next held taken)
      inOrder_start (along_of_events (P := fun _ _ _ => True) fun _ _ _ _ => trivial)
    exact accounted_step held.inRange taken
  · exact along_iff InOrder (fun session event next held taken => resumes_iff held.inRange taken)
      (fun session event next held taken _ => kept session event next held taken) inOrder_start

/-! ## Fill levels -/

/-- All that decides when playback resumes. -/
structure Levels where
  available : Nat
  priming : Bool
  starved : Bool
  deriving DecidableEq

def levels (session : PlaybackSession α) : Levels where
  available := session.processor.available
  priming := session.processor.priming
  starved := session.starved

def Levels.onEvent (levels : Levels) : Event α → Levels
  | .pcm left _ =>
    if left.length ≤ ringSize - 1 - levels.available then
      { levels with available := levels.available + left.length }
    else levels
  | .process frames =>
    if levels.available = 0 ∨ (levels.priming ∧ levels.available < primeSamples) then
      { levels with priming := true, starved := 0 < frames ∨ levels.starved }
    else
      let read := played levels.available frames
      { available := levels.available -
          (hardSkip levels.available + read + softSkip levels.available frames)
        priming := false
        starved := read < frames ∨ (levels.starved ∧ read = 0) }

/-- The processor follows its levels. -/
theorem levels_onEvent {session : PlaybackSession α} (inRange : session.processor.InRange)
    (wellFormed : event.WellFormed) :
    (session.onEvent event).levels = session.levels.onEvent event := by
  cases event with
  | pcm left right =>
    have available := available_handlePcm session.processor left right
    have priming := priming_handlePcm inRange wellFormed
    generalize handled : session.processor.handlePcm left right = after at available priming
    rw [onEvent_pcm handled, levels, levels, Levels.onEvent, available, priming]
    by_cases room : left.length ≤ ringSize - 1 - session.processor.available
    · rw [available_writeToRing inRange wellFormed room]
      exact (if_pos room).symm
    · rw [writeToRing_full (not_le.mp room)]
      exact (if_neg room).symm
  | process frames =>
    have read := read_process inRange wellFormed
    generalize turn : session.processor.process frames = result at read
    obtain ⟨after, output⟩ := result
    dsimp only at read
    rw [onEvent_process turn, levels, levels, Levels.onEvent, read]
    by_cases silent : session.processor.Silent
    · obtain ⟨moved, filling, -⟩ := process_silent inRange silent frames
      rw [turn] at moved filling
      have available := moved.available inRange (Nat.zero_le _)
      rw [Nat.sub_zero] at available
      dsimp only at available filling
      rw [if_pos silent, available, filling]
      refine Eq.trans ?_ (if_pos silent).symm
      simp only [and_true]
    · obtain ⟨moved, begun, -⟩ := process_playing inRange silent wellFormed
      rw [turn] at moved begun
      have available := moved.available inRange (turn_le _ wellFormed)
      dsimp only at available begun
      rw [if_neg silent, available, begun]
      exact (if_neg silent).symm

theorem levels_run {session : PlaybackSession α} (inRange : session.processor.InRange)
    (ran : run step session events = some final) :
    final.levels = events.foldl Levels.onEvent session.levels := by
  induction events generalizing session with
  | nil =>
    cases ran
    rfl
  | cons event rest ih =>
    obtain ⟨next, taken, ran⟩ := Option.bind_eq_some_iff.mp ran
    obtain ⟨wellFormed, rfl⟩ := step_eq taken
    rw [List.foldl_cons, ← levels_onEvent inRange wellFormed]
    exact ih (inRange_step inRange taken) ran

theorem run_of_wellFormed (session : PlaybackSession α) {events : List (Event α)}
    (wellFormed : ∀ event ∈ events, event.WellFormed) :
    ∃ final, run step session events = some final := by
  induction events generalizing session with
  | nil => exact ⟨session, rfl⟩
  | cons event rest ih =>
    obtain ⟨final, ran⟩ := ih (session.onEvent event)
      fun other member => wellFormed other (List.mem_cons_of_mem _ member)
    refine ⟨final, ?_⟩
    rw [run_cons, step, if_pos (wellFormed event List.mem_cons_self)]
    exact ran

/-- A chunk of `count` frames. -/
def chunk (count : Nat) : Event Nat := .pcm (List.replicate count 1) (List.replicate count 1)

/-- A primed ring played until a quantum finds 64 frames, and 100 more frames before
the next. -/
def dryRun : List (Event Nat) :=
  chunk 14400 :: (List.replicate 113 (Event.process 128) ++ [chunk 100])

theorem wellFormed_dryRun : ∀ event ∈ dryRun ++ [Event.process 128], event.WellFormed := by
  intro event member
  simp only [dryRun, List.mem_append, List.mem_cons, List.mem_replicate, List.not_mem_nil,
    or_false] at member
  obtain (rfl | ⟨-, rfl⟩ | rfl) | rfl := member
  · exact List.length_replicate.trans List.length_replicate.symm
  · exact le_rfl
  · exact List.length_replicate.trans List.length_replicate.symm
  · exact le_rfl

theorem audio_worklet_ring_dry :
    ∃ final, run step start (dryRun ++ [Event.process 128]) = some final ∧
      (Along step Resumes start (dryRun ++ [Event.process 128]) ↔
        Along step Refilled start (dryRun ++ [Event.process 128])) := by
  obtain ⟨final, ran⟩ := run_of_wellFormed start wellFormed_dryRun
  exact ⟨final, ran, (audio_worklet_ring ran).2.2.2.2⟩

theorem levels_dryRun : dryRun.foldl Levels.onEvent (start : PlaybackSession Nat).levels =
    ⟨100, false, true⟩ := by
  have begun : (start : PlaybackSession Nat).levels = ⟨0, true, false⟩ := rfl
  have primed : (⟨0, true, false⟩ : Levels).onEvent (chunk 14400) = ⟨14400, true, false⟩ := by
    simp only [chunk, Levels.onEvent, List.length_replicate]
    decide
  have dry : (List.replicate 113 (Event.process 128 : Event Nat)).foldl Levels.onEvent
      ⟨14400, true, false⟩ = ⟨0, false, true⟩ := by decide +kernel
  have refilled : (⟨0, false, true⟩ : Levels).onEvent (chunk 100) = ⟨100, false, true⟩ := by
    simp only [chunk, Levels.onEvent, List.length_replicate]
    decide
  rw [dryRun, begun, List.foldl_cons, primed, List.foldl_append, dry]
  exact refilled

/-- Playback goes on from 100 frames. -/
theorem dry_ring_resumes : ¬ Along step Resumes start (dryRun ++ [Event.process 128]) := by
  intro along
  obtain ⟨before, ran⟩ := run_of_wellFormed (start : PlaybackSession Nat)
    fun event member => wellFormed_dryRun event (List.mem_append_left _ member)
  have inRange := (run_preserves (fun _ _ _ held taken => inOrder_step held taken)
    inOrder_start ran).inRange
  have isLevels : before.levels = ⟨100, false, true⟩ :=
    (levels_run inOrder_start.inRange ran).trans levels_dryRun
  have available : before.processor.available = 100 := congrArg Levels.available isLevels
  have priming : before.processor.priming = false := congrArg Levels.priming isLevels
  have starved : before.starved = true := congrArg Levels.starved isLevels
  have playing : ¬ before.processor.Silent := by
    rw [Silent, available, priming]
    decide
  have resumes := along_last along ran (if_pos (le_refl 128)) starved
  rw [read_process inRange (le_refl 128), if_neg playing, available] at resumes
  exact absurd (resumes (by decide)) (by decide)

end PlaybackSession

end MoonlightWeb.Client

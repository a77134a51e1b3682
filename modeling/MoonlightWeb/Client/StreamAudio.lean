import Mathlib.Data.List.Basic
import MoonlightWeb.Lib.Machine

/-! Where the stream takes its audio messages: to the decode worker, or to a WASM
decoder on the main thread when there is no worker or it has failed. Messages that
arrive while neither is ready wait. -/
namespace MoonlightWeb.Client
open MoonlightWeb.Machine

/-- A data channel message, numbered as it arrived. `header` tells one that carries
the Ogg headers. -/
structure AudioPacket where
  number : Nat
  header : Bool
  deriving DecidableEq

/-- `audioDecoder` holds what the main thread's decoder was given, `audioRing` the
slots between the tail and the head, and `decodersAwaited` the calls of
`setupDecoderFallback` whose decoder is not ready yet. `received` and `posted` record the
messages that arrived and those given to a worker. -/
structure StreamAudio where
  audioDecodeWorkerAllowed : Bool
  audioDecodeWorkerInitAttempted : Bool
  audioDecodeWorker : Bool
  useAudioDecodeWorker : Bool
  audioDecodeWorkerInitTimeoutId : Bool
  decoderInitInFlight : Bool
  audioDecoderReady : Bool
  audioDecoder : Option (List AudioPacket)
  decodersAwaited : Nat
  preReadyAudioPackets : List AudioPacket
  audioRing : List AudioPacket
  audioDrainScheduled : Bool
  received : List AudioPacket
  posted : List AudioPacket

namespace StreamAudio

def start (audioDecodeWorkerAllowed : Bool) : StreamAudio where
  audioDecodeWorkerAllowed
  audioDecodeWorkerInitAttempted := false
  audioDecodeWorker := false
  useAudioDecodeWorker := false
  audioDecodeWorkerInitTimeoutId := false
  decoderInitInFlight := false
  audioDecoderReady := false
  audioDecoder := none
  decodersAwaited := 0
  preReadyAudioPackets := []
  audioRing := []
  audioDrainScheduled := false
  received := []
  posted := []

def PRE_READY_AUDIO_MAX : Nat := 256

def AUDIO_RING_SLOTS : Nat := 128

def AUDIO_DRAIN_BATCH_SIZE : Nat := 4

/-! ## Packets -/

/-- A decoder that is not there throws, and the error is counted. -/
def decode (stream : StreamAudio) (packet : AudioPacket) : StreamAudio :=
  { stream with audioDecoder := stream.audioDecoder.map (· ++ [packet]) }

/-- One batch, and another tick when packets are left. -/
def drainAudioQueue (stream : StreamAudio) : StreamAudio :=
  let batch := stream.audioRing.take AUDIO_DRAIN_BATCH_SIZE
  let left := stream.audioRing.drop AUDIO_DRAIN_BATCH_SIZE
  let stream := batch.foldl decode { stream with audioRing := left }
  if left = [] then { stream with audioDrainScheduled := false } else stream

/-- One slot stays free, so a full ring drops its oldest packet. -/
def dispatchAudioPacket (stream : StreamAudio) (packet : AudioPacket) : StreamAudio :=
  if stream.useAudioDecodeWorker ∧ stream.audioDecodeWorker then
    { stream with posted := stream.posted ++ [packet] }
  else
    let ring := if stream.audioRing.length + 1 = AUDIO_RING_SLOTS then stream.audioRing.drop 1
      else stream.audioRing
    let stream := { stream with audioRing := ring ++ [packet] }
    if stream.audioDrainScheduled then stream
    else { stream with audioDrainScheduled := true }.drainAudioQueue

def flushPreReadyAudioPackets (stream : StreamAudio) : StreamAudio :=
  stream.preReadyAudioPackets.foldl dispatchAudioPacket
    { stream with preReadyAudioPackets := [] }

def onAudioDataChannelMessage (stream : StreamAudio) (packet : AudioPacket) : StreamAudio :=
  if stream.audioDecoderReady = false then
    if stream.preReadyAudioPackets.length < PRE_READY_AUDIO_MAX then
      { stream with preReadyAudioPackets := stream.preReadyAudioPackets ++ [packet] }
    else stream
  else stream.dispatchAudioPacket packet

/-! ## Decoders -/

/-- Up to where the new decoder is awaited. -/
def setupDecoderFallback (stream : StreamAudio) : StreamAudio :=
  { stream with
    audioDecodeWorkerInitTimeoutId := false
    audioDecoder := some []
    decodersAwaited := stream.decodersAwaited + 1 }

def fallbackFromAudioWorker (stream : StreamAudio) : StreamAudio :=
  { stream with
    audioDecodeWorkerInitTimeoutId := false
    audioDecodeWorker := false
    useAudioDecodeWorker := false
    audioDecoderReady := false }.setupDecoderFallback

/-- `workerStarts` tells whether the constructor of the worker returns. -/
def trySetupAudioDecodeWorker (stream : StreamAudio) (workerStarts : Bool) : StreamAudio × Bool :=
  let stream := { stream with audioDecodeWorkerInitAttempted := true }
  if stream.audioDecodeWorkerAllowed = false then (stream, false)
  else if workerStarts then
    ({ stream with audioDecodeWorker := true, audioDecodeWorkerInitTimeoutId := true }, true)
  else
    ({ stream with
      audioDecodeWorkerInitTimeoutId := false
      audioDecodeWorker := false
      useAudioDecodeWorker := false }, false)

def setupDecoder (stream : StreamAudio) (workerStarts : Bool) : StreamAudio :=
  if stream.audioDecoderReady ∨ stream.decoderInitInFlight then stream
  else
    let tried := { stream with decoderInitInFlight := true }.trySetupAudioDecodeWorker workerStarts
    if tried.2 then tried.1 else tried.1.setupDecoderFallback

/-- The worker's "ready". -/
def onWorkerReady (stream : StreamAudio) : StreamAudio :=
  { stream with
    audioDecodeWorkerInitTimeoutId := false
    audioDecoderReady := true
    useAudioDecodeWorker := true
    decoderInitInFlight := false }.flushPreReadyAudioPackets

/-- The worker's "error". -/
def onWorkerErrorMessage (stream : StreamAudio) : StreamAudio :=
  if stream.audioDecoderReady = false then stream.fallbackFromAudioWorker else stream

def onWorkerInitTimeout (stream : StreamAudio) : StreamAudio :=
  let stream := { stream with audioDecodeWorkerInitTimeoutId := false }
  if stream.audioDecoderReady = false then stream.fallbackFromAudioWorker else stream

/-- `setupDecoderFallback` behind the await, and its caller. -/
def onDecoderReady (stream : StreamAudio) : StreamAudio :=
  let stream := { stream with
    decodersAwaited := stream.decodersAwaited - 1
    audioDecoderReady := true
    useAudioDecodeWorker := false }.flushPreReadyAudioPackets
  { stream with decoderInitInFlight := false }

def onDecoderFailed (stream : StreamAudio) : StreamAudio :=
  { stream with decodersAwaited := stream.decodersAwaited - 1, decoderInitInFlight := false }

/-- `resume` is the constructor, and later `resumeAudio`; `workerFailed` is the
worker's `onerror`. -/
inductive Event where
  | resume (workerStarts : Bool)
  | workerReady
  | workerErrorMessage
  | workerFailed
  | workerInitTimeout
  | decoderReady
  | decoderFailed
  | audioMessage (header : Bool)
  | drainTick

/-- A terminated worker posts no more messages; its error event may still come. -/
def step (stream : StreamAudio) : Event → Option StreamAudio
  | .resume workerStarts => some (stream.setupDecoder workerStarts)
  | .workerReady => if stream.audioDecodeWorker then some stream.onWorkerReady else none
  | .workerErrorMessage =>
    if stream.audioDecodeWorker then some stream.onWorkerErrorMessage else none
  | .workerFailed =>
    if stream.audioDecodeWorkerInitAttempted then some stream.fallbackFromAudioWorker else none
  | .workerInitTimeout =>
    if stream.audioDecodeWorkerInitTimeoutId then some stream.onWorkerInitTimeout else none
  | .decoderReady => if 0 < stream.decodersAwaited then some stream.onDecoderReady else none
  | .decoderFailed => if 0 < stream.decodersAwaited then some stream.onDecoderFailed else none
  | .audioMessage header =>
    let packet := { number := stream.received.length, header }
    some ({ stream with received := stream.received ++ [packet] }.onAudioDataChannelMessage packet)
  | .drainTick => if stream.audioDrainScheduled then some stream.drainAudioQueue else none

/-! ## Headers before audio -/

/-- Before an audio message, every header message that had arrived when it did. -/
def HeadersBefore (messages given : List AudioPacket) : Prop :=
  ∀ audio ∈ given, audio.header = false →
    ∀ header ∈ messages, header.header = true → header.number < audio.number →
      [header, audio].Sublist given

/-- What the main thread's decoder was given opens with the headers. -/
def HeadersGiven (stream : StreamAudio) : Prop :=
  ∀ given, stream.audioDecoder = some given → HeadersBefore stream.received given

/-- Where a decoder of the main thread gets ready, every header message so far still
waits or was given to that decoder. -/
def HeadersKept (stream : StreamAudio) : Event → Prop
  | .decoderReady => ∀ given, stream.audioDecoder = some given →
      ∀ header ∈ stream.received, header.header = true →
        header ∈ given ∨ header ∈ stream.preReadyAudioPackets
  | _ => True

/-- How many messages have come, and whether a decoder of the main thread has been ready. -/
structure Schedule where
  messages : Nat
  decoderReady : Bool

def noteEvent (schedule : Schedule) (_ : StreamAudio) (event : Event) (_ : StreamAudio) :
    Schedule :=
  match event with
  | .audioMessage _ => { schedule with messages := schedule.messages + 1 }
  | .decoderReady => { schedule with decoderReady := true }
  | _ => schedule

def watchedStep : StreamAudio × Schedule → Event → Option (StreamAudio × Schedule) :=
  watching step noteEvent

/-- No worker gets ready, and none fails once a decoder of the main thread is; and the
headers are among the first 256 messages, or come to that decoder. -/
def HeadersWait (schedule : Schedule) : Event → Prop
  | .workerReady => False
  | .workerFailed => schedule.decoderReady = false
  | .audioMessage header =>
    header = true → schedule.decoderReady = true ∨ schedule.messages < 256
  | _ => True

def InOrder (waiting : List AudioPacket) : Prop :=
  waiting.Pairwise fun first second => first.number < second.number

theorem InOrder.before {waiting : List AudioPacket} (inOrder : InOrder waiting)
    (isFirst : first ∈ waiting) (isSecond : second ∈ waiting)
    (before : first.number < second.number) : [first, second].Sublist waiting := by
  induction waiting with
  | nil => cases isFirst
  | cons packet rest ih =>
    obtain ⟨behind, inOrder⟩ := List.pairwise_cons.mp inOrder
    rcases List.mem_cons.mp isFirst with rfl | firstLater
    · rcases List.mem_cons.mp isSecond with rfl | secondLater
      · omega
      · exact .cons_cons _ (List.singleton_sublist.mpr secondLater)
    · rcases List.mem_cons.mp isSecond with rfl | secondLater
      · have later := behind first firstLater
        omega
      · exact (ih inOrder firstLater secondLater).cons _

theorem HeadersBefore.append (held : HeadersBefore messages given) (inOrder : InOrder waiting)
    (complete : ∀ header ∈ messages, header.header = true → header ∈ given ∨ header ∈ waiting) :
    HeadersBefore messages (given ++ waiting) := by
  intro audio member isAudio header arrived isHeader before
  rcases List.mem_append.mp member with early | late
  · exact (held audio early isAudio header arrived isHeader before).trans
      (List.sublist_append_left _ _)
  · rcases complete header arrived isHeader with given | waits
    · exact (List.singleton_sublist.mpr given).append (List.singleton_sublist.mpr late)
    · exact (inOrder.before waits late before).trans (List.sublist_append_right _ _)

/-- A message that arrives is newer than all that were given. -/
theorem HeadersBefore.arrives (held : HeadersBefore messages given) (packet : AudioPacket)
    (newest : ∀ other ∈ given, other.number < packet.number) :
    HeadersBefore (messages ++ [packet]) given := by
  intro audio member isAudio header arrived isHeader before
  rcases List.mem_append.mp arrived with early | last
  · exact held audio member isAudio header early isHeader before
  · rw [List.mem_singleton.mp last] at before
    have older := newest audio member
    omega

/-! ## Runs -/

/-- The decoder of the main thread takes the messages. -/
def OnMainThread (stream : StreamAudio) : Prop :=
  stream.audioDecoderReady = true ∧
    ¬ (stream.useAudioDecodeWorker = true ∧ stream.audioDecodeWorker = true)

theorem not_onMainThread {stream : StreamAudio} (unready : stream.audioDecoderReady = false) :
    ¬ stream.OnMainThread := by
  intro onMain
  rw [OnMainThread, unready] at onMain
  cases onMain.1

structure Inv (stream : StreamAudio) : Prop where
  drained : stream.audioRing = [] ∧ stream.audioDrainScheduled = false
  numbered : ∀ packet ∈ stream.received, packet.number < stream.received.length
  inOrder : InOrder stream.preReadyAudioPackets
  arrived : ∀ packet ∈ stream.preReadyAudioPackets, packet ∈ stream.received
  known : ∀ given, stream.audioDecoder = some given → ∀ packet ∈ given, packet ∈ stream.received
  feeding : stream.OnMainThread → ∀ given, stream.audioDecoder = some given →
    ∀ header ∈ stream.received, header.header = true → header ∈ given
  headersGiven : stream.HeadersGiven

theorem inv_start (allowed : Bool) : (start allowed).Inv where
  drained := ⟨rfl, rfl⟩
  numbered _ member := by cases member
  inOrder := .nil
  arrived _ member := by cases member
  known _ decoder := by cases decoder
  feeding _ _ decoder := by cases decoder
  headersGiven _ decoder := by cases decoder

theorem dispatchAudioPacket_worker (stream : StreamAudio)
    (worker : stream.useAudioDecodeWorker = true ∧ stream.audioDecodeWorker = true)
    (packet : AudioPacket) :
    stream.dispatchAudioPacket packet = { stream with posted := stream.posted ++ [packet] } :=
  if_pos worker

/-- On the main thread, a packet passes through the empty ring at once. -/
theorem dispatchAudioPacket_main (stream : StreamAudio)
    (noWorker : ¬ (stream.useAudioDecodeWorker = true ∧ stream.audioDecodeWorker = true))
    (drained : stream.audioRing = [] ∧ stream.audioDrainScheduled = false)
    (packet : AudioPacket) : stream.dispatchAudioPacket packet = stream.decode packet := by
  obtain ⟨empty, idle⟩ := drained
  rw [dispatchAudioPacket, if_neg noWorker]
  simp [empty, idle, AUDIO_RING_SLOTS, drainAudioQueue, AUDIO_DRAIN_BATCH_SIZE, decode]

theorem foldl_dispatch_worker (stream : StreamAudio)
    (worker : stream.useAudioDecodeWorker = true ∧ stream.audioDecodeWorker = true)
    (packets : List AudioPacket) :
    packets.foldl dispatchAudioPacket stream =
      { stream with posted := stream.posted ++ packets } := by
  induction packets generalizing stream with
  | nil => rw [List.foldl_nil, List.append_nil]
  | cons packet rest ih =>
    have rest := ih { stream with posted := stream.posted ++ [packet] } worker
    rw [List.foldl_cons, dispatchAudioPacket_worker stream worker, rest]
    simp only [List.append_assoc, List.singleton_append]

theorem foldl_dispatch_main (stream : StreamAudio)
    (noWorker : ¬ (stream.useAudioDecodeWorker = true ∧ stream.audioDecodeWorker = true))
    (drained : stream.audioRing = [] ∧ stream.audioDrainScheduled = false)
    (packets : List AudioPacket) :
    packets.foldl dispatchAudioPacket stream =
      { stream with audioDecoder := stream.audioDecoder.map (· ++ packets) } := by
  induction packets generalizing stream with
  | nil => simp only [List.foldl_nil, List.append_nil, Option.map_id']
  | cons packet rest ih =>
    rw [List.foldl_cons, dispatchAudioPacket_main stream noWorker drained,
      ih (stream.decode packet) noWorker drained]
    simp only [decode, Option.map_map, Function.comp_def, List.append_assoc,
      List.singleton_append]

/-- A new decoder has been given nothing. -/
theorem Inv.setupDecoderFallback {stream : StreamAudio} (inv : stream.Inv)
    (unready : stream.audioDecoderReady = false) : stream.setupDecoderFallback.Inv where
  drained := inv.drained
  numbered := inv.numbered
  inOrder := inv.inOrder
  arrived := inv.arrived
  known := by
    rintro given ⟨⟩ packet member
    cases member
  feeding onMain := absurd onMain (not_onMainThread unready)
  headersGiven := by
    rintro given ⟨⟩ packet member
    cases member

/-- Changes that only start or stop a worker, or leave the main thread idle. -/
theorem Inv.idle {before after : StreamAudio} (inv : before.Inv)
    (ring : after.audioRing = before.audioRing)
    (scheduled : after.audioDrainScheduled = before.audioDrainScheduled)
    (received : after.received = before.received)
    (waiting : after.preReadyAudioPackets.Sublist before.preReadyAudioPackets)
    (decoder : after.audioDecoder = before.audioDecoder)
    (feeding : after.OnMainThread → before.OnMainThread) : after.Inv where
  drained := by rw [ring, scheduled]; exact inv.drained
  numbered := by rw [received]; exact inv.numbered
  inOrder := List.Pairwise.sublist waiting inv.inOrder
  arrived packet member := by rw [received]; exact inv.arrived packet (waiting.subset member)
  known := by rw [received, decoder]; exact inv.known
  feeding onMain := by rw [received, decoder]; exact inv.feeding (feeding onMain)
  headersGiven := by rw [HeadersGiven, received, decoder]; exact inv.headersGiven

theorem Inv.fallbackFromAudioWorker {stream : StreamAudio} (inv : stream.Inv) :
    stream.fallbackFromAudioWorker.Inv := by
  apply Inv.setupDecoderFallback
  · exact inv.idle rfl rfl rfl (List.Sublist.refl _) rfl
      fun onMain => absurd onMain (not_onMainThread rfl)
  · rfl

theorem Inv.trySetupAudioDecodeWorker {stream : StreamAudio} (inv : stream.Inv)
    (unready : stream.audioDecoderReady = false) (workerStarts : Bool) :
    (stream.trySetupAudioDecodeWorker workerStarts).1.Inv ∧
      (stream.trySetupAudioDecodeWorker workerStarts).1.audioDecoderReady = false := by
  unfold StreamAudio.trySetupAudioDecodeWorker
  dsimp only
  split
  · refine ⟨?_, unready⟩
    exact inv.idle rfl rfl rfl (List.Sublist.refl _) rfl
      fun onMain => absurd onMain (not_onMainThread unready)
  · split
    · refine ⟨?_, unready⟩
      exact inv.idle rfl rfl rfl (List.Sublist.refl _) rfl
        fun onMain => absurd onMain (not_onMainThread unready)
    · refine ⟨?_, unready⟩
      exact inv.idle rfl rfl rfl (List.Sublist.refl _) rfl
        fun onMain => absurd onMain (not_onMainThread unready)

theorem Inv.setupDecoder {stream : StreamAudio} (inv : stream.Inv) (workerStarts : Bool) :
    (stream.setupDecoder workerStarts).Inv := by
  unfold StreamAudio.setupDecoder
  split
  · exact inv
  · rename_i starts
    rw [not_or, Bool.not_eq_true] at starts
    have begun : Inv { stream with decoderInitInFlight := true } :=
      inv.idle rfl rfl rfl (List.Sublist.refl _) rfl id
    obtain ⟨tried, unready⟩ := begun.trySetupAudioDecodeWorker starts.1 workerStarts
    dsimp only
    split
    · exact tried
    · exact tried.setupDecoderFallback unready

/-- The worker gets what waited. -/
theorem Inv.onWorkerReady {stream : StreamAudio} (inv : stream.Inv)
    (worker : stream.audioDecodeWorker = true) : stream.onWorkerReady.Inv := by
  have flushed := foldl_dispatch_worker { stream with
    audioDecodeWorkerInitTimeoutId := false
    audioDecoderReady := true
    useAudioDecodeWorker := true
    decoderInitInFlight := false
    preReadyAudioPackets := [] } ⟨rfl, worker⟩
  rw [StreamAudio.onWorkerReady, flushPreReadyAudioPackets, flushed]
  exact inv.idle rfl rfl rfl (List.nil_sublist _) rfl fun onMain => (onMain.2 ⟨rfl, worker⟩).elim

/-- The decoder gets what waited, behind what it was given before. -/
theorem Inv.onDecoderReady {stream : StreamAudio} (inv : stream.Inv)
    (kept : stream.HeadersKept .decoderReady) : stream.onDecoderReady.Inv := by
  have flushed := foldl_dispatch_main { stream with
    decodersAwaited := stream.decodersAwaited - 1
    audioDecoderReady := true
    useAudioDecodeWorker := false
    preReadyAudioPackets := [] } (fun both => by cases both.1) inv.drained
  rw [StreamAudio.onDecoderReady, flushPreReadyAudioPackets, flushed]
  refine ⟨inv.drained, inv.numbered, .nil, ?_, ?_, ?_, ?_⟩
  · intro packet member
    cases member
  · rintro given decoder packet member
    obtain ⟨before, wasGiven, rfl⟩ := Option.map_eq_some_iff.mp decoder
    rcases List.mem_append.mp member with early | waited
    · exact inv.known before wasGiven packet early
    · exact inv.arrived packet waited
  · rintro - given decoder header arrived isHeader
    obtain ⟨before, wasGiven, rfl⟩ := Option.map_eq_some_iff.mp decoder
    exact List.mem_append.mpr (kept before wasGiven header arrived isHeader)
  · intro given decoder
    obtain ⟨before, wasGiven, rfl⟩ := Option.map_eq_some_iff.mp decoder
    exact (inv.headersGiven before wasGiven).append inv.inOrder (kept before wasGiven)

theorem Inv.arrives {stream : StreamAudio} (inv : stream.Inv) (packet : AudioPacket)
    (number : packet.number = stream.received.length) :
    ∀ other ∈ stream.received ++ [packet], other.number < (stream.received ++ [packet]).length := by
  intro other member
  rw [List.length_append, List.length_singleton]
  rcases List.mem_append.mp member with early | last
  · have before := inv.numbered other early
    omega
  · rw [List.mem_singleton.mp last]
    omega

/-- A message that is not given to the main thread's decoder. -/
theorem Inv.passes {before after : StreamAudio} (inv : before.Inv) (packet : AudioPacket)
    (number : packet.number = before.received.length)
    (ring : after.audioRing = before.audioRing)
    (scheduled : after.audioDrainScheduled = before.audioDrainScheduled)
    (received : after.received = before.received ++ [packet])
    (waiting : after.preReadyAudioPackets.Sublist (before.preReadyAudioPackets ++ [packet]))
    (decoder : after.audioDecoder = before.audioDecoder)
    (elsewhere : ¬ after.OnMainThread) : after.Inv where
  drained := by rw [ring, scheduled]; exact inv.drained
  numbered := by rw [received]; exact inv.arrives packet number
  inOrder := by
    apply List.Pairwise.sublist waiting
    refine List.pairwise_append.mpr ⟨inv.inOrder, List.pairwise_singleton _ _, ?_⟩
    intro other waits last isLast
    have older := inv.numbered other (inv.arrived other waits)
    rw [List.mem_singleton.mp isLast]
    omega
  arrived other member := by
    rw [received]
    rcases List.mem_append.mp (waiting.subset member) with waits | last
    · exact List.mem_append_left _ (inv.arrived other waits)
    · exact List.mem_append_right _ last
  known given isGiven other member := by
    rw [decoder] at isGiven
    rw [received]
    exact List.mem_append_left _ (inv.known given isGiven other member)
  feeding onMain := (elsewhere onMain).elim
  headersGiven given isGiven := by
    rw [decoder] at isGiven
    rw [received]
    apply (inv.headersGiven given isGiven).arrives packet
    intro other member
    have older := inv.numbered other (inv.known given isGiven other member)
    omega

/-- A message that the main thread's decoder is given at once. -/
theorem Inv.decodes {stream : StreamAudio} (inv : stream.Inv) (packet : AudioPacket)
    (number : packet.number = stream.received.length) (onMain : stream.OnMainThread) :
    ({ stream with received := stream.received ++ [packet] }.decode packet).Inv where
  drained := inv.drained
  numbered := inv.arrives packet number
  inOrder := inv.inOrder
  arrived other member := List.mem_append_left _ (inv.arrived other member)
  known given decoder other member := by
    obtain ⟨before, wasGiven, rfl⟩ := Option.map_eq_some_iff.mp decoder
    rcases List.mem_append.mp member with early | last
    · exact List.mem_append_left _ (inv.known before wasGiven other early)
    · exact List.mem_append_right _ last
  feeding _ given decoder header arrived isHeader := by
    obtain ⟨before, wasGiven, rfl⟩ := Option.map_eq_some_iff.mp decoder
    rcases List.mem_append.mp arrived with early | last
    · exact List.mem_append_left _ (inv.feeding onMain before wasGiven header early isHeader)
    · exact List.mem_append_right _ last
  headersGiven given decoder := by
    obtain ⟨before, wasGiven, rfl⟩ := Option.map_eq_some_iff.mp decoder
    have newest : ∀ other ∈ before, other.number < packet.number := by
      intro other member
      have older := inv.numbered other (inv.known before wasGiven other member)
      omega
    refine ((inv.headersGiven before wasGiven).arrives packet newest).append
      (List.pairwise_singleton _ _) fun header arrived isHeader => ?_
    rcases List.mem_append.mp arrived with early | last
    · exact .inl (inv.feeding onMain before wasGiven header early isHeader)
    · exact .inr last

theorem Inv.audioMessage {stream next : StreamAudio} (inv : stream.Inv)
    (taken : stream.step (.audioMessage header) = some next) : next.Inv := by
  let packet : AudioPacket := ⟨stream.received.length, header⟩
  cases taken
  unfold onAudioDataChannelMessage
  split
  · rename_i unready
    split
    · exact inv.passes packet rfl rfl rfl rfl (List.Sublist.refl _) rfl
        (not_onMainThread unready)
    · exact inv.passes packet rfl rfl rfl rfl (List.sublist_append_left _ _) rfl
        (not_onMainThread unready)
  · rename_i ready
    rw [Bool.not_eq_false] at ready
    by_cases worker : stream.useAudioDecodeWorker = true ∧ stream.audioDecodeWorker = true
    · have posted := dispatchAudioPacket_worker
        { stream with received := stream.received ++ [packet] } worker packet
      rw [posted]
      exact inv.passes packet rfl rfl rfl rfl (List.sublist_append_left _ _) rfl
        fun onMain => onMain.2 worker
    · have decoded := dispatchAudioPacket_main
        { stream with received := stream.received ++ [packet] } worker inv.drained packet
      rw [decoded]
      exact inv.decodes packet rfl ⟨ready, worker⟩

theorem Inv.step {stream next : StreamAudio} (inv : stream.Inv)
    (taken : stream.step event = some next) (kept : stream.HeadersKept event) : next.Inv := by
  cases event with
  | resume workerStarts =>
    cases taken
    exact inv.setupDecoder workerStarts
  | workerReady =>
    obtain ⟨worker, same⟩ := Option.ite_none_right_eq_some.mp taken
    cases same
    exact inv.onWorkerReady worker
  | workerErrorMessage =>
    obtain ⟨-, same⟩ := Option.ite_none_right_eq_some.mp taken
    cases same
    unfold onWorkerErrorMessage
    split
    · exact inv.fallbackFromAudioWorker
    · exact inv
  | workerFailed =>
    obtain ⟨-, same⟩ := Option.ite_none_right_eq_some.mp taken
    cases same
    exact inv.fallbackFromAudioWorker
  | workerInitTimeout =>
    obtain ⟨-, same⟩ := Option.ite_none_right_eq_some.mp taken
    cases same
    have fired : Inv { stream with audioDecodeWorkerInitTimeoutId := false } :=
      inv.idle rfl rfl rfl (List.Sublist.refl _) rfl id
    unfold onWorkerInitTimeout
    dsimp only
    split
    · exact fired.fallbackFromAudioWorker
    · exact fired
  | decoderReady =>
    obtain ⟨-, same⟩ := Option.ite_none_right_eq_some.mp taken
    cases same
    exact inv.onDecoderReady kept
  | decoderFailed =>
    obtain ⟨-, same⟩ := Option.ite_none_right_eq_some.mp taken
    cases same
    exact inv.idle rfl rfl rfl (List.Sublist.refl _) rfl id
  | audioMessage header => exact inv.audioMessage taken
  | drainTick =>
    obtain ⟨scheduled, -⟩ := Option.ite_none_right_eq_some.mp taken
    rw [inv.drained.2] at scheduled
    cases scheduled

/-! ## Where no worker takes the headers -/

/-- Until a decoder is ready all headers wait, and from then on it takes the messages. -/
structure Gathers (watched : StreamAudio × Schedule) : Prop where
  inv : watched.1.Inv
  counted : watched.2.messages = watched.1.received.length
  worker : watched.1.useAudioDecodeWorker = false
  ready : watched.1.audioDecoderReady = watched.2.decoderReady
  waiting : watched.2.decoderReady = false →
    watched.1.preReadyAudioPackets.length ≤ watched.1.received.length ∧
      ∀ header ∈ watched.1.received, header.header = true →
        header ∈ watched.1.preReadyAudioPackets

theorem Gathers.headersKept (gathers : Gathers watched) (event : Event) :
    watched.1.HeadersKept event := by
  cases event with
  | decoderReady =>
    intro given decoder header arrived isHeader
    cases ready : watched.2.decoderReady with
    | true =>
      have onMain : watched.1.OnMainThread :=
        ⟨gathers.ready.trans ready, fun both => by cases gathers.worker.symm.trans both.1⟩
      exact .inl (gathers.inv.feeding onMain given decoder header arrived isHeader)
    | false => exact .inr ((gathers.waiting ready).2 header arrived isHeader)
  | resume | workerReady | workerErrorMessage | workerFailed | workerInitTimeout | decoderFailed
  | audioMessage | drainTick => trivial

/-- What touches neither the messages nor who takes them. -/
theorem Gathers.quiet {stream next : StreamAudio} {schedule : Schedule}
    (gathers : Gathers (stream, schedule)) (inv : next.Inv)
    (received : next.received = stream.received)
    (waiting : next.preReadyAudioPackets = stream.preReadyAudioPackets)
    (ready : next.audioDecoderReady = stream.audioDecoderReady)
    (worker : next.useAudioDecodeWorker = false) : Gathers (next, schedule) where
  inv := inv
  counted := by rw [received]; exact gathers.counted
  worker := worker
  ready := ready.trans gathers.ready
  waiting := by rw [received, waiting]; exact gathers.waiting

theorem Gathers.setupDecoder {stream : StreamAudio} {schedule : Schedule}
    (gathers : Gathers (stream, schedule)) (workerStarts : Bool) :
    Gathers (stream.setupDecoder workerStarts, schedule) := by
  have inv := gathers.inv.setupDecoder workerStarts
  have worker : stream.useAudioDecodeWorker = false := gathers.worker
  revert inv
  unfold StreamAudio.setupDecoder StreamAudio.trySetupAudioDecodeWorker
  split
  · exact fun _ => gathers
  · cases stream.audioDecodeWorkerAllowed with
    | false => exact fun inv => gathers.quiet inv rfl rfl rfl worker
    | true =>
      cases workerStarts with
      | true => exact fun inv => gathers.quiet inv rfl rfl rfl worker
      | false => exact fun inv => gathers.quiet inv rfl rfl rfl rfl

theorem Gathers.fallback {stream : StreamAudio} {schedule : Schedule}
    (gathers : Gathers (stream, schedule)) (unready : stream.audioDecoderReady = false) :
    Gathers (stream.fallbackFromAudioWorker, schedule) :=
  gathers.quiet gathers.inv.fallbackFromAudioWorker rfl rfl unready.symm rfl

theorem Gathers.onDecoderReady {stream : StreamAudio} {schedule : Schedule}
    (gathers : Gathers (stream, schedule)) :
    Gathers (stream.onDecoderReady, { schedule with decoderReady := true }) := by
  have inv := gathers.inv.onDecoderReady (gathers.headersKept .decoderReady)
  have flushed := foldl_dispatch_main { stream with
    decodersAwaited := stream.decodersAwaited - 1
    audioDecoderReady := true
    useAudioDecodeWorker := false
    preReadyAudioPackets := [] } (fun both => by cases both.1) gathers.inv.drained
  rw [StreamAudio.onDecoderReady, flushPreReadyAudioPackets, flushed] at inv ⊢
  exact ⟨inv, gathers.counted, rfl, rfl, nofun⟩

theorem Gathers.audioMessage {stream next : StreamAudio} {schedule : Schedule}
    (gathers : Gathers (stream, schedule)) (taken : stream.step (.audioMessage header) = some next)
    (early : HeadersWait schedule (.audioMessage header)) :
    Gathers (next, { schedule with messages := schedule.messages + 1 }) := by
  have inv := gathers.inv.audioMessage taken
  have counted : schedule.messages + 1 =
      (stream.received ++ [(⟨stream.received.length, header⟩ : AudioPacket)]).length := by
    rw [List.length_append, List.length_singleton]
    exact congrArg (· + 1) gathers.counted
  have ready : stream.audioDecoderReady = schedule.decoderReady := gathers.ready
  cases taken
  revert inv
  unfold onAudioDataChannelMessage
  dsimp only
  split
  · next unready =>
    obtain ⟨within, wait⟩ := gathers.waiting (ready.symm.trans unready)
    split
    · refine fun inv => ⟨inv, counted, gathers.worker, ready, fun _ => ⟨?_, ?_⟩⟩
      · dsimp only at within ⊢
        rw [List.length_append, List.length_append]
        exact Nat.add_le_add_right within _
      · intro header arrived isHeader
        rcases List.mem_append.mp arrived with before | last
        · exact List.mem_append_left _ (wait header before isHeader)
        · exact List.mem_append_right _ last
    · next full =>
      refine fun inv => ⟨inv, counted, gathers.worker, ready, fun _ => ⟨?_, ?_⟩⟩
      · dsimp only at within ⊢
        rw [List.length_append]
        exact Nat.le_add_right_of_le within
      · intro other arrived isHeader
        rcases List.mem_append.mp arrived with before | last
        · exact wait other before isHeader
        · obtain rfl := List.mem_singleton.mp last
          obtain isReady | room := early isHeader
          · cases unready.symm.trans (ready.trans isReady)
          · have messages : schedule.messages = stream.received.length := gathers.counted
            dsimp only [PRE_READY_AUDIO_MAX] at within full
            omega
  · next isReady =>
    have known : schedule.decoderReady = true := ready.symm.trans (Bool.not_eq_false _ ▸ isReady)
    have decoded := dispatchAudioPacket_main
      { stream with received := stream.received ++ [⟨stream.received.length, header⟩] }
      (fun both => by cases gathers.worker.symm.trans both.1) gathers.inv.drained
      ⟨stream.received.length, header⟩
    rw [decoded]
    exact fun inv => ⟨inv, counted, gathers.worker, ready, fun unready =>
      absurd (known.symm.trans unready) (by decide)⟩

theorem Gathers.step (gathers : Gathers watched) (stepped : watchedStep watched event = some next)
    (wait : HeadersWait watched.2 event) : Gathers next := by
  obtain ⟨stream, schedule⟩ := watched
  obtain ⟨after, taken, rfl⟩ := Option.map_eq_some_iff.mp stepped
  cases event with
  | resume workerStarts =>
    cases taken
    exact gathers.setupDecoder workerStarts
  | workerReady => exact absurd wait id
  | workerErrorMessage =>
    obtain ⟨-, same⟩ := Option.ite_none_right_eq_some.mp taken
    cases same
    unfold onWorkerErrorMessage
    split
    · next unready => exact gathers.fallback unready
    · exact gathers
  | workerFailed =>
    obtain ⟨-, same⟩ := Option.ite_none_right_eq_some.mp taken
    cases same
    exact gathers.fallback (gathers.ready.trans wait)
  | workerInitTimeout =>
    obtain ⟨-, same⟩ := Option.ite_none_right_eq_some.mp taken
    cases same
    have fired : Gathers ({ stream with audioDecodeWorkerInitTimeoutId := false }, schedule) :=
      gathers.quiet (gathers.inv.idle rfl rfl rfl (List.Sublist.refl _) rfl id) rfl rfl rfl
        gathers.worker
    unfold onWorkerInitTimeout
    dsimp only
    split
    · next unready => exact fired.fallback unready
    · exact fired
  | decoderReady =>
    obtain ⟨-, same⟩ := Option.ite_none_right_eq_some.mp taken
    cases same
    exact gathers.onDecoderReady
  | decoderFailed =>
    obtain ⟨-, same⟩ := Option.ite_none_right_eq_some.mp taken
    cases same
    exact gathers.quiet (gathers.inv.idle rfl rfl rfl (List.Sublist.refl _) rfl id) rfl rfl rfl
      gathers.worker
  | audioMessage header => exact gathers.audioMessage taken wait
  | drainTick =>
    obtain ⟨scheduled, -⟩ := Option.ite_none_right_eq_some.mp taken
    cases gathers.inv.drained.2.symm.trans scheduled

/-- As long as a decoder that gets ready on the main thread finds every header
message, none of them is missing before the audio it is given; and it finds them
where no worker has taken them and they were among the first to wait. -/
theorem decoder_given_headers (allowed : Bool) (events : List Event) :
    (Along step (fun stream event _ => stream.HeadersKept event) (start allowed) events →
      Along step (fun _ _ next => next.HeadersGiven) (start allowed) events) ∧
    (Along watchedStep (fun watched event _ => HeadersWait watched.2 event)
        (start allowed, ⟨0, false⟩) events →
      Along step (fun stream event _ => stream.HeadersKept event) (start allowed) events) := by
  constructor
  · refine along_imp Inv ?_ ?_ (inv_start allowed)
    · intro stream event next inv taken obeyed
      exact (inv.step taken obeyed).headersGiven
    · intro stream event next inv taken obeyed
      exact inv.step taken obeyed
  · intro wait
    have starts : Gathers (start allowed, ⟨0, false⟩) :=
      ⟨inv_start allowed, rfl, rfl, rfl, fun _ => ⟨Nat.le_refl 0, nofun⟩⟩
    refine along_of_watching (along_imp Gathers ?_ ?_ starts wait)
    · intro watched event next gathers taken obeyed
      exact gathers.headersKept event
    · intro watched event next gathers taken obeyed
      exact gathers.step taken obeyed

/-- The worker does not start in time, and the headers have waited. -/
theorem decoder_given_waiting_headers :
    Along step (fun _ _ next => next.HeadersGiven) (start true)
      [.resume true, .audioMessage true, .workerInitTimeout, .decoderReady,
        .audioMessage false] := by
  apply (decoder_given_headers true _).1
  apply (decoder_given_headers true _).2
  exact along_cons rfl trivial (along_cons rfl (fun _ => .inr (by decide)) (along_cons rfl trivial
    (along_cons rfl trivial (along_cons rfl nofun trivial))))

/-- The worker has the headers when it fails, and the decoder starts on audio. -/
theorem headers_lost_with_worker :
    ¬ ∀ allowed events,
      Along step (fun _ _ next => next.HeadersGiven) (start allowed) events := by
  intro always
  have along := always true [.resume true, .workerReady, .audioMessage true, .workerFailed,
    .decoderReady, .audioMessage false]
  have given := ((((((along _ rfl).2 _ rfl).2 _ rfl).2 _ rfl).2 _ rfl).2 _ rfl).1 _ rfl
    ⟨1, false⟩ (by decide) rfl ⟨0, true⟩ (by decide) rfl (by decide)
  revert given
  decide

end StreamAudio

end MoonlightWeb.Client

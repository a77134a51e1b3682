import MoonlightWeb.Client.OggDemux
import MoonlightWeb.Lib.Machine

/-! The audio decode worker. It decodes natively until that fails and then goes
over to the WASM decoder, which reads the Ogg stream itself and so needs the
headers and everything the native decoder has not taken. -/
namespace MoonlightWeb.Client
open MoonlightWeb.Machine
open OggPageDemuxer (push takeBuffered demux demux_append demux_left)

inductive AudioDecodeEngine where
  | native
  | wasm
  deriving DecidableEq

/-- `received`, `handed` and `fed` record the messages that arrived, the packets the
native decoder took and the chunks given to the WASM decoder. -/
structure AudioDecodeWorker where
  engine : Option AudioDecodeEngine
  decoderReady : Bool
  nativeDecoder : Bool
  wasmDecoder : Bool
  oggDemuxer : Bytes
  stashedHeaderMessages : List Bytes
  fallbackInProgress : Bool
  pendingDuringFallback : List Bytes
  received : List Bytes
  handed : List Bytes
  fed : List Bytes

namespace AudioDecodeWorker

/-- `initDecoder` has found a native decoder. -/
def ready : AudioDecodeWorker where
  engine := some .native
  decoderReady := true
  nativeDecoder := true
  wasmDecoder := false
  oggDemuxer := []
  stashedHeaderMessages := []
  fallbackInProgress := false
  pendingDuringFallback := []
  received := []
  handed := []
  fed := []

/-- The packets that `decode` takes, and whether a call threw. Of the calls for one
message, `throwsAt` numbers the one that does. -/
def decodePackets : List Bytes → Option Nat → List Bytes × Bool
  | [], _ => ([], false)
  | packet :: rest, throwsAt =>
    if isOpusHeaderPacket packet then decodePackets rest throwsAt
    else if throwsAt = some 0 then ([], true)
    else
      let later := decodePackets rest (throwsAt.map (· - 1))
      (packet :: later.1, later.2)

/-- Up to where the WASM decoder is awaited. -/
def fallbackToWasm (worker : AudioDecodeWorker) : AudioDecodeWorker :=
  if worker.engine ≠ some .native ∨ worker.fallbackInProgress then worker
  else { worker with fallbackInProgress := true, nativeDecoder := false, wasmDecoder := true }

def decodeNative (worker : AudioDecodeWorker) (data : Bytes) (throwsAt : Option Nat) :
    AudioDecodeWorker :=
  let pushed := push worker.oggDemuxer data
  let decoded := decodePackets pushed.1 throwsAt
  let worker := { worker with oggDemuxer := pushed.2, handed := worker.handed ++ decoded.1 }
  -- a throw leaves the loop, and the function before the stash
  if decoded.2 then worker.fallbackToWasm
  else if pushed.1.any isOpusHeaderPacket then
    { worker with stashedHeaderMessages := worker.stashedHeaderMessages ++ [data] }
  else worker

def decodeWasm (worker : AudioDecodeWorker) (data : Bytes) : AudioDecodeWorker :=
  { worker with fed := worker.fed ++ [data] }

def handleEncodedBytes (worker : AudioDecodeWorker) (data : Bytes) (throwsAt : Option Nat) :
    AudioDecodeWorker :=
  if worker.fallbackInProgress then
    { worker with pendingDuringFallback := worker.pendingDuringFallback ++ [data] }
  else if worker.decoderReady = false then worker
  else if worker.engine = some .native ∧ worker.nativeDecoder then
    worker.decodeNative data throwsAt
  else if worker.engine = some .wasm ∧ worker.wasmDecoder then worker.decodeWasm data
  else worker

/-- The partial page, unless there is none. -/
def decodeBuffered (worker : AudioDecodeWorker) (remaining : Bytes) : AudioDecodeWorker :=
  if 0 < remaining.length then worker.decodeWasm remaining else worker

/-- `fallbackToWasm` behind the await, when the WASM decoder is there. -/
def wasmInitialised (worker : AudioDecodeWorker) : AudioDecodeWorker :=
  let pending := worker.pendingDuringFallback
  let worker := { worker with engine := some .wasm }
  let worker := worker.stashedHeaderMessages.foldl decodeWasm worker
  let remaining := takeBuffered worker.oggDemuxer
  let worker := { worker with oggDemuxer := remaining.2 }.decodeBuffered remaining.1
  let worker := { worker with fallbackInProgress := false, pendingDuringFallback := [] }
  pending.foldl (fun worker raw => worker.handleEncodedBytes raw none) worker

def wasmInitFailed (worker : AudioDecodeWorker) : AudioDecodeWorker :=
  { worker with
    wasmDecoder := false
    engine := none
    decoderReady := false
    fallbackInProgress := false }

/-- A message arrives, the native decoder reports an error, or the awaited WASM
decoder is there or has failed. -/
inductive Event where
  | encoded (data : Bytes) (throwsAt : Option Nat)
  | nativeError
  | wasmReady
  | wasmFailed

def step (worker : AudioDecodeWorker) : Event → Option AudioDecodeWorker
  | .encoded data throwsAt =>
    some ({ worker with received := worker.received ++ [data] }.handleEncodedBytes data throwsAt)
  | .nativeError => some worker.fallbackToWasm
  | .wasmReady => if worker.fallbackInProgress then some worker.wasmInitialised else none
  | .wasmFailed => if worker.fallbackInProgress then some worker.wasmInitFailed else none

/-! ## What the decoders are given -/

def isAudioPacket (packet : Bytes) : Bool := !isOpusHeaderPacket packet

/-- The packets of the messages that arrived, and the bytes of a page not complete. -/
def packets (worker : AudioDecodeWorker) : List Bytes × Bytes := demux worker.received.flatten

def headerPackets (worker : AudioDecodeWorker) : List Bytes :=
  worker.packets.1.filter isOpusHeaderPacket

def audioPackets (worker : AudioDecodeWorker) : List Bytes := worker.packets.1.filter isAudioPacket

/-- The audio that arrived and the native decoder has not taken. -/
def remainingAudio (worker : AudioDecodeWorker) : List Bytes :=
  worker.audioPackets.drop worker.handed.length

/-- Of the stream that it was fed, the WASM decoder reads the headers and then the
audio that the native decoder has not taken. -/
def TakenOver (worker : AudioDecodeWorker) : Prop :=
  worker.engine = some .wasm → worker.handed <+: worker.audioPackets ∧
    (demux worker.fed.flatten).1 = worker.headerPackets ++ worker.remainingAudio

/-- The packets that a message completes. -/
def completed (worker : AudioDecodeWorker) (data : Bytes) : List Bytes × Bytes :=
  demux (worker.packets.2 ++ data)

def HeadersFirst (packets : List Bytes) : Prop :=
  packets = packets.filter isOpusHeaderPacket ++ packets.filter isAudioPacket

/-- No call of `decode` throws; where the error callback starts the switch, the
stashed messages and the buffered bytes behind them read as the headers so far and
those bytes; and from then on no header comes behind audio. -/
def SwitchesWhole (worker : AudioDecodeWorker) : Event → Prop
  | .encoded data throwsAt =>
    if worker.engine = some .native ∧ worker.fallbackInProgress = false then
      ∀ call ∈ throwsAt, ((worker.completed data).1.filter isAudioPacket).length ≤ call
    else HeadersFirst (worker.remainingAudio ++ (worker.completed data).1)
  | .nativeError =>
    worker.engine = some .native ∧ worker.fallbackInProgress = false →
      demux (worker.stashedHeaderMessages.flatten ++ worker.oggDemuxer) =
        (worker.headerPackets, worker.oggDemuxer)
  | .wasmReady | .wasmFailed => True

/-- The same of the messages alone: every header page comes whole, in a message that
holds nothing but header pages. -/
def HeadersApart (worker : AudioDecodeWorker) : Event → Prop
  | .encoded data throwsAt =>
    if worker.engine = some .native ∧ worker.fallbackInProgress = false then
      (∀ call ∈ throwsAt, ((worker.completed data).1.filter isAudioPacket).length ≤ call) ∧
        ((worker.completed data).1.any isOpusHeaderPacket = true →
          worker.packets.2 = [] ∧ (worker.completed data).2 = [] ∧
            ∀ packet ∈ (worker.completed data).1, isOpusHeaderPacket packet = true)
    else HeadersFirst (worker.remainingAudio ++ (worker.completed data).1)
  | .nativeError | .wasmReady | .wasmFailed => True

theorem decodePackets_whole (packets : List Bytes) (throwsAt : Option Nat)
    (accepted : ∀ call ∈ throwsAt, (packets.filter isAudioPacket).length ≤ call) :
    decodePackets packets throwsAt = (packets.filter isAudioPacket, false) := by
  induction packets generalizing throwsAt with
  | nil => rfl
  | cons packet rest ih =>
    cases kind : isOpusHeaderPacket packet with
    | true =>
      have skipped : isAudioPacket packet = false := by rw [isAudioPacket, kind, Bool.not_true]
      rw [List.filter_cons_of_neg (by simp [skipped])] at accepted ⊢
      rw [decodePackets, kind, if_pos rfl, ih throwsAt accepted]
    | false =>
      have audio : isAudioPacket packet = true := by rw [isAudioPacket, kind, Bool.not_false]
      rw [List.filter_cons_of_pos audio, List.length_cons] at accepted
      have goesOn : throwsAt ≠ some 0 := by
        rintro rfl
        have impossible := accepted 0 rfl
        omega
      have later : ∀ call ∈ throwsAt.map (· - 1), (rest.filter isAudioPacket).length ≤ call := by
        intro call member
        obtain ⟨first, isFirst, rfl⟩ := Option.map_eq_some_iff.mp member
        have bound := accepted first isFirst
        omega
      rw [List.filter_cons_of_pos audio]
      simp only [decodePackets, kind, if_neg goesOn, ih _ later, Bool.false_eq_true, if_false]

/-- A message adds what it completes. -/
theorem packets_received {worker next : AudioDecodeWorker}
    (received : next.received = worker.received ++ [data]) :
    next.packets = (worker.packets.1 ++ (worker.completed data).1, (worker.completed data).2) := by
  have flat : next.received.flatten = worker.received.flatten ++ data := by
    rw [received, List.flatten_append, List.flatten_singleton]
  rw [packets, flat, demux_append]
  rfl

theorem audioPackets_received {worker next : AudioDecodeWorker}
    (received : next.received = worker.received ++ [data]) :
    next.audioPackets = worker.audioPackets ++ (worker.completed data).1.filter isAudioPacket := by
  rw [audioPackets, packets_received received, List.filter_append]
  rfl

theorem headerPackets_received {worker next : AudioDecodeWorker}
    (received : next.received = worker.received ++ [data]) :
    next.headerPackets =
      worker.headerPackets ++ (worker.completed data).1.filter isOpusHeaderPacket := by
  rw [headerPackets, packets_received received, List.filter_append]
  rfl

/-- The bytes read as the headers and the audio not yet taken, and end where the
messages do. -/
structure ReadsOn (worker : AudioDecodeWorker) (bytes : Bytes) : Prop where
  taken : worker.handed <+: worker.audioPackets
  reads : demux bytes = (worker.headerPackets ++ worker.remainingAudio, worker.packets.2)

/-- Where the decoders are in the switch, and what the WASM decoder gets. -/
inductive Phase (worker : AudioDecodeWorker) : Prop where
  | native (engine : worker.engine = some .native) (stays : worker.fallbackInProgress = false)
      (unfed : worker.fed = []) (nonePending : worker.pendingDuringFallback = [])
      (buffered : worker.oggDemuxer = worker.packets.2) (ready : worker.decoderReady = true)
      (decoder : worker.nativeDecoder = true) (handed : worker.handed = worker.audioPackets)
  | switching (engine : worker.engine = some .native)
      (switches : worker.fallbackInProgress = true) (unfed : worker.fed = [])
      (ready : worker.decoderReady = true) (decoder : worker.wasmDecoder = true)
      (readsOn : worker.ReadsOn (worker.stashedHeaderMessages.flatten ++ worker.oggDemuxer ++
        worker.pendingDuringFallback.flatten))
  | wasm (engine : worker.engine = some .wasm) (stays : worker.fallbackInProgress = false)
      (ready : worker.decoderReady = true) (decoder : worker.wasmDecoder = true)
      (readsOn : worker.ReadsOn worker.fed.flatten)
  | failed (engine : worker.engine = none) (stays : worker.fallbackInProgress = false)

theorem filter_isOpusHeaderPacket_audio (packets : List Bytes) :
    (packets.filter isAudioPacket).filter isOpusHeaderPacket = [] := by
  apply List.filter_eq_nil_iff.mpr
  intro packet member
  have audio := (List.mem_filter.mp member).2
  rw [isAudioPacket, Bool.not_eq_true'] at audio
  rw [audio]
  exact Bool.false_ne_true

/-- One more message is read on as it arrived. -/
theorem ReadsOn.message {worker : AudioDecodeWorker} (readsOn : worker.ReadsOn bytes)
    (next : AudioDecodeWorker) (received : next.received = worker.received ++ [data])
    (handed : next.handed = worker.handed)
    (order : HeadersFirst (worker.remainingAudio ++ (worker.completed data).1)) :
    next.ReadsOn (bytes ++ data) := by
  have remaining : next.remainingAudio =
      worker.remainingAudio ++ (worker.completed data).1.filter isAudioPacket := by
    rw [remainingAudio, audioPackets_received received, handed,
      List.drop_append_of_le_length readsOn.taken.length_le]
    rfl
  have audio : worker.remainingAudio.filter isAudioPacket = worker.remainingAudio := by
    apply List.filter_eq_self.mpr
    intro packet member
    exact (List.mem_filter.mp (List.mem_of_mem_drop member)).2
  have noHeader : worker.remainingAudio.filter isOpusHeaderPacket = [] := by
    rw [← audio]
    exact filter_isOpusHeaderPacket_audio worker.remainingAudio
  unfold HeadersFirst at order
  rw [List.filter_append, List.filter_append, noHeader, audio, List.nil_append] at order
  constructor
  · rw [handed, audioPackets_received received]
    exact readsOn.taken.trans (List.prefix_append _ _)
  · rw [demux_append, readsOn.reads, packets_received received, headerPackets_received received,
      remaining]
    change ((worker.headerPackets ++ worker.remainingAudio) ++ (worker.completed data).1, _) = _
    rw [List.append_assoc, order, List.append_assoc]
    rfl

theorem foldl_decodeWasm (worker : AudioDecodeWorker) (messages : List Bytes) :
    messages.foldl decodeWasm worker = { worker with fed := worker.fed ++ messages } := by
  induction messages generalizing worker with
  | nil => rw [List.foldl_nil, List.append_nil]
  | cons message rest ih =>
    rw [List.foldl_cons, ih]
    simp only [decodeWasm, List.append_assoc, List.singleton_append]

theorem handleEncodedBytes_wasm (worker : AudioDecodeWorker) (engine : worker.engine = some .wasm)
    (stays : worker.fallbackInProgress = false) (ready : worker.decoderReady = true)
    (decoder : worker.wasmDecoder = true) (data : Bytes) (throwsAt : Option Nat) :
    worker.handleEncodedBytes data throwsAt = worker.decodeWasm data := by
  simp [handleEncodedBytes, engine, stays, ready, decoder]

theorem foldl_handleEncodedBytes (worker : AudioDecodeWorker)
    (engine : worker.engine = some .wasm) (stays : worker.fallbackInProgress = false)
    (ready : worker.decoderReady = true) (decoder : worker.wasmDecoder = true)
    (messages : List Bytes) :
    messages.foldl (fun worker raw => worker.handleEncodedBytes raw none) worker =
      { worker with fed := worker.fed ++ messages } := by
  induction messages generalizing worker with
  | nil => rw [List.foldl_nil, List.append_nil]
  | cons message rest ih =>
    rw [List.foldl_cons, handleEncodedBytes_wasm worker engine stays ready decoder,
      ih (worker.decodeWasm message) engine stays ready decoder]
    simp only [decodeWasm, List.append_assoc, List.singleton_append]

theorem decodeBuffered_spec (worker : AudioDecodeWorker) (remaining : Bytes) :
    ∃ chunks, worker.decodeBuffered remaining = { worker with fed := worker.fed ++ chunks } ∧
      chunks.flatten = remaining := by
  unfold decodeBuffered
  split
  · exact ⟨[remaining], rfl, List.flatten_singleton⟩
  · have empty : remaining = [] := List.eq_nil_of_length_eq_zero (by omega)
    exact ⟨[], by rw [List.append_nil], by rw [empty, List.flatten_nil]⟩

/-- The stash, the buffered bytes and the pending messages are fed one after the
other. -/
theorem wasmInitialised_spec {worker : AudioDecodeWorker} (ready : worker.decoderReady = true)
    (decoder : worker.wasmDecoder = true) :
    ∃ fed, worker.wasmInitialised = { worker with
        engine := some .wasm
        oggDemuxer := []
        fallbackInProgress := false
        pendingDuringFallback := []
        fed := fed } ∧
      fed.flatten = worker.fed.flatten ++ (worker.stashedHeaderMessages.flatten ++
        worker.oggDemuxer ++ worker.pendingDuringFallback.flatten) := by
  unfold wasmInitialised
  dsimp only
  rw [foldl_decodeWasm]
  obtain ⟨chunks, buffered, flat⟩ := decodeBuffered_spec { worker with
    engine := some .wasm
    oggDemuxer := []
    fed := worker.fed ++ worker.stashedHeaderMessages } worker.oggDemuxer
  refine ⟨worker.fed ++ worker.stashedHeaderMessages ++ chunks ++ worker.pendingDuringFallback,
    ?_, ?_⟩
  · simp only [takeBuffered]
    rw [buffered]
    have fedOn := foldl_handleEncodedBytes { worker with
      engine := some .wasm
      oggDemuxer := []
      fallbackInProgress := false
      pendingDuringFallback := []
      fed := worker.fed ++ worker.stashedHeaderMessages ++ chunks } rfl rfl ready decoder
    exact fedOn worker.pendingDuringFallback
  · simp only [List.flatten_append, flat, List.append_assoc]

theorem Phase.encoded {worker next : AudioDecodeWorker} (phase : worker.Phase)
    (taken : worker.step (.encoded data throwsAt) = some next)
    (whole : worker.SwitchesWhole (.encoded data throwsAt)) : next.Phase := by
  cases taken
  cases phase with
  | native engine stays unfed nonePending buffered ready decoder handed =>
    rw [SwitchesWhole, if_pos ⟨engine, stays⟩] at whole
    have decoded := decodePackets_whole _ throwsAt whole
    have pushed : push worker.oggDemuxer data = worker.completed data := by
      rw [buffered]
      rfl
    simp only [handleEncodedBytes, engine, stays, ready, decoder, and_self, if_true,
      Bool.false_eq_true, reduceCtorEq, if_false, decodeNative, pushed, decoded]
    split
    · refine .native rfl rfl unfed nonePending ?_ rfl rfl ?_
      · rw [packets_received rfl]
      · rw [audioPackets_received rfl, ← handed]
    · refine .native rfl rfl unfed nonePending ?_ rfl rfl ?_
      · rw [packets_received rfl]
      · rw [audioPackets_received rfl, ← handed]
  | switching engine switches unfed ready decoder readsOn =>
    rw [SwitchesWhole, if_neg (by simp [switches])] at whole
    rw [handleEncodedBytes, if_pos switches]
    refine .switching engine switches unfed ready decoder ?_
    have message := readsOn.message { worker with
      received := worker.received ++ [data]
      pendingDuringFallback := worker.pendingDuringFallback ++ [data] } rfl rfl whole
    rw [List.append_assoc] at message
    change ReadsOn _ (_ ++ (worker.pendingDuringFallback ++ [data]).flatten)
    rw [List.flatten_concat]
    exact message
  | wasm engine stays ready decoder readsOn =>
    rw [SwitchesWhole, if_neg (by simp [engine])] at whole
    have handled := handleEncodedBytes_wasm { worker with received := worker.received ++ [data] }
      engine stays ready decoder data throwsAt
    rw [handled]
    refine .wasm engine stays ready decoder ?_
    have message := readsOn.message { worker with
      received := worker.received ++ [data]
      fed := worker.fed ++ [data] } rfl rfl whole
    change ReadsOn _ (worker.fed ++ [data]).flatten
    rw [List.flatten_concat]
    exact message
  | failed engine stays =>
    simp only [handleEncodedBytes, engine, stays, Bool.false_eq_true, reduceCtorEq, if_false,
      false_and, ite_self]
    exact .failed rfl rfl

theorem Phase.nativeError {worker next : AudioDecodeWorker} (phase : worker.Phase)
    (taken : worker.step .nativeError = some next) (whole : worker.SwitchesWhole .nativeError) :
    next.Phase := by
  cases taken
  unfold fallbackToWasm
  split
  · exact phase
  · rename_i starts
    rw [not_or, Ne, not_not, Bool.not_eq_true] at starts
    cases phase with
    | native engine stays unfed nonePending buffered ready decoder handed =>
      refine .switching engine rfl unfed ready rfl ⟨?_, ?_⟩
      · exact handed ▸ List.prefix_refl worker.handed
      · have remaining : worker.remainingAudio = [] := by
          rw [remainingAudio, handed, List.drop_length]
        change demux (worker.stashedHeaderMessages.flatten ++ worker.oggDemuxer ++
          worker.pendingDuringFallback.flatten) =
            (worker.headerPackets ++ worker.remainingAudio, worker.packets.2)
        rw [nonePending, List.flatten_nil, List.append_nil, whole starts, remaining,
          List.append_nil, buffered]
    | switching engine switches =>
      rw [switches] at starts
      exact absurd starts.2 (by simp)
    | wasm engine =>
      rw [engine] at starts
      exact absurd starts.1 (by simp)
    | failed engine =>
      rw [engine] at starts
      exact absurd starts.1 (by simp)

theorem Phase.wasmReady {worker next : AudioDecodeWorker} (phase : worker.Phase)
    (taken : worker.step .wasmReady = some next) : next.Phase := by
  obtain ⟨switches, same⟩ := Option.ite_none_right_eq_some.mp taken
  cases same
  cases phase with
  | switching engine _ unfed ready decoder readsOn =>
    obtain ⟨fed, initialised, flat⟩ := wasmInitialised_spec ready decoder
    rw [unfed, List.flatten_nil, List.nil_append] at flat
    rw [initialised]
    refine .wasm rfl rfl ready decoder ⟨readsOn.taken, ?_⟩
    change demux fed.flatten = _
    rw [flat]
    exact readsOn.reads
  | native engine stays | wasm engine stays | failed engine stays =>
    rw [stays] at switches
    cases switches

theorem Phase.step {worker next : AudioDecodeWorker} (phase : worker.Phase)
    (taken : worker.step event = some next) (whole : worker.SwitchesWhole event) :
    next.Phase := by
  cases event with
  | encoded data throwsAt => exact phase.encoded taken whole
  | nativeError => exact phase.nativeError taken whole
  | wasmReady => exact phase.wasmReady taken
  | wasmFailed =>
    obtain ⟨switches, same⟩ := Option.ite_none_right_eq_some.mp taken
    cases same
    exact .failed rfl rfl

theorem Phase.takenOver {worker : AudioDecodeWorker} (phase : worker.Phase) :
    worker.TakenOver := by
  intro isWasm
  cases phase with
  | wasm _ _ _ _ readsOn => exact ⟨readsOn.taken, congrArg Prod.fst readsOn.reads⟩
  | native engine | switching engine | failed engine =>
    rw [engine] at isWasm
    cases isWasm

/-! ## The stash -/

/-- As long as the native decoder goes on, the stash holds the headers and no more. -/
def Stashed (worker : AudioDecodeWorker) : Prop :=
  worker.engine = some .native ∧ worker.fallbackInProgress = false →
    demux worker.stashedHeaderMessages.flatten = (worker.headerPackets, [])

theorem Stashed.switchesWhole {worker : AudioDecodeWorker} (stashed : worker.Stashed)
    (phase : worker.Phase) (apart : worker.HeadersApart event) : worker.SwitchesWhole event := by
  cases event with
  | encoded data throwsAt =>
    rw [HeadersApart] at apart
    rw [SwitchesWhole]
    split
    · next goesOn =>
      rw [if_pos goesOn] at apart
      exact apart.1
    · next switched =>
      rw [if_neg switched] at apart
      exact apart
  | nativeError =>
    intro starts
    cases phase with
    | native engine stays unfed nonePending buffered ready decoder handed =>
      rw [demux_append, stashed starts, List.nil_append, buffered, packets, demux_left,
        List.append_nil]
    | switching engine switches => exact absurd (switches.symm.trans starts.2) (by decide)
    | wasm engine => exact absurd (engine.symm.trans starts.1) (by decide)
    | failed engine => exact absurd (engine.symm.trans starts.1) (by decide)
  | wasmReady | wasmFailed => trivial

theorem Stashed.encoded {worker next : AudioDecodeWorker} (stashed : worker.Stashed)
    (phase : worker.Phase) (taken : worker.step (.encoded data throwsAt) = some next)
    (apart : worker.HeadersApart (.encoded data throwsAt)) : next.Stashed := by
  cases taken
  cases phase with
  | native engine stays unfed nonePending buffered ready decoder handed =>
    rw [HeadersApart, if_pos ⟨engine, stays⟩] at apart
    obtain ⟨accepted, headers⟩ := apart
    have decoded := decodePackets_whole _ throwsAt accepted
    have pushed : push worker.oggDemuxer data = worker.completed data := by
      rw [buffered]
      rfl
    simp only [handleEncodedBytes, engine, stays, ready, decoder, and_self, if_true,
      Bool.false_eq_true, reduceCtorEq, if_false, decodeNative, pushed, decoded]
    have before := stashed ⟨engine, stays⟩
    split
    · next header =>
      obtain ⟨fromStart, toEnd, only⟩ := headers header
      intro _
      have message : demux data = worker.completed data := by
        rw [completed, fromStart, List.nil_append]
      rw [headerPackets_received rfl, List.filter_eq_self.mpr only]
      change demux (worker.stashedHeaderMessages ++ [data]).flatten = _
      rw [List.flatten_concat, demux_append, before, List.nil_append, message, toEnd]
    · next noHeader =>
      intro _
      have none : (worker.completed data).1.filter isOpusHeaderPacket = [] := by
        rw [Bool.not_eq_true, List.any_eq_false] at noHeader
        exact List.filter_eq_nil_iff.mpr noHeader
      rw [headerPackets_received rfl, none, List.append_nil]
      exact before
  | switching engine switches =>
    rw [handleEncodedBytes, if_pos switches]
    rintro ⟨_, stays⟩
    exact absurd (switches.symm.trans stays) (by decide)
  | wasm engine stays ready decoder =>
    have handled := handleEncodedBytes_wasm { worker with received := worker.received ++ [data] }
      engine stays ready decoder data throwsAt
    rw [handled]
    rintro ⟨native, _⟩
    exact absurd (engine.symm.trans native) (by decide)
  | failed engine stays =>
    simp only [handleEncodedBytes, engine, stays, Bool.false_eq_true, reduceCtorEq, if_false,
      false_and, ite_self]
    rintro ⟨native, _⟩
    cases native

theorem Stashed.step {worker next : AudioDecodeWorker} (stashed : worker.Stashed)
    (phase : worker.Phase) (taken : worker.step event = some next)
    (apart : worker.HeadersApart event) : next.Stashed := by
  cases event with
  | encoded data throwsAt => exact stashed.encoded phase taken apart
  | nativeError =>
    cases taken
    unfold fallbackToWasm
    split
    · exact stashed
    · rintro ⟨_, stays⟩
      cases stays
  | wasmReady =>
    obtain ⟨switches, same⟩ := Option.ite_none_right_eq_some.mp taken
    cases same
    cases phase with
    | switching engine _ unfed ready decoder readsOn =>
      obtain ⟨fed, initialised, flat⟩ := wasmInitialised_spec ready decoder
      rw [initialised]
      rintro ⟨native, _⟩
      cases native
    | native engine stays | wasm engine stays | failed engine stays =>
      rw [stays] at switches
      cases switches
  | wasmFailed =>
    obtain ⟨switches, same⟩ := Option.ite_none_right_eq_some.mp taken
    cases same
    rintro ⟨native, _⟩
    cases native

/-- Where every failure is one that loses nothing, the WASM decoder reads in every
state what the native decoder did not take. So it is where no call throws, every
header page comes whole in messages that hold nothing else, and none comes behind
audio from the failure on. -/
theorem wasm_takes_over :
    (Along step (fun worker event _ => worker.SwitchesWhole event) ready events →
      Along step (fun _ _ next => next.TakenOver) ready events) ∧
    (Along step (fun worker event _ => worker.HeadersApart event) ready events →
      Along step (fun worker event _ => worker.SwitchesWhole event) ready events) := by
  have starts : ready.Phase := .native rfl rfl rfl rfl rfl rfl rfl rfl
  refine ⟨along_imp Phase ?_ ?_ starts,
    along_imp (fun worker => worker.Phase ∧ worker.Stashed) ?_ ?_ ⟨starts, fun _ => rfl⟩⟩
  · intro worker event next phase taken obeyed
    exact (phase.step taken obeyed).takenOver
  · intro worker event next phase taken obeyed
    exact phase.step taken obeyed
  · rintro worker event next ⟨phase, stashed⟩ taken apart
    exact stashed.switchesWhole phase apart
  · rintro worker event next ⟨phase, stashed⟩ taken apart
    exact ⟨phase.step taken (stashed.switchesWhole phase apart), stashed.step phase taken apart⟩

/-- The two header pages, which the streamer sends as one message. -/
def headerMessage : Bytes :=
  [79, 103, 103, 83, 0, 2, 0, 0, 0, 0, 0, 0, 0, 0, 57, 48, 0, 0, 0, 0, 0, 0, 165, 207, 94, 58,
    1, 19, 79, 112, 117, 115, 72, 101, 97, 100, 1, 2, 0, 0, 128, 187, 0, 0, 0, 0, 0,
    79, 103, 103, 83, 0, 0, 0, 0, 0, 0, 0, 0, 0, 0, 57, 48, 0, 0, 1, 0, 0, 0, 87, 39, 126, 105,
    1, 25, 79, 112, 117, 115, 84, 97, 103, 115, 9, 0, 0, 0, 77, 111, 111, 110, 108, 105, 103,
    104, 116, 0, 0, 0, 0]

/-- Two audio pages, in the message that follows. -/
def audioMessage : Bytes :=
  [79, 103, 103, 83, 0, 0, 240, 0, 0, 0, 0, 0, 0, 0, 57, 48, 0, 0, 2, 0, 0, 0, 65, 37, 146, 190,
    1, 3, 248, 255, 254,
    79, 103, 103, 83, 0, 0, 224, 1, 0, 0, 0, 0, 0, 0, 57, 48, 0, 0, 3, 0, 0, 0, 186, 189, 66,
    205, 1, 3, 248, 1, 2]

/-- The decoder reports an error behind the first two packets, and the next two come
before the WASM decoder is there. -/
theorem wasm_takes_over_whole : Along step (fun _ _ next => next.TakenOver) ready
    [.encoded headerMessage none, .encoded audioMessage none, .nativeError,
      .encoded audioMessage none, .wasmReady] := by
  apply wasm_takes_over.1
  apply wasm_takes_over.2
  refine along_cons rfl ?_ (along_cons rfl ?_ (along_cons rfl trivial (along_cons rfl ?_
    (along_cons rfl trivial trivial))))
  · exact ⟨nofun, fun _ => by decide +kernel⟩
  · refine ⟨nofun, fun header => absurd header ?_⟩
    decide +kernel
  · change HeadersFirst _
    unfold HeadersFirst
    decide +kernel

/-- `decode` throws at the second packet of a message. It is fed to no decoder. -/
theorem thrown_packet_lost :
    ¬ ∀ events, Along step (fun _ _ next => next.TakenOver) ready events := by
  intro always
  have along := always [.encoded headerMessage none, .encoded audioMessage (some 1), .wasmReady]
  have takenOver := (((along _ rfl).2 _ rfl).2 _ rfl).1 rfl
  revert takenOver
  decide +kernel

end AudioDecodeWorker

end MoonlightWeb.Client

import MoonlightWeb.MoonlightCommonC.ReedSolomon

/-! The queue that puts the audio packets back in order. Four packets and two parity
shards over them make up a block. A packet that is due is handed on at once; what
comes early waits in its block, and what is lost is made again from the rest of it
or, when the next block is already coming in, given up. -/
namespace MoonlightWeb.MoonlightCommonC

def isBefore16 (x y : UInt16) : Bool := (x - y).toNat > 65535 / 2

def RTP_PAYLOAD_TYPE_AUDIO : UInt8 := 97

def RTP_PAYLOAD_TYPE_FEC : UInt8 := 127

def RTPQ_OOS_WAIT_TIME_MS : Nat := 10

abbrev RTPA_DATA_SHARDS : Nat := 4

abbrev RTPA_FEC_SHARDS : Nat := 2

def RTPA_TOTAL_SHARDS : Nat := RTPA_DATA_SHARDS + RTPA_FEC_SHARDS

def RTPQ_RET_PACKET_READY : Nat := 2

def RTPQ_RET_HANDLE_NOW : Nat := 4

/-- A check that a build for fuzzing has, and that ends the program when it fails. The
checks of what the host sends are left out there, and no block is damaged on purpose. -/
def lcAssert (condition : Bool) (rest : Option α) : Option α := if condition then rest else none

/-! ## Packets and blocks -/

/-- A packet in the order of the host, with what follows its header. -/
structure RtpPacket where
  header : UInt8
  packetType : UInt8
  sequenceNumber : UInt16
  timestamp : UInt32
  ssrc : UInt32
  payload : List UInt8
  deriving DecidableEq

structure AudioFecHeader where
  fecShardIndex : UInt8
  payloadType : UInt8
  baseSequenceNumber : UInt16
  baseTimestamp : UInt32
  ssrc : UInt32
  deriving DecidableEq

def be16 (high low : UInt8) : UInt16 := high.toUInt16 <<< 8 ||| low.toUInt16

def be32 (a b c d : UInt8) : UInt32 :=
  a.toUInt32 <<< 24 ||| b.toUInt32 <<< 16 ||| c.toUInt32 <<< 8 ||| d.toUInt32

/-- The header of a parity packet and the shard after it, unless it is too small. -/
def AudioFecHeader.read : List UInt8 → Option (AudioFecHeader × List UInt8)
  | index :: type :: s1 :: s0 :: t3 :: t2 :: t1 :: t0 :: r3 :: r2 :: r1 :: r0 :: shard => some
      ({ fecShardIndex := index, payloadType := type, baseSequenceNumber := be16 s1 s0
         baseTimestamp := be32 t3 t2 t1 t0, ssrc := be32 r3 r2 r1 r0 }, shard)
  | _ => none

/-- What the memory of a block holds before anything is written to it. -/
structure Slab where
  dataPackets : Nat → RtpPacket
  fecPackets : Nat → List UInt8

/-- A mark is set for every shard that is missing. -/
structure FecBlock where
  dataPackets : Nat → RtpPacket
  fecPackets : Nat → List UInt8
  marks : Nat → Bool
  fecHeader : AudioFecHeader
  queueTimeMs : UInt64
  dataShardsReceived : Nat
  fecShardsReceived : Nat
  fullyReassembled : Bool
  nextDataPacketIndex : Nat
  allowDiscontinuity : Bool
  blockSize : Nat

structure RtpAudioQueue where
  blocks : List FecBlock
  rs : ReedSolomon RTPA_DATA_SHARDS RTPA_FEC_SHARDS
  nextRtpSequenceNumber : UInt16
  oldestRtpBaseSequenceNumber : UInt16
  lastOosSequenceNumber : UInt16
  receivedOosData : Bool
  synchronizing : Bool
  incompatibleServer : Bool

/-! ## The parity of the hosts -/

def audioParity : List UInt8 := [0x77, 0x40, 0x38, 0x0e, 0xc7, 0xa7, 0x0d, 0x6c]

/-- The coefficients of the sums are replaced by those that the hosts use. -/
def withAudioParity (rs : ReedSolomon RTPA_DATA_SHARDS RTPA_FEC_SHARDS) :
    ReedSolomon RTPA_DATA_SHARDS RTPA_FEC_SHARDS where
  m row i := if RTPA_DATA_SHARDS ≤ row ∧ row < RTPA_TOTAL_SHARDS then
      ⟨audioParity.getD ((row - RTPA_DATA_SHARDS) * RTPA_DATA_SHARDS + i) 0⟩
    else rs.m row i
  parity row i := if row < RTPA_FEC_SHARDS then ⟨audioParity.getD (row * RTPA_DATA_SHARDS + i) 0⟩
    else rs.parity row i

/-- The logarithms of the coefficients. -/
def audioLogs (row : Fin 2) (i : Fin 4) : Nat :=
  ([43, 6, 201, 199, 118, 205, 104, 250] : List Nat).getD (row * 4 + i) 0

theorem audioParity_eq : ∀ (row : Fin 2) (i : Fin 4), audioParity.getD (row * 4 + i) 0 = power (audioLogs row i) := by
  decide +kernel

theorem audio_minors : ∀ i j : Fin 4, i ≠ j →
    (audioLogs 0 i + audioLogs 1 j) % GF_SIZE ≠ (audioLogs 0 j + audioLogs 1 i) % GF_SIZE := by
  decide

/-- The parity of the hosts is as good as the one that it replaces. -/
theorem withAudioParity_systematic (made : reedSolomonNew RTPA_DATA_SHARDS RTPA_FEC_SHARDS = some rs) :
    (withAudioParity rs).Systematic := by
  obtain ⟨positive, _, data, _, _⟩ := ReedSolomon.reedSolomonNew_eq made
  have entry : ∀ (row : Fin RTPA_FEC_SHARDS) (i : Fin RTPA_DATA_SHARDS),
      (withAudioParity rs).parity row i = ⟨power (audioLogs row i)⟩ := fun row i =>
    (if_pos row.isLt).trans (congrArg Gf.mk (audioParity_eq row i))
  refine ⟨positive, fun i => ?_, fun j => ?_, ErasureCode.superregular_two ?_ ?_⟩
  · funext c
    exact (if_neg fun sums => absurd i.isLt (Nat.not_lt.mpr sums.1)).trans (congrFun (data i) c)
  · funext c
    have within : RTPA_DATA_SHARDS ≤ RTPA_DATA_SHARDS + j.val ∧ RTPA_DATA_SHARDS + j.val < RTPA_TOTAL_SHARDS :=
      ⟨Nat.le_add_right _ _, Nat.add_lt_add_left j.isLt _⟩
    refine (if_pos within).trans ?_
    rw [Nat.add_sub_cancel_left, entry]
    exact congrArg Gf.mk (audioParity_eq j c)
  · intro row i
    rw [Matrix.of_apply, entry]
    exact Gf.byte_ne_zero.mpr (power_ne_zero _)
  · intro i j differ
    rw [Matrix.of_apply, Matrix.of_apply, Matrix.of_apply, Matrix.of_apply, entry, entry, entry, entry,
      Gf.power_mul, Gf.power_mul]
    exact mt Gf.power_inj.mp (audio_minors i j differ)

def rtpaInitializeQueue (appVersionAtLeast : Bool) : Option RtpAudioQueue :=
  (reedSolomonNew RTPA_DATA_SHARDS RTPA_FEC_SHARDS).map fun rs =>
    { blocks := [], rs := withAudioParity rs, nextRtpSequenceNumber := 0, oldestRtpBaseSequenceNumber := 0
      lastOosSequenceNumber := 0, receivedOosData := false, synchronizing := true
      incompatibleServer := !appVersionAtLeast }

namespace RtpAudioQueue

/-! ## The state -/

/-- The sequence numbers of a list that is linked as it should be. -/
def validateFecBlockState (queue : RtpAudioQueue) : Bool :=
  (!isBefore16 queue.nextRtpSequenceNumber queue.oldestRtpBaseSequenceNumber || queue.synchronizing) &&
    match queue.blocks with
    | [] => true
    | head :: rest =>
      isBefore16 queue.nextRtpSequenceNumber (head.fecHeader.baseSequenceNumber + 4) &&
        !isBefore16 head.fecHeader.baseSequenceNumber queue.oldestRtpBaseSequenceNumber &&
        rest.all fun block => isBefore16 head.fecHeader.baseSequenceNumber block.fecHeader.baseSequenceNumber

def freeFecBlockHead (queue : RtpAudioQueue) : Option RtpAudioQueue :=
  match queue.blocks with
  | [] => none
  | head :: rest =>
    let queue := { queue with
      blocks := rest
      oldestRtpBaseSequenceNumber := head.fecHeader.baseSequenceNumber + 4
      synchronizing := false }
    lcAssert queue.validateFecBlockState (some queue)

/-- After a packet of the head is handed on: the head goes with its last packet. -/
def settle (queue : RtpAudioQueue) (nextDataPacketIndex : Nat) : Option RtpAudioQueue :=
  if nextDataPacketIndex = RTPA_DATA_SHARDS then queue.freeFecBlockHead
  else lcAssert queue.validateFecBlockState (some queue)

def queueHasPacketReady (queue : RtpAudioQueue) : Bool :=
  match queue.blocks with
  | [] => false
  | head :: _ => (!head.marks head.nextDataPacketIndex &&
      head.fecHeader.baseSequenceNumber.toNat + head.nextDataPacketIndex = queue.nextRtpSequenceNumber.toNat) ||
      head.allowDiscontinuity

/-! ## The block of a packet -/

/-- Whether packets have come late lately. -/
def noteSequence (queue : RtpAudioQueue) (packet : RtpPacket) : RtpAudioQueue :=
  if !queue.synchronizing && isBefore16 packet.sequenceNumber queue.oldestRtpBaseSequenceNumber then
    { queue with lastOosSequenceNumber := packet.sequenceNumber, receivedOosData := true }
  else if queue.receivedOosData && isBefore16 queue.oldestRtpBaseSequenceNumber queue.lastOosSequenceNumber then
    { queue with receivedOosData := false }
  else queue

/-- The header and the size of the shards of the block that a packet belongs to. -/
def fecHeaderOf (AudioPacketDuration : Nat) (packet : RtpPacket) : Option (AudioFecHeader × Nat) :=
  if packet.packetType = RTP_PAYLOAD_TYPE_AUDIO then
    let baseSequenceNumber := packet.sequenceNumber / 4 * 4
    let past := (packet.sequenceNumber - baseSequenceNumber).toNat
    some ({ fecShardIndex := 0, payloadType := packet.packetType, baseSequenceNumber
            baseTimestamp := packet.timestamp - UInt32.ofNat (past * AudioPacketDuration)
            ssrc := packet.ssrc }, packet.payload.length)
  else if packet.packetType = RTP_PAYLOAD_TYPE_FEC then
    match AudioFecHeader.read packet.payload with
    | none => none
    | some (fecHeader, shard) =>
      if fecHeader.fecShardIndex.toNat < RTPA_FEC_SHARDS ∧ fecHeader.baseSequenceNumber % 4 = 0 then
        some ({ fecHeader with fecShardIndex := 0 }, shard.length)
      else none
  else none

/-- What the queue remembers of a packet whether or not there is a block for it. -/
def notePacket (queue : RtpAudioQueue) (packet : RtpPacket) : RtpAudioQueue :=
  if packet.packetType = RTP_PAYLOAD_TYPE_AUDIO then queue.noteSequence packet
  else if packet.packetType = RTP_PAYLOAD_TYPE_FEC then
    match AudioFecHeader.read packet.payload with
    | none => queue
    | some (fecHeader, _) =>
      -- Only an older host has blocks that begin anywhere else.
      if fecHeader.fecShardIndex.toNat < RTPA_FEC_SHARDS ∧ fecHeader.baseSequenceNumber % 4 ≠ 0 then
        { queue with incompatibleServer := true }
      else queue
  else queue

/-- Where a block is, or is to be. -/
def position (baseSequenceNumber : UInt16) : List FecBlock → Nat
  | [] => 0
  | block :: rest =>
    if block.fecHeader.baseSequenceNumber = baseSequenceNumber ∨
        isBefore16 baseSequenceNumber block.fecHeader.baseSequenceNumber then 0
    else position baseSequenceNumber rest + 1

def newBlock (fecHeader : AudioFecHeader) (blockSize : Nat) (now : UInt64) (slab : Slab) : FecBlock where
  dataPackets := slab.dataPackets
  fecPackets := slab.fecPackets
  marks _ := true
  fecHeader := fecHeader
  queueTimeMs := now
  dataShardsReceived := 0
  fecShardsReceived := 0
  fullyReassembled := false
  nextDataPacketIndex := 0
  allowDiscontinuity := false
  blockSize := blockSize

/-- Without memory there is no block. -/
def insertFecBlock (queue : RtpAudioQueue) (at_ : Nat) (fecHeader : AudioFecHeader) (blockSize : Nat) (now : UInt64) :
    Option Slab → Option (RtpAudioQueue × Option Nat)
  | none => some (queue, none)
  | some slab =>
    let queue := { queue with blocks := queue.blocks.insertIdx at_ (newBlock fecHeader blockSize now slab) }
    lcAssert queue.validateFecBlockState (some (queue, some at_))

/-- The block in which to put the packet, by its place in the list. -/
def getFecBlockForRtpPacket (AudioPacketDuration : Nat) (queue : RtpAudioQueue) (packet : RtpPacket)
    (now : UInt64) (memory : Option Slab) : Option (RtpAudioQueue × Option Nat) :=
  lcAssert queue.validateFecBlockState <|
    let queue := queue.notePacket packet
    match fecHeaderOf AudioPacketDuration packet with
    | none => some (queue, none)
    | some (fecHeader, blockSize) =>
      let baseSequenceNumber := fecHeader.baseSequenceNumber
      if queue.synchronizing && queue.oldestRtpBaseSequenceNumber = 0 then
        -- The block that the stream begins in is left out, as part of it may be gone.
        some ({ queue with nextRtpSequenceNumber := baseSequenceNumber + 4
                           oldestRtpBaseSequenceNumber := baseSequenceNumber + 4 }, none)
      else if isBefore16 baseSequenceNumber queue.oldestRtpBaseSequenceNumber then some (queue, none)
      else
        let at_ := position baseSequenceNumber queue.blocks
        match queue.blocks[at_]? with
        | none => queue.insertFecBlock at_ fecHeader blockSize now memory
        | some existingBlock =>
          if existingBlock.fecHeader.baseSequenceNumber = baseSequenceNumber then
            if existingBlock.blockSize ≠ blockSize then
              some ({ queue with incompatibleServer := true }, none)
            else some (queue, if existingBlock.fullyReassembled then none else some at_)
          else queue.insertFecBlock at_ fecHeader blockSize now memory

/-! ## Shards -/

def putData (block : FecBlock) (pos : Nat) (packet : RtpPacket) : FecBlock :=
  { block with
    dataPackets := Function.update block.dataPackets pos packet
    marks := Function.update block.marks pos false
    dataShardsReceived := block.dataShardsReceived + 1 }

def putFec (block : FecBlock) (index : Nat) (shard : List UInt8) : FecBlock :=
  { block with
    fecPackets := Function.update block.fecPackets index shard
    marks := Function.update block.marks (RTPA_DATA_SHARDS + index) false
    fecShardsReceived := block.fecShardsReceived + 1 }

/-- What the shards of a block hold, the data before the sums. -/
def shards (block : FecBlock) : Buffers := fun i x =>
  if i < RTPA_DATA_SHARDS then ⟨(block.dataPackets i).payload.getD x 0⟩
  else ⟨(block.fecPackets (i - RTPA_DATA_SHARDS)).getD x 0⟩

/-- A lost packet with the header that it must have had. -/
def recoveredPacket (AudioPacketDuration : Nat) (block : FecBlock) (restored : Buffers) (i : Nat) :
    RtpPacket where
  header := 0x80
  packetType := block.fecHeader.payloadType
  sequenceNumber := block.fecHeader.baseSequenceNumber + UInt16.ofNat i
  timestamp := block.fecHeader.baseTimestamp + UInt32.ofNat (i * AudioPacketDuration)
  ssrc := block.fecHeader.ssrc
  payload := (List.range block.blockSize).map fun x => (restored i x).byte

def completeFecBlock (AudioPacketDuration : Nat) (rs : ReedSolomon RTPA_DATA_SHARDS RTPA_FEC_SHARDS)
    (block : FecBlock) : Option (Bool × FecBlock) :=
  if block.dataShardsReceived + block.fecShardsReceived < RTPA_DATA_SHARDS then some (false, block)
  else lcAssert (block.dataShardsReceived ≤ RTPA_DATA_SHARDS) <|
    if block.dataShardsReceived = RTPA_DATA_SHARDS then some (true, block)
    else
      let (restored, res) := rs.reconstruct (shards block) block.marks RTPA_TOTAL_SHARDS block.blockSize
      lcAssert (res = 0) <| some (true, { block with
        dataPackets := fun i => if i < RTPA_DATA_SHARDS ∧ block.marks i then
            recoveredPacket AudioPacketDuration block restored i
          else block.dataPackets i
        marks := fun i => if i < RTPA_DATA_SHARDS then false else block.marks i })

def handleMissingPackets (AudioPacketDuration : Nat) (queue : RtpAudioQueue) (now : UInt64) : Option RtpAudioQueue :=
  match queue.blocks with
  | [] => some queue
  | head :: rest =>
    if isBefore16 queue.nextRtpSequenceNumber head.fecHeader.baseSequenceNumber then
      -- All of an earlier block was lost.
      some { queue with
        nextRtpSequenceNumber := head.fecHeader.baseSequenceNumber
        oldestRtpBaseSequenceNumber := head.fecHeader.baseSequenceNumber }
    else if rest.isEmpty then some queue
    else if !queue.receivedOosData ||
        (now - head.queueTimeMs).toNat > AudioPacketDuration * RTPA_DATA_SHARDS + RTPQ_OOS_WAIT_TIME_MS then
      lcAssert (!isBefore16 queue.nextRtpSequenceNumber head.fecHeader.baseSequenceNumber) <|
        let queue := { queue with blocks := { head with allowDiscontinuity := true } :: rest }
        lcAssert (queue.validateFecBlockState && queue.queueHasPacketReady) (some queue)
    else some queue

/-! ## What the receiver calls -/

/-- With nothing ready the missing packets may be passed over. -/
def checkReady (AudioPacketDuration : Nat) (queue : RtpAudioQueue) (now : UInt64) : Option (RtpAudioQueue × Nat) :=
  lcAssert queue.validateFecBlockState <|
    match if queue.queueHasPacketReady then some queue
        else queue.handleMissingPackets AudioPacketDuration now with
    | none => none
    | some queue => lcAssert queue.validateFecBlockState <|
        some (queue, if queue.queueHasPacketReady then RTPQ_RET_PACKET_READY else 0)

/-- After a shard that is not due was put in its block. -/
def finishPacket (AudioPacketDuration : Nat) (queue : RtpAudioQueue) (at_ : Nat) (fecBlock : FecBlock) (now : UInt64) :
    Option (RtpAudioQueue × Nat) :=
  lcAssert (at_ = 0 || queue.blocks.length ≠ 1) <|
    match completeFecBlock AudioPacketDuration queue.rs fecBlock with
    | none => none
    | some (completed, fecBlock) =>
      let fecBlock := if completed then { fecBlock with fullyReassembled := true } else fecBlock
      checkReady AudioPacketDuration { queue with blocks := queue.blocks.set at_ fecBlock } now

/-- A data packet in its block, which is handed on at once when it is due. -/
def addData (AudioPacketDuration : Nat) (queue : RtpAudioQueue) (at_ : Nat) (fecBlock : FecBlock)
    (packet : RtpPacket) (now : UInt64) : Option (RtpAudioQueue × Nat) :=
  let pos := (packet.sequenceNumber - fecBlock.fecHeader.baseSequenceNumber).toNat
  lcAssert (pos < RTPA_DATA_SHARDS) <|
    if fecBlock.marks pos then
      let fecBlock := putData fecBlock pos packet
      if packet.sequenceNumber = queue.nextRtpSequenceNumber then
        let fecBlock := { fecBlock with nextDataPacketIndex := fecBlock.nextDataPacketIndex + 1 }
        let queue := { queue with
          nextRtpSequenceNumber := packet.sequenceNumber + 1
          blocks := queue.blocks.set at_ fecBlock }
        if queue.nextRtpSequenceNumber = fecBlock.fecHeader.baseSequenceNumber + 4 then
          lcAssert (at_ = 0) <| lcAssert (fecBlock.nextDataPacketIndex = RTPA_DATA_SHARDS) <|
            queue.freeFecBlockHead.map fun queue => (queue, RTPQ_RET_HANDLE_NOW)
        else lcAssert queue.validateFecBlockState (some (queue, RTPQ_RET_HANDLE_NOW))
      else queue.finishPacket AudioPacketDuration at_ fecBlock now
    else some (queue, 0)

def addFec (AudioPacketDuration : Nat) (queue : RtpAudioQueue) (at_ : Nat) (fecBlock : FecBlock)
    (packet : RtpPacket) (now : UInt64) : Option (RtpAudioQueue × Nat) :=
  match AudioFecHeader.read packet.payload with
  | none => none
  | some (fecHeader, shard) =>
    let index := fecHeader.fecShardIndex.toNat
    lcAssert (index < RTPA_FEC_SHARDS) <|
      if fecBlock.marks (RTPA_DATA_SHARDS + index) then
        queue.finishPacket AudioPacketDuration at_ (putFec fecBlock index shard) now
      else some (queue, 0)

/-- For a host whose packets do not fit this, audio goes straight through. -/
def rtpaAddPacket (AudioPacketDuration : Nat) (queue : RtpAudioQueue) (packet : RtpPacket) (now : UInt64)
    (memory : Option Slab) : Option (RtpAudioQueue × Nat) :=
  if queue.incompatibleServer then
    some (queue, if packet.packetType = RTP_PAYLOAD_TYPE_AUDIO then RTPQ_RET_HANDLE_NOW else 0)
  else
    match queue.getFecBlockForRtpPacket AudioPacketDuration packet now memory with
    | none => none
    | some (queue, none) => some (queue, 0)
    | some (queue, some at_) =>
      match queue.blocks[at_]? with
      | none => none
      | some fecBlock =>
        if packet.packetType = RTP_PAYLOAD_TYPE_AUDIO then
          queue.addData AudioPacketDuration at_ fecBlock packet now
        else queue.addFec AudioPacketDuration at_ fecBlock packet now

/-- The packet at the head of the queue handed on, or given up. -/
def takeHead (queue : RtpAudioQueue) (head : FecBlock) (rest : List FecBlock) : Option RtpAudioQueue :=
  settle { queue with
    blocks := { head with nextDataPacketIndex := head.nextDataPacketIndex + 1 } :: rest
    nextRtpSequenceNumber := queue.nextRtpSequenceNumber + 1 } (head.nextDataPacketIndex + 1)

def readPacket (queue : RtpAudioQueue) (allocated : Bool) : Option (RtpAudioQueue × Option (Option RtpPacket)) :=
  lcAssert queue.validateFecBlockState <|
    match queue.blocks with
    | [] => some (queue, none)
    | head :: rest =>
      if queue.queueHasPacketReady && allocated then
        let packet := head.dataPackets head.nextDataPacketIndex
        (queue.takeHead head rest).map fun queue =>
          (queue, some (some { packet with payload := packet.payload.take head.blockSize }))
      else some (queue, none)

/-- Nothing, or a packet, or an empty entry for one that is lost. -/
def rtpaGetQueuedPacket (queue : RtpAudioQueue) (allocated : Bool) :
    Option (RtpAudioQueue × Option (Option RtpPacket)) :=
  lcAssert queue.validateFecBlockState <|
    match queue.blocks with
    | [] => queue.readPacket allocated
    | head :: rest =>
      if head.allowDiscontinuity then
        lcAssert (head.fecHeader.baseSequenceNumber.toNat + head.nextDataPacketIndex =
            queue.nextRtpSequenceNumber.toNat) <|
          if head.marks head.nextDataPacketIndex then
            if allocated then (queue.takeHead head rest).map fun queue => (queue, some none)
            else some (queue, none)
          else lcAssert queue.queueHasPacketReady <|
            match queue.settle head.nextDataPacketIndex with
            | none => none
            | some queue => queue.readPacket allocated
      else queue.readPacket allocated

end RtpAudioQueue

end MoonlightWeb.MoonlightCommonC

import MoonlightWeb.MoonlightCommonC.AudioQueueMoves

/-! The stream that a host sends, and what the queue holds of it. The packets of a stream
are numbered without end here; their sequence numbers are what is left of that after
wrapping around. -/
namespace MoonlightWeb.MoonlightCommonC.RtpAudioQueue

open ReedSolomon

/-! ## The host -/

/-- A host whose packets are all of one size, as this queue takes it. -/
structure Source where
  payload : Nat → List UInt8
  size : Nat
  sized : ∀ n, (payload n).length = size
  timestamp : UInt32
  ssrc : UInt32
  packetDuration : Nat

namespace Source

def packet (source : Source) (n : Nat) : RtpPacket where
  header := 0x80
  packetType := RTP_PAYLOAD_TYPE_AUDIO
  sequenceNumber := UInt16.ofNat n
  timestamp := source.timestamp + UInt32.ofNat (n * source.packetDuration)
  ssrc := source.ssrc
  payload := source.payload n

/-- What the parity shards say of the block that begins with packet `base`. -/
def fecHeader (source : Source) (base : Nat) (index : UInt8) : AudioFecHeader where
  fecShardIndex := index
  payloadType := RTP_PAYLOAD_TYPE_AUDIO
  baseSequenceNumber := UInt16.ofNat base
  baseTimestamp := source.timestamp + UInt32.ofNat (base * source.packetDuration)
  ssrc := source.ssrc

def parityByte (source : Source) (base j x : Nat) : Gf :=
  ∑ i : Fin RTPA_DATA_SHARDS, ⟨audioParity.getD (j * RTPA_DATA_SHARDS + i) 0⟩ *
    ⟨(source.payload (base + i)).getD x 0⟩

def parity (source : Source) (base j : Nat) : List UInt8 :=
  (List.range source.size).map fun x => (source.parityByte base j x).byte

/-- The packets that a host sends, each with the beginning of its block. -/
inductive Sends (source : Source) : RtpPacket → Nat → Prop
  | data (n : Nat) : Sends source (source.packet n) (n / 4 * 4)
  | parity (packet : RtpPacket) (base j : Nat) (type : packet.packetType = RTP_PAYLOAD_TYPE_FEC)
    (aligned : base % 4 = 0) (index : j < RTPA_FEC_SHARDS)
    (read : AudioFecHeader.read packet.payload =
      some (source.fecHeader base (UInt8.ofNat j), source.parity base j)) : Sends source packet base

variable {source : Source} {packet : RtpPacket} {base : Nat}

theorem ofNat_div_mul (n : Nat) : UInt16.ofNat n / 4 * 4 = UInt16.ofNat (n / 4 * 4) := by
  have four : (4 : UInt16).toNat = 4 := rfl
  refine UInt16.toNat_inj.mp ?_
  rw [UInt16.toNat_mul, UInt16.toNat_div, UInt16.toNat_ofNat', UInt16.toNat_ofNat', four]
  omega

theorem ofNat_past (n : Nat) : (UInt16.ofNat n - UInt16.ofNat n / 4 * 4).toNat = n % 4 := by
  rw [ofNat_div_mul, UInt16.toNat_sub, UInt16.toNat_ofNat', UInt16.toNat_ofNat']
  omega

theorem timestamp_add (source : Source) (base i : Nat) :
    source.timestamp + UInt32.ofNat (base * source.packetDuration) + UInt32.ofNat (i * source.packetDuration) =
      source.timestamp + UInt32.ofNat ((base + i) * source.packetDuration) := by
  rw [Nat.add_mul, UInt32.ofNat_add, UInt32.add_assoc]

theorem Sends.aligned (sent : source.Sends packet base) : base % 4 = 0 := by
  cases sent with
  | data n => exact Nat.mul_mod_left _ _
  | parity packet base j type aligned index read => exact aligned

/-- Every packet of a block says the same of it. -/
theorem Sends.fecHeaderOf (sent : source.Sends packet base) :
    fecHeaderOf source.packetDuration packet = some (source.fecHeader base 0, source.size) := by
  unfold RtpAudioQueue.fecHeaderOf
  cases sent with
  | data n =>
    have times : source.timestamp + UInt32.ofNat (n * source.packetDuration) -
        UInt32.ofNat (n % 4 * source.packetDuration) =
          source.timestamp + UInt32.ofNat (n / 4 * 4 * source.packetDuration) := by
      have whole := timestamp_add source (n / 4 * 4) (n % 4)
      rw [Nat.div_add_mod'] at whole
      rw [← whole, UInt32.add_sub_cancel]
    have past := ofNat_past n
    rw [if_pos (by rfl)]
    dsimp only [Source.packet]
    rw [past, times, ofNat_div_mul, source.sized]
    rfl
  | parity packet base j type aligned index read =>
    have small : (UInt8.ofNat j).toNat = j := by
      rw [UInt8.toNat_ofNat']
      exact Nat.mod_eq_of_lt (Nat.lt_trans index (by decide))
    have boundary : UInt16.ofNat base % 4 = 0 := by
      have four : (4 : UInt16).toNat = 4 := rfl
      have zero : (0 : UInt16).toNat = 0 := rfl
      refine UInt16.toNat_inj.mp ?_
      rw [UInt16.toNat_mod, UInt16.toNat_ofNat', four, zero]
      omega
    rw [if_neg (by rw [type]; decide), if_pos type, read]
    dsimp only [Source.fecHeader]
    rw [if_pos ⟨by rw [small]; exact index, boundary⟩]
    simp only [Source.parity, List.length_map, List.length_range]

end Source

/-! ## Numbers without end -/

/-- Less than half of all sequence numbers away. -/
def Near (origin base : Nat) : Prop := base < origin + 32768 ∧ origin ≤ base + 32768

theorem near_offset {origin base : Nat} (near : Near origin base)
    (close : (UInt16.ofNat base - UInt16.ofNat origin).toNat ≤ 32767) :
    origin + (UInt16.ofNat base - UInt16.ofNat origin).toNat = base := by
  obtain ⟨below, above⟩ := near
  rw [UInt16.toNat_sub, UInt16.toNat_ofNat', UInt16.toNat_ofNat'] at *
  omega

/-- A block holds nothing but what the host put into the block that begins with packet `base`. -/
structure FromSource (source : Source) (block : FecBlock) (base : Nat) : Prop where
  header : block.fecHeader = source.fecHeader base 0
  size : block.blockSize = source.size
  data : ∀ i < RTPA_DATA_SHARDS, block.marks i = false → block.dataPackets i = source.packet (base + i)
  fec : ∀ j < RTPA_FEC_SHARDS, block.marks (RTPA_DATA_SHARDS + j) = false →
    block.fecPackets j = source.parity base j

/-- The queue has come as far as the block of packet `origin`, and holds later blocks only. -/
structure Follows (source : Source) (queue : RtpAudioQueue) (origin : Nat) : Prop where
  sound : queue.Sound
  parity : ∀ j < RTPA_FEC_SHARDS, ∀ i : Fin RTPA_DATA_SHARDS,
    queue.rs.parity j i = ⟨audioParity.getD (j * RTPA_DATA_SHARDS + i) 0⟩
  compatible : queue.incompatibleServer = false
  oldest : queue.oldestRtpBaseSequenceNumber = UInt16.ofNat origin
  blocks : ∀ block ∈ queue.blocks, FromSource source block (origin + queue.offset block)

/-- Packet `n` is in the queue and yet to be handed on. -/
def Pending (queue : RtpAudioQueue) (origin n : Nat) : Prop :=
  origin + queue.progress ≤ n ∧ ∃ block ∈ queue.blocks,
    origin + queue.offset block = n / 4 * 4 ∧ block.marks (n % 4) = false

variable {source : Source} {queue next : RtpAudioQueue} {block new head : FecBlock} {rest : List FecBlock}
variable {packet : Option RtpPacket} {origin base n : Nat}

theorem Follows.aligned (follows : Follows source queue origin) : origin % 4 = 0 := by
  have aligned := follows.sound.ordered.aligned
  rw [follows.oldest, UInt16.toNat_ofNat'] at aligned
  omega

/-- The block of a packet is where the number of the packet says. -/
theorem Follows.own (follows : Follows source queue origin) (near : Near origin base) (inside : block ∈ queue.blocks)
    (same : block.fecHeader.baseSequenceNumber = UInt16.ofNat base) : origin + queue.offset block = base := by
  have close := (follows.sound.ordered.bases block inside).2
  unfold offset at close ⊢
  rw [same, follows.oldest] at close ⊢
  exact near_offset near close

/-! ## Recovery -/

theorem packet_congr {i : Nat} {header : AudioFecHeader} (same : header = source.fecHeader base 0)
    (payload : List UInt8) (equal : payload = source.payload (base + i)) :
    ({ header := 0x80, packetType := header.payloadType
       sequenceNumber := header.baseSequenceNumber + UInt16.ofNat i
       timestamp := header.baseTimestamp + UInt32.ofNat (i * source.packetDuration)
       ssrc := header.ssrc, payload } : RtpPacket) = source.packet (base + i) := by
  subst same equal
  dsimp only [Source.fecHeader, Source.packet]
  rw [Source.timestamp_add, UInt16.ofNat_add]

theorem map_byte_getD {bytes : List UInt8} {f : Nat → Gf} (length : bytes.length = size)
    (equal : ∀ x < size, f x = ⟨bytes.getD x 0⟩) : ((List.range size).map fun x => (f x).byte) = bytes := by
  subst length
  apply List.ext_getElem
  · rw [List.length_map, List.length_range]
  · intro x inside within
    rw [List.getElem_map, List.getElem_range, equal x within, List.getD_eq_getElem?_getD,
      List.getElem?_eq_getElem within]
    rfl

/-- What was lost of a block is made again as it was. -/
theorem completeFecBlock_source (follows : Follows source queue origin) (counted : Counted block)
    (partly : block.fullyReassembled = false) (own : FromSource source block base)
    (completed : completeFecBlock source.packetDuration queue.rs block = some (true, new)) :
    FromSource source { new with fullyReassembled := true } base := by
  have data := counted.data partly
  unfold completeFecBlock at completed
  by_cases enough : block.dataShardsReceived + block.fecShardsReceived < RTPA_DATA_SHARDS
  · rw [if_pos enough] at completed
    exact absurd (Prod.mk.inj (Option.some.inj completed)).1 Bool.false_ne_true
  have bounded : decide (block.dataShardsReceived ≤ RTPA_DATA_SHARDS) = true := decide_eq_true (by omega)
  rw [if_neg enough, lcAssert, if_pos bounded] at completed
  by_cases all : block.dataShardsReceived = RTPA_DATA_SHARDS
  · rw [if_pos all] at completed
    obtain rfl := (Prod.mk.inj (Option.some.inj completed)).2
    exact ⟨own.header, own.size, own.data, own.fec⟩
  rw [if_neg all] at completed
  have holds : ∀ g < 1, Holds queue.rs block.marks (g * RTPA_DATA_SHARDS)
      (1 * RTPA_DATA_SHARDS + g * RTPA_FEC_SHARDS) block.blockSize
      (fun x (i : Fin RTPA_DATA_SHARDS) => ⟨(source.payload (base + i)).getD x 0⟩) (shards block) := by
    intro g only which arrived x within
    obtain rfl : g = 0 := Nat.lt_one_iff.mp only
    cases which with
    | inl i =>
      have place : pointer (0 * RTPA_DATA_SHARDS) (1 * RTPA_DATA_SHARDS + 0 * RTPA_FEC_SHARDS)
          (.inl i : Fin RTPA_DATA_SHARDS ⊕ Fin RTPA_FEC_SHARDS) = i := Nat.zero_add _
      rw [place] at arrived ⊢
      rw [shards, if_pos i.isLt, own.data i i.isLt arrived]
      rfl
    | inr j =>
      have place : pointer (0 * RTPA_DATA_SHARDS) (1 * RTPA_DATA_SHARDS + 0 * RTPA_FEC_SHARDS)
          (.inr j : Fin RTPA_DATA_SHARDS ⊕ Fin RTPA_FEC_SHARDS) = RTPA_DATA_SHARDS + j := rfl
      rw [place] at arrived ⊢
      rw [shards, if_neg (Nat.not_lt.mpr (Nat.le_add_right _ _)), Nat.add_sub_cancel_left, own.fec j j.isLt arrived]
      have inside : x < source.size := own.size ▸ within
      have sum : source.parityByte base j x = ∑ i : Fin RTPA_DATA_SHARDS, queue.rs.parity j i *
          ⟨(source.payload (base + i)).getD x 0⟩ :=
        Finset.sum_congr rfl fun i _ => by rw [follows.parity j j.isLt i]
      rw [Source.parity, List.getD_eq_getElem?_getD, List.getElem?_map, List.getElem?_range inside]
      exact sum
  have done := reconstruct_reconstructed follows.sound.code holds
  have success := (Option.ite_none_right_eq_some.mp completed).2
  obtain rfl := (Prod.mk.inj (Option.some.inj success)).2
  refine ⟨own.header, own.size, fun i within _ => ?_, fun j within arrived => ?_⟩
  · by_cases gone : block.marks i = true
    · refine (if_pos ⟨within, gone⟩).trans ?_
      refine packet_congr own.header _ (map_byte_getD ((source.sized _).trans own.size.symm) fun x small => ?_)
      have restored := done.restored 0 Nat.one_pos
        (counted.recoverable partly enough 0 Nat.one_pos) ⟨i, within⟩ x small
      rw [Nat.zero_mul, Nat.zero_add] at restored
      exact restored
    · exact (if_neg fun both => gone both.2).trans (own.data i within (Bool.not_eq_true _ ▸ gone))
  · have beyond : ¬RTPA_DATA_SHARDS + j < RTPA_DATA_SHARDS := Nat.not_lt.mpr (Nat.le_add_right _ _)
    exact own.fec j within ((if_neg beyond).symm.trans arrived)

/-! ## Changes within the blocks -/

/-- What a change leaves as it is. -/
structure Still (queue next : RtpAudioQueue) : Prop where
  oldest : next.oldestRtpBaseSequenceNumber = queue.oldestRtpBaseSequenceNumber
  progress : next.progress = queue.progress
  synchronizing : next.synchronizing = queue.synchronizing
  some : queue.blocks ≠ [] → next.blocks ≠ []

theorem Change.still (change : Change AudioPacketDuration packet queue next) : Still queue next := by
  have set (at_ : Nat) (new : FecBlock) : queue.blocks ≠ [] → queue.blocks.set at_ new ≠ [] :=
    mt (List.set_eq_nil_iff at_ new).mp
  cases change with
  | note | misfit => exact ⟨rfl, rfl, rfl, id⟩
  | insert arrived fecHeader =>
    refine ⟨rfl, rfl, rfl, fun _ none => ?_⟩
    have length := congrArg List.length none
    dsimp only at length
    rw [List.length_insertIdx_of_le_length (position_le _ _)] at length
    exact Nat.succ_ne_zero _ length
  | data | fec | complete => exact ⟨rfl, rfl, rfl, set _ _⟩
  | allow => exact ⟨rfl, rfl, rfl, fun _ => List.cons_ne_nil _ _⟩

theorem Follows.set (follows : Follows source queue origin)
    (sound : Sound { queue with blocks := queue.blocks.set at_ new })
    (own : FromSource source new (origin + queue.offset block)) (header : new.fecHeader = block.fecHeader) :
    Follows source { queue with blocks := queue.blocks.set at_ new } origin := by
  refine ⟨sound, follows.parity, follows.compatible, follows.oldest, fun other inside => ?_⟩
  rcases List.mem_or_eq_of_mem_set inside with before | rfl
  · exact follows.blocks other before
  · have same : queue.offset other = queue.offset block := by rw [offset, header, offset]
    exact same ▸ own

theorem Pending.set (pending : Pending queue origin n) (held : queue.blocks[at_]? = some block)
    (header : new.fecHeader = block.fecHeader) (kept : ∀ i < 4, block.marks i = false → new.marks i = false) :
    Pending { queue with blocks := queue.blocks.set at_ new } origin n := by
  obtain ⟨ahead, other, inside, base, present⟩ := pending
  obtain ⟨i, within, same⟩ := List.getElem_of_mem inside
  refine ⟨ahead, ?_⟩
  by_cases here : i = at_
  · subst here
    have equal : other = block := by
      rw [List.getElem?_eq_getElem within, same] at held
      exact Option.some.inj held
    subst equal
    refine ⟨new, List.mem_set within new, ?_, kept _ (Nat.mod_lt _ (by decide)) present⟩
    rw [← base, offset, offset, header]
  · refine ⟨other, ?_, base, present⟩
    have away := List.getElem_set_ne (a := new) (Ne.symm here) (by rw [List.length_set]; exact within)
    exact List.mem_of_getElem (away.trans same)

/-- The call is one with a packet that the host has sent. -/
def Given (source : Source) (packet : Option RtpPacket) (origin : Nat) : Prop :=
  ∀ arrived, packet = some arrived → ∃ base, source.Sends arrived base ∧ Near origin base

theorem Sends.header_eq (sent : source.Sends arrived base)
    (header : fecHeaderOf source.packetDuration arrived = some (fecHeader, blockSize)) :
    fecHeader = source.fecHeader base 0 ∧ blockSize = source.size := by
  rw [sent.fecHeaderOf] at header
  exact (Prod.mk.inj (Option.some.inj header)).imp Eq.symm Eq.symm

/-- No packet of such a host is taken for one of an older host. -/
theorem Follows.fits (follows : Follows source queue origin) (sent : source.Sends arrived base) :
    ¬Misfit source.packetDuration queue arrived := by
  rintro (⟨type, fecHeader, shard, read, odd⟩ | ⟨fecHeader, blockSize, block, header, inside, same, differ⟩)
  · cases sent with
    | data n => exact type rfl
    | parity _ _ j type aligned index read' =>
      obtain ⟨rfl, _⟩ := Prod.mk.inj (Option.some.inj (read.symm.trans read'))
      refine odd (UInt16.toNat_inj.mp ?_)
      have four : (4 : UInt16).toNat = 4 := rfl
      have zero : (0 : UInt16).toNat = 0 := rfl
      dsimp only [Source.fecHeader]
      rw [UInt16.toNat_mod, UInt16.toNat_ofNat', four, zero]
      omega
  · obtain ⟨_, rfl⟩ := Sends.header_eq sent header
    exact differ (follows.blocks block inside).size

theorem Change.follows (change : Change source.packetDuration packet queue next)
    (given : Given source packet origin) (follows : Follows source queue origin) : Follows source next origin := by
  have sound := change.sound follows.sound
  cases change with
  | note => exact ⟨sound, follows.parity, follows.compatible, follows.oldest, follows.blocks⟩
  | misfit arrived own cause =>
    obtain ⟨base, sent, near⟩ := given arrived own
    exact absurd cause (follows.fits sent)
  | insert arrived fecHeader blockSize now slab own header late absent =>
    obtain ⟨base, sent, near⟩ := given arrived own
    obtain ⟨rfl, rfl⟩ := Sends.header_eq sent header
    refine ⟨sound, follows.parity, follows.compatible, follows.oldest, fun block inside => ?_⟩
    rcases List.eq_or_mem_of_mem_insertIdx inside with rfl | before
    · have close := Nat.not_lt.mp (mt isBefore16_origin.mpr (Bool.eq_false_iff.mp late))
      have place : origin + queue.offset (newBlock (source.fecHeader base 0) source.size now slab) = base := by
        unfold offset
        rw [follows.oldest] at close ⊢
        exact near_offset near close
      have fresh : FromSource source (newBlock (source.fecHeader base 0) source.size now slab) base :=
        ⟨rfl, rfl, fun _ _ none => absurd none.symm Bool.false_ne_true,
          fun _ _ none => absurd none.symm Bool.false_ne_true⟩
      exact place.symm ▸ fresh
    · exact follows.blocks block before
  | data arrived at_ block own type held base' size partly missing =>
    obtain ⟨base, sent, near⟩ := given arrived own
    have inside := List.mem_of_getElem? held
    have before := follows.blocks block inside
    cases sent with
    | parity _ _ j type' => exact absurd (type.symm.trans type') (by decide)
    | data n =>
      have same : block.fecHeader.baseSequenceNumber = UInt16.ofNat (n / 4 * 4) :=
        base'.trans (Source.ofNat_div_mul n)
      have place := follows.own near inside same
      have past : ((source.packet n).sequenceNumber - block.fecHeader.baseSequenceNumber).toNat = n % 4 := by
        rw [base']
        exact Source.ofNat_past n
      refine follows.set sound ⟨before.header, before.size, fun i within present => ?_,
        fun j within present => ?_⟩ rfl
      · dsimp only [putData] at present ⊢
        rw [past] at present ⊢
        by_cases here : i = n % 4
        · subst here
          rw [Function.update_self, place, Nat.div_add_mod']
        · rw [Function.update_of_ne here] at present ⊢
          exact before.data i within present
      · dsimp only [putData] at present ⊢
        rw [past, Function.update_of_ne (by unfold RTPA_DATA_SHARDS; omega)] at present
        exact before.fec j within present
  | fec arrived at_ block fecHeader shard own type held header base' index size partly missing =>
    obtain ⟨base, sent, near⟩ := given arrived own
    have inside := List.mem_of_getElem? held
    have before := follows.blocks block inside
    cases sent with
    | data n => exact absurd (show RTP_PAYLOAD_TYPE_AUDIO = RTP_PAYLOAD_TYPE_FEC from type) (by decide)
    | parity _ _ j type' aligned within read =>
      obtain ⟨rfl, rfl⟩ := Prod.mk.inj (Option.some.inj (header.symm.trans read))
      have place := follows.own near inside base'
      have small : (UInt8.ofNat j).toNat = j := by
        rw [UInt8.toNat_ofNat']
        exact Nat.mod_eq_of_lt (Nat.lt_trans within (by decide))
      refine follows.set sound ⟨before.header, before.size, fun i within' present => ?_,
        fun k within' present => ?_⟩ rfl
      · dsimp only [putFec] at present ⊢
        rw [Function.update_of_ne (by omega)] at present
        exact before.data i within' present
      · dsimp only [putFec, Source.fecHeader] at present ⊢
        rw [small] at present ⊢
        by_cases here : k = j
        · subst here
          rw [Function.update_self, place]
        · rw [Function.update_of_ne (by omega)] at present
          rw [Function.update_of_ne here]
          exact before.fec k within' present
  | complete at_ block whole held partly completed =>
    have inside := List.mem_of_getElem? held
    have own := completeFecBlock_source follows (follows.sound.counted block inside) partly
      (follows.blocks block inside) completed
    exact follows.set sound own (own.header.trans (follows.blocks block inside).header.symm)
  | allow head rest blocks first =>
    have held : queue.blocks[0]? = some head := by rw [blocks]; rfl
    have own := follows.blocks head (List.mem_of_getElem? held)
    have same : queue.blocks.set 0 { head with allowDiscontinuity := true } =
        { head with allowDiscontinuity := true } :: rest := by rw [blocks]; rfl
    have set : Follows source { queue with
        blocks := queue.blocks.set 0 { head with allowDiscontinuity := true } } origin :=
      follows.set (same ▸ sound) ⟨own.header, own.size, own.data, own.fec⟩ rfl
    rw [same] at set
    exact set

/-- Nothing that is in the queue is lost by a change. -/
theorem Change.pending (change : Change AudioPacketDuration packet queue next) (sound : queue.Sound)
    (pending : Pending queue origin n) : Pending next origin n := by
  cases change with
  | note | misfit => exact pending
  | insert arrived fecHeader blockSize now slab =>
    obtain ⟨ahead, block, inside, base, present⟩ := pending
    exact ⟨ahead, block, (List.mem_insertIdx (position_le _ _)).mpr (.inr inside), base, present⟩
  | data arrived at_ block own type held =>
    refine pending.set held rfl fun i _ before => ?_
    dsimp only [putData]
    rw [Function.update_apply, before, ite_self]
  | fec arrived at_ block fecHeader shard own type held =>
    refine pending.set held rfl fun i _ before => ?_
    dsimp only [putFec]
    rw [Function.update_apply, before, ite_self]
  | complete at_ block whole held partly completed =>
    rcases completeFecBlock_cases AudioPacketDuration sound.code
      (sound.counted block (List.mem_of_getElem? held)) partly with
      same | ⟨whole', equal, marks, header, _⟩
    · rw [same] at completed
      exact absurd (Prod.mk.inj (Option.some.inj completed)).1 Bool.false_ne_true
    · rw [equal] at completed
      obtain rfl := (Prod.mk.inj (Option.some.inj completed)).2
      exact pending.set held header fun i within _ => marks i within
  | allow head rest blocks first =>
    have held : queue.blocks[0]? = some head := by rw [blocks]; rfl
    have set : Pending { queue with
        blocks := queue.blocks.set 0 { head with allowDiscontinuity := true } } origin n :=
      pending.set held rfl fun _ _ => id
    rw [blocks] at set
    exact set

/-! ## The stream moving on -/

/-- Where the stream is after a turn to `next`. -/
def moved (queue next : RtpAudioQueue) (origin : Nat) : Nat :=
  origin + (next.oldestRtpBaseSequenceNumber - queue.oldestRtpBaseSequenceNumber).toNat

/-- The stream is further on, and all that was in the queue is still there but for what
was handed on. It goes on by one place, unless it passes over whole blocks. -/
structure Advances (source : Source) (queue : RtpAudioQueue) (origin : Nat) (out : List (Option RtpPacket))
    (next : RtpAudioQueue) : Prop where
  follows : Follows source next (moved queue next origin)
  ahead : origin + queue.progress + out.length ≤ moved queue next origin + next.progress
  genuine : ∀ entry ∈ out, entry = none ∨ entry = some (source.packet (origin + queue.progress))
  single : out.length ≤ 1
  place : (out = [] ∧ queue.progress = 0 ∧ next.progress = 0) ∨ ∃ entry, out = [entry] ∧
    ((moved queue next origin = origin ∧ next.progress = queue.progress + 1) ∨
      (moved queue next origin = origin + 4 ∧ queue.progress = 3 ∧ next.progress = 0))
  busy : next.synchronizing = true → next.blocks ≠ []
  kept : ∀ n, Pending queue origin n →
    (n = origin + queue.progress ∧ some (source.packet n) ∈ out) ∨ Pending next (moved queue next origin) n

theorem moved_of_oldest (same : next.oldestRtpBaseSequenceNumber = queue.oldestRtpBaseSequenceNumber) :
    moved queue next origin = origin := by
  rw [moved, sub_eq_zero_iff.mpr same, Nat.add_zero]

theorem moved_oldest (follows : Follows source queue origin) :
    next.oldestRtpBaseSequenceNumber = UInt16.ofNat (moved queue next origin) := by
  have := next.oldestRtpBaseSequenceNumber.toNat_lt
  have oldest := congrArg UInt16.toNat follows.oldest
  refine UInt16.toNat_inj.mp ?_
  rw [UInt16.toNat_ofNat'] at oldest ⊢
  rw [moved, UInt16.toNat_sub]
  omega

/-- The packet that the stream has come to is in the head, if it is there at all. -/
theorem Pending.due (pending : Pending queue origin (origin + queue.progress))
    (follows : Follows source queue origin) (blocks : queue.blocks = head :: rest)
    (first : head.fecHeader.baseSequenceNumber = queue.oldestRtpBaseSequenceNumber) :
    head.marks head.nextDataPacketIndex = false := by
  obtain ⟨_, block, inside, base, mark⟩ := pending
  have near := follows.sound.ordered.near
  have aligned := follows.aligned
  have own : block = head := by
    rw [blocks] at inside
    refine (List.mem_cons.mp inside).resolve_right fun among => ?_
    have after := follows.sound.ordered.later blocks among
    omega
  have place : (origin + queue.progress) % 4 = head.nextDataPacketIndex := by
    rw [follows.sound.ordered.head_index blocks first]
    omega
  rw [own, place] at mark
  exact mark

/-- Any packet of a block but its last leaves the block behind. -/
theorem take_more_advances (follows : Follows source queue origin) (blocks : queue.blocks = head :: rest)
    (more : queue.progress < 3) (ordered : Sound { queue with
      blocks := { head with nextDataPacketIndex := head.nextDataPacketIndex + 1 } :: rest
      nextRtpSequenceNumber := queue.nextRtpSequenceNumber + 1 }) (out : Option RtpPacket)
    (genuine : out = none ∨ out = some (source.packet (origin + queue.progress)))
    (due : Pending queue origin (origin + queue.progress) → out ≠ none) :
    Advances source queue origin [out] { queue with
      blocks := { head with nextDataPacketIndex := head.nextDataPacketIndex + 1 } :: rest
      nextRtpSequenceNumber := queue.nextRtpSequenceNumber + 1 } := by
  generalize same : { queue with
    blocks := { head with nextDataPacketIndex := head.nextDataPacketIndex + 1 } :: rest
    nextRtpSequenceNumber := queue.nextRtpSequenceNumber + 1 } = next at *
  have stays : moved queue next origin = origin := moved_of_oldest (by rw [← same])
  have place : next.progress = queue.progress + 1 := by
    rw [← same]
    exact progress_succ (by omega)
  have all := follows.blocks
  rw [blocks] at all
  obtain ⟨own, others⟩ := List.forall_mem_cons.mp all
  refine ⟨?_, by rw [stays, place]; rfl, fun entry among => List.mem_singleton.mp among ▸ genuine, Nat.le_refl 1,
    .inr ⟨out, rfl, .inl ⟨stays, place⟩⟩, fun _ => by rw [← same]; exact List.cons_ne_nil _ _, fun n pending => ?_⟩
  · rw [stays]
    subst same
    exact ⟨ordered, follows.parity, follows.compatible, follows.oldest,
      List.forall_mem_cons.mpr ⟨⟨own.header, own.size, own.data, own.fec⟩, others⟩⟩
  · by_cases here : n = origin + queue.progress
    · subst here
      exact .inl ⟨rfl, List.mem_singleton.mpr (genuine.resolve_left (due pending)).symm⟩
    · obtain ⟨ahead, block, inside, base, mark⟩ := pending
      rw [stays]
      refine .inr ⟨by omega, ?_⟩
      subst same
      rw [blocks] at inside
      rcases List.mem_cons.mp inside with rfl | among
      · exact ⟨_, List.mem_cons_self, base, mark⟩
      · exact ⟨block, List.mem_cons_of_mem _ among, base, mark⟩

/-- The last packet of a block takes the block with it. -/
theorem take_last_advances (follows : Follows source queue origin) (blocks : queue.blocks = head :: rest)
    (first : head.fecHeader.baseSequenceNumber = queue.oldestRtpBaseSequenceNumber) (last : queue.progress = 3)
    (ordered : Sound { queue with
      blocks := rest
      nextRtpSequenceNumber := queue.nextRtpSequenceNumber + 1
      oldestRtpBaseSequenceNumber := head.fecHeader.baseSequenceNumber + 4
      synchronizing := false }) (out : Option RtpPacket)
    (genuine : out = none ∨ out = some (source.packet (origin + queue.progress)))
    (due : Pending queue origin (origin + queue.progress) → out ≠ none) :
    Advances source queue origin [out] { queue with
      blocks := rest
      nextRtpSequenceNumber := queue.nextRtpSequenceNumber + 1
      oldestRtpBaseSequenceNumber := head.fecHeader.baseSequenceNumber + 4
      synchronizing := false } := by
  have none := sub_eq_zero_iff.mpr (takeHead_last follows.sound.ordered blocks first last).2.2
  generalize same : { queue with
    blocks := rest
    nextRtpSequenceNumber := queue.nextRtpSequenceNumber + 1
    oldestRtpBaseSequenceNumber := head.fecHeader.baseSequenceNumber + 4
    synchronizing := false } = next at *
  have oldest : next.oldestRtpBaseSequenceNumber = queue.oldestRtpBaseSequenceNumber + 4 := by
    rw [← same, ← first]
  have moves : moved queue next origin = origin + 4 := by
    rw [moved, oldest, add_four_sub]
  have offsets : ∀ block ∈ rest, next.offset block + 4 = queue.offset block := by
    intro block among
    have after := follows.sound.ordered.later blocks among
    have ahead : (next.oldestRtpBaseSequenceNumber - queue.oldestRtpBaseSequenceNumber).toNat ≤
        queue.offset block := by
      rw [oldest, add_four_sub]
      omega
    have later : next.offset block = queue.offset block - 4 := by
      rw [offset, offset_move ahead, oldest, add_four_sub]
      rfl
    omega
  have remaining : next.blocks = rest := by rw [← same]
  refine ⟨⟨ordered, ?_, ?_, moved_oldest follows, fun block among => ?_⟩, ?_,
    fun entry among => List.mem_singleton.mp among ▸ genuine, Nat.le_refl 1,
    .inr ⟨out, rfl, .inr ⟨moves, last, none⟩⟩, fun busy => by rw [← same] at busy; exact absurd busy Bool.false_ne_true, fun n pending => ?_⟩
  · rw [← same]
    exact follows.parity
  · rw [← same]
    exact follows.compatible
  · rw [remaining] at among
    have own := follows.blocks block (blocks ▸ List.mem_cons_of_mem _ among)
    rw [moves, Nat.add_assoc, Nat.add_comm 4, offsets block among]
    exact own
  · rw [moves, last]
    exact Nat.le_add_right _ _
  · by_cases here : n = origin + queue.progress
    · subst here
      exact .inl ⟨rfl, List.mem_singleton.mpr (genuine.resolve_left (due pending)).symm⟩
    · obtain ⟨ahead, block, inside, base, mark⟩ := pending
      have zero : queue.offset head = 0 := offset_eq_zero.mpr first
      have among : block ∈ rest := by
        rw [blocks] at inside
        refine (List.mem_cons.mp inside).resolve_left fun own => ?_
        subst own
        omega
      have distance := offsets block among
      rw [moves]
      refine .inr ⟨?_, block, remaining ▸ among, by omega, mark⟩
      rw [show next.progress = 0 from none]
      omega

theorem take_advances (follows : Follows source queue origin) (blocks : queue.blocks = head :: rest)
    (first : head.fecHeader.baseSequenceNumber = queue.oldestRtpBaseSequenceNumber)
    (taken : queue.takeHead head rest = some next) (sound : next.Sound) (out : Option RtpPacket)
    (genuine : out = none ∨ out = some (source.packet (origin + queue.progress)))
    (present : head.marks head.nextDataPacketIndex = false → out ≠ none) :
    Advances source queue origin [out] next := by
  have due (pending : Pending queue origin (origin + queue.progress)) : out ≠ none :=
    present (pending.due follows blocks first)
  rcases Nat.lt_or_eq_of_le follows.sound.ordered.near with more | last
  · obtain rfl := Option.some.inj (taken.symm.trans (takeHead_more follows.sound.ordered blocks first more).1)
    exact take_more_advances follows blocks more sound out genuine due
  · obtain rfl := Option.some.inj (taken.symm.trans (takeHead_last follows.sound.ordered blocks first last).1)
    exact take_last_advances follows blocks first last sound out genuine due

/-- A block that is lost is passed over together with all before the head. -/
theorem skip_advances (follows : Follows source queue origin) (blocks : queue.blocks = head :: rest)
    (before : isBefore16 queue.nextRtpSequenceNumber head.fecHeader.baseSequenceNumber = true)
    (sound : Sound { queue with
      nextRtpSequenceNumber := head.fecHeader.baseSequenceNumber
      oldestRtpBaseSequenceNumber := head.fecHeader.baseSequenceNumber }) :
    Advances source queue origin [] { queue with
      nextRtpSequenceNumber := head.fecHeader.baseSequenceNumber
      oldestRtpBaseSequenceNumber := head.fecHeader.baseSequenceNumber } := by
  have ordered := follows.sound.ordered
  have near := ordered.near
  obtain ⟨_, close⟩ := ordered.bases head (blocks ▸ List.mem_cons_self)
  have ahead : queue.progress < queue.offset head :=
    (isBefore16_iff (by unfold progress at near; omega) close).mp before
  have still : queue.progress = 0 := by
    by_contra begun
    rw [offset_eq_zero.mpr (ordered.head_begun blocks begun)] at ahead
    exact Nat.not_lt_zero _ ahead
  have behind : ∀ block ∈ queue.blocks, queue.offset head ≤ queue.offset block := by
    rw [blocks]
    exact List.forall_mem_cons.mpr ⟨Nat.le_refl _, fun block among =>
      Nat.le_trans (Nat.le_add_right _ 4) (ordered.later blocks among)⟩
  have offsets : ∀ block ∈ queue.blocks,
      (block.fecHeader.baseSequenceNumber - head.fecHeader.baseSequenceNumber).toNat + queue.offset head =
        queue.offset block := by
    intro block inside
    rw [offset_move (behind block inside)]
    exact Nat.sub_add_cancel (behind block inside)
  have none : progress { queue with
      nextRtpSequenceNumber := head.fecHeader.baseSequenceNumber
      oldestRtpBaseSequenceNumber := head.fecHeader.baseSequenceNumber } = 0 := sub_eq_zero_iff.mpr rfl
  have moves : moved queue { queue with
      nextRtpSequenceNumber := head.fecHeader.baseSequenceNumber
      oldestRtpBaseSequenceNumber := head.fecHeader.baseSequenceNumber } origin = origin + queue.offset head := rfl
  refine ⟨⟨sound, follows.parity, follows.compatible, moved_oldest follows, fun block inside => ?_⟩, ?_,
    fun _ none => absurd none List.not_mem_nil, Nat.zero_le 1, .inl ⟨rfl, still, none⟩,
    fun _ => blocks ▸ List.cons_ne_nil _ _,
    fun n pending => .inr ?_⟩
  · have own := follows.blocks block inside
    rw [moves, Nat.add_assoc, Nat.add_comm (queue.offset head)]
    rw [← offsets block inside] at own
    exact own
  · rw [moves, none, List.length_nil]
    omega
  · obtain ⟨_, block, inside, base, mark⟩ := pending
    have distance := offsets block inside
    have later := behind block inside
    rw [moves]
    refine ⟨by rw [none]; omega, block, inside, ?_, mark⟩
    change origin + queue.offset head +
      (block.fecHeader.baseSequenceNumber - head.fecHeader.baseSequenceNumber).toNat = n / 4 * 4
    omega

/-- A turn in a call with a packet of the stream that has begun. -/
theorem Turn.advances (turn : Turn AudioPacketDuration packet queue out next)
    (going : packet ≠ none → ¬(queue.synchronizing = true ∧ queue.oldestRtpBaseSequenceNumber = 0))
    (follows : Follows source queue origin) : Advances source queue origin out next := by
  have sound := turn.sound follows.sound
  cases turn with
  | start arrived fecHeader blockSize own header first oldest empty =>
    exact absurd ⟨first, oldest⟩ (going (own ▸ Option.some_ne_none arrived))
  | skip head rest blocks before => exact skip_advances follows blocks before sound
  | deliver head rest next blocks first present taken =>
    have index := follows.sound.ordered.head_index blocks first
    have own := follows.blocks head (blocks ▸ List.mem_cons_self)
    have delivered := own.data _ (by rw [index]; exact Nat.lt_succ_of_le follows.sound.ordered.near) present
    rw [index, offset_eq_zero.mpr first, Nat.add_zero] at delivered
    have size : (source.packet (origin + queue.progress)).payload.length = head.blockSize :=
      (source.sized _).trans own.size.symm
    have whole := take_length size
    rw [index, delivered, whole]
    exact take_advances follows blocks first taken sound _ (.inr rfl) fun _ => Option.some_ne_none _
  | lose head rest next blocks first allowed missing taken =>
    exact take_advances follows blocks first taken sound none (.inl rfl) fun present =>
      absurd (missing.symm.trans present) (by decide)

end MoonlightWeb.MoonlightCommonC.RtpAudioQueue

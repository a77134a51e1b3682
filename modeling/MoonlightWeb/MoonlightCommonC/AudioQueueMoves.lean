import Mathlib.Logic.Relation
import MoonlightWeb.MoonlightCommonC.AudioQueueOrder

/-! The calls on the audio queue, taken apart. Each change and each turn comes with what
the code has found out before it, so that an invariant of the queue is a matter of
these alone. -/
namespace MoonlightWeb.MoonlightCommonC.RtpAudioQueue

open ReedSolomon

/-! ## The shards that are counted -/

/-- The counters of a block agree with its marks until the block is whole. -/
structure Counted (block : FecBlock) : Prop where
  data : block.fullyReassembled = false →
    block.dataShardsReceived + (erasedIn block.marks 0 RTPA_DATA_SHARDS).length = RTPA_DATA_SHARDS
  fec : block.fullyReassembled = false →
    block.fecShardsReceived = (arrivedIn block.marks RTPA_DATA_SHARDS RTPA_FEC_SHARDS).length
  whole : block.fullyReassembled = true → ∀ i < RTPA_DATA_SHARDS, block.marks i = false

theorem filter_update_other (value : Bool) (marks : Nat → Bool) (start n : Nat) (outside : ∀ i < n, start + i ≠ k) :
    ((List.range n).filter fun i => Function.update marks k value (start + i)) =
      (List.range n).filter fun i => marks (start + i) :=
  List.filter_congr fun i inside => by rw [Function.update_of_ne (outside i (List.mem_range.mp inside))]

theorem length_filter_clear (marks : Nat → Bool) (start : Nat) (inside : k < n) (marked : marks (start + k) = true) :
    ((List.range n).filter fun i => Function.update marks (start + k) false (start + i)).length + 1 =
      ((List.range n).filter fun i => marks (start + i)).length := by
  induction n with
  | zero => exact absurd inside (Nat.not_lt_zero k)
  | succ n ih =>
    rw [List.range_succ, List.filter_append, List.filter_append, List.length_append, List.length_append]
    rcases Nat.lt_succ_iff_lt_or_eq.mp inside with before | rfl
    · have other : start + n ≠ start + k := by omega
      rw [List.filter_singleton, List.filter_singleton, Function.update_of_ne other, ← ih before]
      omega
    · rw [filter_update_other false marks start k fun i less => by omega, List.filter_singleton,
        List.filter_singleton, Function.update_self, marked]
      rfl

theorem length_arrivedIn (marks : Nat → Bool) (start n : Nat) :
    (arrivedIn marks start n).length + ((List.range n).filter fun i => marks (start + i)).length = n := by
  have whole := List.length_eq_length_filter_add (l := List.range n) fun i => marks (start + i)
  rw [List.length_range] at whole
  rw [arrivedIn, Nat.add_comm]
  exact whole.symm

theorem Counted.putData (counted : Counted block) (inside : pos < RTPA_DATA_SHARDS) (missing : block.marks pos = true) :
    Counted (putData block pos packet) where
  data partly := by
    have before := counted.data partly
    have fewer := length_filter_clear block.marks 0 inside (by rw [Nat.zero_add]; exact missing)
    unfold erasedIn at before ⊢
    rw [Nat.zero_add] at fewer
    dsimp only [RtpAudioQueue.putData]
    omega
  fec partly := by
    have same := filter_update_other false block.marks RTPA_DATA_SHARDS RTPA_FEC_SHARDS
      (k := pos) fun i _ => by omega
    have before := length_arrivedIn block.marks RTPA_DATA_SHARDS RTPA_FEC_SHARDS
    have after := length_arrivedIn (Function.update block.marks pos false) RTPA_DATA_SHARDS RTPA_FEC_SHARDS
    rw [same] at after
    have := counted.fec partly
    dsimp only [RtpAudioQueue.putData]
    omega
  whole all i within := by
    have := counted.whole all i within
    dsimp only [RtpAudioQueue.putData]
    rw [Function.update_apply, this, ite_self]

theorem Counted.putFec (counted : Counted block) (inside : index < RTPA_FEC_SHARDS)
    (missing : block.marks (RTPA_DATA_SHARDS + index) = true) : Counted (putFec block index shard) where
  data partly := by
    have same := filter_update_other false block.marks 0 RTPA_DATA_SHARDS
      (k := RTPA_DATA_SHARDS + index) fun i _ => by omega
    have before := counted.data partly
    unfold erasedIn at before ⊢
    dsimp only [RtpAudioQueue.putFec]
    rw [same]
    exact before
  fec partly := by
    have fewer := length_filter_clear block.marks RTPA_DATA_SHARDS inside missing
    have before := length_arrivedIn block.marks RTPA_DATA_SHARDS RTPA_FEC_SHARDS
    have after := length_arrivedIn (Function.update block.marks (RTPA_DATA_SHARDS + index) false)
      RTPA_DATA_SHARDS RTPA_FEC_SHARDS
    have := counted.fec partly
    dsimp only [RtpAudioQueue.putFec]
    omega
  whole all i within := by
    have := counted.whole all i within
    dsimp only [RtpAudioQueue.putFec]
    rw [Function.update_apply, this, ite_self]

/-- Enough shards are enough for the reconstruction, which is why it never fails here. -/
theorem Counted.recoverable (counted : Counted block) (partly : block.fullyReassembled = false)
    (enough : ¬block.dataShardsReceived + block.fecShardsReceived < RTPA_DATA_SHARDS) :
    ∀ g < 1, Recoverable RTPA_DATA_SHARDS RTPA_FEC_SHARDS block.marks 1 g := by
  intro g only
  have zero : g = 0 := by omega
  have data := counted.data partly
  have fec := counted.fec partly
  subst zero
  unfold Recoverable
  rw [Nat.zero_mul, Nat.zero_mul, Nat.one_mul, Nat.add_zero, ← fec]
  omega

theorem completeFecBlock_cases {rs : ReedSolomon RTPA_DATA_SHARDS RTPA_FEC_SHARDS}
    (AudioPacketDuration : Nat) (sound : rs.Systematic) (counted : Counted block)
    (partly : block.fullyReassembled = false) :
    completeFecBlock AudioPacketDuration rs block = some (false, block) ∨
      ∃ whole, completeFecBlock AudioPacketDuration rs block = some (true, whole) ∧
        (∀ i < RTPA_DATA_SHARDS, whole.marks i = false) ∧ whole.fecHeader = block.fecHeader ∧
        whole.nextDataPacketIndex = block.nextDataPacketIndex ∧
        whole.allowDiscontinuity = block.allowDiscontinuity := by
  have data := counted.data partly
  unfold completeFecBlock
  by_cases enough : block.dataShardsReceived + block.fecShardsReceived < RTPA_DATA_SHARDS
  · exact .inl (if_pos enough)
  have bounded : decide (block.dataShardsReceived ≤ RTPA_DATA_SHARDS) = true := decide_eq_true (by omega)
  rw [if_neg enough, lcAssert, if_pos bounded]
  by_cases all : block.dataShardsReceived = RTPA_DATA_SHARDS
  · refine .inr ⟨block, if_pos all, fun i within => ?_, rfl, rfl, rfl⟩
    by_contra missing
    have none : (erasedIn block.marks 0 RTPA_DATA_SHARDS).length = 0 := by omega
    have member : i ∈ erasedIn block.marks 0 RTPA_DATA_SHARDS := by
      rw [mem_erasedIn, Nat.zero_add]
      exact ⟨within, Bool.not_eq_false _ ▸ missing⟩
    rw [List.eq_nil_of_length_eq_zero none] at member
    exact List.not_mem_nil member
  · have success : (rs.reconstruct (shards block) block.marks RTPA_TOTAL_SHARDS block.blockSize).2 = 0 :=
      (reconstruct_error 1 sound.positive (shards block)).trans
        (if_pos (counted.recoverable partly enough))
    rw [if_neg all]
    dsimp only
    rw [lcAssert, if_pos (decide_eq_true success)]
    exact .inr ⟨_, rfl, fun i within => if_pos within, rfl, rfl, rfl⟩

/-! ## Moves -/

/-- Why a host is taken for an older one: its blocks begin in between, or their shards
differ in size. -/
def Misfit (AudioPacketDuration : Nat) (queue : RtpAudioQueue) (packet : RtpPacket) : Prop :=
  (packet.packetType ≠ RTP_PAYLOAD_TYPE_AUDIO ∧ ∃ fecHeader shard,
    AudioFecHeader.read packet.payload = some (fecHeader, shard) ∧ fecHeader.baseSequenceNumber % 4 ≠ 0) ∨
  ∃ fecHeader blockSize block, fecHeaderOf AudioPacketDuration packet = some (fecHeader, blockSize) ∧
    block ∈ queue.blocks ∧ block.fecHeader.baseSequenceNumber = fecHeader.baseSequenceNumber ∧
    block.blockSize ≠ blockSize

/-- One change within the blocks, during a call with `packet`: the stream stays where it is. -/
inductive Change (AudioPacketDuration : Nat) (packet : Option RtpPacket) : RtpAudioQueue → RtpAudioQueue → Prop
  | note (queue lastOos oos) :
    Change AudioPacketDuration packet queue { queue with lastOosSequenceNumber := lastOos, receivedOosData := oos }
  | misfit (queue arrived) (own : packet = some arrived) (cause : Misfit AudioPacketDuration queue arrived) :
    Change AudioPacketDuration packet queue { queue with incompatibleServer := true }
  | insert (queue arrived fecHeader blockSize now slab) (own : packet = some arrived)
    (header : fecHeaderOf AudioPacketDuration arrived = some (fecHeader, blockSize))
    (late : isBefore16 fecHeader.baseSequenceNumber queue.oldestRtpBaseSequenceNumber = false)
    (absent : ∀ block, queue.blocks[position fecHeader.baseSequenceNumber queue.blocks]? = some block →
      block.fecHeader.baseSequenceNumber ≠ fecHeader.baseSequenceNumber) :
    Change AudioPacketDuration packet queue
      { queue with
        blocks := queue.blocks.insertIdx (position fecHeader.baseSequenceNumber queue.blocks)
          (newBlock fecHeader blockSize now slab) }
  | data (queue arrived at_ block) (own : packet = some arrived)
    (type : arrived.packetType = RTP_PAYLOAD_TYPE_AUDIO) (held : queue.blocks[at_]? = some block)
    (base : block.fecHeader.baseSequenceNumber = arrived.sequenceNumber / 4 * 4)
    (size : arrived.payload.length = block.blockSize) (partly : block.fullyReassembled = false)
    (missing : block.marks (arrived.sequenceNumber - block.fecHeader.baseSequenceNumber).toNat = true) :
    Change AudioPacketDuration packet queue
      { queue with
        blocks := queue.blocks.set at_
          (putData block (arrived.sequenceNumber - block.fecHeader.baseSequenceNumber).toNat arrived) }
  | fec (queue arrived at_ block fecHeader shard) (own : packet = some arrived)
    (type : arrived.packetType = RTP_PAYLOAD_TYPE_FEC) (held : queue.blocks[at_]? = some block)
    (header : AudioFecHeader.read arrived.payload = some (fecHeader, shard))
    (base : block.fecHeader.baseSequenceNumber = fecHeader.baseSequenceNumber)
    (index : fecHeader.fecShardIndex.toNat < RTPA_FEC_SHARDS) (size : shard.length = block.blockSize)
    (partly : block.fullyReassembled = false)
    (missing : block.marks (RTPA_DATA_SHARDS + fecHeader.fecShardIndex.toNat) = true) :
    Change AudioPacketDuration packet queue
      { queue with blocks := queue.blocks.set at_ (putFec block fecHeader.fecShardIndex.toNat shard) }
  | complete (queue at_ block whole) (held : queue.blocks[at_]? = some block)
    (partly : block.fullyReassembled = false)
    (completed : completeFecBlock AudioPacketDuration queue.rs block = some (true, whole)) :
    Change AudioPacketDuration packet queue
      { queue with blocks := queue.blocks.set at_ { whole with fullyReassembled := true } }
  | allow (queue head rest) (blocks : queue.blocks = head :: rest)
    (first : head.fecHeader.baseSequenceNumber = queue.oldestRtpBaseSequenceNumber) :
    Change AudioPacketDuration packet queue
      { queue with blocks := { head with allowDiscontinuity := true } :: rest }

/-- The stream moving on, with what is handed on by it. A packet that is lost is handed
on as nothing. -/
inductive Turn (AudioPacketDuration : Nat) (packet : Option RtpPacket) :
    RtpAudioQueue → List (Option RtpPacket) → RtpAudioQueue → Prop
  | start (queue arrived fecHeader blockSize) (own : packet = some arrived)
    (header : fecHeaderOf AudioPacketDuration arrived = some (fecHeader, blockSize))
    (first : queue.synchronizing = true) (origin : queue.oldestRtpBaseSequenceNumber = 0)
    (empty : queue.blocks = []) :
    Turn AudioPacketDuration packet queue []
      { queue with
        nextRtpSequenceNumber := fecHeader.baseSequenceNumber + 4
        oldestRtpBaseSequenceNumber := fecHeader.baseSequenceNumber + 4 }
  | skip (queue head rest) (blocks : queue.blocks = head :: rest)
    (before : isBefore16 queue.nextRtpSequenceNumber head.fecHeader.baseSequenceNumber = true) :
    Turn AudioPacketDuration packet queue []
      { queue with
        nextRtpSequenceNumber := head.fecHeader.baseSequenceNumber
        oldestRtpBaseSequenceNumber := head.fecHeader.baseSequenceNumber }
  | deliver (queue head rest next) (blocks : queue.blocks = head :: rest)
    (first : head.fecHeader.baseSequenceNumber = queue.oldestRtpBaseSequenceNumber)
    (present : head.marks head.nextDataPacketIndex = false) (taken : queue.takeHead head rest = some next) :
    Turn AudioPacketDuration packet queue
      [some { head.dataPackets head.nextDataPacketIndex with
        payload := (head.dataPackets head.nextDataPacketIndex).payload.take head.blockSize }] next
  | lose (queue head rest next) (blocks : queue.blocks = head :: rest)
    (first : head.fecHeader.baseSequenceNumber = queue.oldestRtpBaseSequenceNumber)
    (allowed : head.allowDiscontinuity = true)
    (missing : head.marks head.nextDataPacketIndex = true) (taken : queue.takeHead head rest = some next) :
    Turn AudioPacketDuration packet queue [none] next

abbrev Changes (AudioPacketDuration : Nat) (packet : Option RtpPacket) :
    RtpAudioQueue → RtpAudioQueue → Prop := Relation.ReflTransGen (Change AudioPacketDuration packet)

/-- What one call amounts to: changes, and at most one turn after them. -/
inductive Outcome (AudioPacketDuration : Nat) (packet : Option RtpPacket) (queue : RtpAudioQueue) :
    List (Option RtpPacket) → RtpAudioQueue → Prop
  | stay (changes : Changes AudioPacketDuration packet queue next) :
    Outcome AudioPacketDuration packet queue [] next
  | turn (changes : Changes AudioPacketDuration packet queue between)
    (turn : Turn AudioPacketDuration packet between out next) : Outcome AudioPacketDuration packet queue out next

/-- What every change and every turn keeps. -/
structure Sound (queue : RtpAudioQueue) : Prop where
  ordered : queue.Ordered
  counted : ∀ block ∈ queue.blocks, Counted block
  code : queue.rs.Systematic

variable {queue next : RtpAudioQueue} {block new head : FecBlock} {rest : List FecBlock}

theorem fecHeaderOf_aligned (header : fecHeaderOf AudioPacketDuration packet = some (fecHeader, blockSize)) :
    fecHeader.baseSequenceNumber.toNat % 4 = 0 := by
  unfold fecHeaderOf at header
  split at header
  · obtain ⟨rfl, _⟩ := Prod.mk.injEq .. ▸ Option.some.inj header
    exact div_mul_aligned _
  · split at header
    · split at header
      · exact absurd header.symm (Option.some_ne_none _)
      · split at header
        · next valid =>
          obtain ⟨rfl, _⟩ := Prod.mk.injEq .. ▸ Option.some.inj header
          have four : (4 : UInt16).toNat = 4 := rfl
          have zero := congrArg UInt16.toNat valid.2
          rwa [UInt16.toNat_mod, four] at zero
        · exact absurd header.symm (Option.some_ne_none _)
    · exact absurd header.symm (Option.some_ne_none _)

theorem Sound.set (sound : queue.Sound) (new : FecBlock) (held : queue.blocks[at_]? = some block) (counted : Counted new)
    (header : new.fecHeader = block.fecHeader) (index : new.nextDataPacketIndex = block.nextDataPacketIndex)
    (given : new.allowDiscontinuity = true → block.allowDiscontinuity = true ∨
      block.fecHeader.baseSequenceNumber = queue.oldestRtpBaseSequenceNumber) :
    Sound { queue with blocks := queue.blocks.set at_ new } where
  ordered := sound.ordered.set held header index given
  counted other inside := (List.mem_or_eq_of_mem_set inside).elim (sound.counted other) (· ▸ counted)
  code := sound.code

theorem Sound.take (sound : queue.Sound) (blocks : queue.blocks = head :: rest)
    (first : head.fecHeader.baseSequenceNumber = queue.oldestRtpBaseSequenceNumber) :
    ∃ next, queue.takeHead head rest = some next ∧ next.Sound := by
  have counted := sound.counted
  rw [blocks] at counted
  obtain ⟨own, others⟩ := List.forall_mem_cons.mp counted
  rcases Nat.lt_or_eq_of_le sound.ordered.near with more | last
  · obtain ⟨taken, ordered⟩ := takeHead_more sound.ordered blocks first more
    exact ⟨_, taken, ordered, List.forall_mem_cons.mpr ⟨⟨own.data, own.fec, own.whole⟩, others⟩, sound.code⟩
  · obtain ⟨taken, ordered, _⟩ := takeHead_last sound.ordered blocks first last
    exact ⟨_, taken, ordered, others, sound.code⟩

theorem Change.sound (change : Change AudioPacketDuration packet queue next) (sound : queue.Sound) :
    next.Sound := by
  cases change with
  | note | misfit =>
    exact ⟨⟨sound.ordered.aligned, sound.ordered.near, sound.ordered.bases, sound.ordered.sorted,
      sound.ordered.index, sound.ordered.begun, sound.ordered.given⟩, sound.counted, sound.code⟩
  | insert arrived fecHeader blockSize now slab own header late absent =>
    have near : queue.offset (newBlock fecHeader blockSize now slab) ≤ 32767 :=
      Nat.not_lt.mp (mt isBefore16_origin.mpr (Bool.not_eq_true _ ▸ late))
    refine ⟨ordered_insert sound.ordered (fecHeaderOf_aligned header) near rfl rfl absent, ?_, sound.code⟩
    intro block inside
    rcases List.eq_or_mem_of_mem_insertIdx inside with rfl | old
    · exact ⟨fun _ => by simp [newBlock, erasedIn], fun _ => by simp [newBlock, arrivedIn],
        fun none => absurd none Bool.false_ne_true⟩
    · exact sound.counted block old
  | data arrived at_ block own type held base size partly missing =>
    exact sound.set _ held ((sound.counted block (List.mem_of_getElem? held)).putData
      (base ▸ sub_div_mul arrived.sequenceNumber) missing) rfl rfl .inl
  | fec arrived at_ block fecHeader shard own type held header base index size partly missing =>
    exact sound.set _ held ((sound.counted block (List.mem_of_getElem? held)).putFec index missing) rfl rfl .inl
  | complete at_ block whole held partly completed =>
    rcases completeFecBlock_cases AudioPacketDuration sound.code
      (sound.counted block (List.mem_of_getElem? held)) partly with
      same | ⟨whole', equal, marks, header, index, given⟩
    · rw [same] at completed
      exact absurd (Prod.mk.inj (Option.some.inj completed)).1 Bool.false_ne_true
    · rw [equal] at completed
      obtain rfl := (Prod.mk.inj (Option.some.inj completed)).2
      exact sound.set _ held ⟨fun none => absurd none.symm Bool.false_ne_true,
        fun none => absurd none.symm Bool.false_ne_true, fun _ => marks⟩ header index fun allowed => .inl (given ▸ allowed)
  | allow head rest blocks first =>
    have held : queue.blocks[0]? = some head := by rw [blocks]; rfl
    have own := sound.counted head (List.mem_of_getElem? held)
    have kept := sound.set { head with allowDiscontinuity := true } held
      ⟨own.data, own.fec, own.whole⟩ rfl rfl fun _ => .inr first
    rw [blocks] at kept
    exact kept

theorem Turn.sound (turn : Turn AudioPacketDuration packet queue out next) (sound : queue.Sound) : next.Sound := by
  cases turn with
  | start arrived fecHeader blockSize own header first origin empty =>
    refine ⟨ordered_begin (add_four_aligned (fecHeaderOf_aligned header)) empty, ?_, sound.code⟩
    rw [empty]
    exact fun _ none => absurd none List.not_mem_nil
  | skip head rest blocks before => exact ⟨ordered_skip sound.ordered blocks before, sound.counted, sound.code⟩
  | deliver head rest next blocks first present taken =>
    obtain ⟨other, taken', sound'⟩ := sound.take blocks first
    rw [taken] at taken'
    exact Option.some.inj taken' ▸ sound'
  | lose head rest next blocks first allowed missing taken =>
    obtain ⟨other, taken', sound'⟩ := sound.take blocks first
    rw [taken] at taken'
    exact Option.some.inj taken' ▸ sound'

theorem Changes.sound (changes : Changes AudioPacketDuration packet queue next) (sound : queue.Sound) :
    next.Sound := by
  induction changes with
  | refl => exact sound
  | tail _ change ih => exact change.sound ih

theorem Outcome.sound (outcome : Outcome AudioPacketDuration packet queue out next) (sound : queue.Sound) :
    next.Sound := by
  cases outcome with
  | stay changes => exact Changes.sound changes sound
  | turn changes turn => exact turn.sound (Changes.sound changes sound)

theorem Outcome.after (changes : Changes AudioPacketDuration packet queue between)
    (outcome : Outcome AudioPacketDuration packet between out next) :
    Outcome AudioPacketDuration packet queue out next := by
  cases outcome with
  | stay changes' => exact .stay (changes.trans changes')
  | turn changes' turn => exact .turn (changes.trans changes') turn

/-! ## What the calls amount to -/

theorem notePacket_change (AudioPacketDuration : Nat) (queue : RtpAudioQueue) (packet : RtpPacket) :
    Change AudioPacketDuration (some packet) queue (queue.notePacket packet) := by
  have same : Change AudioPacketDuration (some packet) queue queue :=
    .note queue queue.lastOosSequenceNumber queue.receivedOosData
  unfold notePacket noteSequence
  split
  · split
    · exact .note queue _ _
    split
    · exact .note queue queue.lastOosSequenceNumber _
    · exact same
  · next other =>
    split
    · split
      · exact same
      · next fecHeader shard header =>
        split
        · next odd => exact .misfit queue packet rfl (.inl ⟨other, fecHeader, shard, header, odd.2⟩)
        · exact same
    · exact same

/-- A sequence number that comes round again while no block has been finished. -/
def Wrapped (queue : RtpAudioQueue) : Prop :=
  queue.synchronizing = true ∧ queue.oldestRtpBaseSequenceNumber = 0 ∧ queue.blocks ≠ []

theorem notePacket_kept (queue : RtpAudioQueue) (packet : RtpPacket) :
    (queue.notePacket packet).synchronizing = queue.synchronizing ∧
      (queue.notePacket packet).oldestRtpBaseSequenceNumber = queue.oldestRtpBaseSequenceNumber ∧
      (queue.notePacket packet).blocks = queue.blocks ∧
      (queue.notePacket packet).nextRtpSequenceNumber = queue.nextRtpSequenceNumber := by
  unfold notePacket noteSequence
  repeat' split
  all_goals exact ⟨rfl, rfl, rfl, rfl⟩

/-- The block that a packet goes to. -/
def Target (AudioPacketDuration : Nat) (packet : RtpPacket) (queue : RtpAudioQueue) (at_ : Nat) : Prop :=
  ∃ block fecHeader blockSize, queue.blocks[at_]? = some block ∧
    fecHeaderOf AudioPacketDuration packet = some (fecHeader, blockSize) ∧
    block.fecHeader.baseSequenceNumber = fecHeader.baseSequenceNumber ∧ block.blockSize = blockSize ∧
    block.fullyReassembled = false

/-- The packet is in its block. -/
def Stored (packet : RtpPacket) (queue : RtpAudioQueue) : Prop :=
  ∃ block ∈ queue.blocks, block.fecHeader.baseSequenceNumber = packet.sequenceNumber / 4 * 4 ∧
    block.marks (packet.sequenceNumber - packet.sequenceNumber / 4 * 4).toNat = false

/-- A packet that comes in time, with memory for a block of it. -/
structure Acceptable (packet : RtpPacket) (memory : Option Slab) (queue : RtpAudioQueue) : Prop where
  type : packet.packetType = RTP_PAYLOAD_TYPE_AUDIO
  memory : memory ≠ none
  going : ¬(queue.synchronizing = true ∧ queue.oldestRtpBaseSequenceNumber = 0)
  timely : isBefore16 (packet.sequenceNumber / 4 * 4) queue.oldestRtpBaseSequenceNumber = false

theorem insertFecBlock_changes (sound : queue.Sound)
    (header : fecHeaderOf AudioPacketDuration packet = some (fecHeader, blockSize))
    (late : isBefore16 fecHeader.baseSequenceNumber queue.oldestRtpBaseSequenceNumber = false)
    (absent : ∀ block, queue.blocks[position fecHeader.baseSequenceNumber queue.blocks]? = some block →
      block.fecHeader.baseSequenceNumber ≠ fecHeader.baseSequenceNumber) (now : UInt64) (memory : Option Slab) :
    ∃ next slot, queue.insertFecBlock (position fecHeader.baseSequenceNumber queue.blocks) fecHeader blockSize
        now memory = some (next, slot) ∧
      Changes AudioPacketDuration (some packet) queue next ∧ (slot = none → memory = none) ∧
      ∀ at_, slot = some at_ → Target AudioPacketDuration packet next at_ := by
  cases memory with
  | none => exact ⟨queue, none, rfl, .refl, fun _ => rfl, fun _ none => absurd none.symm (Option.some_ne_none _)⟩
  | some slab =>
    have change := Change.insert queue packet fecHeader blockSize now slab rfl header late absent
    have kept := change.sound sound
    refine ⟨_, _, if_pos kept.ordered.validated, .single change, fun none => absurd none (Option.some_ne_none _),
      fun at_ own => ?_⟩
    obtain rfl := Option.some.inj own
    refine ⟨newBlock fecHeader blockSize now slab, fecHeader, blockSize, ?_, header, rfl, rfl, rfl⟩
    exact List.getElem?_insertIdx_self.trans (if_pos (position_le _ _))

/-- What is known when a packet has no block: it is one of a block that is whole, if it
could have been accepted at all. -/
def Rejected (AudioPacketDuration : Nat) (packet : RtpPacket) (memory : Option Slab) (queue next : RtpAudioQueue) :
    Prop :=
  Outcome AudioPacketDuration (some packet) queue [] next ∧ (Acceptable packet memory queue →
    next.incompatibleServer = true ∨ (Changes AudioPacketDuration (some packet) queue next ∧ Stored packet next))

theorem fecHeaderOf_audio (AudioPacketDuration : Nat) (type : packet.packetType = RTP_PAYLOAD_TYPE_AUDIO) :
    ∃ fecHeader blockSize, fecHeaderOf AudioPacketDuration packet = some (fecHeader, blockSize) ∧
      fecHeader.baseSequenceNumber = packet.sequenceNumber / 4 * 4 :=
  ⟨_, _, if_pos type, rfl⟩

theorem getFecBlockForRtpPacket_outcome (AudioPacketDuration : Nat) (sound : queue.Sound)
    (steady : ¬queue.Wrapped) (packet : RtpPacket) (now : UInt64) (memory : Option Slab) :
    ∃ next slot, queue.getFecBlockForRtpPacket AudioPacketDuration packet now memory = some (next, slot) ∧
      (slot = none → Rejected AudioPacketDuration packet memory queue next) ∧
      ∀ at_, slot = some at_ → Changes AudioPacketDuration (some packet) queue next ∧
        Target AudioPacketDuration packet next at_ := by
  have note := notePacket_change AudioPacketDuration queue packet
  obtain ⟨synchronizing, oldest, blocks, _⟩ := notePacket_kept queue packet
  have sound' := note.sound sound
  have nowhere {next : RtpAudioQueue} : ∀ at_, (none : Option Nat) = some at_ →
      Changes AudioPacketDuration (some packet) queue next ∧ Target AudioPacketDuration packet next at_ :=
    fun _ none => absurd none.symm (Option.some_ne_none _)
  have inserted (fecHeader : AudioFecHeader) (blockSize : Nat)
      (header : fecHeaderOf AudioPacketDuration packet = some (fecHeader, blockSize))
      (late : isBefore16 fecHeader.baseSequenceNumber (queue.notePacket packet).oldestRtpBaseSequenceNumber = false)
      (absent : ∀ block, (queue.notePacket packet).blocks[position fecHeader.baseSequenceNumber
        (queue.notePacket packet).blocks]? = some block →
          block.fecHeader.baseSequenceNumber ≠ fecHeader.baseSequenceNumber) :
      ∃ next slot, (queue.notePacket packet).insertFecBlock (position fecHeader.baseSequenceNumber
          (queue.notePacket packet).blocks) fecHeader blockSize now memory = some (next, slot) ∧
        (slot = none → Rejected AudioPacketDuration packet memory queue next) ∧
        ∀ at_, slot = some at_ → Changes AudioPacketDuration (some packet) queue next ∧
          Target AudioPacketDuration packet next at_ := by
    obtain ⟨next, slot, equal, changes, full, target⟩ :=
      insertFecBlock_changes sound' header late absent now memory
    exact ⟨next, slot, equal,
      fun none => ⟨.stay (.head note changes), fun able => absurd (full none) able.memory⟩,
      fun at_ own => ⟨.head note changes, target at_ own⟩⟩
  unfold getFecBlockForRtpPacket
  rw [lcAssert, if_pos sound.ordered.validated]
  dsimp only
  cases header : fecHeaderOf AudioPacketDuration packet with
  | none =>
    refine ⟨_, _, rfl, fun _ => ⟨.stay (.single note), fun able => ?_⟩, nowhere⟩
    obtain ⟨_, _, some, _⟩ := fecHeaderOf_audio AudioPacketDuration able.type
    exact absurd (header.symm.trans some).symm (Option.some_ne_none _)
  | some described =>
    obtain ⟨fecHeader, blockSize⟩ := described
    have own (able : Acceptable packet memory queue) :
        fecHeader.baseSequenceNumber = packet.sequenceNumber / 4 * 4 := by
      obtain ⟨_, _, some, base⟩ := fecHeaderOf_audio AudioPacketDuration able.type
      obtain ⟨rfl, _⟩ := Prod.mk.inj (Option.some.inj (header.symm.trans some))
      exact base
    dsimp only
    by_cases first : ((queue.notePacket packet).synchronizing &&
        decide ((queue.notePacket packet).oldestRtpBaseSequenceNumber = 0)) = true
    · rw [if_pos first]
      rw [Bool.and_eq_true, decide_eq_true_iff, synchronizing, oldest] at first
      have empty : (queue.notePacket packet).blocks = [] := by
        by_contra some
        exact steady ⟨first.1, first.2, blocks ▸ some⟩
      exact ⟨_, _, rfl, fun _ => ⟨.turn (.single note) (.start _ packet fecHeader blockSize rfl header
        (synchronizing ▸ first.1) (oldest ▸ first.2) empty), fun able => absurd first able.going⟩, nowhere⟩
    rw [if_neg first]
    by_cases late : isBefore16 fecHeader.baseSequenceNumber
        (queue.notePacket packet).oldestRtpBaseSequenceNumber = true
    · rw [if_pos late]
      refine ⟨_, _, rfl, fun _ => ⟨.stay (.single note), fun able => ?_⟩, nowhere⟩
      rw [oldest, own able, able.timely] at late
      exact absurd late Bool.false_ne_true
    rw [if_neg late, Bool.not_eq_true] at *
    cases existing : (queue.notePacket packet).blocks[position fecHeader.baseSequenceNumber
        (queue.notePacket packet).blocks]? with
    | none =>
      exact inserted fecHeader blockSize header late fun _ held =>
        absurd (existing.symm.trans held).symm (Option.some_ne_none _)
    | some existingBlock =>
      dsimp only
      by_cases same : existingBlock.fecHeader.baseSequenceNumber = fecHeader.baseSequenceNumber
      · rw [if_pos same]
        have inside := List.mem_of_getElem? existing
        by_cases size : existingBlock.blockSize = blockSize
        · rw [if_neg (not_not_intro size)]
          cases whole : existingBlock.fullyReassembled with
          | true =>
            refine ⟨_, _, rfl, fun _ => ⟨.stay (.single note), fun able => .inr ⟨.single note, existingBlock, inside,
              same.trans (own able), ?_⟩⟩, nowhere⟩
            exact (sound'.counted existingBlock inside).whole whole _ (sub_div_mul packet.sequenceNumber)
          | false =>
            refine ⟨_, _, rfl, fun none => absurd none (Option.some_ne_none _), fun at_ slot => ⟨.single note, ?_⟩⟩
            obtain rfl := Option.some.inj slot
            exact ⟨existingBlock, fecHeader, blockSize, existing, header, same, size, whole⟩
        · rw [if_pos size]
          exact ⟨_, _, rfl, fun _ => ⟨.stay (.head note (.single (.misfit _ packet rfl (.inr
            ⟨fecHeader, blockSize, existingBlock, header, inside, same, size⟩)))), fun _ => .inl rfl⟩, nowhere⟩
      · rw [if_neg same]
        exact inserted fecHeader blockSize header late fun _ held =>
          (Option.some.inj (existing.symm.trans held)) ▸ same

/-- Unless the stream is at it or before it, the head is the oldest block there can be. -/
theorem head_oldest (ordered : queue.Ordered) (blocks : queue.blocks = head :: rest)
    (reached : isBefore16 queue.nextRtpSequenceNumber head.fecHeader.baseSequenceNumber = false) :
    head.fecHeader.baseSequenceNumber = queue.oldestRtpBaseSequenceNumber := by
  have near := ordered.near
  obtain ⟨aligned, close⟩ := ordered.bases head (blocks ▸ List.mem_cons_self)
  have distance := offset_aligned ordered.aligned aligned
  have behind := mt (isBefore16_iff (x := queue.nextRtpSequenceNumber) (by unfold progress at near; omega) close).mpr
    (by rw [reached]; exact Bool.false_ne_true)
  refine offset_eq_zero.mp ?_
  unfold offset progress at *
  omega

theorem handleMissingPackets_outcome (AudioPacketDuration : Nat) (packet : Option RtpPacket)
    (sound : queue.Sound) (now : UInt64) :
    ∃ next, queue.handleMissingPackets AudioPacketDuration now = some next ∧
      Outcome AudioPacketDuration packet queue [] next := by
  unfold handleMissingPackets
  cases blocks : queue.blocks with
  | nil => exact ⟨queue, rfl, .stay .refl⟩
  | cons head rest =>
    dsimp only
    by_cases before : isBefore16 queue.nextRtpSequenceNumber head.fecHeader.baseSequenceNumber = true
    · rw [if_pos before]
      refine ⟨_, ?_, .turn .refl (.skip queue head rest blocks before)⟩
      rw [blocks]
    rw [if_neg before]
    split
    · exact ⟨queue, rfl, .stay .refl⟩
    split
    · rw [Bool.not_eq_true] at before
      have change : Change AudioPacketDuration packet queue _ := .allow queue head rest blocks
        (head_oldest sound.ordered blocks before)
      have kept := change.sound sound
      have ready : queueHasPacketReady { queue with blocks := { head with allowDiscontinuity := true } :: rest } =
          true := Bool.or_true _
      rw [before]
      exact ⟨_, if_pos (Bool.and_eq_true_iff.mpr ⟨kept.ordered.validated, ready⟩), .stay (.single change)⟩
    · exact ⟨queue, rfl, .stay .refl⟩

theorem checkReady_outcome (AudioPacketDuration : Nat) (packet : Option RtpPacket) (sound : queue.Sound)
    (now : UInt64) :
    ∃ next code, queue.checkReady AudioPacketDuration now = some (next, code) ∧
      Outcome AudioPacketDuration packet queue [] next ∧ code ≠ RTPQ_RET_HANDLE_NOW := by
  have codes : ∀ ready : Bool, (if ready then RTPQ_RET_PACKET_READY else 0) ≠ RTPQ_RET_HANDLE_NOW := by decide
  unfold checkReady
  rw [lcAssert, if_pos sound.ordered.validated]
  by_cases ready : queue.queueHasPacketReady = true
  · rw [if_pos ready]
    exact ⟨queue, _, if_pos sound.ordered.validated, .stay .refl, codes _⟩
  · rw [if_neg ready]
    obtain ⟨next, handled, outcome⟩ := handleMissingPackets_outcome AudioPacketDuration packet sound now
    rw [handled]
    exact ⟨next, _, if_pos (outcome.sound sound).ordered.validated, outcome, codes _⟩

/-- A shard that is in its block, with what follows from it. -/
theorem finishPacket_outcome (AudioPacketDuration : Nat) (packet : Option RtpPacket)
    (sound : Sound { queue with blocks := queue.blocks.set at_ block })
    (inside : at_ < queue.blocks.length) (partly : block.fullyReassembled = false) (now : UInt64) :
    ∃ next code, queue.finishPacket AudioPacketDuration at_ block now = some (next, code) ∧
      Outcome AudioPacketDuration packet { queue with blocks := queue.blocks.set at_ block } [] next ∧
      code ≠ RTPQ_RET_HANDLE_NOW := by
  have held : (queue.blocks.set at_ block)[at_]? = some block := List.getElem?_set_self inside
  have alone : (decide (at_ = 0) || decide (queue.blocks.length ≠ 1)) = true := by
    rw [Bool.or_eq_true, decide_eq_true_iff, decide_eq_true_iff]
    omega
  unfold finishPacket
  rw [lcAssert, if_pos alone]
  rcases completeFecBlock_cases AudioPacketDuration sound.code (sound.counted block (List.mem_of_getElem? held))
      partly with same | ⟨whole, completed, _⟩
  · rw [same]
    exact checkReady_outcome AudioPacketDuration packet sound now
  · have change : Change AudioPacketDuration packet _ _ := .complete _ at_ block whole held partly completed
    have kept := change.sound sound
    rw [completed]
    simp only [List.set_set] at change kept
    obtain ⟨next, code, checked, outcome, other⟩ := checkReady_outcome AudioPacketDuration packet kept now
    exact ⟨next, code, checked, outcome.after (.single change), other⟩

/-- A packet that is due belongs to the oldest block, at the place that it has come to. -/
theorem due_oldest (ordered : queue.Ordered) {seq : UInt16} (due : seq = queue.nextRtpSequenceNumber) :
    seq / 4 * 4 = queue.oldestRtpBaseSequenceNumber ∧
      (seq - queue.oldestRtpBaseSequenceNumber).toNat = queue.progress := by
  have near := ordered.near
  have aligned := ordered.aligned
  have := seq.toNat_lt
  have := queue.oldestRtpBaseSequenceNumber.toNat_lt
  have four : (4 : UInt16).toNat = 4 := rfl
  subst due
  refine ⟨UInt16.toNat_inj.mp ?_, rfl⟩
  simp only [progress, UInt16.toNat_sub, UInt16.toNat_mul, UInt16.toNat_div, four] at *
  omega

theorem add_one_eq_iff (ordered : queue.Ordered) : queue.nextRtpSequenceNumber + 1 =
    queue.oldestRtpBaseSequenceNumber + 4 ↔ queue.progress + 1 = 4 := by
  have near := ordered.near
  have := queue.nextRtpSequenceNumber.toNat_lt
  have := queue.oldestRtpBaseSequenceNumber.toNat_lt
  have one : (1 : UInt16).toNat = 1 := rfl
  have four : (4 : UInt16).toNat = 4 := rfl
  simp only [progress, ← UInt16.toNat_inj, UInt16.toNat_sub, UInt16.toNat_add, one, four] at *
  omega

/-- The oldest block is the head. -/
theorem Ordered.at_head (ordered : queue.Ordered) (held : queue.blocks[at_]? = some block)
    (first : block.fecHeader.baseSequenceNumber = queue.oldestRtpBaseSequenceNumber) :
    at_ = 0 ∧ ∃ rest, queue.blocks = block :: rest := by
  cases blocks : queue.blocks with
  | nil =>
    rw [blocks] at held
    exact absurd held.symm (Option.some_ne_none _)
  | cons head rest =>
    rw [blocks] at held
    cases at_ with
    | zero => exact ⟨rfl, rest, congrArg (· :: rest) (Option.some.inj held)⟩
    | succ n => exact absurd first (ordered.later_ne blocks (List.mem_of_getElem? held))

theorem lcAssert_eq_some {condition : Bool} {rest : Option α} :
    lcAssert condition rest = some x ↔ condition = true ∧ rest = some x := by
  cases condition with
  | false => exact ⟨fun none => absurd none.symm (Option.some_ne_none x), fun both => absurd both.1 Bool.false_ne_true⟩
  | true => exact (and_iff_right rfl).symm

theorem take_length {packet : RtpPacket} (size : packet.payload.length = n) :
    { packet with payload := packet.payload.take n } = packet := by
  rw [List.take_of_length_le (Nat.le_of_eq size)]

theorem addData_outcome (AudioPacketDuration : Nat) (sound : queue.Sound) (held : queue.blocks[at_]? = some block)
    (type : packet.packetType = RTP_PAYLOAD_TYPE_AUDIO)
    (base : block.fecHeader.baseSequenceNumber = packet.sequenceNumber / 4 * 4)
    (size : packet.payload.length = block.blockSize) (partly : block.fullyReassembled = false) (now : UInt64) :
    ∃ between next code, queue.addData AudioPacketDuration at_ block packet now = some (next, code) ∧
      Changes AudioPacketDuration (some packet) queue between ∧ Stored packet between ∧
      Outcome AudioPacketDuration (some packet) between (if code = RTPQ_RET_HANDLE_NOW then [some packet] else [])
        next := by
  have within : (packet.sequenceNumber - block.fecHeader.baseSequenceNumber).toNat < RTPA_DATA_SHARDS :=
    base ▸ sub_div_mul packet.sequenceNumber
  unfold addData
  dsimp only
  rw [lcAssert, if_pos (decide_eq_true within)]
  by_cases missing : block.marks (packet.sequenceNumber - block.fecHeader.baseSequenceNumber).toNat = true
  swap
  · rw [if_neg missing]
    rw [base] at missing
    exact ⟨queue, queue, 0, rfl, .refl, ⟨block, List.mem_of_getElem? held, base, Bool.not_eq_true _ ▸ missing⟩,
      .stay .refl⟩
  have change : Change AudioPacketDuration (some packet) queue _ :=
    .data queue packet at_ block rfl type held base size partly missing
  have kept := change.sound sound
  have stored : Stored packet { queue with
      blocks := queue.blocks.set at_
        (putData block (packet.sequenceNumber - block.fecHeader.baseSequenceNumber).toNat packet) } :=
    ⟨_, List.mem_set (List.getElem?_eq_some_iff.mp held).1 _, base, by rw [← base]; exact Function.update_self _ _ _⟩
  rw [if_pos missing]
  by_cases due : packet.sequenceNumber = queue.nextRtpSequenceNumber
  · obtain ⟨oldest, place⟩ := due_oldest sound.ordered due
    have first := base.trans oldest
    obtain ⟨rfl, rest, blocks⟩ := sound.ordered.at_head held first
    have next1 : packet.sequenceNumber + 1 = queue.nextRtpSequenceNumber + 1 := congrArg (· + 1) due
    rw [if_pos due, next1]
    rw [first] at change kept stored missing ⊢
    generalize own : putData block (packet.sequenceNumber - queue.oldestRtpBaseSequenceNumber).toNat packet = head
      at change kept stored ⊢
    have first' : head.fecHeader.baseSequenceNumber = queue.oldestRtpBaseSequenceNumber := by
      rw [← own]
      exact first
    have blocks' : queue.blocks.set 0 head = head :: rest := by
      rw [blocks]
      rfl
    rw [blocks'] at change kept stored
    have index : head.nextDataPacketIndex = queue.progress := kept.ordered.head_index rfl first'
    have present : head.marks head.nextDataPacketIndex = false := by
      rw [index, ← place, ← own]
      exact Function.update_self _ _ _
    have delivered : head.dataPackets head.nextDataPacketIndex = packet := by
      rw [index, ← place, ← own]
      exact Function.update_self _ _ _
    have size' : packet.payload.length = head.blockSize := by
      rw [← own]
      exact size
    have ends := add_one_eq_iff sound.ordered
    have blocks'' : ∀ new, queue.blocks.set 0 new = new :: rest := fun new => by
      rw [blocks]
      rfl
    rw [blocks'', first']
    obtain ⟨next, taken, kept'⟩ := kept.take rfl first'
    have delivery : Turn AudioPacketDuration (some packet) _ _ _ := .deliver
      { queue with blocks := head :: rest } head rest next rfl first' present taken
    rw [delivered, take_length size'] at delivery
    refine ⟨_, next, RTPQ_RET_HANDLE_NOW, ?_, .single change, stored, .turn .refl delivery⟩
    unfold takeHead settle at taken
    by_cases last : head.nextDataPacketIndex + 1 = RTPA_DATA_SHARDS
    · rw [if_pos last] at taken
      rw [if_pos (ends.mpr (index ▸ last)), lcAssert, if_pos (decide_eq_true rfl), lcAssert,
        if_pos (decide_eq_true last)]
      exact congrArg (Option.map _) taken
    · rw [if_neg last] at taken
      rw [if_neg (mt ends.mp (index ▸ last))]
      obtain ⟨valid, same⟩ := lcAssert_eq_some.mp taken
      exact lcAssert_eq_some.mpr ⟨valid, congrArg (fun queue => some (queue, RTPQ_RET_HANDLE_NOW))
        (Option.some.inj same)⟩
  · rw [if_neg due]
    obtain ⟨next, code, finished, outcome, other⟩ := finishPacket_outcome AudioPacketDuration
      (some packet) kept (List.getElem?_eq_some_iff.mp held).1 partly now
    rw [finished]
    refine ⟨_, next, code, rfl, .single change, stored, ?_⟩
    rw [if_neg other]
    exact outcome

theorem addFec_outcome (AudioPacketDuration : Nat) (sound : queue.Sound) (held : queue.blocks[at_]? = some block)
    (type : packet.packetType = RTP_PAYLOAD_TYPE_FEC)
    (header : AudioFecHeader.read packet.payload = some (fecHeader, shard))
    (index : fecHeader.fecShardIndex.toNat < RTPA_FEC_SHARDS)
    (base : block.fecHeader.baseSequenceNumber = fecHeader.baseSequenceNumber)
    (size : shard.length = block.blockSize) (partly : block.fullyReassembled = false) (now : UInt64) :
    ∃ next code, queue.addFec AudioPacketDuration at_ block packet now = some (next, code) ∧
      Outcome AudioPacketDuration (some packet) queue [] next ∧ code ≠ RTPQ_RET_HANDLE_NOW := by
  unfold addFec
  rw [header]
  dsimp only
  rw [lcAssert, if_pos (decide_eq_true index)]
  by_cases missing : block.marks (RTPA_DATA_SHARDS + fecHeader.fecShardIndex.toNat) = true
  · have change : Change AudioPacketDuration (some packet) queue _ :=
      .fec queue packet at_ block fecHeader shard rfl type held header base index size partly missing
    have kept := change.sound sound
    rw [if_pos missing]
    obtain ⟨next, code, finished, outcome, other⟩ := finishPacket_outcome AudioPacketDuration
      (some packet) kept (List.getElem?_eq_some_iff.mp held).1 partly now
    exact ⟨next, code, finished, outcome.after (.single change), other⟩
  · rw [if_neg missing]
    exact ⟨queue, 0, rfl, .stay .refl, by decide⟩

/-- Adding a packet fails no check, and a packet that can be accepted is. -/
theorem rtpaAddPacket_outcome (AudioPacketDuration : Nat) (sound : queue.Sound) (steady : ¬queue.Wrapped)
    (compatible : queue.incompatibleServer = false) (packet : RtpPacket) (now : UInt64) (memory : Option Slab) :
    ∃ next code, queue.rtpaAddPacket AudioPacketDuration packet now memory = some (next, code) ∧
      Outcome AudioPacketDuration (some packet) queue (if code = RTPQ_RET_HANDLE_NOW then [some packet] else [])
        next ∧
      (Acceptable packet memory queue → next.incompatibleServer = true ∨ ∃ between,
        Changes AudioPacketDuration (some packet) queue between ∧ Stored packet between ∧
        Outcome AudioPacketDuration (some packet) between (if code = RTPQ_RET_HANDLE_NOW then [some packet] else [])
          next) := by
  obtain ⟨between, slot, found, rejected, target⟩ := getFecBlockForRtpPacket_outcome
    AudioPacketDuration sound steady packet now memory
  unfold rtpaAddPacket
  rw [if_neg (Bool.eq_false_iff.mp compatible), found]
  cases slot with
  | none =>
    obtain ⟨outcome, stored⟩ := rejected rfl
    exact ⟨between, 0, rfl, outcome, fun able => (stored able).imp_right fun ⟨changes, kept⟩ =>
      ⟨between, changes, kept, .stay .refl⟩⟩
  | some at_ =>
    obtain ⟨changes, block, fecHeader, blockSize, held, header, base, size, partly⟩ := target at_ rfl
    have kept := Changes.sound changes sound
    dsimp only
    rw [held]
    unfold fecHeaderOf at header
    by_cases type : packet.packetType = RTP_PAYLOAD_TYPE_AUDIO
    · rw [if_pos type] at header
      dsimp only
      rw [if_pos type]
      obtain ⟨rfl, rfl⟩ := Prod.mk.inj (Option.some.inj header)
      obtain ⟨between', next, code, added, changes', stored, outcome⟩ := addData_outcome
        AudioPacketDuration kept held type base size.symm partly now
      exact ⟨next, code, added, outcome.after (changes.trans changes'), fun _ =>
        .inr ⟨between', changes.trans changes', stored, outcome⟩⟩
    · rw [if_neg type] at header
      dsimp only
      rw [if_neg type]
      split at header
      · next type' =>
        split at header
        · exact absurd header.symm (Option.some_ne_none _)
        · next fecHeader' shard read =>
          split at header
          · next valid =>
            obtain ⟨rfl, rfl⟩ := Prod.mk.inj (Option.some.inj header)
            obtain ⟨next, code, added, outcome, other⟩ := addFec_outcome AudioPacketDuration kept
              held type' read valid.1 base size.symm partly now
            refine ⟨next, code, added, ?_, fun able => absurd able.type type⟩
            rw [if_neg other]
            exact outcome.after changes
          · exact absurd header.symm (Option.some_ne_none _)
      · exact absurd header.symm (Option.some_ne_none _)

/-! ## Reading -/

/-- The oldest block has been handed on as far as the stream has come. -/
theorem Ordered.head_place (ordered : queue.Ordered) (blocks : queue.blocks = head :: rest)
    (first : head.fecHeader.baseSequenceNumber = queue.oldestRtpBaseSequenceNumber) :
    head.fecHeader.baseSequenceNumber.toNat + head.nextDataPacketIndex = queue.nextRtpSequenceNumber.toNat := by
  have near := ordered.near
  have aligned := ordered.aligned
  have := queue.nextRtpSequenceNumber.toNat_lt
  have := queue.oldestRtpBaseSequenceNumber.toNat_lt
  rw [first, ordered.head_index blocks first]
  simp only [progress, UInt16.toNat_sub] at *
  omega

/-- A packet that is ready is one of the oldest block. -/
theorem ready_oldest (ordered : queue.Ordered) (blocks : queue.blocks = head :: rest)
    (ready : queue.queueHasPacketReady = true) :
    head.fecHeader.baseSequenceNumber = queue.oldestRtpBaseSequenceNumber := by
  unfold queueHasPacketReady at ready
  rw [blocks] at ready
  rcases Bool.or_eq_true_iff.mp ready with due | allowed
  · by_contra other
    have index := ordered.index head (blocks ▸ List.mem_cons_self)
    rw [if_neg other] at index
    have place := of_decide_eq_true (Bool.and_eq_true_iff.mp due).2
    rw [index, Nat.add_zero] at place
    have near := ordered.near
    obtain ⟨aligned, _⟩ := ordered.bases head (blocks ▸ List.mem_cons_self)
    have distance := offset_aligned ordered.aligned aligned
    refine other (offset_eq_zero.mp ?_)
    unfold offset progress at *
    rw [UInt16.toNat_inj.mp place] at distance ⊢
    omega
  · exact ordered.given head (blocks ▸ List.mem_cons_self) allowed

theorem readPacket_outcome (AudioPacketDuration : Nat) (packet : Option RtpPacket)
    (sound : queue.Sound) (allocated : Bool)
    (present : ∀ head rest, queue.blocks = head :: rest → head.allowDiscontinuity = true →
      head.marks head.nextDataPacketIndex = false) :
    ∃ next read, queue.readPacket allocated = some (next, read) ∧
      Outcome AudioPacketDuration packet queue read.toList next := by
  unfold readPacket
  rw [lcAssert, if_pos sound.ordered.validated]
  cases blocks : queue.blocks with
  | nil => exact ⟨queue, none, rfl, .stay .refl⟩
  | cons head rest =>
    dsimp only
    by_cases ready : (queue.queueHasPacketReady && allocated) = true
    · rw [if_pos ready]
      have ready' := (Bool.and_eq_true_iff.mp ready).1
      have first := ready_oldest sound.ordered blocks ready'
      obtain ⟨next, taken, _⟩ := sound.take blocks first
      have here : head.marks head.nextDataPacketIndex = false := by
        unfold queueHasPacketReady at ready'
        rw [blocks] at ready'
        rcases Bool.or_eq_true_iff.mp ready' with due | allowed
        · exact (Bool.not_eq_true' _).mp (Bool.and_eq_true_iff.mp due).1
        · exact present head rest blocks allowed
      rw [taken]
      exact ⟨next, _, rfl, .turn .refl (.deliver queue head rest next blocks first here taken)⟩
    · rw [if_neg ready]
      exact ⟨queue, none, rfl, .stay .refl⟩

/-- Nor does reading one. -/
theorem rtpaGetQueuedPacket_outcome (AudioPacketDuration : Nat) (packet : Option RtpPacket)
    (sound : queue.Sound) (allocated : Bool) :
    ∃ next read, queue.rtpaGetQueuedPacket allocated = some (next, read) ∧
      Outcome AudioPacketDuration packet queue read.toList next := by
  unfold rtpaGetQueuedPacket
  rw [lcAssert, if_pos sound.ordered.validated]
  cases blocks : queue.blocks with
  | nil =>
    exact readPacket_outcome _ _ sound allocated fun head rest held => absurd (blocks.symm.trans held) (List.cons_ne_nil _ _).symm
  | cons head rest =>
    dsimp only
    by_cases allowed : head.allowDiscontinuity = true
    · have first := sound.ordered.given head (blocks ▸ List.mem_cons_self) allowed
      have index := sound.ordered.head_index blocks first
      have place := sound.ordered.head_place blocks first
      rw [if_pos allowed, lcAssert, if_pos (decide_eq_true place)]
      by_cases missing : head.marks head.nextDataPacketIndex = true
      · rw [if_pos missing]
        cases allocated with
        | false => exact ⟨queue, none, rfl, .stay .refl⟩
        | true =>
          obtain ⟨next, taken, _⟩ := sound.take blocks first
          rw [if_pos rfl, taken]
          exact ⟨next, _, rfl, .turn .refl (.lose queue head rest next blocks first allowed missing taken)⟩
      · have ready : queue.queueHasPacketReady = true := by
          unfold queueHasPacketReady
          rw [blocks]
          exact Bool.or_eq_true_iff.mpr (.inr allowed)
        have partly : ¬head.nextDataPacketIndex = RTPA_DATA_SHARDS := by
          have near := sound.ordered.near
          rw [index]
          exact Nat.ne_of_lt (Nat.lt_succ_of_le near)
        rw [if_neg missing, lcAssert, if_pos ready, settle, if_neg partly, lcAssert,
          if_pos sound.ordered.validated]
        refine readPacket_outcome _ _ sound allocated fun head' rest' blocks' _ => ?_
        obtain ⟨rfl, _⟩ := List.cons.inj (blocks.symm.trans blocks')
        exact Bool.not_eq_true _ ▸ missing
    · rw [if_neg allowed]
      refine readPacket_outcome _ _ sound allocated fun head' rest' blocks' allowed' => ?_
      obtain ⟨rfl, _⟩ := List.cons.inj (blocks.symm.trans blocks')
      exact absurd allowed' allowed

end MoonlightWeb.MoonlightCommonC.RtpAudioQueue

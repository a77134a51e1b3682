import MoonlightWeb.MoonlightCommonC.RtpAudioQueue

/-! What holds of the audio queue between any two calls. Sequence numbers wrap around,
so all of it is said by how far they are past the oldest one that can still come. -/
namespace MoonlightWeb.MoonlightCommonC.RtpAudioQueue

/-! ## Distances -/

def offset (queue : RtpAudioQueue) (block : FecBlock) : Nat :=
  (block.fecHeader.baseSequenceNumber - queue.oldestRtpBaseSequenceNumber).toNat

/-- How many packets of the oldest block have been handed on. -/
def progress (queue : RtpAudioQueue) : Nat :=
  (queue.nextRtpSequenceNumber - queue.oldestRtpBaseSequenceNumber).toNat

theorem isBefore16_iff {x y origin : UInt16} (near : (x - origin).toNat ≤ 32767)
    (near' : (y - origin).toNat ≤ 32767) :
    isBefore16 x y = true ↔ (x - origin).toNat < (y - origin).toNat := by
  have := x.toNat_lt
  have := y.toNat_lt
  have := origin.toNat_lt
  simp only [isBefore16, decide_eq_true_eq, UInt16.toNat_sub] at *
  omega

theorem isBefore16_origin {x origin : UInt16} : isBefore16 x origin = true ↔ 32767 < (x - origin).toNat := by
  simp only [isBefore16, decide_eq_true_eq]

theorem not_isBefore16_origin {x origin : UInt16} (near : (x - origin).toNat ≤ 32767) :
    isBefore16 x origin = false := by
  rw [← Bool.not_eq_true, isBefore16_origin]
  omega

/-- Packets of the head lie before the end of the head. -/
theorem isBefore16_end {x base origin : UInt16} (aligned : origin.toNat % 4 = 0) (aligned' : base.toNat % 4 = 0)
    (near : (base - origin).toNat ≤ 32767) (first : (x - origin).toNat ≤ 3) :
    isBefore16 x (base + 4) = true := by
  have := x.toNat_lt
  have := base.toNat_lt
  have := origin.toNat_lt
  have four : (4 : UInt16).toNat = 4 := rfl
  simp only [isBefore16, decide_eq_true_eq, UInt16.toNat_sub, UInt16.toNat_add, four] at *
  omega

theorem offset_aligned {base origin : UInt16} (aligned : origin.toNat % 4 = 0) (aligned' : base.toNat % 4 = 0) :
    (base - origin).toNat % 4 = 0 := by
  have := base.toNat_lt
  have := origin.toNat_lt
  rw [UInt16.toNat_sub]
  omega

theorem sub_eq_zero_iff {x y : UInt16} : (x - y).toNat = 0 ↔ x = y := by
  have := x.toNat_lt
  have := y.toNat_lt
  rw [UInt16.toNat_sub, ← UInt16.toNat_inj]
  omega

theorem div_mul_aligned (x : UInt16) : (x / 4 * 4).toNat % 4 = 0 := by
  have := x.toNat_lt
  have four : (4 : UInt16).toNat = 4 := rfl
  rw [UInt16.toNat_mul, UInt16.toNat_div, four]
  omega

theorem sub_div_mul (x : UInt16) : (x - x / 4 * 4).toNat < 4 := by
  have := x.toNat_lt
  have four : (4 : UInt16).toNat = 4 := rfl
  rw [UInt16.toNat_sub, UInt16.toNat_mul, UInt16.toNat_div, four]
  omega

/-- Moving the origin to a later block takes the same off every later distance. -/
theorem offset_move {base origin origin' : UInt16} (later : (origin' - origin).toNat ≤ (base - origin).toNat) :
    (base - origin').toNat = (base - origin).toNat - (origin' - origin).toNat := by
  have := base.toNat_lt
  have := origin.toNat_lt
  have := origin'.toNat_lt
  simp only [UInt16.toNat_sub] at *
  omega

/-! ## The order of the blocks -/

/-- The blocks come one after the other from the oldest on, and only the oldest has
been begun. -/
structure Ordered (queue : RtpAudioQueue) : Prop where
  aligned : queue.oldestRtpBaseSequenceNumber.toNat % 4 = 0
  near : queue.progress ≤ 3
  bases : ∀ block ∈ queue.blocks, block.fecHeader.baseSequenceNumber.toNat % 4 = 0 ∧ queue.offset block ≤ 32767
  sorted : (queue.blocks.map queue.offset).Pairwise (· < ·)
  index : ∀ block ∈ queue.blocks, block.nextDataPacketIndex =
    if block.fecHeader.baseSequenceNumber = queue.oldestRtpBaseSequenceNumber then queue.progress else 0
  begun : queue.progress ≠ 0 → 0 ∈ queue.blocks.map queue.offset
  given : ∀ block ∈ queue.blocks, block.allowDiscontinuity = true →
    block.fecHeader.baseSequenceNumber = queue.oldestRtpBaseSequenceNumber

variable {queue : RtpAudioQueue} {head : FecBlock} {rest : List FecBlock}

theorem offset_eq_zero {block : FecBlock} : queue.offset block = 0 ↔
    block.fecHeader.baseSequenceNumber = queue.oldestRtpBaseSequenceNumber := sub_eq_zero_iff

theorem Ordered.later (ordered : queue.Ordered) (blocks : queue.blocks = head :: rest) (inside : block ∈ rest) :
    queue.offset head + 4 ≤ queue.offset block := by
  have sorted := ordered.sorted
  rw [blocks, List.map_cons] at sorted
  have after := List.rel_of_pairwise_cons sorted (List.mem_map_of_mem inside)
  have headBase := ordered.bases head (blocks ▸ List.mem_cons_self)
  have base := ordered.bases block (blocks ▸ List.mem_cons_of_mem _ inside)
  have headAligned := offset_aligned ordered.aligned headBase.1
  have aligned := offset_aligned ordered.aligned base.1
  unfold offset at *
  omega

theorem Ordered.later_ne (ordered : queue.Ordered) (blocks : queue.blocks = head :: rest) (inside : block ∈ rest) :
    block.fecHeader.baseSequenceNumber ≠ queue.oldestRtpBaseSequenceNumber := fun same => by
  have after := ordered.later blocks inside
  rw [offset_eq_zero.mpr same] at after
  omega

theorem Ordered.head_begun (ordered : queue.Ordered) (blocks : queue.blocks = head :: rest)
    (progress : queue.progress ≠ 0) :
    head.fecHeader.baseSequenceNumber = queue.oldestRtpBaseSequenceNumber := by
  obtain ⟨block, inside, same⟩ := List.mem_map.mp (ordered.begun progress)
  rw [blocks] at inside
  rcases List.mem_cons.mp inside with rfl | later
  · exact offset_eq_zero.mp same
  · exact absurd (offset_eq_zero.mp same) (ordered.later_ne blocks later)

theorem Ordered.later_given (ordered : queue.Ordered) (blocks : queue.blocks = head :: rest)
    (inside : block ∈ rest) : block.allowDiscontinuity = false :=
  Bool.eq_false_iff.mpr fun given => ordered.later_ne blocks inside
    (ordered.given block (blocks ▸ List.mem_cons_of_mem _ inside) given)

theorem Ordered.later_index (ordered : queue.Ordered) (blocks : queue.blocks = head :: rest)
    (inside : block ∈ rest) : block.nextDataPacketIndex = 0 :=
  (ordered.index block (blocks ▸ List.mem_cons_of_mem _ inside)).trans (if_neg (ordered.later_ne blocks inside))

/-- What a debug build checks at every turn. -/
theorem Ordered.validated (ordered : queue.Ordered) : queue.validateFecBlockState = true := by
  have near := ordered.near
  unfold progress at near
  unfold validateFecBlockState
  rw [not_isBefore16_origin (by omega), Bool.not_false, Bool.true_or, Bool.true_and]
  cases blocks : queue.blocks with
  | nil => rfl
  | cons head rest =>
    obtain ⟨aligned, close⟩ := ordered.bases head (blocks ▸ List.mem_cons_self)
    have rest' : (rest.all fun block =>
        isBefore16 head.fecHeader.baseSequenceNumber block.fecHeader.baseSequenceNumber) = true := by
      refine List.all_eq_true.mpr fun block inside => (isBefore16_iff close
        (ordered.bases block (blocks ▸ List.mem_cons_of_mem _ inside)).2).mpr ?_
      exact Nat.lt_of_lt_of_le (Nat.lt_add_of_pos_right (by decide)) (ordered.later blocks inside)
    dsimp only
    rw [isBefore16_end ordered.aligned aligned close near, not_isBefore16_origin close, rest']
    rfl

/-! ## Changes that keep the order -/

theorem map_set_same (f : α → β) {l : List α} (old : l[at_]? = some x) (same : f new = f x) :
    (l.set at_ new).map f = l.map f := by
  apply List.ext_getElem?
  intro i
  rw [List.getElem?_map, List.getElem?_map, List.getElem?_set]
  split
  · next own =>
    subst own
    rw [old]
    split
    · exact congrArg some same
    · next outside => exact absurd (List.getElem?_eq_some_iff.mp old).1 outside
  · rfl

/-- A block whose shards change stays where it is. -/
theorem Ordered.set (ordered : queue.Ordered) (old : queue.blocks[at_]? = some block)
    (header : new.fecHeader = block.fecHeader) (index : new.nextDataPacketIndex = block.nextDataPacketIndex)
    (given : new.allowDiscontinuity = true → block.allowDiscontinuity = true ∨
      block.fecHeader.baseSequenceNumber = queue.oldestRtpBaseSequenceNumber) :
    Ordered { queue with blocks := queue.blocks.set at_ new } := by
  have own : block ∈ queue.blocks := List.mem_of_getElem? old
  have offsets : (queue.blocks.set at_ new).map queue.offset = queue.blocks.map queue.offset :=
    map_set_same queue.offset old (by rw [offset, header, offset])
  have each {p : FecBlock → Prop} (all : ∀ block ∈ queue.blocks, p block) (change : p block → p new) :
      ∀ block ∈ queue.blocks.set at_ new, p block := by
    intro other inside
    rcases List.mem_or_eq_of_mem_set inside with before | rfl
    · exact all other before
    · exact change (all block own)
  refine ⟨ordered.aligned, ordered.near, each ordered.bases ?_, ?_, each ordered.index ?_, ?_, each ordered.given ?_⟩
  · intro base
    rw [header, offset, header]
    exact base
  · exact offsets ▸ ordered.sorted
  · rw [header, index]
    exact id
  · exact fun progress => offsets ▸ ordered.begun progress
  · intro before allowed
    rw [header]
    exact (given allowed).elim before id

/-- The stream moves on to a later block that is all there is from then on. -/
theorem ordered_move {queue' : RtpAudioQueue} (ordered : queue.Ordered)
    (aligned : queue'.oldestRtpBaseSequenceNumber.toNat % 4 = 0)
    (next : queue'.nextRtpSequenceNumber = queue'.oldestRtpBaseSequenceNumber)
    (sub : queue'.blocks.Sublist queue.blocks) (fresh : ∀ block ∈ queue'.blocks,
      block.nextDataPacketIndex = 0 ∧ block.allowDiscontinuity = false)
    (ahead : ∀ block ∈ queue'.blocks,
      (queue'.oldestRtpBaseSequenceNumber - queue.oldestRtpBaseSequenceNumber).toNat ≤ queue.offset block) :
    queue'.Ordered := by
  have none : queue'.progress = 0 := by
    rw [progress, next]
    exact sub_eq_zero_iff.mpr rfl
  have moved : ∀ block ∈ queue'.blocks, queue'.offset block = queue.offset block -
      (queue'.oldestRtpBaseSequenceNumber - queue.oldestRtpBaseSequenceNumber).toNat :=
    fun block inside => offset_move (ahead block inside)
  refine ⟨aligned, by omega, fun block inside => ?_, ?_, fun block inside => ?_, fun some => absurd none some,
    fun block inside given => ?_⟩
  · obtain ⟨base, near⟩ := ordered.bases block (sub.subset inside)
    exact ⟨base, by rw [moved block inside]; omega⟩
  · rw [List.pairwise_map]
    refine ((List.pairwise_map.mp ordered.sorted).sublist sub).imp_of_mem fun first second less => ?_
    rw [moved _ first, moved _ second]
    have := ahead _ first
    omega
  · rw [(fresh block inside).1, none, ite_self]
  · rw [(fresh block inside).2] at given
    exact absurd given (by decide)

theorem progress_succ (near : queue.progress ≤ 3) :
    (queue.nextRtpSequenceNumber + 1 - queue.oldestRtpBaseSequenceNumber).toNat = queue.progress + 1 := by
  have := queue.nextRtpSequenceNumber.toNat_lt
  have := queue.oldestRtpBaseSequenceNumber.toNat_lt
  have one : (1 : UInt16).toNat = 1 := rfl
  simp only [progress, UInt16.toNat_sub, UInt16.toNat_add, one] at *
  omega

theorem add_four_aligned {x : UInt16} (aligned : x.toNat % 4 = 0) : (x + 4).toNat % 4 = 0 := by
  have := x.toNat_lt
  have four : (4 : UInt16).toNat = 4 := rfl
  rw [UInt16.toNat_add, four]
  omega

theorem add_four_sub (x : UInt16) : (x + 4 - x).toNat = 4 := by
  have := x.toNat_lt
  have four : (4 : UInt16).toNat = 4 := rfl
  rw [UInt16.toNat_sub, UInt16.toNat_add, four]
  omega

theorem Ordered.head_index (ordered : queue.Ordered) (blocks : queue.blocks = head :: rest)
    (first : head.fecHeader.baseSequenceNumber = queue.oldestRtpBaseSequenceNumber) :
    head.nextDataPacketIndex = queue.progress :=
  (ordered.index head (blocks ▸ List.mem_cons_self)).trans (if_pos first)

/-- Any packet of the oldest block but its last. -/
theorem takeHead_more (ordered : queue.Ordered) (blocks : queue.blocks = head :: rest)
    (first : head.fecHeader.baseSequenceNumber = queue.oldestRtpBaseSequenceNumber)
    (more : queue.progress < 3) :
    let queue' := { queue with
      blocks := { head with nextDataPacketIndex := head.nextDataPacketIndex + 1 } :: rest
      nextRtpSequenceNumber := queue.nextRtpSequenceNumber + 1 }
    queue.takeHead head rest = some queue' ∧ queue'.Ordered := by
  intro queue'
  have own := ordered.head_index blocks first
  have next : queue'.progress = queue.progress + 1 := progress_succ ordered.near
  have ordered' : queue'.Ordered := by
    refine ⟨ordered.aligned, by omega, ?_, ?_, ?_, fun _ => ?_, ?_⟩
    · have bases := ordered.bases
      rw [blocks] at bases
      exact List.forall_mem_cons.mpr (List.forall_mem_cons.mp bases)
    · have sorted := ordered.sorted
      rw [blocks] at sorted
      exact sorted
    · refine List.forall_mem_cons.mpr ⟨?_, fun block inside => ?_⟩
      · rw [if_pos first, next, own]
      · exact (ordered.later_index blocks inside).trans (if_neg (ordered.later_ne blocks inside)).symm
    · exact List.mem_map.mpr ⟨_, List.mem_cons_self, offset_eq_zero.mpr first⟩
    · refine List.forall_mem_cons.mpr ⟨fun _ => first, fun block inside given => ?_⟩
      rw [ordered.later_given blocks inside] at given
      exact absurd given (by decide)
  refine ⟨?_, ordered'⟩
  rw [takeHead, settle, if_neg (show ¬head.nextDataPacketIndex + 1 = 4 by rw [own]; omega), lcAssert, if_pos ordered'.validated]

/-- The last packet of the oldest block, which goes with it. -/
theorem takeHead_last (ordered : queue.Ordered) (blocks : queue.blocks = head :: rest)
    (first : head.fecHeader.baseSequenceNumber = queue.oldestRtpBaseSequenceNumber)
    (last : queue.progress = 3) :
    let queue' := { queue with
      blocks := rest
      nextRtpSequenceNumber := queue.nextRtpSequenceNumber + 1
      oldestRtpBaseSequenceNumber := head.fecHeader.baseSequenceNumber + 4
      synchronizing := false }
    queue.takeHead head rest = some queue' ∧ queue'.Ordered ∧
      queue'.nextRtpSequenceNumber = queue'.oldestRtpBaseSequenceNumber := by
  intro queue'
  have own := ordered.head_index blocks first
  have next : queue'.nextRtpSequenceNumber = queue'.oldestRtpBaseSequenceNumber := by
    have past := progress_succ ordered.near
    have := queue.nextRtpSequenceNumber.toNat_lt
    have := queue.oldestRtpBaseSequenceNumber.toNat_lt
    have one : (1 : UInt16).toNat = 1 := rfl
    have four : (4 : UInt16).toNat = 4 := rfl
    have values : (queue.nextRtpSequenceNumber + 1).toNat = (queue.oldestRtpBaseSequenceNumber + 4).toNat := by
      simp only [UInt16.toNat_sub, UInt16.toNat_add, one, four] at *
      omega
    change queue.nextRtpSequenceNumber + 1 = head.fecHeader.baseSequenceNumber + 4
    rw [first]
    exact UInt16.toNat_inj.mp values
  have ordered' : queue'.Ordered := by
    refine ordered_move ordered (add_four_aligned (first ▸ ordered.aligned)) next (blocks ▸ List.sublist_cons_self _ _)
      (fun block inside => ⟨ordered.later_index blocks inside, ordered.later_given blocks inside⟩) ?_
    intro block inside
    have after := ordered.later blocks inside
    change (head.fecHeader.baseSequenceNumber + 4 - queue.oldestRtpBaseSequenceNumber).toNat ≤ _
    rw [first, add_four_sub]
    omega
  refine ⟨?_, ordered', next⟩
  rw [takeHead, settle, if_pos (by rw [own, last]), freeFecBlockHead]
  exact if_pos ordered'.validated

/-- A lost block is passed over. -/
theorem ordered_skip (ordered : queue.Ordered) (blocks : queue.blocks = head :: rest)
    (before : isBefore16 queue.nextRtpSequenceNumber head.fecHeader.baseSequenceNumber = true) :
    Ordered { queue with
      nextRtpSequenceNumber := head.fecHeader.baseSequenceNumber
      oldestRtpBaseSequenceNumber := head.fecHeader.baseSequenceNumber } := by
  have near := ordered.near
  obtain ⟨aligned, close⟩ := ordered.bases head (blocks ▸ List.mem_cons_self)
  have ahead : queue.progress < queue.offset head := (isBefore16_iff (by unfold progress at near; omega) close).mp before
  have fresh : ∀ block ∈ queue.blocks, block.fecHeader.baseSequenceNumber ≠ queue.oldestRtpBaseSequenceNumber ∧
      queue.offset head ≤ queue.offset block := by
    rw [blocks]
    refine List.forall_mem_cons.mpr ⟨⟨fun same => ?_, Nat.le_refl _⟩, fun block inside =>
      ⟨ordered.later_ne blocks inside, Nat.le_trans (Nat.le_add_right _ 4) (ordered.later blocks inside)⟩⟩
    rw [offset_eq_zero.mpr same] at ahead
    exact Nat.not_lt_zero _ ahead
  refine ordered_move ordered aligned rfl (List.Sublist.refl _) (fun block inside => ⟨?_, ?_⟩)
    fun block inside => (fresh block inside).2
  · exact (ordered.index block inside).trans (if_neg (fresh block inside).1)
  · exact Bool.eq_false_iff.mpr fun given => (fresh block inside).1 (ordered.given block inside given)

/-! ## New blocks -/

/-- A block goes in before the first one that comes after it. -/
theorem sorted_insertIdx {blocks : List FecBlock} {new : FecBlock}
    (near : queue.offset new ≤ 32767) (bases : ∀ block ∈ blocks, queue.offset block ≤ 32767)
    (sorted : (blocks.map queue.offset).Pairwise (· < ·))
    (absent : ∀ block, blocks[position new.fecHeader.baseSequenceNumber blocks]? = some block →
      block.fecHeader.baseSequenceNumber ≠ new.fecHeader.baseSequenceNumber) :
    ((blocks.insertIdx (position new.fecHeader.baseSequenceNumber blocks) new).map queue.offset).Pairwise
      (· < ·) ∧ ∀ block ∈ blocks, queue.offset block ≠ queue.offset new := by
  induction blocks with
  | nil => exact ⟨List.pairwise_singleton _ _, fun _ none => absurd none List.not_mem_nil⟩
  | cons block rest ih =>
    obtain ⟨nearBlock, bases'⟩ := List.forall_mem_cons.mp bases
    obtain ⟨after, sorted'⟩ := List.pairwise_cons.mp sorted
    by_cases here : block.fecHeader.baseSequenceNumber = new.fecHeader.baseSequenceNumber ∨
        isBefore16 new.fecHeader.baseSequenceNumber block.fecHeader.baseSequenceNumber
    · rw [position, if_pos here] at absent ⊢
      have before := here.resolve_left (absent block rfl)
      have less : queue.offset new < queue.offset block := (isBefore16_iff near nearBlock).mp before
      have all : ∀ other ∈ block :: rest, queue.offset new < queue.offset other :=
        List.forall_mem_cons.mpr ⟨less, fun other inside =>
          Nat.lt_trans less (after _ (List.mem_map_of_mem inside))⟩
      refine ⟨List.pairwise_cons.mpr ⟨?_, sorted⟩, fun other inside => Nat.ne_of_gt (all other inside)⟩
      intro distance among
      obtain ⟨other, inside, rfl⟩ := List.mem_map.mp among
      exact all other inside
    · rw [position, if_neg here] at absent ⊢
      obtain ⟨sorted'', distinct⟩ := ih bases' sorted' absent
      obtain ⟨differ, notBefore⟩ := not_or.mp here
      have less : queue.offset block < queue.offset new := by
        have le := mt (isBefore16_iff near nearBlock).mpr notBefore
        have ne : queue.offset block ≠ queue.offset new := fun same => by
          refine differ ?_
          have := block.fecHeader.baseSequenceNumber.toNat_lt
          have := new.fecHeader.baseSequenceNumber.toNat_lt
          have := queue.oldestRtpBaseSequenceNumber.toNat_lt
          simp only [offset, UInt16.toNat_sub] at same
          exact UInt16.toNat_inj.mp (by omega)
        unfold offset at ne ⊢
        omega
      refine ⟨?_, List.forall_mem_cons.mpr ⟨Nat.ne_of_lt less, distinct⟩⟩
      rw [List.insertIdx_succ_cons, List.map_cons]
      refine List.pairwise_cons.mpr ⟨fun distance among => ?_, sorted''⟩
      obtain ⟨other, inside, rfl⟩ := List.mem_map.mp among
      rcases List.eq_or_mem_of_mem_insertIdx inside with rfl | old
      · exact less
      · exact after _ (List.mem_map_of_mem old)

theorem position_le (base : UInt16) (blocks : List FecBlock) : position base blocks ≤ blocks.length := by
  induction blocks with
  | nil => exact Nat.le_refl 0
  | cons block rest ih =>
    rw [position]
    split
    · exact Nat.zero_le _
    · exact Nat.succ_le_succ ih

theorem ordered_insert {new : FecBlock} (ordered : queue.Ordered)
    (aligned : new.fecHeader.baseSequenceNumber.toNat % 4 = 0) (near : queue.offset new ≤ 32767)
    (index : new.nextDataPacketIndex = 0) (given : new.allowDiscontinuity = false)
    (absent : ∀ block, queue.blocks[position new.fecHeader.baseSequenceNumber queue.blocks]? = some block →
      block.fecHeader.baseSequenceNumber ≠ new.fecHeader.baseSequenceNumber) :
    Ordered { queue with
      blocks := queue.blocks.insertIdx (position new.fecHeader.baseSequenceNumber queue.blocks) new } := by
  have bound := position_le new.fecHeader.baseSequenceNumber queue.blocks
  obtain ⟨sorted, distinct⟩ :=
    sorted_insertIdx near (fun block inside => (ordered.bases block inside).2) ordered.sorted absent
  have each {p : FecBlock → Prop} (own : p new) (all : ∀ block ∈ queue.blocks, p block) :
      ∀ block ∈ queue.blocks.insertIdx (position new.fecHeader.baseSequenceNumber queue.blocks) new, p block :=
    fun block inside => (List.eq_or_mem_of_mem_insertIdx inside).elim (· ▸ own) (all block)
  refine ⟨ordered.aligned, ordered.near, each ⟨aligned, near⟩ ordered.bases, sorted,
    each ?_ ordered.index, fun progress => ?_, each ?_ ordered.given⟩
  · rw [index]
    split
    · next same =>
      by_contra progress
      obtain ⟨block, inside, zero⟩ := List.mem_map.mp (ordered.begun (Ne.symm progress))
      exact distinct block inside (zero.trans (offset_eq_zero.mpr same).symm)
    · rfl
  · obtain ⟨block, inside, zero⟩ := List.mem_map.mp (ordered.begun progress)
    exact List.mem_map.mpr ⟨block, (List.mem_insertIdx bound).mpr (.inr inside), zero⟩
  · intro allowed
    rw [given] at allowed
    exact absurd allowed (by decide)

/-- Where the stream begins. -/
theorem ordered_begin {base : UInt16} (aligned : base.toNat % 4 = 0) (none : queue.blocks = []) :
    Ordered { queue with nextRtpSequenceNumber := base, oldestRtpBaseSequenceNumber := base } := by
  have zero : progress { queue with nextRtpSequenceNumber := base, oldestRtpBaseSequenceNumber := base } = 0 :=
    sub_eq_zero_iff.mpr rfl
  refine ⟨aligned, by omega, ?_, ?_, ?_, fun some => absurd zero some, ?_⟩
  all_goals
    dsimp only
    rw [none]
  · exact fun _ inside => absurd inside List.not_mem_nil
  · exact List.Pairwise.nil
  · exact fun _ inside => absurd inside List.not_mem_nil
  · exact fun _ inside => absurd inside List.not_mem_nil

end MoonlightWeb.MoonlightCommonC.RtpAudioQueue

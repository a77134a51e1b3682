import MoonlightWeb.MoonlightCommonC.AudioQueueStream

/-! What comes out of the audio queue over a whole session, whatever the network does to
the packets on their way to it. -/
namespace MoonlightWeb.MoonlightCommonC.RtpAudioQueue

open ReedSolomon

/-! ## Calls -/

inductive Call
  | add (packet : RtpPacket) (now : UInt64) (memory : Option Slab)
  | read (allocated : Bool)

/-- One call, and what the decoder gets from it. -/
def perform (AudioPacketDuration : Nat) (queue : RtpAudioQueue) :
    Call → Option (RtpAudioQueue × List (Option RtpPacket))
  | .add packet now memory => (queue.rtpaAddPacket AudioPacketDuration packet now memory).map
      fun (next, code) => (next, if code = RTPQ_RET_HANDLE_NOW then [some packet] else [])
  | .read allocated => (queue.rtpaGetQueuedPacket allocated).map fun (next, read) => (next, read.toList)

def run (AudioPacketDuration : Nat) (queue : RtpAudioQueue) :
    List Call → Option (RtpAudioQueue × List (Option RtpPacket))
  | [] => some (queue, [])
  | call :: calls =>
    match queue.perform AudioPacketDuration call with
    | none => none
    | some (next, out) => (run AudioPacketDuration next calls).map fun (last, outs) => (last, out ++ outs)

theorem rtpaInitializeQueue_some (appVersionAtLeast : Bool) :
    ∃ queue, rtpaInitializeQueue appVersionAtLeast = some queue := by
  have limits : ¬(RTPA_DATA_SHARDS + RTPA_FEC_SHARDS > DATA_SHARDS_MAX ∨ RTPA_DATA_SHARDS = 0 ∨
      RTPA_FEC_SHARDS = 0) := by decide
  unfold rtpaInitializeQueue reedSolomonNew
  rw [if_neg limits]
  exact ⟨_, rfl⟩

theorem initialize_sound {queue : RtpAudioQueue} (made : rtpaInitializeQueue appVersionAtLeast = some queue) :
    queue.Sound := by
  obtain ⟨code, new, same⟩ := Option.map_eq_some_iff.mp made
  have zero : (0 : UInt16).toNat % 4 = 0 := by decide
  have empty : queue.blocks = [] := by rw [← same]
  have ordered := ordered_begin zero empty
  subst same
  exact ⟨ordered, fun _ none => absurd none List.not_mem_nil, withAudioParity_systematic new⟩

/-- A call on a queue that is in order leaves one, unless the numbers have come round. -/
theorem perform_sound (AudioPacketDuration : Nat) {queue : RtpAudioQueue} (sound : queue.Sound)
    (steady : ¬queue.Wrapped) (call : Call) :
    ∃ next out, queue.perform AudioPacketDuration call = some (next, out) ∧ next.Sound := by
  cases call with
  | add packet now memory =>
    dsimp only [perform]
    by_cases compatible : queue.incompatibleServer = true
    · unfold rtpaAddPacket
      rw [if_pos compatible]
      exact ⟨_, _, rfl, sound⟩
    · obtain ⟨next, code, added, outcome, _⟩ := rtpaAddPacket_outcome AudioPacketDuration
        sound steady (Bool.eq_false_iff.mpr compatible) packet now memory
      rw [added]
      exact ⟨_, _, rfl, outcome.sound sound⟩
  | read allocated =>
    obtain ⟨next, read, got, outcome⟩ := rtpaGetQueuedPacket_outcome AudioPacketDuration none
      sound allocated
    dsimp only [perform]
    rw [got]
    exact ⟨_, _, rfl, outcome.sound sound⟩

/-- Whatever arrives, and however often the decoder asks, none of the checks of a debug
build fails in a session, unless the sequence numbers come round to zero before the first
block has been finished, with blocks still waiting. -/
theorem run_checked (AudioPacketDuration : Nat) (appVersionAtLeast : Bool) :
    ∃ queue, rtpaInitializeQueue appVersionAtLeast = some queue ∧ ∀ calls,
      (∃ last outs, run AudioPacketDuration queue calls = some (last, outs) ∧
        last.validateFecBlockState = true) ∨
      ∃ before after between outs, calls = before ++ after ∧
        run AudioPacketDuration queue before = some (between, outs) ∧ between.Wrapped := by
  obtain ⟨queue, made⟩ := rtpaInitializeQueue_some appVersionAtLeast
  refine ⟨queue, made, fun calls => ?_⟩
  have sound := initialize_sound made
  clear made
  induction calls generalizing queue with
  | nil => exact .inl ⟨queue, [], rfl, sound.ordered.validated⟩
  | cons call calls ih =>
    by_cases steady : queue.Wrapped
    · exact .inr ⟨[], call :: calls, queue, [], rfl, rfl, steady⟩
    · obtain ⟨next, out, performed, sound'⟩ := perform_sound AudioPacketDuration sound steady call
      rcases ih next sound' with ⟨last, outs, whole, valid⟩ | ⟨before, after, between, outs, split, part, wrapped⟩
      · refine .inl ⟨last, out ++ outs, ?_, valid⟩
        rw [run, performed]
        exact congrArg (Option.map _) whole
      · refine .inr ⟨call :: before, after, between, out ++ outs, congrArg (call :: ·) split, ?_, wrapped⟩
        rw [run, performed]
        exact congrArg (Option.map _) part

/-! ## A session with one host -/

/-- A session in which the network loses, repeats and reorders what the host sends, as
long as nothing is half of all sequence numbers late or early. The queue has come to the
block of packet `origin`. A packet `wrapped` the session when it found the numbers come
round to zero before the first block was finished, with blocks waiting, for which the
stream began anew. `arrived` are the packets that came before the stream was past
them, and `log` is what the decoder got, each entry with the place of it in the stream. -/
inductive Session (source : Source) :
    RtpAudioQueue → Nat → (wrapped : Bool) → List Nat → List (Nat × Option RtpPacket) → Prop
  | connect (made : rtpaInitializeQueue true = some queue) : Session source queue 0 false [] []
  | begin (session : Session source queue origin wrapped arrived log)
    (first : queue.synchronizing = true ∧ queue.oldestRtpBaseSequenceNumber = 0)
    (sent : source.Sends packet base) (now : UInt64) (memory : Option Slab)
    (added : queue.rtpaAddPacket source.packetDuration packet now memory = some (next, code)) :
    Session source next (base + 4) (wrapped || !queue.blocks.isEmpty) arrived log
  | data (session : Session source queue origin wrapped arrived log)
    (going : ¬(queue.synchronizing = true ∧ queue.oldestRtpBaseSequenceNumber = 0))
    (n : Nat) (near : Near origin (n / 4 * 4)) (now : UInt64) (memory : Option Slab)
    (added : queue.rtpaAddPacket source.packetDuration (source.packet n) now memory = some (next, code)) :
    Session source next (moved queue next origin) wrapped
      (if memory.isSome ∧ origin + queue.progress ≤ n then n :: arrived else arrived)
      (log ++ if code = RTPQ_RET_HANDLE_NOW then [(origin + queue.progress, some (source.packet n))] else [])
  | parity (session : Session source queue origin wrapped arrived log)
    (going : ¬(queue.synchronizing = true ∧ queue.oldestRtpBaseSequenceNumber = 0))
    (sent : source.Sends packet base) (type : packet.packetType = RTP_PAYLOAD_TYPE_FEC) (near : Near origin base)
    (now : UInt64) (memory : Option Slab)
    (added : queue.rtpaAddPacket source.packetDuration packet now memory = some (next, code)) :
    Session source next (moved queue next origin) wrapped arrived log
  | read (session : Session source queue origin wrapped arrived log) (allocated : Bool)
    (got : queue.rtpaGetQueuedPacket allocated = some (next, entry)) :
    Session source next (moved queue next origin) wrapped arrived
      (log ++ entry.toList.map fun packet => (origin + queue.progress, packet))

/-- What holds all through a session, until it is wrapped. -/
structure Played (source : Source) (queue : RtpAudioQueue) (origin : Nat) (arrived : List Nat)
    (log : List (Nat × Option RtpPacket)) : Prop where
  follows : Follows source queue origin
  quiet : queue.synchronizing = true → queue.blocks = [] → log = []
  ordered : (log.map Prod.fst).Pairwise (· < ·)
  past : ∀ entry ∈ log, entry.1 < origin + queue.progress
  genuine : ∀ entry ∈ log, entry.2 = none ∨ entry.2 = some (source.packet entry.1)
  kept : ∀ n ∈ arrived, (n, some (source.packet n)) ∈ log ∨ Pending queue origin n
  begun : ∀ i < queue.progress, origin + i ∈ log.map Prod.fst
  whole : ∀ entry ∈ log, ∀ n < origin, n / 4 = entry.1 / 4 → n ∈ log.map Prod.fst

variable {source : Source} {queue next between : RtpAudioQueue} {packet : Option RtpPacket}
variable {origin base n : Nat} {arrived : List Nat} {log : List (Nat × Option RtpPacket)}

theorem Played.change (played : Played source queue origin arrived log)
    (change : Change source.packetDuration packet queue next) (given : Given source packet origin) :
    Played source next origin arrived log where
  follows := change.follows given played.follows
  quiet first none := played.quiet (change.still.synchronizing ▸ first)
    (by_contra fun some => change.still.some some none)
  ordered := played.ordered
  past entry among := change.still.progress.symm ▸ played.past entry among
  genuine := played.genuine
  kept n among := (played.kept n among).imp_right (change.pending played.follows.sound)
  begun i before := played.begun i (change.still.progress ▸ before)
  whole := played.whole

theorem Played.changes (played : Played source queue origin arrived log)
    (changes : Changes source.packetDuration packet queue next) (given : Given source packet origin) :
    Played source next origin arrived log := by
  induction changes with
  | refl => exact played
  | tail _ change ih => exact ih.change change given

theorem Changes.still (changes : Changes AudioPacketDuration packet queue next) : Still queue next := by
  induction changes with
  | refl => exact ⟨rfl, rfl, rfl, id⟩
  | tail _ change ih =>
    have last := change.still
    exact ⟨last.oldest.trans ih.oldest, last.progress.trans ih.progress,
      last.synchronizing.trans ih.synchronizing, last.some ∘ ih.some⟩

theorem Played.advance (played : Played source queue origin arrived log)
    (advances : Advances source queue origin out next) :
    Played source next (moved queue next origin) arrived
      (log ++ out.map fun packet => (origin + queue.progress, packet)) := by
  have ahead := advances.ahead
  have single := advances.single
  have aligned := played.follows.aligned
  refine ⟨advances.follows, fun first none => absurd none (advances.busy first), ?_, fun entry among => ?_,
    fun entry among => ?_, fun n among => ?_, fun i before => ?_, fun entry among n before same => ?_⟩
  · rw [List.map_append, List.pairwise_append]
    refine ⟨played.ordered, ?_, fun a before b after => ?_⟩
    · match out with
      | [] => exact List.Pairwise.nil
      | [_] => exact List.pairwise_singleton _ _
      | _ :: _ :: _ => exact absurd single (by rw [List.length_cons, List.length_cons]; omega)
    · obtain ⟨entry, among, rfl⟩ := List.mem_map.mp before
      obtain ⟨entry', among', rfl⟩ := List.mem_map.mp after
      obtain ⟨_, _, rfl⟩ := List.mem_map.mp among'
      exact played.past entry among
  · rcases List.mem_append.mp among with before | now
    · exact Nat.lt_of_lt_of_le (played.past entry before) (Nat.le_trans (Nat.le_add_right _ _) ahead)
    · obtain ⟨packet, handed, rfl⟩ := List.mem_map.mp now
      have some := List.length_pos_of_mem handed
      exact Nat.lt_of_lt_of_le (Nat.lt_add_of_pos_right some) ahead
  · rcases List.mem_append.mp among with before | now
    · exact played.genuine entry before
    · obtain ⟨packet, handed, rfl⟩ := List.mem_map.mp now
      exact advances.genuine packet handed
  · rcases played.kept n among with before | pending
    · exact .inl (List.mem_append_left _ before)
    · refine (advances.kept n pending).imp_left fun ⟨here, handed⟩ => List.mem_append_right _ ?_
      exact List.mem_map.mpr ⟨_, handed, by rw [here]⟩
  · rcases advances.place with ⟨rfl, _, none⟩ | ⟨entry, rfl, ⟨stays, place⟩ | ⟨_, _, none⟩⟩
    · exact absurd before (none ▸ Nat.not_lt_zero i)
    · rw [stays, List.map_append]
      rcases Nat.lt_succ_iff_lt_or_eq.mp (place ▸ before) with earlier | rfl
      · exact List.mem_append_left _ (played.begun i earlier)
      · exact List.mem_append_right _ List.mem_cons_self
    · exact absurd before (none ▸ Nat.not_lt_zero i)
  · rw [List.map_append]
    have near := played.follows.sound.ordered.near
    -- An entry of an earlier block stands before the present one, the new one in it.
    have here (behind : n < origin) : n ∈ log.map Prod.fst := by
      rcases List.mem_append.mp among with earlier | latest
      · exact played.whole entry earlier n behind same
      · obtain ⟨_, _, rfl⟩ := List.mem_map.mp latest
        dsimp only at same
        omega
    rcases advances.place with ⟨rfl, still, _⟩ | ⟨latest, rfl, ⟨stays, _⟩ | ⟨moves, last, _⟩⟩
    · rw [List.map_nil, List.append_nil] at among
      have past := played.past entry among
      exact List.mem_append_left _ (here (by omega))
    · exact List.mem_append_left _ (here (stays ▸ before))
    · by_cases behind : n < origin + 3
      · refine List.mem_append_left _ ?_
        by_cases earlier : n < origin
        · exact here earlier
        · have begun := played.begun (n - origin) (by omega)
          rwa [Nat.add_sub_cancel' (Nat.not_lt.mp earlier)] at begun
      · have isEnd : n = origin + queue.progress := by omega
        exact List.mem_append_right _ (by rw [isEnd]; exact List.mem_cons_self)

theorem Played.outcome (played : Played source queue origin arrived log) (given : Given source packet origin)
    (going : packet ≠ none → ¬(queue.synchronizing = true ∧ queue.oldestRtpBaseSequenceNumber = 0))
    (outcome : Outcome source.packetDuration packet queue out next) :
    Played source next (moved queue next origin) arrived
      (log ++ out.map fun packet => (origin + queue.progress, packet)) := by
  cases outcome with
  | stay changes =>
    rw [moved_of_oldest (Changes.still changes).oldest, List.map_nil, List.append_nil]
    exact played.changes changes given
  | turn changes turn =>
    have still := Changes.still changes
    have advanced := (played.changes changes given).advance
      (turn.advances (fun some => by rw [still.synchronizing, still.oldest]; exact going some)
        (played.changes changes given).follows)
    unfold moved at advanced ⊢
    rw [still.oldest, still.progress] at advanced
    exact advanced

/-- A packet that has been put into its block is in the queue. -/
theorem Played.arrive (played : Played source queue origin arrived log) (near : Near origin (n / 4 * 4))
    (ahead : origin + queue.progress ≤ n) (stored : Stored (source.packet n) queue) :
    Played source queue origin (n :: arrived) log := by
  refine ⟨played.follows, played.quiet, played.ordered, played.past, played.genuine,
    List.forall_mem_cons.mpr ⟨.inr ⟨ahead, ?_⟩, played.kept⟩, played.begun, played.whole⟩
  obtain ⟨block, inside, base, mark⟩ := stored
  have past : ((source.packet n).sequenceNumber - (source.packet n).sequenceNumber / 4 * 4).toNat = n % 4 :=
    Source.ofNat_past n
  rw [past] at mark
  exact ⟨block, inside, played.follows.own near inside (base.trans (Source.ofNat_div_mul n)), mark⟩

theorem near_timely (near : Near origin base) (ahead : origin ≤ base) :
    isBefore16 (UInt16.ofNat base) (UInt16.ofNat origin) = false := by
  obtain ⟨below, _⟩ := near
  refine not_isBefore16_origin ?_
  rw [UInt16.toNat_sub, UInt16.toNat_ofNat', UInt16.toNat_ofNat']
  omega

theorem notePacket_sent {packet : RtpPacket} (sent : source.Sends packet base) (queue : RtpAudioQueue) :
    (queue.notePacket packet).incompatibleServer = queue.incompatibleServer ∧
      (queue.notePacket packet).rs = queue.rs := by
  unfold notePacket
  cases sent with
  | data n =>
    rw [if_pos (by rfl)]
    unfold noteSequence
    repeat' split
    all_goals exact ⟨rfl, rfl⟩
  | parity _ _ j type aligned index read =>
    have boundary : UInt16.ofNat base % 4 = 0 := by
      have four : (4 : UInt16).toNat = 4 := rfl
      have zero : (0 : UInt16).toNat = 0 := rfl
      refine UInt16.toNat_inj.mp ?_
      rw [UInt16.toNat_mod, UInt16.toNat_ofNat', four, zero]
      omega
    rw [if_neg (by rw [type]; decide), if_pos type, read]
    dsimp only [Source.fecHeader]
    rw [if_neg fun odd => odd.2 boundary]
    exact ⟨rfl, rfl⟩

/-- The first packets only say where the stream is to begin. -/
theorem rtpaAddPacket_begin {packet : RtpPacket} (follows : Follows source queue origin)
    (first : queue.synchronizing = true ∧ queue.oldestRtpBaseSequenceNumber = 0) (empty : queue.blocks = [])
    (sent : source.Sends packet base)
    (added : queue.rtpaAddPacket source.packetDuration packet now memory = some (next, code)) :
    Follows source next (base + 4) ∧ next.blocks = [] := by
  obtain ⟨synchronizing, oldest, blocks, _⟩ := notePacket_kept queue packet
  obtain ⟨compatible, code'⟩ := notePacket_sent sent queue
  have starts : ((queue.notePacket packet).synchronizing &&
      decide ((queue.notePacket packet).oldestRtpBaseSequenceNumber = 0)) = true := by
    rw [synchronizing, oldest, first.1, first.2]
    rfl
  have computed : queue.rtpaAddPacket source.packetDuration packet now memory =
      some ({ (queue.notePacket packet) with
        nextRtpSequenceNumber := UInt16.ofNat base + 4
        oldestRtpBaseSequenceNumber := UInt16.ofNat base + 4 }, 0) := by
    unfold rtpaAddPacket getFecBlockForRtpPacket
    rw [if_neg (Bool.eq_false_iff.mp follows.compatible), lcAssert, if_pos follows.sound.ordered.validated,
      sent.fecHeaderOf]
    dsimp only
    rw [if_pos starts]
    rfl
  obtain ⟨rfl, _⟩ := Prod.mk.inj (Option.some.inj (added.symm.trans computed))
  obtain ⟨next, _, added', outcome, _⟩ := rtpaAddPacket_outcome source.packetDuration follows.sound (fun wrapped => wrapped.2.2 empty)
    follows.compatible packet now memory
  obtain ⟨rfl, _⟩ := Prod.mk.inj (Option.some.inj (added.symm.trans added'))
  refine ⟨⟨outcome.sound follows.sound, fun j inside i => ?_, compatible.trans follows.compatible,
    (UInt16.ofNat_add base 4).symm, ?_⟩, blocks.trans empty⟩
  · dsimp only
    rw [code']
    exact follows.parity j inside i
  · dsimp only
    rw [blocks, empty]
    exact fun _ none => absurd none List.not_mem_nil

theorem Played.begin {packet : RtpPacket} (played : Played source queue origin arrived log)
    (first : queue.synchronizing = true ∧ queue.oldestRtpBaseSequenceNumber = 0) (empty : queue.blocks = [])
    (sent : source.Sends packet base)
    (added : queue.rtpaAddPacket source.packetDuration packet now memory = some (next, code)) :
    Played source next (base + 4) arrived log := by
  obtain ⟨follows, none⟩ := rtpaAddPacket_begin played.follows first empty sent added
  obtain rfl := played.quiet first.1 empty
  refine ⟨follows, fun _ _ => rfl, played.ordered, fun _ none => absurd none List.not_mem_nil, played.genuine,
    fun n among => (played.kept n among).imp_right fun ⟨_, block, inside, _⟩ => ?_, fun i before => ?_,
    fun _ among => absurd among List.not_mem_nil⟩
  · have begun := follows.sound.ordered.begun (Nat.ne_of_gt (Nat.lt_of_le_of_lt (Nat.zero_le i) before))
    rw [none] at begun
    exact absurd begun List.not_mem_nil
  · rw [empty] at inside
    exact absurd inside List.not_mem_nil

theorem Played.add {packet : RtpPacket} (played : Played source queue origin arrived log)
    (going : ¬(queue.synchronizing = true ∧ queue.oldestRtpBaseSequenceNumber = 0)) (sent : source.Sends packet base)
    (near : Near origin base)
    (added : queue.rtpaAddPacket source.packetDuration packet now memory = some (next, code)) :
    Played source next (moved queue next origin) arrived
      (log ++ (if code = RTPQ_RET_HANDLE_NOW then [some packet] else []).map
        fun packet => (origin + queue.progress, packet)) ∧
    (Acceptable packet memory queue → ∃ between, Played source between origin arrived log ∧ Still queue between ∧
      Stored packet between ∧ ∀ arrived, Played source between origin arrived log →
        Played source next (moved queue next origin) arrived
          (log ++ (if code = RTPQ_RET_HANDLE_NOW then [some packet] else []).map
            fun packet => (origin + queue.progress, packet))) := by
  have given : Given source (some packet) origin := fun _ same => Option.some.inj same ▸ ⟨base, sent, near⟩
  obtain ⟨next', code', added', outcome, stored⟩ := rtpaAddPacket_outcome source.packetDuration played.follows.sound
    (fun wrapped => going ⟨wrapped.1, wrapped.2.1⟩) played.follows.compatible packet now memory
  obtain ⟨rfl, rfl⟩ := Prod.mk.inj (Option.some.inj (added.symm.trans added'))
  have after := played.outcome given (fun _ => going) outcome
  refine ⟨after, fun able => ?_⟩
  rcases stored able with incompatible | ⟨between, changes, kept, outcome'⟩
  · exact absurd (after.follows.compatible.symm.trans incompatible) Bool.false_ne_true
  · have still := Changes.still changes
    refine ⟨between, played.changes changes given, still, kept, fun arrived played' => ?_⟩
    have after' := played'.outcome given
      (fun _ => by rw [still.synchronizing, still.oldest]; exact going) outcome'
    unfold moved at after' ⊢
    rw [still.oldest, still.progress] at after'
    exact after'

theorem Session.played (session : Session source queue origin false arrived log) :
    Played source queue origin arrived log := by
  generalize steady : false = wrapped at session
  induction session with
  | connect made =>
    have sound := initialize_sound made
    obtain ⟨code, new, rfl⟩ := Option.map_eq_some_iff.mp made
    exact ⟨⟨sound, fun j inside i => if_pos inside, rfl, rfl, fun _ none => absurd none List.not_mem_nil⟩,
      fun _ _ => rfl, List.Pairwise.nil, fun _ none => absurd none List.not_mem_nil,
      fun _ none => absurd none List.not_mem_nil, fun _ none => absurd none List.not_mem_nil,
      fun _ before => by simp [progress] at before, fun _ none => absurd none List.not_mem_nil⟩
  | begin _ first sent now memory added ih =>
    obtain ⟨before, empty⟩ := Bool.or_eq_false_iff.mp steady.symm
    exact (ih before.symm).begin first (by simpa using empty) sent added
  | @data queue origin wrapped arrived log next code _ going n near now memory added ih =>
    have ih := ih steady
    obtain ⟨after, accepted⟩ := ih.add going (.data n) near added
    rw [apply_ite (List.map _)] at after accepted
    split
    · next timely =>
      obtain ⟨memory', ahead⟩ := timely
      have aligned := ih.follows.aligned
      have timely := near_timely near (by omega)
      obtain ⟨between, played, still, stored, rest⟩ := accepted ⟨rfl, Option.isSome_iff_ne_none.mp memory', going,
        by rw [ih.follows.oldest]; exact (Source.ofNat_div_mul n) ▸ timely⟩
      exact rest (n :: arrived) (played.arrive near (still.progress.symm ▸ ahead) stored)
    · exact after
  | @parity queue origin wrapped arrived log packet base next code _ going sent type near now memory added ih =>
    have after := ((ih steady).add going sent near added).1
    by_cases handed : code = RTPQ_RET_HANDLE_NOW
    · rw [if_pos handed] at after
      have genuine := after.genuine (origin + queue.progress, some packet)
        (List.mem_append_right _ List.mem_cons_self)
      have own := Option.some.inj (genuine.resolve_left (Option.some_ne_none packet))
      rw [own] at type
      exact absurd (show RTP_PAYLOAD_TYPE_AUDIO = RTP_PAYLOAD_TYPE_FEC from type) (by decide)
    · rw [if_neg handed, List.map_nil, List.append_nil] at after
      exact after
  | read _ allocated got ih =>
    have ih := ih steady
    obtain ⟨next', entry', got', outcome⟩ := rtpaGetQueuedPacket_outcome _ none ih.follows.sound allocated
    obtain ⟨rfl, rfl⟩ := Prod.mk.inj (Option.some.inj (got.symm.trans got'))
    exact ih.outcome (fun _ none => absurd none.symm (Option.some_ne_none _)) (fun none => absurd rfl none) outcome

/-! ## What comes out -/

/-- Whatever the network does, the decoder gets packets of the stream in their order, none
of them twice, and each as the host sent it, also those that were made again from the
parity shards. For a packet that is given up it gets an empty entry in its place, unless
it gets nothing of the whole block: such a block is passed over. -/
theorem session_in_order (session : Session source queue origin false arrived log) :
    (log.map Prod.fst).Pairwise (· < ·) ∧
      (∀ entry ∈ log, entry.2 = none ∨ entry.2 = some (source.packet entry.1)) ∧
      ∀ entry ∈ log, ∀ n < origin + queue.progress, n / 4 = entry.1 / 4 → n ∈ log.map Prod.fst := by
  have played := session.played
  refine ⟨played.ordered, played.genuine, fun entry among n past same => ?_⟩
  by_cases behind : n < origin
  · exact played.whole entry among n behind same
  · have begun := played.begun (n - origin) (by omega)
    rwa [Nat.add_sub_cancel' (Nat.not_lt.mp behind)] at begun

/-- A packet that is due is handed on by the next read. -/
theorem read_due (follows : Follows source queue origin) (pending : Pending queue origin (origin + queue.progress)) :
    queue.rtpaGetQueuedPacket true ≠ some (next, none) := by
  have sound := follows.sound
  have near := sound.ordered.near
  have aligned := follows.aligned
  obtain ⟨at_, here, base⟩ : ∃ at_, ∃ block, queue.blocks[at_]? = some block ∧ queue.offset block = 0 := by
    obtain ⟨_, block, inside, base, _⟩ := pending
    obtain ⟨at_, within, same⟩ := List.getElem_of_mem inside
    exact ⟨at_, block, (List.getElem?_eq_getElem within).trans (congrArg some same), by omega⟩
  have first := offset_eq_zero.mp base.2
  obtain ⟨_, rest, blocks⟩ := sound.ordered.at_head base.1 first
  have present := pending.due follows blocks first
  have place := sound.ordered.head_place blocks first
  have ready : queue.queueHasPacketReady = true := by
    unfold queueHasPacketReady
    rw [blocks]
    dsimp only
    rw [present, place, decide_eq_true rfl]
    rfl
  obtain ⟨after, taken, _⟩ := sound.take blocks first
  have read : ∃ after packet, queue.readPacket true = some (after, some packet) := by
    unfold readPacket
    rw [lcAssert, if_pos sound.ordered.validated, blocks]
    dsimp only
    rw [ready, if_pos (by rfl), taken]
    exact ⟨_, _, rfl⟩
  obtain ⟨after, packet, read⟩ := read
  have got : queue.rtpaGetQueuedPacket true = some (after, some packet) := by
    unfold rtpaGetQueuedPacket
    rw [lcAssert, if_pos sound.ordered.validated, blocks]
    dsimp only
    split
    · have partly : ¬here.nextDataPacketIndex = RTPA_DATA_SHARDS := by
        rw [sound.ordered.head_index blocks first]
        exact Nat.ne_of_lt (Nat.lt_succ_of_le near)
      rw [lcAssert, if_pos (decide_eq_true place), present, if_neg Bool.false_ne_true, lcAssert, if_pos ready, settle,
        if_neg partly, lcAssert, if_pos sound.ordered.validated]
      exact read
    · exact read
  rw [got]
  exact fun same => Option.some_ne_none packet (Prod.mk.inj (Option.some.inj same)).2

/-- No packet that comes in time is lost: the decoder has got it, or it is still to come.
And when there is nothing to read, the packet that the stream has come to has not arrived. -/
theorem session_keeps (session : Session source queue origin false arrived log) :
    (∀ n ∈ arrived, (n, some (source.packet n)) ∈ log ∨ Pending queue origin n) ∧
      ∀ next, queue.rtpaGetQueuedPacket true = some (next, none) → origin + queue.progress ∉ arrived := by
  have played := session.played
  refine ⟨played.kept, fun next drained came => ?_⟩
  rcases played.kept _ came with handed | pending
  · exact Nat.lt_irrefl _ (played.past _ handed)
  · exact read_due played.follows pending drained

/-! ## A host that counts -/

def counting : Source where
  payload n := [UInt8.ofNat n]
  size := 1
  sized _ := rfl
  timestamp := 0
  ssrc := 0
  packetDuration := 5

def blankSlab : Option Slab := some ⟨fun _ => counting.packet 0, fun _ => []⟩

def countingAdd (queue : RtpAudioQueue) (packet : RtpPacket) : RtpAudioQueue :=
  ((queue.rtpaAddPacket 5 packet 0 blankSlab).map Prod.fst).getD queue

theorem countingAdd_eq (queue : RtpAudioQueue) (packet : RtpPacket) (result : Nat)
    (code : (queue.rtpaAddPacket 5 packet 0 blankSlab).map Prod.snd = some result) :
    queue.rtpaAddPacket counting.packetDuration packet 0 blankSlab = some (countingAdd queue packet, result) := by
  obtain ⟨⟨next, _⟩, added, rfl⟩ := Option.map_eq_some_iff.mp code
  have moves : countingAdd queue packet = next := by
    rw [countingAdd, added]
    rfl
  rw [moves]
  exact added

def countingQueue (packets : List RtpPacket) : RtpAudioQueue :=
  packets.foldl countingAdd ((rtpaInitializeQueue true).get (by rfl))

/-- The last packet but one of these comes too early. -/
def countingPackets : List RtpPacket := [counting.packet 0, counting.packet 4, counting.packet 6, counting.packet 5]

def countingLog : List (Nat × Option RtpPacket) := [(4, some (counting.packet 4)), (5, some (counting.packet 5))]

theorem counting_session :
    Session counting (countingQueue countingPackets) 4 false [5, 6, 4] countingLog := by
  have near : Near 4 4 := by unfold Near; omega
  have connected : Session counting (countingQueue []) 0 false [] [] := .connect rfl
  have begun : Session counting (countingQueue (countingPackets.take 1)) 4 false [] [] :=
    .begin connected ⟨rfl, rfl⟩ (.data 0) 0 blankSlab (countingAdd_eq _ _ 0 (by decide +kernel))
  have first : Session counting (countingQueue (countingPackets.take 2)) 4 false [4] (countingLog.take 1) :=
    .data begun (by decide +kernel) 4 near 0 blankSlab (countingAdd_eq _ _ RTPQ_RET_HANDLE_NOW (by decide +kernel))
  have early : Session counting (countingQueue (countingPackets.take 3)) 4 false [6, 4] (countingLog.take 1) :=
    .data first (by decide +kernel) 6 near 0 blankSlab (countingAdd_eq _ _ 0 (by decide +kernel))
  exact .data early (by decide +kernel) 5 near 0 blankSlab
    (countingAdd_eq _ _ RTPQ_RET_HANDLE_NOW (by decide +kernel))

/-- It is there as soon as the stream has come to it. -/
theorem session_in_order_counting : ∃ next packet,
    (countingQueue countingPackets).rtpaGetQueuedPacket true = some (next, some (some packet)) ∧
      packet = counting.packet 6 := by
  have ready : ((countingQueue countingPackets).rtpaGetQueuedPacket true).map
      (fun read => read.2.map Option.isSome) = some (some true) := by decide +kernel
  obtain ⟨⟨next, read⟩, got, filled⟩ := Option.map_eq_some_iff.mp ready
  obtain ⟨entry, rfl, present⟩ := Option.map_eq_some_iff.mp filled
  obtain ⟨packet, rfl⟩ := Option.isSome_iff_exists.mp present
  have genuine := (session_in_order (.read counting_session true got)).2.1 (6, some packet)
    (List.mem_append_right _ List.mem_cons_self)
  exact ⟨next, packet, got, Option.some.inj (genuine.resolve_left (Option.some_ne_none packet))⟩

theorem session_keeps_counting : Pending (countingQueue countingPackets) 4 6 :=
  ((session_keeps counting_session).1 6 (List.mem_cons_of_mem _ List.mem_cons_self)).resolve_left (by decide)

end MoonlightWeb.MoonlightCommonC.RtpAudioQueue

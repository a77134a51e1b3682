import MoonlightWeb.Lib.Utf8
import MoonlightWeb.MoonlightCommonC.InputMotion

/-! What becomes of the queued packets: they are sent in the order in which they were
queued, one by one or as batches, motion as it has added up and a text as its characters. -/
namespace MoonlightWeb.MoonlightCommonC
open Machine

namespace InputStream

/-- The characters of a text. -/
def characters (text : Bytes) : List Bytes := (Utf8.pieces text).map Utf8.Piece.bytes

/-- A packet for each of these moves. -/
def moved (holder : PacketHolder) (deltas : List (Int16 × Int16)) : List PacketHolder :=
  deltas.map fun delta => { holder with packet := .mouseMoveRel delta.1 delta.2 }

/-- What is sent for a stretch of the queue, after all that was sent before it, where this has been
reported: for a mark of the motion all that is not sent yet, or the last report. -/
inductive Output (reports : Reports) (earlier : List PacketHolder) : List PacketHolder → List PacketHolder → Prop
  | merged (own : last.packet.whole = true) (same : ∀ other ∈ rest, batchable other last = true) :
      Output reports earlier (rest ++ [last]) [last]
  | relative (isMark : holder.packet.motion = some .relative) (deltas : List (Int16 × Int16))
      (moves : (0, 0) ∉ deltas)
      (x : travel (fun deltaX _ => deltaX) (earlier ++ moved holder deltas) = reports.distanceX)
      (y : travel (fun _ deltaY => deltaY) (earlier ++ moved holder deltas) = reports.distanceY) :
      Output reports earlier [holder] (moved holder deltas)
  | absolute (isMark : holder.packet.motion = some .absolute) (last : reports.position = some position) :
      Output reports earlier [holder] [{ holder with packet := position.packet }]
  | sensor (isMark : holder.packet.motion = some (.sensor controllerNumber motionType))
      (last : reports.sensor controllerNumber motionType = some sensor) :
      Output reports earlier [holder] [{ holder with
        reliable := sensor.reliable motionType, packet := sensor.packet controllerNumber motionType }]
  | text (isText : holder.packet = .unicode text) (chunks : List Bytes) (begins : chunks.flatten <+: text)
      (complete : Utf8.Valid text → chunks = characters text) :
      Output reports earlier [holder] (chunks.map fun chunk => { holder with packet := .unicode chunk })

/-- After these events the thread holds the last packet of the stretch, and with one more it has let
go of it and sent all that it was to send. -/
def Finishes (config : InputConfig) (past : List Event) (event : Event) (group sent : List PacketHolder) : Prop :=
  ∃ stream next, run (step config) initializeInputStream past = some stream ∧ step config stream event = some next ∧
    held stream.thread = group.getLast?.toList ∧ held next.thread = [] ∧ next.sent = sent

/-- By now the one list has been sent for the other, stretch by stretch, each as it was to be when
the thread finished with it. -/
inductive Sent (config : InputConfig) : List Event → List PacketHolder → List PacketHolder → Prop
  | nil : Sent config now [] []
  | snoc (before : Sent config past taken earlier) (output : Output (reports past) earlier group out)
      (finishes : Finishes config past event group (earlier ++ out)) (later : past ++ [event] <+: now) :
      Sent config now (taken ++ group) (earlier ++ out)

/-- What the thread has sent so far of the packets that it has taken last. -/
inductive Underway : PacketHolder → Nat → List PacketHolder → List PacketHolder → Prop
  | merged (own : holder.packet.whole = true) (formed : Formed holder)
      (same : ∀ other ∈ rest, batchable other holder = true) : Underway holder next (rest ++ [holder]) []
  | relative (isMark : holder.packet.motion = some .relative) (deltas : List (Int16 × Int16))
      (moves : (0, 0) ∉ deltas) : Underway holder next [holder] (moved holder deltas)
  | absolute (isMark : holder.packet.motion = some .absolute) : Underway holder next [holder] []
  | sensor (isMark : holder.packet.motion = some (.sensor controllerNumber motionType)) :
      Underway holder next [holder] []
  | text (isText : holder.packet = .unicode text) (chunks : List Bytes) (inside : next ≤ text.length)
      (begins : chunks.flatten = text.take next)
      (complete : Utf8.Valid text → ∃ rest, characters text = chunks ++ rest) :
      Underway holder next [holder] (chunks.map fun chunk => { holder with packet := .unicode chunk })

variable {config : InputConfig} {stream after : InputStream} {taken sent group out : List PacketHolder} {index : Nat}
  {past : List Event} {event : Event} {text : Bytes}

theorem Sent.later (done : Sent config past taken sent) (later : past <+: now) : Sent config now taken sent := by
  cases done with
  | nil => exact .nil
  | snoc before output finishes earlier => exact .snoc before output finishes (earlier.trans later)

theorem Underway.start (holder : PacketHolder) (formed : Formed holder) : Underway holder 0 [holder] [] := by
  obtain ⟨reliable, channelId, packet⟩ := holder
  cases packet with
  | mouseMoveRel deltaX deltaY => exact .relative rfl [] List.not_mem_nil
  | mouseMoveAbs x y width height => exact .absolute rfl
  | controllerMotion packet => exact .sensor rfl
  | unicode text => exact .text rfl [] (Nat.zero_le _) rfl fun _ => ⟨_, rfl⟩
  | haptics | keyboard | mouseButton | controller | multiController | scroll | hscroll | touch | pen
  | controllerArrival | controllerTouch | controllerBattery =>
    exact .merged rfl formed fun _ none => absurd none List.not_mem_nil

theorem Underway.getLast (underway : Underway holder index group out) : group.getLast? = some holder := by
  cases underway with
  | merged _ _ _ => exact List.getLast?_concat
  | relative | absolute | sensor | text => rfl

/-- The stretch that the thread has taken, and what it has sent of it. -/
def Holding : InputSendThread → List PacketHolder → List PacketHolder → Prop
  | .busy holder next, group, out => Underway holder next group out
  | _, group, out => group = [] ∧ out = []

/-- The queue is what is left of the packets that were queued. -/
structure Ordered (config : InputConfig) (past : List Event) (stream : InputStream) : Prop where
  progress : ∃ before group earlier out, stream.queued = before ++ group ++ stream.packetQueue.items ∧
    stream.sent = earlier ++ out ∧ Sent config past before earlier ∧ Holding stream.thread group out
  formed : ∀ holder ∈ stream.packetQueue.items, Formed holder
  emptied : stream.thread = .ended → stream.packetQueue.items = [] ∧ stream.packetQueue.draining = true

/-! ## Batches -/

theorem batchable_trans (earlier : batchable other holder = true) (later : batchable holder following = true) :
    batchable other following = true := by
  obtain ⟨_, _, packet⟩ := holder
  obtain ⟨_, _, otherPacket⟩ := other
  obtain ⟨_, _, followingPacket⟩ := following
  unfold batchable at earlier later ⊢
  dsimp only at earlier later ⊢
  split at earlier
  · cases followingPacket with
    | multiController =>
      simp only [Bool.and_eq_true, decide_eq_true_eq] at earlier later ⊢
      obtain ⟨⟨⟨buttons, buttons2⟩, number⟩, mask⟩ := earlier
      obtain ⟨⟨⟨buttons', buttons2'⟩, number'⟩, mask'⟩ := later
      exact ⟨⟨⟨buttons'.trans buttons, buttons2'.trans buttons2⟩, number'.trans number⟩, mask'.trans mask⟩
    | _ => cases later
  · cases followingPacket with
    | pen =>
      simp only [Bool.and_eq_true, decide_eq_true_eq] at earlier later ⊢
      obtain ⟨⟨batches, buttons⟩, eventType⟩ := earlier
      obtain ⟨⟨_, buttons'⟩, eventType'⟩ := later
      exact ⟨⟨batches, buttons.trans buttons'⟩, eventType.trans eventType'⟩
    | _ => cases later
  · cases earlier

/-- What is batched goes out as the later packet. -/
theorem batch_eq (same : batchable holder following = true) (formed : Formed holder)
    (formed' : Formed following) : batch holder following = following := by
  obtain ⟨reliable, channelId, packet⟩ := holder
  obtain ⟨reliable', channelId', packet'⟩ := following
  unfold batchable at same
  unfold batch
  dsimp only at same ⊢
  split at same
  · next origPkt newPkt =>
    obtain ⟨isReliable, channel⟩ := formed origPkt rfl
    obtain ⟨isReliable', channel'⟩ := formed' newPkt rfl
    simp only [Bool.and_eq_true, decide_eq_true_eq] at same
    obtain ⟨⟨⟨buttons, buttons2⟩, number⟩, mask⟩ := same
    dsimp only at isReliable channel isReliable' channel'
    rw [isReliable, isReliable', channel, channel', number]
    obtain ⟨⟨_, _, _, _, _, _, _⟩, _, _, _⟩ := origPkt
    obtain ⟨⟨_, _, _, _, _, _, _⟩, _, _, _⟩ := newPkt
    dsimp only at buttons buttons2 number mask ⊢
    rw [buttons, buttons2, number, mask]
  · rfl
  · cases same

/-! ## Texts -/

theorem characters_flatten (text : Bytes) : (characters text).flatten = text := by
  rw [characters, ← List.flatMap_def, Utf8.pieces_flatten]

theorem matched_le (ranges : List (Utf8.Byte × Utf8.Byte)) (bytes : Bytes) :
    Utf8.matched ranges bytes ≤ bytes.length := by
  induction ranges generalizing bytes with
  | nil =>
    rw [Utf8.matched]
    · exact Nat.zero_le _
    · exact nofun
  | cons range ranges ih =>
    cases bytes with
    | nil => exact Nat.le_refl 0
    | cons byte bytes =>
      rw [Utf8.matched]
      split
      · exact Nat.succ_le_succ (ih bytes)
      · exact Nat.zero_le _

/-- The first byte of a character tells how long it is. -/
theorem codePointLength_following (starts : Utf8.following first = some ranges) :
    codePointLength first = some (ranges.length + 1) := by
  have all : ∀ byte < 256, ((Utf8.following (UInt8.ofNat byte)).map fun ranges => some (ranges.length + 1)).all
      (· = codePointLength (UInt8.ofNat byte)) = true := by decide +kernel
  have this := all first.toNat first.toNat_lt
  rw [UInt8.ofNat_toNat, starts, Option.map_some, Option.all_some, decide_eq_true_eq] at this
  exact this.symm

theorem piece_length (valid : (Utf8.piece first rest).valid = true) :
    ∃ tail, (Utf8.piece first rest).bytes = first :: tail ∧
      codePointLength first = some (Utf8.piece first rest).bytes.length := by
  unfold Utf8.piece at valid ⊢
  cases starts : Utf8.following first with
  | none =>
    rw [starts] at valid
    cases valid
  | some ranges =>
    rw [starts] at valid
    refine ⟨_, rfl, ?_⟩
    have all : Utf8.matched ranges rest = ranges.length := of_decide_eq_true valid
    rw [codePointLength_following starts, List.length_cons, List.length_take, all, Nat.min_eq_left]
    rw [← all]
    exact matched_le ranges rest

theorem mem_pieces (member : piece ∈ Utf8.piecesWithin limit bytes) : ∃ first rest, piece = Utf8.piece first rest := by
  induction limit generalizing bytes with
  | zero => exact absurd member List.not_mem_nil
  | succ limit ih =>
    cases bytes with
    | nil => exact absurd member List.not_mem_nil
    | cons first rest =>
      obtain rfl | later := List.mem_cons.mp member
      · exact ⟨first, rest, rfl⟩
      · exact ih later

theorem character_length (valid : Utf8.Valid text) (member : character ∈ characters text) :
    ∃ first tail, character = first :: tail ∧ codePointLength first = some character.length := by
  obtain ⟨piece, among, rfl⟩ := List.mem_map.mp member
  obtain ⟨first, rest, rfl⟩ := mem_pieces among
  obtain ⟨tail, same, length⟩ := piece_length (valid _ among)
  exact ⟨first, tail, same, length⟩

/-- The characters that are not sent yet make up what is left of the text. -/
theorem characters_rest (sentAll : characters text = chunks ++ rest) (begins : chunks.flatten = text.take index) :
    text.drop index = rest.flatten := by
  have whole : text.take index ++ text.drop index = text.take index ++ rest.flatten := by
    rw [List.take_append_drop, ← begins, ← List.flatten_append, ← sentAll, characters_flatten]
  exact List.append_cancel_left whole

/-- In a text the loop comes to a character, or to the end. -/
theorem characters_next (valid : Utf8.Valid text) (sentAll : characters text = chunks ++ rest)
    (begins : chunks.flatten = text.take index) :
    text[index]? = none ∧ rest = [] ∨
      ∃ firstByte character later, text[index]? = some firstByte ∧ rest = character :: later ∧
        codePointLength firstByte = some character.length ∧ (text.drop index).take character.length = character := by
  have left := characters_rest sentAll begins
  cases rest with
  | nil =>
    refine .inl ⟨?_, rfl⟩
    rw [List.getElem?_eq_none_iff]
    exact List.drop_eq_nil_iff.mp left
  | cons character later =>
    have member : character ∈ characters text := by
      rw [sentAll]
      exact List.mem_append_right _ List.mem_cons_self
    obtain ⟨first, tail, rfl, length⟩ := character_length valid member
    refine .inr ⟨first, first :: tail, later, ?_, rfl, length, ?_⟩
    · rw [← Nat.add_zero index, ← List.getElem?_drop, left]
      rfl
    · rw [left, List.flatten_cons, List.take_left']
      rfl

/-! ## Steps -/

theorem nextDelta_eq_zero (delta : Int) : Int16.ofInt (nextDelta delta) = 0 ↔ delta = 0 := by
  constructor
  · intro none
    have same := nextDelta_toInt delta
    rw [none, Int16.toInt_zero] at same
    unfold nextDelta INT16_MIN INT16_MAX at same
    split at same
    · cases same
    · split at same
      · cases same
      · exact same.symm
  · rintro rfl
    rfl

theorem Underway.of_whole (underway : Underway holder index group out) (own : holder.packet.whole = true) :
    Formed holder ∧ out = [] ∧ ∃ rest, group = rest ++ [holder] ∧ ∀ other ∈ rest, batchable other holder = true := by
  cases underway with
  | merged _ formed same => exact ⟨formed, rfl, _, rfl, same⟩
  | relative isMark _ _ => cases isMark.symm.trans (motion_of_whole own)
  | absolute isMark => cases isMark.symm.trans (motion_of_whole own)
  | sensor isMark => cases isMark.symm.trans (motion_of_whole own)
  | text isText _ _ _ _ =>
    rw [isText] at own
    cases own

theorem Underway.of_relative (underway : Underway holder index group out)
    (isMark : holder.packet.motion = some .relative) :
    group = [holder] ∧ ∃ deltas : List (Int16 × Int16), (0, 0) ∉ deltas ∧ out = moved holder deltas := by
  cases underway with
  | relative _ deltas moves => exact ⟨rfl, deltas, moves, rfl⟩
  | merged own _ _ => cases isMark.symm.trans (motion_of_whole own)
  | absolute isOther => cases isMark.symm.trans isOther
  | sensor isOther => cases isMark.symm.trans isOther
  | text isOther _ _ _ _ => simp [Packet.motion, isOther] at isMark

/-- Of the mark of a position or of a sensor nothing is sent before it is finished. -/
theorem Underway.of_mark (underway : Underway holder index group out) (isMark : holder.packet.motion = some motion)
    (once : motion ≠ .relative) : group = [holder] ∧ out = [] := by
  cases underway with
  | absolute _ => exact ⟨rfl, rfl⟩
  | sensor _ => exact ⟨rfl, rfl⟩
  | merged own _ _ => cases isMark.symm.trans (motion_of_whole own)
  | relative isOther _ _ => exact absurd (Option.some.inj (isMark.symm.trans isOther)) once
  | text isOther _ _ _ _ => simp [Packet.motion, isOther] at isMark

theorem Underway.merge (underway : Underway holder index group out) (same : batchable holder following = true)
    (formed' : Formed following) : Underway (batch holder following) index (group ++ [following]) out := by
  obtain ⟨formed, rfl, rest, rfl, same'⟩ := underway.of_whole (batchable_whole same).1
  rw [batch_eq same formed formed']
  refine .merged (batchable_whole same).2.1 formed'
    (List.forall_mem_append.mpr ⟨?_, List.forall_mem_singleton.mpr same⟩)
  exact fun other among => batchable_trans (same' other among) same

theorem Underway.of_text (underway : Underway holder index group out) (isText : holder.packet = .unicode text) :
    group = [holder] ∧ ∃ chunks : List Bytes, index ≤ text.length ∧ chunks.flatten = text.take index ∧
      (Utf8.Valid text → ∃ rest, characters text = chunks ++ rest) ∧
      out = chunks.map fun chunk => { holder with packet := .unicode chunk } := by
  cases underway with
  | text same chunks inside begins complete =>
    cases isText.symm.trans same
    exact ⟨rfl, chunks, inside, begins, complete, rfl⟩
  | merged own _ _ => simp [Packet.whole, isText] at own
  | relative isOther _ _ => simp [Packet.motion, isText] at isOther
  | absolute isOther => simp [Packet.motion, isText] at isOther
  | sensor isOther => simp [Packet.motion, isText] at isOther

theorem Ordered.queues (ordered : Ordered config past stream) (queues : Queues stream after holders) :
    Ordered config (past ++ [event]) after := by
  obtain ⟨before, group, earlier, out, whole, isSent, done, holding⟩ := ordered.progress
  refine ⟨⟨before, group, earlier, out, ?_, queues.sent.trans isSent, done.later (List.prefix_append ..), ?_⟩, ?_,
    fun ends => ?_⟩
  · rw [queues.queued, queues.items, whole, List.append_assoc (before ++ group)]
  · rw [queues.thread]
    exact holding
  · rw [queues.items]
    exact List.forall_mem_append.mpr ⟨ordered.formed, queues.formed⟩
  · obtain ⟨none, draining⟩ := ordered.emptied (queues.thread.symm.trans ends)
    rw [queues.items, none, queues.closed draining]
    exact ⟨rfl, queues.draining.trans draining⟩

/-- The thread has finished with the packets that it had taken. -/
theorem Ordered.finish (ordered : Ordered config past stream)
    (ran : run (step config) initializeInputStream past = some stream) (stepped : step config stream event = some after)
    (thread : stream.thread = .busy holder index)
    (outputs : ∀ group earlier out, stream.sent = earlier ++ out → Underway holder index group out →
      Output (reports past) earlier group (out ++ last))
    (unmoved : after.packetQueue = stream.packetQueue) (queued : after.queued = stream.queued)
    (sent : after.sent = stream.sent ++ last) (waits : after.thread = .waiting) :
    Ordered config (past ++ [event]) after := by
  obtain ⟨before, group, earlier, out, whole, isSent, done, holding⟩ := ordered.progress
  rw [thread] at holding
  have output := outputs group earlier out isSent holding
  have whatIsSent : after.sent = earlier ++ (out ++ last) := by rw [sent, isSent, List.append_assoc]
  have finishes : Finishes config past event group (earlier ++ (out ++ last)) := by
    refine ⟨stream, after, ran, stepped, ?_, ?_, whatIsSent⟩
    · rw [thread, Underway.getLast holding]
      rfl
    · rw [waits]
      rfl
  refine ⟨⟨before ++ group, [], earlier ++ (out ++ last), [], ?_, ?_, done.snoc output finishes List.prefix_rfl, ?_⟩,
    ?_, fun ends => ?_⟩
  · rw [queued, unmoved, whole, List.append_nil]
  · rw [whatIsSent, List.append_nil]
  · rw [waits]
    exact ⟨rfl, rfl⟩
  · rw [unmoved]
    exact ordered.formed
  · cases waits.symm.trans ends

/-- The thread goes on with them. -/
theorem Ordered.goOn (ordered : Ordered config past stream) (thread : stream.thread = .busy holder index)
    (goes : ∀ group out, Underway holder index group out → Underway holder index' group (out ++ more))
    (unmoved : after.packetQueue = stream.packetQueue) (queued : after.queued = stream.queued)
    (sent : after.sent = stream.sent ++ more) (busy : after.thread = .busy holder index') :
    Ordered config (past ++ [event]) after := by
  obtain ⟨before, group, earlier, out, whole, isSent, done, holding⟩ := ordered.progress
  rw [thread] at holding
  refine ⟨⟨before, group, earlier, out ++ more, ?_, ?_, done.later (List.prefix_append ..), ?_⟩, ?_, fun ends => ?_⟩
  · rw [queued, unmoved, whole]
  · rw [sent, isSent, List.append_assoc]
  · rw [busy]
    exact goes group out holding
  · rw [unmoved]
    exact ordered.formed
  · cases busy.symm.trans ends

/-- Where the loop ends, a text has no characters left. -/
theorem Underway.textEnds (underway : Underway holder index group out) (isText : holder.packet = .unicode text)
    (finished : ∀ firstByte, text[index]? = some firstByte → codePointLength firstByte = none)
    (reports : Reports) (earlier : List PacketHolder) : Output reports earlier group out := by
  obtain ⟨rfl, chunks, _, begins, complete, rfl⟩ := underway.of_text isText
  refine .text isText chunks (begins ▸ List.take_prefix index text) fun valid => ?_
  obtain ⟨rest, sentAll⟩ := complete valid
  obtain ⟨_, rfl⟩ | ⟨firstByte, character, later, here, _, length, _⟩ := characters_next valid sentAll begins
  · rw [sentAll, List.append_nil]
  · rw [finished firstByte here] at length
    cases length

/-- Each character is a packet of its own. -/
theorem Underway.character (underway : Underway holder index group out) (isText : holder.packet = .unicode text)
    (here : text[index]? = some firstByte) (width : codePointLength firstByte = some length)
    (inside : index + length ≤ text.length) :
    Underway holder (index + length) group
      (out ++ [{ holder with packet := .unicode ((text.drop index).take length) }]) := by
  obtain ⟨rfl, chunks, _, begins, complete, rfl⟩ := underway.of_text isText
  rw [← List.map_singleton (f := fun chunk => ({ holder with packet := .unicode chunk } : PacketHolder)),
    ← List.map_append]
  refine .text isText _ inside ?_ fun valid => ?_
  · rw [List.flatten_append, begins, List.flatten_singleton, List.take_add]
  · obtain ⟨rest, sentAll⟩ := complete valid
    obtain ⟨none, _⟩ | ⟨other, character, later, isHere, rfl, width', isNext⟩ := characters_next valid sentAll begins
    · cases here.symm.trans none
    · obtain rfl := Option.some.inj (here.symm.trans isHere)
      obtain rfl := Option.some.inj (width.symm.trans width')
      exact ⟨later, by rw [sentAll, isNext, List.append_assoc]; rfl⟩

theorem Ordered.turn (ordered : Ordered config past stream) (collected : Collected past stream)
    (ran : run (step config) initializeInputStream past = some stream) (stepped : step config stream event = some after)
    (turn : Turn stream ok after) (alive : after.thread ≠ .failed) : Ordered config (past ++ [event]) after := by
  cases turn with
  | ends thread none draining =>
    obtain ⟨before, group, earlier, out, whole, isSent, done, holding⟩ := ordered.progress
    rw [thread] at holding
    exact ⟨⟨before, group, earlier, out, whole, isSent, done.later (List.prefix_append ..), holding⟩, ordered.formed,
      fun _ => ⟨none, draining⟩⟩
  | @takes holder queue _ thread first isOpen draining =>
    obtain ⟨before, group, earlier, out, whole, isSent, done, holding⟩ := ordered.progress
    rw [thread] at holding
    obtain ⟨rfl, rfl⟩ := holding
    have formed := ordered.formed
    rw [first] at formed whole
    obtain ⟨own, others⟩ := List.forall_mem_cons.mp formed
    refine ⟨⟨before, [holder], earlier, [], ?_, isSent, done.later (List.prefix_append ..), .start holder own⟩, others,
      fun ends => by cases ends⟩
    rw [whole, List.append_nil, List.append_assoc]
    rfl
  | fails failed => exact absurd failed alive
  | settles thread isMark none =>
    refine ordered.finish ran stepped thread (fun group earlier out isSent underway => ?_) rfl rfl
      (List.append_nil _).symm rfl
    obtain ⟨rfl, deltas, moves, rfl⟩ := underway.of_relative isMark
    obtain ⟨x, y⟩ := collected.kept .relative
    rw [isSent, none.1, Int.add_zero] at x
    rw [isSent, none.2, Int.add_zero] at y
    rw [List.append_nil]
    exact .relative isMark deltas moves x y
  | @moves holder index thread isMark some =>
    refine ordered.goOn thread (fun group out underway => ?_) rfl rfl rfl thread
    obtain ⟨rfl, deltas, moves, rfl⟩ := underway.of_relative isMark
    have whole : moved holder deltas ++ [{ holder with packet := stream.currentRelativeMouseState.packet }] =
        moved holder (deltas ++ [(Int16.ofInt (nextDelta stream.currentRelativeMouseState.deltaX),
          Int16.ofInt (nextDelta stream.currentRelativeMouseState.deltaY))]) := by
      rw [moved, moved, List.map_append]
      rfl
    rw [whole]
    refine .relative isMark _ fun among => ?_
    obtain earlier | last := List.mem_append.mp among
    · exact moves earlier
    · obtain ⟨x, y⟩ := Prod.mk.inj (List.mem_singleton.mp last)
      exact some ⟨(nextDelta_eq_zero _).mp x.symm, (nextDelta_eq_zero _).mp y.symm⟩
  | position thread isMark =>
    have last := (collected.kept .absolute).of_waits (collected.dirty_of_busy thread isMark)
    refine ordered.finish ran stepped thread (fun group earlier out _ underway => ?_) rfl rfl rfl rfl
    obtain ⟨rfl, rfl⟩ := underway.of_mark isMark (by decide)
    exact .absolute isMark last
  | @sensor holder index packet thread isMark =>
    have isMark : holder.packet.motion = some (.sensor packet.controllerNumber packet.motionType) := by
      rw [isMark]
      rfl
    have last := (collected.kept (.sensor packet.controllerNumber packet.motionType)).of_waits
      (collected.dirty_of_busy thread isMark)
    refine ordered.finish ran stepped thread (fun group earlier out _ underway => ?_) rfl rfl rfl rfl
    obtain ⟨rfl, rfl⟩ := underway.of_mark isMark fun same => by cases same
    exact .sensor isMark last
  | textEnds thread isText finished =>
    refine ordered.finish ran stepped thread (fun group earlier out isSent underway => ?_) rfl rfl
      (List.append_nil _).symm rfl
    rw [List.append_nil]
    exact underway.textEnds isText finished _ earlier
  | character thread isText here width inside =>
    exact ordered.goOn thread (fun group out underway => underway.character isText here width inside) rfl rfl rfl rfl
  | @batches holder index following queue _ thread first same isOpen draining =>
    obtain ⟨before, group, earlier, out, whole, isSent, done, holding⟩ := ordered.progress
    rw [thread] at holding
    have formed := ordered.formed
    rw [first] at formed whole
    obtain ⟨formed', others⟩ := List.forall_mem_cons.mp formed
    refine ⟨⟨before, group ++ [following], earlier, out, ?_, isSent, done.later (List.prefix_append ..),
      holding.merge same formed'⟩, others, fun ends => by cases ends⟩
    dsimp only
    rw [whole, List.append_assoc, List.append_assoc, List.append_assoc]
    rfl
  | whole thread own =>
    refine ordered.finish ran stepped thread (fun group earlier out _ underway => ?_) rfl rfl rfl rfl
    obtain ⟨_, rfl, rest, rfl, same⟩ := underway.of_whole own
    exact .merged own same

theorem Ordered.step (ordered : Ordered config past stream) (collected : Collected past stream)
    (ran : run (step config) initializeInputStream past = some stream) (isOpen : Open stream.packetQueue)
    (stepped : stream.step config event = some after)
    (alive : after.thread ≠ .failed) : Ordered config (past ++ [event]) after := by
  obtain ⟨ok, rfl⟩ | ⟨holders, queues⟩ | rfl := step_queues stepped
  · exact ordered.turn collected ran stepped (turn_cases isOpen stepped) alive
  · exact ordered.queues queues
  · obtain ⟨before, group, earlier, out, whole, isSent, done, holding⟩ := ordered.progress
    exact ⟨⟨before, group, earlier, out, whole, isSent, done.later (List.prefix_append ..), holding⟩, ordered.formed,
      fun ends => ⟨(ordered.emptied ends).1, rfl⟩⟩

theorem initializeInputStream_ordered (config : InputConfig) : Ordered config [] initializeInputStream :=
  ⟨⟨[], [], [], [], rfl, rfl, .nil, rfl, rfl⟩, fun _ none => absurd none List.not_mem_nil, fun ends => by cases ends⟩

theorem run_ordered (ran : run (step config) initializeInputStream events = some stream)
    (alive : stream.thread ≠ .failed) :
    Open stream.packetQueue ∧ Collected events stream ∧ Ordered config events stream := by
  refine (run_history (fun past stream => run (InputStream.step config) initializeInputStream past = some stream ∧
      (stream.thread ≠ .failed → Open stream.packetQueue ∧ Collected past stream ∧ Ordered config past stream))
    (fun past state event next held stepped => ⟨run_snoc held.1 stepped, fun alive => ?_⟩)
    ⟨run_nil _, fun _ => ⟨⟨rfl, rfl⟩, initializeInputStream_collected, initializeInputStream_ordered config⟩⟩
    ran).2 alive
  obtain ⟨isOpen, collected, ordered⟩ := held.2 (step_alive stepped alive)
  exact ⟨isOpen.step stepped alive, collected.step isOpen stepped alive,
    ordered.step collected held.1 isOpen stepped alive⟩

/-! ## The drain -/

/-- The code point that the thread comes to in a valid text is all there. -/
theorem Underway.uncut (underway : Underway holder index group out)
    (valid : ∀ text, holder.packet = .unicode text → Utf8.Valid text) : Uncut (.busy holder index) := by
  rintro _ _ text firstByte length same isText here width
  obtain ⟨rfl, rfl⟩ := InputSendThread.busy.inj same
  obtain ⟨rfl, chunks, _, begins, complete, rfl⟩ := underway.of_text isText
  obtain ⟨rest, sentAll⟩ := complete (valid text isText)
  obtain ⟨none, _⟩ | ⟨other, character, later, isHere, rfl, width', isNext⟩ :=
    characters_next (valid text isText) sentAll begins
  · cases here.symm.trans none
  · obtain rfl := Option.some.inj (here.symm.trans isHere)
    obtain rfl := Option.some.inj (width.symm.trans width')
    have fits := congrArg List.length isNext
    rw [List.length_take, List.length_drop] at fits
    have some := codePointLength_pos width
    omega

/-! ## What has arrived -/

/-- Never batched and never rewritten. -/
def Packet.alone (packet : Packet) : Bool :=
  packet.whole && (match packet with
    | .multiController _ => false
    | .pen pen => !TOUCH_EVENT_IS_BATCHABLE pen.eventType
    | _ => true)

def alone (holders : List PacketHolder) : List PacketHolder := holders.filter fun holder => Packet.alone holder.packet

def texts (holders : List PacketHolder) : List Bytes :=
  holders.filterMap fun holder => match holder.packet with
    | .unicode text => some text
    | _ => none

theorem alone_append (first second : List PacketHolder) : alone (first ++ second) = alone first ++ alone second :=
  List.filter_append ..

theorem texts_append (first second : List PacketHolder) : texts (first ++ second) = texts first ++ texts second :=
  List.filterMap_append ..

theorem alone_eq_nil (none : ∀ holder ∈ holders, Packet.alone holder.packet = false) : alone holders = [] := by
  rw [alone, List.filter_eq_nil_iff]
  exact fun holder among => Bool.eq_false_iff.mp (none holder among)

theorem alone_of_motion (isMark : packet.motion = some motion) : Packet.alone packet = false := by
  have own : packet.whole = false := by simp [Packet.whole, isMark]
  unfold Packet.alone
  rw [own, Bool.false_and]

theorem alone_of_batchable (same : batchable holder following = true) : Packet.alone holder.packet = false := by
  obtain ⟨_, _, packet⟩ := holder
  obtain ⟨_, _, packet'⟩ := following
  unfold batchable at same
  dsimp only at same
  split at same
  · rfl
  · next pen _ =>
    simp only [Bool.and_eq_true] at same
    exact congrArg not same.1.1
  · cases same

theorem texts_of_whole (own : ∀ holder ∈ holders, holder.packet.whole = true) : texts holders = [] := by
  rw [texts, List.filterMap_eq_nil_iff]
  intro holder among
  split
  · next text isText =>
    have this := own holder among
    rw [isText] at this
    cases this
  · rfl

theorem texts_of_motion (isMark : holder.packet.motion = some motion) : texts [holder] = [] := by
  rw [texts, List.filterMap_cons]
  cases packet : holder.packet with
  | unicode text => simp [Packet.motion, packet] at isMark
  | _ => rfl

theorem alone_output {told : Reports} {earlier : List PacketHolder} (output : Output told earlier group out) :
    alone out = alone group := by
  cases output with
  | @merged rest last own same =>
    rw [alone_append, alone_eq_nil fun other among => alone_of_batchable (same other among), List.nil_append]
  | relative isMark deltas moves x y =>
    rw [alone_eq_nil (List.forall_mem_singleton.mpr (alone_of_motion isMark))]
    apply alone_eq_nil
    intro holder among
    obtain ⟨delta, _, rfl⟩ := List.mem_map.mp among
    rfl
  | absolute isMark last =>
    rw [alone_eq_nil (List.forall_mem_singleton.mpr (alone_of_motion isMark))]
    rfl
  | sensor isMark last =>
    rw [alone_eq_nil (List.forall_mem_singleton.mpr (alone_of_motion isMark))]
    rfl
  | text isText chunks begins complete =>
    rw [alone_eq_nil (List.forall_mem_singleton.mpr (by rw [isText]; rfl))]
    apply alone_eq_nil
    intro holder among
    obtain ⟨chunk, _, rfl⟩ := List.mem_map.mp among
    rfl

theorem texts_output {told : Reports} {earlier : List PacketHolder} (output : Output told earlier group out)
    (valid : ∀ text ∈ texts group, Utf8.Valid text) : texts out = (texts group).flatMap characters := by
  cases output with
  | @merged rest last own same =>
    have whole : ∀ holder ∈ rest ++ [last], holder.packet.whole = true :=
      List.forall_mem_append.mpr ⟨fun other among => (batchable_whole (same other among)).1,
        List.forall_mem_singleton.mpr own⟩
    rw [texts_of_whole whole, texts_of_whole (List.forall_mem_singleton.mpr own)]
    rfl
  | relative isMark deltas moves x y =>
    rw [texts_of_motion isMark, texts, moved, List.filterMap_map]
    exact List.filterMap_eq_nil_iff.mpr fun _ _ => rfl
  | absolute isMark last =>
    rw [texts_of_motion isMark]
    rfl
  | sensor isMark last =>
    rw [texts_of_motion isMark]
    rfl
  | @text text holder isText chunks begins complete =>
    have one : texts [holder] = [text] := by
      rw [texts, List.filterMap_cons, isText]
      rfl
    rw [one, List.flatMap_singleton, ← complete (valid text (by rw [one]; exact List.mem_singleton_self text))]
    rw [texts, List.filterMap_map]
    exact List.filterMap_some

theorem Sent.alone_eq (done : Sent config past taken sent) : alone sent = alone taken := by
  induction done with
  | nil => rfl
  | snoc before output finishes later ih => rw [alone_append, alone_append, ih, alone_output output]

theorem Sent.texts_eq (done : Sent config past taken sent) (valid : ∀ text ∈ texts taken, Utf8.Valid text) :
    texts sent = (texts taken).flatMap characters := by
  induction done with
  | nil => rfl
  | snoc before output finishes later ih =>
    rw [texts_append] at valid
    obtain ⟨earlier, last⟩ := List.forall_mem_append.mp valid
    rw [texts_append, texts_append, List.flatMap_append, ih earlier, texts_output output last]

/-- The thread is on its way through a drained queue. -/
structure Drains (config : InputConfig) (holders : List PacketHolder) (stream : InputStream) : Prop where
  reached : Reachable (step config) initializeInputStream stream
  alive : stream.thread ≠ .failed
  draining : stream.packetQueue.draining = true
  queued : stream.queued = holders

/-- It can go on, and has less left after each turn. -/
theorem Drains.goes (drains : Drains config holders stream) (valid : ∀ text ∈ texts holders, Utf8.Valid text)
    (working : stream.thread ≠ .ended) :
    ∃ next, step config stream (.thread true) = some next ∧ Drains config holders next ∧
      next.remaining < stream.remaining := by
  obtain ⟨past, ran⟩ := drains.reached
  obtain ⟨isOpen, _, ordered⟩ := run_ordered ran drains.alive
  have uncut : Uncut stream.thread := by
    obtain ⟨before, group, earlier, out, whole, _, _, holding⟩ := ordered.progress
    cases thread : stream.thread with
    | busy holder index =>
      rw [thread] at holding
      refine Underway.uncut holding fun text isText => valid text ?_
      obtain ⟨rfl, _⟩ := Underway.of_text holding isText
      rw [← drains.queued, whole, texts_append, texts_append, texts, texts, texts, List.filterMap_cons, isText]
      simp
    | waiting | ended | failed => exact nofun
  obtain ⟨next, turned⟩ := turn_goes drains.draining uncut ⟨working, drains.alive⟩
  have turn := turn_cases isOpen turned
  have stepped : step config stream (.thread true) = some next := turned
  exact ⟨next, stepped, ⟨reachable_next drains.reached stepped, turn.alive drains.alive,
    turn.queue.1.trans drains.draining, turn.queue.2.trans drains.queued⟩, turn.less⟩

theorem Drains.ends (drains : Drains config holders stream) (valid : ∀ text ∈ texts holders, Utf8.Valid text) :
    ∃ turns final, run (step config) stream (List.replicate turns (.thread true)) = some final ∧
      final.thread = .ended ∧ final.queued = holders := by
  obtain ⟨turns, final, ran, drained, ended⟩ := run_ends (Drains config holders) (fun state => state.thread = .ended)
    (Event.thread true) remaining (fun _ drains => drains.goes valid) drains
  exact ⟨turns, final, ran, ended, drained.queued⟩

/-- In every run, as long as no send fails: the packets are sent in the order in which they were
queued, each part of the queue for itself, and the motion that a packet marks as it has been
reported by then. What is neither motion nor batched arrives as it was queued and once, and a text
arrives as its characters. The thread ends with nothing left, and where the queue is drained and
the texts are valid it does end. -/
theorem input_in_order (ran : run (step config) initializeInputStream events = some stream)
    (alive : stream.thread ≠ .failed) :
    (∃ before group earlier out, stream.queued = before ++ group ++ stream.packetQueue.items ∧
      stream.sent = earlier ++ out ∧ Sent config events before earlier ∧ Holding stream.thread group out) ∧
    (stream.thread = .waiting ∨ stream.thread = .ended → stream.packetQueue.items = [] →
      alone stream.sent = alone stream.queued ∧
      ((∀ text ∈ texts stream.queued, Utf8.Valid text) →
        texts stream.sent = (texts stream.queued).flatMap characters)) ∧
    (stream.thread = .ended → stream.packetQueue.items = []) ∧
    (stream.packetQueue.draining = true → (∀ text ∈ texts stream.queued, Utf8.Valid text) →
      ∃ turns final, run (step config) stream (List.replicate turns (.thread true)) = some final ∧
        final.thread = .ended ∧ final.queued = stream.queued) := by
  obtain ⟨_, _, ordered⟩ := run_ordered ran alive
  refine ⟨ordered.progress, fun rests none => ?_, fun ends => (ordered.emptied ends).1, fun draining valid => ?_⟩
  · obtain ⟨before, group, earlier, out, whole, isSent, done, holding⟩ := ordered.progress
    obtain ⟨rfl, rfl⟩ : group = [] ∧ out = [] := by
      obtain waits | ends := rests
      · rw [waits] at holding
        exact holding
      · rw [ends] at holding
        exact holding
    rw [none, List.append_nil, List.append_nil] at whole
    rw [List.append_nil] at isSent
    rw [whole, isSent]
    exact ⟨done.alone_eq, done.texts_eq⟩
  · exact Drains.ends ⟨⟨events, ran⟩, alive, draining, rfl⟩ valid

/-- Two states of a controller go out as one packet, a text as its characters, and two moves as
the one distance. -/
def pressedEvents : List Event :=
  [.start fun _ => true,
    .call (.controller 0x1000 0 0 100 0 0 0) (fun _ => true) 0,
    .call (.controller 0x1000 0 0 200 0 0 0) (fun _ => true) 0,
    .call (.mouseMove 3 4) (fun _ => true) 0,
    .call (.utf8Text [0x61, 0xC3, 0xA9]) (fun _ => true) 0,
    .call (.mouseButton .press 1) (fun _ => true) 0,
    .thread true, .thread true,
    .call (.mouseMove 5 6) (fun _ => true) 0,
    .stop, .drain]

theorem input_in_order_pressed : ∃ turns final,
    run (step sunshineHost) initializeInputStream (pressedEvents ++ List.replicate turns (.thread true)) = some final ∧
      final.thread = .ended ∧ final.packetQueue.items = [] ∧
      alone final.sent = [⟨true, CTRL_CHANNEL_MOUSE, .mouseButton .press 1⟩] ∧
      texts final.sent = [[0x61], [0xC3, 0xA9]] := by
  have observed : (run (step sunshineHost) initializeInputStream pressedEvents).map (fun stream =>
      (decide (stream.thread = .failed), stream.packetQueue.draining, alone stream.queued, texts stream.queued)) =
      some (false, true, [⟨true, CTRL_CHANNEL_MOUSE, .mouseButton .press 1⟩], [[0x61, 0xC3, 0xA9]]) := by
    decide +kernel
  obtain ⟨stream, ran, same⟩ := Option.map_eq_some_iff.mp observed
  simp only [Prod.mk.injEq] at same
  obtain ⟨alive, draining, buttons, written⟩ := same
  have valid : ∀ text ∈ texts stream.queued, Utf8.Valid text := by
    rw [written]
    decide +kernel
  obtain ⟨_, _, _, ends⟩ := input_in_order ran (of_decide_eq_false alive)
  obtain ⟨turns, final, drained, ended, queued⟩ := ends draining valid
  have whole : run (step sunshineHost) initializeInputStream (pressedEvents ++ List.replicate turns (.thread true)) =
      some final := by
    rw [run_append, ran]
    exact drained
  obtain ⟨_, arrives, emptied, _⟩ := input_in_order whole (by rw [ended]; decide)
  obtain ⟨pressed, characters⟩ := arrives (.inr ended) (emptied ended)
  refine ⟨turns, final, whole, ended, emptied ended, ?_, ?_⟩
  · rw [pressed, queued, buttons]
  · rw [characters (queued ▸ valid), queued, written]
    decide +kernel

end InputStream

end MoonlightWeb.MoonlightCommonC

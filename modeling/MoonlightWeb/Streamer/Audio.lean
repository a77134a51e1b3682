import Mathlib.Data.List.Forall2
import MoonlightWeb.Client.OggDemux
import MoonlightWeb.Lib.Machine

/-! The audio from the decoder callback to the page. The callback may not wait and drops
what the task behind it has no room for. The task writes an Ogg page for every sample and
sends the pages in batches, over a channel that keeps their order but may lose some. -/
namespace MoonlightWeb.Streamer
open MoonlightWeb.Client MoonlightWeb.Client.OggPageDemuxer MoonlightWeb.Incremental MoonlightWeb.Machine

/-- The writer of the pages. A packet that fits into one page gets one of its own. -/
structure PacketWriter where
  page : (number : Nat) → Bytes → (serial granulePos : Nat) → Bytes
  isPageOf : ∀ number packet serial granulePos, packet.length ≤ 65024 →
    IsPageOf (page number packet serial granulePos) packet

/-- No packet of the host is larger. -/
def MAX_PACKET_SIZE : Nat := 1400

namespace AudioTask

inductive Location
  | waiting
  | running
  | ended
  deriving DecidableEq

/-- "OpusHead" and what follows it. -/
def idHeader : Bytes :=
  OPUS_HEAD ++ [1, 2, 0, 0, 0x80, 0xbb, 0, 0, 0, 0, 0]

/-- "OpusTags", with "Moonlight" as the vendor. -/
def commentHeader : Bytes :=
  OPUS_TAGS ++ [9, 0, 0, 0, 0x4d, 0x6f, 0x6f, 0x6e, 0x6c, 0x69, 0x67, 0x68, 0x74, 0, 0, 0, 0]

def CHANNEL_SIZE : Nat := 50

def EAGER_FLUSH : Nat := 16 * 1024

def serial : Nat := 12345

end AudioTask

/-- The task with its two channels and the page at the end of them. `accepted` are the
samples that the callback could hand over, `sent` the messages that were made of them,
and `lost` counts the messages that got lost. -/
structure AudioTask where
  location : AudioTask.Location
  sender : Bool
  receiver : List Bytes
  pages : Nat
  granulePos : Nat
  buffer : Bytes
  inFlight : List Bytes
  demuxer : Bytes
  decoded : List Bytes
  accepted : List Bytes
  sent : List Bytes
  lost : Nat

namespace AudioTask

inductive Event
  | sample (data : Bytes)
  | opened (sent : Bool)
  | tick (sent : Bool)
  | recv (sent : Bool)
  | dropSender
  | finish (sent : Bool)
  | lose
  | message

def start : AudioTask where
  location := .waiting
  sender := true
  receiver := []
  pages := 0
  granulePos := 0
  buffer := []
  inFlight := []
  demuxer := []
  decoded := []
  accepted := []
  sent := []
  lost := 0

def decodeAndPlaySample (task : AudioTask) (data : Bytes) : AudioTask :=
  if task.sender ∧ task.location ≠ .ended ∧ task.receiver.length < CHANNEL_SIZE then
    { task with receiver := task.receiver ++ [data], accepted := task.accepted ++ [data] }
  else task

def writePacket (writer : PacketWriter) (task : AudioTask) (packet : Bytes) : AudioTask :=
  { task with
    buffer := task.buffer ++ writer.page task.pages packet serial task.granulePos
    pages := task.pages + 1 }

/-- A send that fails is only logged. -/
def flush (task : AudioTask) (sent : Bool) : AudioTask :=
  if task.buffer.isEmpty then task
  else
    let message := task.buffer
    let task := { task with buffer := [], sent := task.sent ++ [message] }
    if sent then { task with inFlight := task.inFlight ++ [message] }
    else { task with lost := task.lost + 1 }

/-- A sample gets its page. -/
def handleSample (writer : PacketWriter) (samplesPerFrame : Nat) (task : AudioTask) (data : Bytes) (sent : Bool) :
    AudioTask :=
  let task := { task with granulePos := task.granulePos + samplesPerFrame }
  let task := task.writePacket writer data
  if EAGER_FLUSH ≤ task.buffer.length then task.flush sent else task

def step (writer : PacketWriter) (samplesPerFrame : Nat) (task : AudioTask) : Event → Option AudioTask
  | .sample data => some (task.decodeAndPlaySample data)
  | .opened sent =>
    if task.location = .waiting then
      let task := { task with location := .running }
      some (((task.writePacket writer idHeader).writePacket writer commentHeader).flush sent)
    else none
  | .tick sent => if task.location = .running then some (task.flush sent) else none
  | .recv sent =>
    match task.receiver with
    | [] => none
    | data :: rest =>
      if task.location = .running then
        some (handleSample writer samplesPerFrame { task with receiver := rest } data sent)
      else none
  | .dropSender => some { task with sender := false }
  | .finish sent =>
    if task.location = .running ∧ task.receiver = [] ∧ task.sender = false then
      some { task.flush sent with location := .ended }
    else none
  | .lose =>
    match task.inFlight with
    | [] => none
    | _ :: rest => some { task with inFlight := rest, lost := task.lost + 1 }
  | .message =>
    match task.inFlight with
    | [] => none
    | message :: rest =>
      let (packets, demuxer) := push task.demuxer message
      some { task with inFlight := rest, demuxer := demuxer, decoded := task.decoded ++ packets }

/-! ## Messages of whole pages -/

variable {page message packet : Bytes} {pages packets : List Bytes}

/-- What of the packets a demuxer can see. -/
def audible (packets : List Bytes) : List Bytes := packets.filter fun packet => !packet.isEmpty

/-- The message is the pages of these packets. -/
def Carries (message : Bytes) (packets : List Bytes) : Prop :=
  ∃ pages, List.Forall₂ IsPageOf pages packets ∧ (∀ packet ∈ packets, packet.length ≤ 65024) ∧
    message = pages.flatten

theorem carries_nil : Carries [] [] := ⟨[], .nil, fun _ none => absurd none List.not_mem_nil, rfl⟩

theorem Carries.write (carries : Carries message packets) (isPage : IsPageOf page packet)
    (fits : packet.length ≤ 65024) : Carries (message ++ page) (packets ++ [packet]) := by
  obtain ⟨pages, written, sizes, rfl⟩ := carries
  refine ⟨pages ++ [page], List.rel_append written (.cons isPage .nil), ?_, ?_⟩
  · exact List.forall_mem_append.mpr ⟨sizes, fun other among => List.mem_singleton.mp among ▸ fits⟩
  · rw [List.flatten_append, List.flatten_singleton]

/-- A page of nothing, as it is written for a sample that was lost before, gives no packet. -/
theorem readPage_empty (isPage : IsPageOf page []) (rest : Bytes) :
    readPage (page ++ rest) = some ([], page.length) := by
  obtain ⟨fields, width, rfl⟩ := isPage
  have same : CAPTURE_PATTERN ++ fields ++ UInt8.ofNat (lacing ([] : Bytes).length).length ::
      (lacing ([] : Bytes).length).map UInt8.ofNat ++ [] ++ rest =
        (CAPTURE_PATTERN ++ fields ++ [1]) ++ ([0] ++ rest) := by
    simp only [List.append_assoc, List.append_nil]
    rfl
  have start : (CAPTURE_PATTERN ++ fields).length = 26 := by
    rw [List.length_append, width]
    rfl
  have start' : (CAPTURE_PATTERN ++ fields ++ [1]).length = 27 := by rw [List.length_append, start]; rfl
  have count : ((CAPTURE_PATTERN ++ fields ++ [1]) ++ ([0] ++ rest)).getD 26 0 = 1 := by
    rw [List.getD_append _ _ _ _ (by rw [start']; decide), List.getD_append_right _ _ _ _ (Nat.le_of_eq start), start]
    rfl
  have segments : segmentTable ((CAPTURE_PATTERN ++ fields ++ [1]) ++ ([0] ++ rest)) = [0] := by
    rw [segmentTable, count, List.drop_left' start']
    rfl
  have length : (CAPTURE_PATTERN ++ fields ++ UInt8.ofNat (lacing ([] : Bytes).length).length ::
      (lacing ([] : Bytes).length).map UInt8.ofNat ++ []).length = 28 := by
    rw [List.append_nil, List.length_append, start]
    rfl
  rw [same, length]
  refine readPage_eq_some.mpr ?_
  rw [count, segments, List.length_append, start']
  refine ⟨rfl, Nat.le_add_right _ _, ?_, rfl⟩
  rw [List.length_append]
  exact Nat.add_le_add_left (Nat.le_add_right 1 _) 27

theorem nextPage_empty (isPage : IsPageOf page []) (rest : Bytes) : nextPage (page ++ rest) = some ([], rest) := by
  have parsed := readPage_empty isPage rest
  obtain ⟨fields, width, rfl⟩ := isPage
  have begins : hasCapturePattern (CAPTURE_PATTERN ++ fields ++
      UInt8.ofNat (lacing ([] : Bytes).length).length :: (lacing ([] : Bytes).length).map UInt8.ofNat ++
        [] ++ rest) 0 = true := rfl
  rw [nextPage, begins, if_neg (by simp), parsed, Option.map_some, List.drop_left' rfl]

theorem pages_drain_audible (written : List.Forall₂ IsPageOf pages packets)
    (sizes : ∀ packet ∈ packets, packet.length ≤ 65024) :
    Drains nextPage pages.flatten (audible packets) [] := by
  induction written with
  | nil => exact .waits rfl
  | @cons page packet pages packets isPage written ih =>
    obtain ⟨fits, sizes'⟩ := List.forall_mem_cons.mp sizes
    rw [List.flatten_cons]
    cases packet with
    | nil => exact .step (nextPage_empty isPage pages.flatten) (ih sizes')
    | cons byte rest =>
      exact .step (nextPage_page isPage (List.cons_ne_nil _ _) fits pages.flatten) (ih sizes')

/-- A message gives its packets, whatever was lost before it. -/
theorem Carries.push (carries : Carries message packets) : push [] message = (audible packets, []) := by
  obtain ⟨pages, written, sizes, rfl⟩ := carries
  obtain ⟨same, left⟩ := (push_drains [] pages.flatten).unique (pages_drain_audible written sizes)
  exact Prod.ext same left

/-! ## The flow of the samples -/

/-- The packets that the task has to send before any samples. -/
def headers : Location → List Bytes
  | .waiting => []
  | _ => [idHeader, commentHeader]

/-- The packets of the messages that got through. -/
def through (messages : List (Bool × List Bytes)) : List Bytes :=
  messages.flatMap fun message => if message.1 then message.2 else []

/-- Every packet is in a message that the page is past, in one on the way, in the buffer, or
still to be written. The messages are marked with whether they got through, or may yet. -/
structure Flow (task : AudioTask) (past future : List (Bool × List Bytes)) (unsent : List Bytes) : Prop where
  whole : headers task.location ++ task.accepted =
    (past ++ future).flatMap Prod.snd ++ unsent ++ task.receiver
  decoded : task.decoded = audible (through past)
  sent : List.Forall₂ Carries task.sent ((past ++ future).map Prod.snd)
  inFlight : List.Forall₂ Carries task.inFlight ((future.filter Prod.fst).map Prod.snd)
  buffer : Carries task.buffer unsent
  demuxer : task.demuxer = []
  lost : task.lost = ((past ++ future).filter fun message => !message.1).length
  sizes : ∀ data ∈ task.receiver, data.length ≤ MAX_PACKET_SIZE
  room : task.receiver.length ≤ CHANNEL_SIZE
  before : task.location = .waiting → past = [] ∧ future = [] ∧ unsent = []
  after : task.location = .ended → unsent = [] ∧ task.receiver = []

/-- The samples of the decoder callback are no larger than the packets they come in. -/
def Event.Sized : Event → Prop
  | .sample data => data.length ≤ MAX_PACKET_SIZE
  | _ => True

variable {task next : AudioTask} {past future : List (Bool × List Bytes)} {unsent : List Bytes}
variable {writer : PacketWriter}

theorem through_append (first second : List (Bool × List Bytes)) :
    through (first ++ second) = through first ++ through second := List.flatMap_append

theorem audible_append (first second : List Bytes) : audible (first ++ second) = audible first ++ audible second :=
  List.filter_append ..

theorem through_lost {messages : List (Bool × List Bytes)} (lost : ∀ message ∈ messages, ¬message.1 = true) :
    through messages = [] := by
  rw [through, List.flatMap_eq_nil_iff]
  exact fun message among => if_neg (lost message among)

theorem fits_page {data : Bytes} (sized : data.length ≤ MAX_PACKET_SIZE) : data.length ≤ 65024 :=
  Nat.le_trans sized (by decide)

theorem Flow.sample (flow : task.Flow past future unsent) (sized : data.length ≤ MAX_PACKET_SIZE) :
    (task.decodeAndPlaySample data).Flow past future unsent := by
  unfold decodeAndPlaySample
  split
  · next accepts =>
    exact { flow with
      whole := by
        dsimp only
        rw [← List.append_assoc, flow.whole, List.append_assoc, List.append_assoc]
      sizes := List.forall_mem_append.mpr ⟨flow.sizes, fun other among => List.mem_singleton.mp among ▸ sized⟩
      room := by
        dsimp only
        rw [List.length_append]
        exact accepts.2.2
      after := fun ended => absurd ended accepts.2.1 }
  · exact flow

/-- What is in the buffer becomes a message, or gets lost. -/
theorem Flow.flush (flow : task.Flow past future unsent) (location : task.location = .running) (sent : Bool) :
    ∃ messages, (task.flush sent).Flow past (future ++ messages) (if task.buffer.isEmpty then unsent else []) := by
  have running {what : Prop} {place : Location} (other : .running ≠ place) : task.location = place → what :=
    fun same => absurd (location.symm.trans same) other
  unfold AudioTask.flush
  by_cases empty : task.buffer.isEmpty = true
  · refine ⟨[], ?_⟩
    rw [if_pos empty, if_pos empty, List.append_nil]
    exact flow
  rw [if_neg empty, if_neg empty]
  have whole : headers task.location ++ task.accepted =
      (past ++ (future ++ [(sent, unsent)])).flatMap Prod.snd ++ [] ++ task.receiver := by
    simp only [flow.whole, List.flatMap_append, List.flatMap_singleton, List.append_nil, List.append_assoc]
  have lost : task.lost + (if sent then 0 else 1) =
      ((past ++ (future ++ [(sent, unsent)])).filter fun message => !message.1).length := by
    rw [← List.append_assoc, List.filter_append, List.length_append, ← flow.lost]
    cases sent <;> rfl
  have made : List.Forall₂ Carries (task.sent ++ [task.buffer])
      ((past ++ (future ++ [(sent, unsent)])).map Prod.snd) := by
    rw [← List.append_assoc, List.map_append]
    exact List.rel_append flow.sent (.cons flow.buffer .nil)
  refine ⟨[(sent, unsent)], ?_⟩
  cases sent with
  | true =>
    exact { flow with
      whole := whole
      sent := made
      inFlight := by
        rw [List.filter_append, List.map_append]
        exact List.rel_append flow.inFlight (.cons flow.buffer .nil)
      buffer := carries_nil
      lost := lost
      before := running nofun
      after := running nofun }
  | false =>
    exact { flow with
      whole := whole
      sent := made
      inFlight := by
        rw [List.filter_append, List.map_append]
        exact (List.append_nil _).symm ▸ flow.inFlight
      buffer := carries_nil
      lost := lost
      before := running nofun
      after := running nofun }

theorem flush_kept (task : AudioTask) (sent : Bool) :
    (task.flush sent).location = task.location ∧ (task.flush sent).receiver = task.receiver := by
  unfold AudioTask.flush
  split
  · exact ⟨rfl, rfl⟩
  split
  · exact ⟨rfl, rfl⟩
  · exact ⟨rfl, rfl⟩

/-- The message at the front is lost, or demuxed. -/
theorem Flow.front (flow : task.Flow past future unsent) (front : task.inFlight = message :: rest) :
    ∃ earlier group later, future = earlier ++ (true, group) :: later ∧
      (∀ message ∈ earlier, ¬message.1 = true) ∧ Carries message group ∧
      List.Forall₂ Carries rest ((later.filter Prod.fst).map Prod.snd) := by
  have inFlight := flow.inFlight
  rw [front] at inFlight
  obtain ⟨group, others, carries, rest', same⟩ := List.forall₂_cons_left_iff.mp inFlight
  obtain ⟨⟨flag, _⟩, tail, filtered, rfl, rfl⟩ := List.map_eq_cons_iff.mp same
  obtain ⟨earlier, later, rfl, lost, sent, rfl⟩ := List.filter_eq_cons_iff.mp filtered
  obtain rfl : flag = true := sent
  exact ⟨earlier, _, later, rfl, lost, carries, rest'⟩

theorem moved_past (past earlier later : List (Bool × List Bytes)) (group : List Bytes) (arrived : Bool) :
    (past ++ (earlier ++ (true, group) :: later)).map Prod.snd =
      (past ++ (earlier ++ [(arrived, group)]) ++ later).map Prod.snd := by
  simp only [List.map_append, List.map_cons, List.append_assoc]
  rfl

theorem flatMap_snd (messages : List (Bool × List Bytes)) :
    messages.flatMap Prod.snd = (messages.map Prod.snd).flatten := rfl

theorem Flow.lose (flow : task.Flow past future unsent) (front : task.inFlight = message :: rest) :
    ∃ past future, Flow { task with inFlight := rest, lost := task.lost + 1 } past future unsent := by
  obtain ⟨earlier, group, later, rfl, lost, carries, rest'⟩ := flow.front front
  refine ⟨past ++ (earlier ++ [(false, group)]), later, { flow with
    whole := ?_
    decoded := ?_
    sent := ?_
    inFlight := rest'
    lost := ?_
    before := fun waiting => ?_ }⟩
  · rw [flatMap_snd, ← moved_past]
    exact flow.whole
  · rw [through_append, through_append, through_lost lost]
    exact flow.decoded.trans (congrArg audible (List.append_nil _).symm)
  · rw [← moved_past]
    exact flow.sent
  · have count := flow.lost
    simp only [List.filter_append, List.filter_cons, List.length_append] at count ⊢
    rw [count]
    simp only [Bool.not_true, Bool.false_eq_true, if_false, Bool.not_false, if_true, List.filter_nil,
      List.length_cons, List.length_nil]
    omega
  · obtain ⟨_, none, _⟩ := flow.before waiting
    exact absurd none (List.append_ne_nil_of_right_ne_nil _ (List.cons_ne_nil _ _))

theorem Flow.arrive (flow : task.Flow past future unsent) (front : task.inFlight = message :: rest) :
    ∃ past future, Flow { task with
      inFlight := rest
      demuxer := (push task.demuxer message).2
      decoded := task.decoded ++ (push task.demuxer message).1 } past future unsent := by
  obtain ⟨earlier, group, later, rfl, lost, carries, rest'⟩ := flow.front front
  have pushed := carries.push
  rw [flow.demuxer, pushed]
  refine ⟨past ++ (earlier ++ [(true, group)]), later, { flow with
    whole := ?_
    decoded := ?_
    sent := ?_
    inFlight := rest'
    demuxer := rfl
    lost := ?_
    before := fun waiting => ?_ }⟩
  · rw [flatMap_snd, ← moved_past]
    exact flow.whole
  · rw [through_append, through_append, through_lost lost, audible_append, ← flow.decoded]
    exact congrArg (task.decoded ++ audible ·) (List.append_nil group).symm
  · rw [← moved_past]
    exact flow.sent
  · have same : past ++ (earlier ++ [(true, group)]) ++ later = past ++ (earlier ++ (true, group) :: later) := by
      simp only [List.append_assoc, List.singleton_append]
    rw [same]
    exact flow.lost
  · obtain ⟨_, none, _⟩ := flow.before waiting
    exact absurd none (List.append_ne_nil_of_right_ne_nil _ (List.cons_ne_nil _ _))

theorem isPageOf_ne_nil (isPage : IsPageOf page packet) : page ≠ [] := by
  obtain ⟨fields, _, rfl⟩ := isPage
  exact List.cons_ne_nil _ _

theorem Carries.eq_nil (carries : Carries [] packets) : packets = [] := by
  obtain ⟨pages, written, _, flat⟩ := carries
  cases written with
  | nil => rfl
  | cons isPage _ =>
    rw [List.flatten_cons] at flat
    exact absurd (List.append_eq_nil_iff.mp flat.symm).1 (isPageOf_ne_nil isPage)

theorem flush_buffer (task : AudioTask) (sent : Bool) : (task.flush sent).buffer = [] := by
  unfold AudioTask.flush
  split
  · next empty => exact List.isEmpty_iff.mp empty
  split
  · rfl
  · rfl

theorem Flow.opened (flow : task.Flow past future unsent) (location : task.location = .waiting) (sent : Bool) :
    ∃ past future unsent, Flow ((({ task with location := .running } : AudioTask).writePacket writer idHeader
      |>.writePacket writer commentHeader).flush sent) past future unsent := by
  obtain ⟨rfl, rfl, rfl⟩ := flow.before location
  have whole := flow.whole
  rw [location] at whole
  have ready : Flow (({ task with location := .running } : AudioTask).writePacket writer idHeader
      |>.writePacket writer commentHeader) [] [] [idHeader, commentHeader] :=
    { flow with
      whole := congrArg ([idHeader, commentHeader] ++ ·) whole
      buffer := (flow.buffer.write (writer.isPageOf _ _ _ _ (by decide)) (by decide)).write
        (writer.isPageOf _ _ _ _ (by decide)) (by decide)
      before := nofun
      after := nofun }
  obtain ⟨messages, sent'⟩ := ready.flush rfl sent
  exact ⟨_, _, _, sent'⟩

theorem Flow.recv (flow : task.Flow past future unsent) (location : task.location = .running)
    (waiting : task.receiver = data :: rest) (samplesPerFrame : Nat) (sent : Bool) :
    ∃ past future unsent,
      Flow (handleSample writer samplesPerFrame { task with receiver := rest } data sent) past future unsent := by
  have running {what : Prop} {place : Location} (other : .running ≠ place) : task.location = place → what :=
    fun same => absurd (location.symm.trans same) other
  have sizes := flow.sizes
  have room := flow.room
  rw [waiting] at sizes room
  obtain ⟨own, others⟩ := List.forall_mem_cons.mp sizes
  have written : Flow (({ task with
      receiver := rest, granulePos := task.granulePos + samplesPerFrame } : AudioTask).writePacket writer data)
      past future (unsent ++ [data]) :=
    { flow with
      whole := by
        have whole := flow.whole
        rw [waiting] at whole
        rw [← List.append_assoc, List.append_assoc _ [data]]
        exact whole
      buffer := flow.buffer.write (writer.isPageOf _ _ _ _ (fits_page own)) (fits_page own)
      sizes := others
      room := Nat.le_of_succ_le room
      before := running nofun
      after := running nofun }
  unfold handleSample
  dsimp only
  split
  · obtain ⟨messages, flushed⟩ := written.flush location sent
    exact ⟨_, _, _, flushed⟩
  · exact ⟨_, _, _, written⟩

theorem Flow.finish (flow : task.Flow past future unsent) (location : task.location = .running)
    (none : task.receiver = []) (sent : Bool) :
    ∃ past future unsent, Flow { task.flush sent with location := .ended } past future unsent := by
  obtain ⟨messages, flushed⟩ := flow.flush location sent
  obtain ⟨still, receiver⟩ := flush_kept task sent
  have nothing : (if task.buffer.isEmpty then unsent else []) = [] := by
    split
    · next empty =>
      have carries := flow.buffer
      rw [List.isEmpty_iff.mp empty] at carries
      exact carries.eq_nil
    · rfl
  refine ⟨_, _, _, { flushed with
    whole := ?_
    before := nofun
    after := fun _ => ⟨nothing, receiver.trans none⟩ }⟩
  have whole := flushed.whole
  rw [still, location] at whole
  exact whole

theorem Flow.step (flow : task.Flow past future unsent) (sized : event.Sized)
    (stepped : step writer samplesPerFrame task event = some next) :
    ∃ past future unsent, next.Flow past future unsent := by
  cases event with
  | sample data =>
    cases stepped
    exact ⟨_, _, _, flow.sample sized⟩
  | opened sent =>
    obtain ⟨location, same⟩ := Option.ite_none_right_eq_some.mp stepped
    cases same
    exact flow.opened location sent
  | tick sent =>
    obtain ⟨location, same⟩ := Option.ite_none_right_eq_some.mp stepped
    cases same
    obtain ⟨messages, flushed⟩ := flow.flush location sent
    exact ⟨_, _, _, flushed⟩
  | recv sent =>
    cases waiting : task.receiver with
    | nil =>
      rw [AudioTask.step, waiting] at stepped
      cases stepped
    | cons data rest =>
      rw [AudioTask.step, waiting] at stepped
      obtain ⟨location, same⟩ := Option.ite_none_right_eq_some.mp stepped
      cases same
      exact flow.recv location waiting samplesPerFrame sent
  | dropSender =>
    cases stepped
    exact ⟨_, _, _, { flow with }⟩
  | finish sent =>
    obtain ⟨⟨location, none, _⟩, same⟩ := Option.ite_none_right_eq_some.mp stepped
    cases same
    exact flow.finish location none sent
  | lose =>
    cases front : task.inFlight with
    | nil =>
      rw [AudioTask.step, front] at stepped
      cases stepped
    | cons message rest =>
      rw [AudioTask.step, front] at stepped
      cases stepped
      obtain ⟨past, future, kept⟩ := flow.lose front
      exact ⟨past, future, _, kept⟩
  | message =>
    cases front : task.inFlight with
    | nil =>
      rw [AudioTask.step, front] at stepped
      cases stepped
    | cons message rest =>
      rw [AudioTask.step, front] at stepped
      obtain rfl := Option.some.inj stepped
      obtain ⟨past, future, kept⟩ := flow.arrive front
      exact ⟨past, future, _, kept⟩

/-! ## Whole runs -/

theorem Flow.start : start.Flow [] [] [] where
  whole := rfl
  decoded := rfl
  sent := .nil
  inFlight := .nil
  buffer := carries_nil
  demuxer := rfl
  lost := rfl
  sizes := fun _ none => absurd none List.not_mem_nil
  room := Nat.zero_le _
  before := fun _ => ⟨rfl, rfl, rfl⟩
  after := nofun

/-- A batch leaves before it gets too large. -/
theorem step_buffer (short : task.buffer.length < EAGER_FLUSH)
    (stepped : AudioTask.step writer samplesPerFrame task event = some next) :
    next.buffer.length < EAGER_FLUSH := by
  have flushed (task : AudioTask) (sent : Bool) : (task.flush sent).buffer.length < EAGER_FLUSH := by
    rw [flush_buffer]
    decide
  cases event with
  | sample data =>
    cases stepped
    rw [decodeAndPlaySample]
    split
    · exact short
    · exact short
  | opened sent =>
    obtain ⟨_, same⟩ := Option.ite_none_right_eq_some.mp stepped
    cases same
    apply flushed
  | tick sent =>
    obtain ⟨_, same⟩ := Option.ite_none_right_eq_some.mp stepped
    cases same
    apply flushed
  | recv sent =>
    rw [AudioTask.step] at stepped
    split at stepped
    · cases stepped
    obtain ⟨_, same⟩ := Option.ite_none_right_eq_some.mp stepped
    cases same
    rw [handleSample]
    dsimp only
    split
    · apply flushed
    · next small => exact Nat.lt_of_not_le small
  | dropSender =>
    cases stepped
    exact short
  | finish sent =>
    obtain ⟨_, same⟩ := Option.ite_none_right_eq_some.mp stepped
    cases same
    exact flushed task sent
  | lose =>
    rw [AudioTask.step] at stepped
    split at stepped
    · cases stepped
    · cases stepped
      exact short
  | message =>
    rw [AudioTask.step] at stepped
    split at stepped
    · cases stepped
    · obtain rfl := Option.some.inj stepped
      exact short

/-- The page has decoded just these packets, those without content apart, but for the
packets of some messages that got lost. The messages are the first of those that the task
has sent, and each has the packets that it was made of. -/
def Delivered (task : AudioTask) (written : List Bytes) : Prop :=
  ∃ (messages : List (Bool × List Bytes)) (first : List Bytes), first <+: task.sent ∧
    List.Forall₂ Carries first (messages.map Prod.snd) ∧ messages.flatMap Prod.snd = written ∧
    task.decoded = audible (through messages) ∧ (messages.filter fun message => !message.1).length ≤ task.lost

theorem Flow.delivered (flow : task.Flow past future unsent) : task.Delivered (past.flatMap Prod.snd) := by
  have sent := flow.sent
  rw [List.map_append] at sent
  have first := List.forall₂_take_append task.sent (past.map Prod.snd) (future.map Prod.snd) sent
  refine ⟨past, _, List.take_prefix _ _, first, rfl, flow.decoded, ?_⟩
  rw [flow.lost, List.filter_append, List.length_append]
  exact Nat.le_add_right _ _

/-- With no message on the way, all that were sent have come or are lost. -/
theorem Flow.delivered_all (flow : task.Flow past future unsent) (none : task.inFlight = []) :
    task.Delivered ((past ++ future).flatMap Prod.snd) := by
  have inFlight := flow.inFlight
  rw [none] at inFlight
  have lost := List.map_eq_nil_iff.mp (List.forall₂_nil_left_iff.mp inFlight)
  refine ⟨past ++ future, task.sent, List.prefix_rfl, flow.sent, rfl, ?_, Nat.le_of_eq flow.lost.symm⟩
  rw [through_append, through_lost (List.filter_eq_nil_iff.mp lost), List.append_nil]
  exact flow.decoded

/-- The page decodes the headers and the samples that were taken and have content, each one
whole, once and in order, but for lost messages. The queue and the batch stay bounded on the way. Once the task has
ended and no message is on the way, nothing is left behind. -/
theorem audio_reaches_page (sized : ∀ event ∈ events, event.Sized)
    (ran : run (AudioTask.step writer samplesPerFrame) AudioTask.start events = some task) :
    (∃ written rest, headers task.location ++ task.accepted = written ++ rest ∧ task.Delivered written ∧
      (task.location = .ended → task.inFlight = [] → rest = [])) ∧
      task.demuxer = [] ∧ task.receiver.length ≤ CHANNEL_SIZE ∧ task.buffer.length < EAGER_FLUSH := by
  have kept (task : AudioTask) (event : Event) (next : AudioTask) (sized : event.Sized)
      (held : (∃ past future unsent, task.Flow past future unsent) ∧ task.buffer.length < EAGER_FLUSH)
      (stepped : AudioTask.step writer samplesPerFrame task event = some next) :
      (∃ past future unsent, next.Flow past future unsent) ∧ next.buffer.length < EAGER_FLUSH := by
    obtain ⟨⟨past, future, unsent, flow⟩, short⟩ := held
    exact ⟨flow.step sized stepped, step_buffer short stepped⟩
  obtain ⟨⟨past, future, unsent, flow⟩, short⟩ :=
    run_preserves_of sized kept ⟨⟨[], [], [], .start⟩, by decide⟩ ran
  refine ⟨?_, flow.demuxer, flow.room, short⟩
  by_cases complete : task.location = .ended ∧ task.inFlight = []
  · obtain ⟨ended, none⟩ := complete
    obtain ⟨unsent, receiver⟩ := flow.after ended
    refine ⟨_, [], ?_, flow.delivered_all none, fun _ _ => rfl⟩
    have whole := flow.whole
    rw [unsent, receiver, List.append_nil] at whole
    exact whole
  · refine ⟨_, future.flatMap Prod.snd ++ unsent ++ task.receiver, ?_, flow.delivered,
      fun ended none => absurd ⟨ended, none⟩ complete⟩
    rw [flow.whole, List.flatMap_append, List.append_assoc, List.append_assoc, List.append_assoc]

/-- The checksum of a page goes over its bytes with nothing in its own place. -/
def crc (bytes : Bytes) : BitVec 32 :=
  bytes.foldl (fun crc byte =>
    (List.range 8).foldl (fun crc _ => if crc.msb then (crc <<< 1) ^^^ 0x04c11db7#32 else crc <<< 1)
      (crc ^^^ (BitVec.setWidth 32 byte.toBitVec <<< 24))) 0#32

def littleEndian (width value : Nat) : Bytes :=
  (List.range width).map fun place => UInt8.ofNat (value >>> (8 * place))

/-- One packet as one page. The first page begins the stream. -/
def oggPage (number : Nat) (packet : Bytes) (serial granulePos : Nat) : Bytes :=
  let before := [0, if number = 0 then 2 else 0] ++ littleEndian 8 granulePos ++ littleEndian 4 serial ++
    littleEndian 4 number
  let behind := UInt8.ofNat (lacing packet.length).length :: (lacing packet.length).map UInt8.ofNat ++ packet
  let checked := crc (CAPTURE_PATTERN ++ before ++ [0, 0, 0, 0] ++ behind)
  CAPTURE_PATTERN ++ (before ++ littleEndian 4 checked.toNat) ++ behind

def oggWriter : PacketWriter where
  page := oggPage
  isPageOf number packet serial granulePos _ := by
    refine ⟨_, ?_, (List.append_assoc ..).symm⟩
    simp only [littleEndian, List.length_append, List.length_map, List.length_range, List.length_cons,
      List.length_nil]

/-- The message with the second sample is lost. -/
def lossyEvents : List Event :=
  [.sample [1, 2], .opened true, .message, .recv true, .tick true, .sample [3], .recv true, .tick true,
    .sample [], .sample [4, 5, 6], .message, .recv true, .lose, .recv true, .dropSender, .finish true, .message]

theorem audio_reaches_page_lossy : ∃ task,
    run (AudioTask.step oggWriter 240) AudioTask.start lossyEvents = some task ∧
      task.decoded = [idHeader, commentHeader, [1, 2], [4, 5, 6]] ∧
      task.Delivered [idHeader, commentHeader, [1, 2], [3], [], [4, 5, 6]] := by
  have observed : (run (AudioTask.step oggWriter 240) AudioTask.start lossyEvents).map (fun task =>
      (task.decoded, task.accepted, task.location, task.inFlight)) =
      some ([idHeader, commentHeader, [1, 2], [4, 5, 6]], [[1, 2], [3], [], [4, 5, 6]], .ended, []) := by
    decide +kernel
  obtain ⟨task, ran, same⟩ := Option.map_eq_some_iff.mp observed
  simp only [Prod.mk.injEq] at same
  obtain ⟨decoded, accepted, ended, none⟩ := same
  have sized : ∀ event ∈ lossyEvents, event.Sized := by simp [lossyEvents, Event.Sized, MAX_PACKET_SIZE]
  obtain ⟨⟨written, rest, whole, delivered, complete⟩, _⟩ := audio_reaches_page sized ran
  refine ⟨task, ran, decoded, ?_⟩
  rw [complete ended none, List.append_nil, ended, accepted] at whole
  obtain rfl := whole
  exact delivered

end AudioTask

end MoonlightWeb.Streamer

import MoonlightWeb.MoonlightCommonC.InputThread

/-! The motion that is kept beside the queue. One packet in the queue marks it, and goes out
with all that has been reported by then. -/
namespace MoonlightWeb.MoonlightCommonC
open Machine

namespace InputStream

/-- The packet that the thread has taken. -/
def held : InputSendThread → List PacketHolder
  | .busy holder _ => [holder]
  | _ => []

/-- How many packets that are still to go out mark the motion. -/
def marks (stream : InputStream) (motion : Motion) : Nat :=
  (held stream.thread ++ stream.packetQueue.items).countP fun holder => holder.packet.motion = some motion

/-- How far the packets move the pointer along one axis. -/
def travel (along : Int16 → Int16 → Int16) : List PacketHolder → Int
  | [] => 0
  | holder :: rest => (match holder.packet with
    | .mouseMoveRel deltaX deltaY => (along deltaX deltaY).toInt
    | _ => 0) + travel along rest

/-- What the packets say last of the motion. -/
def lastReport (sent : List PacketHolder) (motion : Motion) : Option Packet :=
  (sent.reverse.map PacketHolder.packet).find? fun packet => packet.motion = some motion

/-- The packets tell all of the motion that was reported. -/
def Told (reports : Reports) (sent : List PacketHolder) : Motion → Prop
  | .relative =>
    travel (fun deltaX _ => deltaX) sent = reports.distanceX ∧ travel (fun _ deltaY => deltaY) sent = reports.distanceY
  | .absolute => lastReport sent .absolute = reports.position.map Position.packet
  | .sensor controllerNumber motionType =>
    lastReport sent (.sensor controllerNumber motionType) =
      (reports.sensor controllerNumber motionType).map (Sensor.packet controllerNumber motionType)

/-- What was never reported waits for nothing. -/
def Latest (reported : Option α) (kept : α) (waits : Bool) : Prop :=
  reported = some kept ∨ reported = none ∧ waits = false

/-- The motion that was reported has been sent or is kept. -/
def Kept (reports : Reports) (stream : InputStream) : Motion → Prop
  | .relative =>
    travel (fun deltaX _ => deltaX) stream.sent + stream.currentRelativeMouseState.deltaX = reports.distanceX ∧
      travel (fun _ deltaY => deltaY) stream.sent + stream.currentRelativeMouseState.deltaY = reports.distanceY
  | .absolute =>
    Latest reports.position stream.currentAbsoluteMouseState.toPosition stream.currentAbsoluteMouseState.dirty
  | .sensor controllerNumber motionType =>
    Latest (reports.sensor controllerNumber motionType)
      (stream.currentGamepadSensorState controllerNumber motionType).toSensor
      (stream.currentGamepadSensorState controllerNumber motionType).dirty

def SameReports (before after : Reports) : Motion → Prop
  | .relative => after.distanceX = before.distanceX ∧ after.distanceY = before.distanceY
  | .absolute => after.position = before.position
  | .sensor controllerNumber motionType =>
    after.sensor controllerNumber motionType = before.sensor controllerNumber motionType

/-- A report of motion that is kept, but was not marked in the queue. -/
def Event.refused : Event → Bool
  | .call request _ code => request.motion.isSome && !unheard code && code != 0
  | _ => false

/-- No motion gets lost: it has been sent or is still kept, and where some is kept a packet marks
it, unless a call that brought it was refused. -/
structure Collected (past : List Event) (stream : InputStream) : Prop where
  marked : ∀ motion, stream.marks motion = if stream.dirty motion then 1 else 0
  kept : ∀ motion, Kept (reports past) stream motion
  told : (∀ event ∈ past, event.refused = false) → ∀ motion, stream.dirty motion = false →
    Told (reports past) stream.sent motion

variable {stream next : InputStream} {holder : PacketHolder} {out : List PacketHolder} {past : List Event}
  {event : Event}

theorem travel_append (along : Int16 → Int16 → Int16) (first second : List PacketHolder) :
    travel along (first ++ second) = travel along first + travel along second := by
  induction first with
  | nil => exact (Int.zero_add _).symm
  | cons holder rest ih => rw [List.cons_append, travel, travel, ih, Int.add_assoc]

theorem travel_eq_zero (along : Int16 → Int16 → Int16)
    (other : ∀ holder ∈ out, holder.packet.motion ≠ some .relative) : travel along out = 0 := by
  induction out with
  | nil => rfl
  | cons holder rest ih =>
    obtain ⟨own, others⟩ := List.forall_mem_cons.mp other
    rw [travel, ih others]
    cases packet : holder.packet with
    | mouseMoveRel deltaX deltaY => exact absurd (by rw [packet]; rfl) own
    | _ => rfl

theorem lastReport_append (sent : List PacketHolder) (holder : PacketHolder) (motion : Motion) :
    lastReport (sent ++ [holder]) motion =
      if holder.packet.motion = some motion then some holder.packet else lastReport sent motion := by
  unfold lastReport
  rw [List.reverse_append, List.reverse_singleton, List.singleton_append, List.map_cons, List.find?_cons]
  split <;> simp_all

theorem lastReport_other (other : ∀ holder ∈ out, holder.packet.motion ≠ some motion) (sent : List PacketHolder) :
    lastReport (sent ++ out) motion = lastReport sent motion := by
  induction out generalizing sent with
  | nil => rw [List.append_nil]
  | cons holder rest ih =>
    obtain ⟨own, others⟩ := List.forall_mem_cons.mp other
    rw [List.append_cons, ih others, lastReport_append, if_neg own]

theorem Latest.of_waits (latest : Latest reported kept waits) (isWaiting : waits = true) : reported = some kept := by
  obtain same | ⟨_, clean⟩ := latest
  · exact same
  · cases isWaiting.symm.trans clean

/-! ## One motion at a time -/

theorem SameReports.refl (reports : Reports) (motion : Motion) : SameReports reports reports motion := by
  cases motion with
  | relative => exact ⟨rfl, rfl⟩
  | absolute => rfl
  | sensor controllerNumber motionType => rfl

/-- A motion that nothing is kept, reported or sent of stays as it is. -/
theorem SameMotion.carries {before after : Reports} (same : SameMotion stream next motion)
    (reported : SameReports before after motion) (sent : next.sent = stream.sent ++ out)
    (other : ∀ holder ∈ out, holder.packet.motion ≠ some motion) :
    (Kept before stream motion → Kept after next motion) ∧
      (Told before stream.sent motion → Told after next.sent motion) := by
  cases motion with
  | relative =>
    have same : next.currentRelativeMouseState = stream.currentRelativeMouseState := same
    obtain ⟨distanceX, distanceY⟩ := reported
    unfold Kept Told
    dsimp only
    rw [sent, travel_append, travel_append, travel_eq_zero _ other, travel_eq_zero _ other, Int.add_zero, Int.add_zero,
      same, distanceX, distanceY]
    exact ⟨id, id⟩
  | absolute =>
    have same : next.currentAbsoluteMouseState = stream.currentAbsoluteMouseState := same
    have reported : after.position = before.position := reported
    unfold Kept Told
    dsimp only
    rw [sent, lastReport_other other, same, reported]
    exact ⟨id, id⟩
  | sensor controllerNumber motionType =>
    have same : next.currentGamepadSensorState controllerNumber motionType =
      stream.currentGamepadSensorState controllerNumber motionType := same
    have reported : after.sensor controllerNumber motionType = before.sensor controllerNumber motionType := reported
    unfold Kept Told
    dsimp only
    rw [sent, lastReport_other other, same, reported]
    exact ⟨id, id⟩

/-- A step that touches one motion. -/
theorem Collected.change (collected : Collected past stream) (motion : Motion)
    (others : ∀ other, other ≠ motion → SameMotion stream next other)
    (reported : ∀ other, other ≠ motion → SameReports (reports past) (reports (past ++ [event])) other)
    (marked : next.marks motion = if next.dirty motion then 1 else 0)
    (otherMarks : ∀ other, other ≠ motion → next.marks other = stream.marks other)
    (sent : next.sent = stream.sent ++ out) (own : ∀ holder ∈ out, holder.packet.motion = some motion)
    (kept : Kept (reports (past ++ [event])) next motion)
    (told : event.refused = false → next.dirty motion = false → Told (reports (past ++ [event])) next.sent motion) :
    Collected (past ++ [event]) next := by
  have carries (other : Motion) (isOther : other ≠ motion) :=
    (others other isOther).carries (reported other isOther) sent fun holder among isMark =>
      isOther (Option.some.inj (isMark.symm.trans (own holder among)))
  refine ⟨fun other => ?_, fun other => ?_, fun all other clean => ?_⟩
  · by_cases same : other = motion
    · rw [same]
      exact marked
    · rw [otherMarks other same, collected.marked other, (others other same).dirty]
  · by_cases same : other = motion
    · rw [same]
      exact kept
    · exact (carries other same).1 (collected.kept other)
  · obtain ⟨earlier, last⟩ := List.forall_mem_append.mp all
    by_cases same : other = motion
    · rw [same] at clean ⊢
      exact told (last event List.mem_cons_self) clean
    · exact (carries other same).2 (collected.told earlier other ((others other same).dirty.symm.trans clean))

/-- A step that touches none. -/
theorem Collected.still (collected : Collected past stream) (still : Still stream next)
    (silent : reports (past ++ [event]) = reports past) (sent : next.sent = stream.sent ++ out)
    (plain : ∀ holder ∈ out, holder.packet.motion = none) (marks : ∀ motion, next.marks motion = stream.marks motion) :
    Collected (past ++ [event]) next := by
  have carries (motion : Motion) := (still.same motion).carries (.refl (reports past) motion) sent
    fun holder among isMark => by cases (plain holder among).symm.trans isMark
  refine ⟨fun motion => ?_, fun motion => ?_, fun all motion clean => ?_⟩
  · rw [marks, collected.marked, (still.same motion).dirty]
  · rw [silent]
    exact (carries motion).1 (collected.kept motion)
  · rw [silent]
    exact (carries motion).2 (collected.told (List.forall_mem_append.mp all).1 motion
      ((still.same motion).dirty.symm.trans clean))

/-! ## The thread -/

/-- What the thread has finished with no longer waits to go out. -/
theorem marks_of_busy (thread : stream.thread = .busy holder index) (waits : next.thread = .waiting)
    (items : next.packetQueue.items = stream.packetQueue.items) (motion : Motion) :
    stream.marks motion = next.marks motion + if holder.packet.motion = some motion then 1 else 0 := by
  unfold marks
  rw [thread, waits, items, held, show held .waiting = [] from rfl, List.nil_append, List.singleton_append,
    List.countP_cons]
  simp only [decide_eq_true_eq]

theorem Collected.dirty_of_busy (collected : Collected past stream) (thread : stream.thread = .busy holder index)
    (isMark : holder.packet.motion = some motion) : stream.dirty motion = true := by
  by_contra clean
  have none := collected.marked motion
  rw [if_neg clean, marks, thread, held, List.singleton_append, List.countP_cons,
    if_pos (decide_eq_true isMark)] at none
  exact absurd none (Nat.succ_ne_zero _)

/-- The mark goes with the packet. -/
theorem Collected.marks_own (collected : Collected past stream) (thread : stream.thread = .busy holder index)
    (isMark : holder.packet.motion = some motion) (waits : next.thread = .waiting)
    (items : next.packetQueue.items = stream.packetQueue.items) : next.marks motion = 0 := by
  have counted := marks_of_busy thread waits items motion
  rw [collected.marked, if_pos (collected.dirty_of_busy thread isMark), if_pos isMark] at counted
  exact (Nat.succ.inj counted).symm

theorem marks_others (thread : stream.thread = .busy holder index) (isMark : holder.packet.motion = some motion)
    (waits : next.thread = .waiting) (items : next.packetQueue.items = stream.packetQueue.items) (other : Motion)
    (isOther : other ≠ motion) : next.marks other = stream.marks other := by
  rw [marks_of_busy thread waits items other, if_neg fun same => isOther (Option.some.inj (same.symm.trans isMark)),
    Nat.add_zero]

/-- A packet that marks nothing leaves no motion behind. -/
theorem Collected.finish (collected : Collected past stream) (thread : stream.thread = .busy holder index)
    (plain : holder.packet.motion = none) (still : Still stream next) (waits : next.thread = .waiting)
    (items : next.packetQueue.items = stream.packetQueue.items) (sent : next.sent = stream.sent ++ out)
    (others : ∀ holder ∈ out, holder.packet.motion = none) (silent : reports (past ++ [event]) = reports past) :
    Collected (past ++ [event]) next := by
  refine collected.still still silent sent others fun motion => ?_
  rw [marks_of_busy thread waits items, plain, if_neg nofun, Nat.add_zero]

/-- The thread lets go of the mark of a motion, which waits no longer. -/
theorem Collected.settle (collected : Collected past stream) (thread : stream.thread = .busy holder index)
    (isMark : holder.packet.motion = some motion) (waits : next.thread = .waiting)
    (items : next.packetQueue.items = stream.packetQueue.items) (clean : next.dirty motion = false)
    (others : ∀ other, other ≠ motion → SameMotion stream next other) (sent : next.sent = stream.sent ++ out)
    (own : ∀ holder ∈ out, holder.packet.motion = some motion) (silent : reports (past ++ [event]) = reports past)
    (kept : Kept (reports past) next motion) (told : Told (reports past) next.sent motion) :
    Collected (past ++ [event]) next := by
  rw [← silent] at kept told
  refine collected.change motion others (fun other _ => ?_) ?_ (marks_others thread isMark waits items) sent own kept
    fun _ _ => told
  · rw [silent]
    exact .refl _ other
  · rw [clean, collected.marks_own thread isMark waits items]
    rfl

theorem nextDelta_toInt (delta : Int) : (Int16.ofInt (nextDelta delta)).toInt = nextDelta delta := by
  have low : -0x8000 ≤ nextDelta delta := by
    unfold nextDelta INT16_MIN INT16_MAX
    split
    · decide
    · split <;> omega
  have high : nextDelta delta < 0x8000 := by
    unfold nextDelta INT16_MIN INT16_MAX
    split
    · decide
    · split <;> omega
  exact Int16.toInt_ofInt_of_le low high

theorem Collected.turn (collected : Collected past stream) (turn : Turn stream ok next) (alive : next.thread ≠ .failed)
    (silent : reports (past ++ [event]) = reports past) : Collected (past ++ [event]) next := by
  have nothing {motion : Option Motion} : ∀ holder ∈ ([] : List PacketHolder), holder.packet.motion = motion :=
    fun _ none => absurd none List.not_mem_nil
  cases turn with
  | ends thread none draining =>
    refine collected.still ⟨rfl, rfl, rfl⟩ silent (List.append_nil _).symm nothing fun motion => ?_
    unfold marks
    rw [thread]
    rfl
  | takes thread first isOpen draining =>
    refine collected.still ⟨rfl, rfl, rfl⟩ silent (List.append_nil _).symm nothing fun motion => ?_
    unfold marks
    rw [thread, first]
    rfl
  | fails failed => exact absurd failed alive
  | settles thread isMark none =>
    have kept := collected.kept .relative
    refine collected.settle thread isMark rfl rfl rfl (fun other isOther => ?_) (List.append_nil _).symm nothing silent
      kept ?_
    · cases other with
      | relative => exact absurd rfl isOther
      | absolute | sensor => rfl
    · rw [Kept, none.1, none.2, Int.add_zero, Int.add_zero] at kept
      exact kept
  | moves thread isMark some =>
    have kept := collected.kept .relative
    rw [← silent] at kept
    refine collected.change .relative (fun other isOther => ?_) (fun other _ => ?_) (collected.marked .relative)
      (fun _ _ => rfl) rfl (List.forall_mem_singleton.mpr rfl) ?_ fun _ clean => ?_
    · cases other with
      | relative => exact absurd rfl isOther
      | absolute | sensor => rfl
    · rw [silent]
      exact .refl _ other
    · unfold Kept at kept ⊢
      dsimp only at kept ⊢
      rw [travel_append, travel_append, RelativeMouseState.packet, travel, travel, travel, travel]
      dsimp only
      rw [nextDelta_toInt, nextDelta_toInt]
      omega
    · exact absurd ((collected.dirty_of_busy thread isMark).symm.trans clean) (by decide)
  | position thread isMark =>
    have last := (collected.kept .absolute).of_waits (collected.dirty_of_busy thread isMark)
    refine collected.settle thread isMark rfl rfl rfl (fun other isOther => ?_) rfl (List.forall_mem_singleton.mpr rfl)
      silent (.inl last) ?_
    · cases other with
      | absolute => exact absurd rfl isOther
      | relative | sensor => rfl
    · rw [Told, last]
      exact (lastReport_append ..).trans (if_pos rfl)
  | @sensor holder index packet thread isMark =>
    have isMark : holder.packet.motion = some (.sensor packet.controllerNumber packet.motionType) := by
      rw [isMark]
      rfl
    have last := (collected.kept (.sensor packet.controllerNumber packet.motionType)).of_waits
      (collected.dirty_of_busy thread isMark)
    have state := setSensor_self stream packet.controllerNumber packet.motionType
      { stream.currentGamepadSensorState packet.controllerNumber packet.motionType with dirty := false }
    refine collected.settle thread isMark rfl rfl (congrArg SensorState.dirty state) (fun other isOther => ?_) rfl
      (List.forall_mem_singleton.mpr rfl) silent (.inl ?_) ?_
    · exact (setSensor_same stream _ isOther).trans (Still.same ⟨rfl, rfl, rfl⟩ other)
    · exact last.trans (congrArg (fun state => some state.toSensor) state.symm)
    · rw [Told, last]
      exact (lastReport_append ..).trans (if_pos rfl)
  | textEnds thread isText finished =>
    exact collected.finish thread (by rw [isText]; rfl) ⟨rfl, rfl, rfl⟩ rfl rfl (List.append_nil _).symm nothing silent
  | character thread isText here width inside =>
    refine collected.still ⟨rfl, rfl, rfl⟩ silent rfl (List.forall_mem_singleton.mpr rfl) fun motion => ?_
    unfold marks
    rw [thread]
    rfl
  | batches thread first same isOpen draining =>
    refine collected.still ⟨rfl, rfl, rfl⟩ silent (List.append_nil _).symm nothing fun motion => ?_
    obtain ⟨own, follows, batched⟩ := batchable_whole same
    simp [marks, held, thread, first, motion_of_whole own, motion_of_whole follows, motion_of_whole batched]
  | whole thread own =>
    have plain := motion_of_whole own
    exact collected.finish thread plain ⟨rfl, rfl, rfl⟩ rfl rfl rfl (List.forall_mem_singleton.mpr plain) silent

/-! ## The calls -/

theorem Queues.marks (queues : Queues stream next holders) (motion : Motion) :
    next.marks motion = stream.marks motion + holders.countP fun holder => holder.packet.motion = some motion := by
  unfold InputStream.marks
  rw [queues.thread, queues.items, ← List.append_assoc, List.countP_append]

theorem Marks.marked (marks : Marks motion stream next code)
    (marked : ∀ motion, stream.marks motion = if stream.dirty motion then 1 else 0) :
    next.marks motion = (if next.dirty motion then 1 else 0) ∧
      ∀ other, other ≠ motion → next.marks other = stream.marks other := by
  obtain ⟨holders, queues, given⟩ := marks
  have counted := queues.marks
  obtain ⟨before, after, rfl, _⟩ | ⟨before, after, _, mark, rfl, isMark⟩ | ⟨before, after, rfl, _⟩ := given
  · refine ⟨?_, fun other _ => counted other⟩
    rw [counted, marked, before, after]
    rfl
  · constructor
    · rw [counted, marked, before, after, List.countP_singleton, if_pos (decide_eq_true isMark)]
      rfl
    · intro other isOther
      have unlike : ¬decide (mark.packet.motion = some other) = true := by simpa [isMark] using isOther.symm
      rw [counted, List.countP_singleton, if_neg unlike, Nat.add_zero]
  · refine ⟨?_, fun other _ => counted other⟩
    rw [counted, marked, before, after]
    rfl

theorem Reports.add_others (reports : Reports) (isReport : request.motion = some motion) (isOther : other ≠ motion) :
    SameReports reports (reports.add request) other := by
  cases request with
  | mouseMove deltaX deltaY =>
    cases isReport
    cases other with
    | relative => exact absurd rfl isOther
    | absolute | sensor => rfl
  | mousePosition x y width height =>
    cases isReport
    cases other with
    | relative => exact ⟨rfl, rfl⟩
    | absolute => exact absurd rfl isOther
    | sensor => rfl
  | controllerMotion controllerNumber motionType x y z =>
    cases isReport
    cases other with
    | relative => exact ⟨rfl, rfl⟩
    | absolute => rfl
    | sensor controller motion =>
      refine if_neg ?_
      rintro ⟨rfl, rfl⟩
      exact isOther rfl
  | _ => cases isReport

/-- What is reported is kept. -/
theorem Keeps.kept {before : Reports} (keeps : Keeps stream next request) (isReport : request.motion = some motion)
    (sent : next.sent = stream.sent) (kept : Kept before stream motion) : Kept (before.add request) next motion := by
  cases request with
  | mouseMove deltaX deltaY =>
    cases isReport
    unfold Kept Keeps at *
    dsimp only [Reports.add] at *
    rw [sent, keeps.1, keeps.2]
    omega
  | mousePosition x y width height =>
    cases isReport
    exact .inl (congrArg some keeps.symm)
  | controllerMotion controllerNumber motionType x y z =>
    cases isReport
    exact .inl ((if_pos ⟨rfl, rfl⟩).trans (congrArg some keeps.symm))
  | _ => cases isReport

theorem Collected.plain (collected : Collected past stream) (done : Plain stream next)
    (silent : reports (past ++ [event]) = reports past) : Collected (past ++ [event]) next := by
  obtain ⟨holders, queues, still, plain⟩ := done
  refine collected.still still silent (queues.sent.trans (List.append_nil _).symm)
    (fun _ none => absurd none List.not_mem_nil) fun motion => ?_
  rw [queues.marks, List.countP_eq_zero.mpr, Nat.add_zero]
  intro holder among
  rw [plain holder among]
  nofun

theorem Collected.call (collected : Collected past stream) (effect : Effect stream next code request)
    (allocated : Nat → Bool) : Collected (past ++ [.call request allocated code]) next := by
  have noted := reports_snoc past (.call request allocated code)
  rw [Reports.note] at noted
  cases effect with
  | plain done silent =>
    refine collected.plain done (noted.trans ?_)
    split
    · rfl
    · next heard => exact (silent (reports past)).resolve_left heard
  | @marks motion isReport heard marks others keeps =>
    rw [heard, if_neg Bool.false_ne_true] at noted
    obtain ⟨marked, otherMarks⟩ := marks.marked collected.marked
    obtain ⟨holders, queues, given⟩ := marks
    have kept := keeps.kept isReport queues.sent (collected.kept motion)
    refine collected.change motion others (fun other isOther => ?_) marked otherMarks
      (queues.sent.trans (List.append_nil _).symm) (fun _ none => absurd none List.not_mem_nil) ?_ fun taken clean => ?_
    · rw [noted]
      exact Reports.add_others _ isReport isOther
    · rw [noted]
      exact kept
    · obtain ⟨_, dirty, _⟩ | ⟨_, dirty, _⟩ | ⟨_, _, _, refused⟩ := given
      · cases clean.symm.trans dirty
      · cases clean.symm.trans dirty
      · rw [Event.refused, isReport, heard] at taken
        exact absurd (by simpa using taken) refused

theorem Collected.step (collected : Collected past stream) (isOpen : Open stream.packetQueue)
    (stepped : stream.step config event = some next) (alive : next.thread ≠ .failed) :
    Collected (past ++ [event]) next := by
  have nothing : ∀ holder ∈ ([] : List PacketHolder), holder.packet.motion = none :=
    fun _ none => absurd none List.not_mem_nil
  cases event with
  | start allocated =>
    cases stepped
    exact collected.plain (startInputStream_plain config allocated stream) (reports_snoc past _)
  | call request allocated code =>
    obtain ⟨returned, applied, same⟩ := Option.bind_eq_some_iff.mp stepped
    obtain ⟨isCode, same⟩ := Option.ite_none_right_eq_some.mp same
    obtain rfl := Option.some.inj same
    rw [← isCode]
    exact collected.call (apply_effect applied) allocated
  | thread ok => exact collected.turn (turn_cases isOpen stepped) alive (reports_snoc past _)
  | stop =>
    cases stepped
    exact collected.still ⟨rfl, rfl, rfl⟩ (reports_snoc past _) (List.append_nil _).symm nothing fun _ => rfl
  | drain =>
    cases stepped
    exact collected.still ⟨rfl, rfl, rfl⟩ (reports_snoc past _) (List.append_nil _).symm nothing fun _ => rfl

/-! ## Runs -/

theorem Effect.queues (effect : Effect stream next code request) : ∃ holders, Queues stream next holders := by
  cases effect with
  | plain done _ =>
    obtain ⟨holders, queues, _⟩ := done
    exact ⟨holders, queues⟩
  | marks _ _ marks _ _ =>
    obtain ⟨holders, queues, _⟩ := marks
    exact ⟨holders, queues⟩

/-- A step that is not the thread's only queues. -/
theorem step_queues (stepped : stream.step config event = some next) :
    (∃ ok, event = .thread ok) ∨ (∃ holders, Queues stream next holders) ∨
      next = { stream with packetQueue := stream.packetQueue.signalDrain } := by
  cases event with
  | start allocated =>
    cases stepped
    obtain ⟨holders, queues, _⟩ := startInputStream_plain config allocated stream
    exact .inr (.inl ⟨holders, queues⟩)
  | call request allocated code =>
    obtain ⟨returned, applied, same⟩ := Option.bind_eq_some_iff.mp stepped
    obtain ⟨_, same⟩ := Option.ite_none_right_eq_some.mp same
    obtain rfl := Option.some.inj same
    exact .inr (.inl (apply_effect applied).queues)
  | thread ok => exact .inl ⟨ok, rfl⟩
  | stop =>
    cases stepped
    exact .inr (.inl ⟨[], ⟨rfl, rfl, (List.append_nil _).symm, (List.append_nil _).symm,
      fun _ none => absurd none List.not_mem_nil, rfl, rfl, rfl, fun _ => rfl⟩⟩)
  | drain =>
    cases stepped
    exact .inr (.inr rfl)

theorem Open.step (isOpen : Open stream.packetQueue) (stepped : stream.step config event = some next)
    (alive : next.thread ≠ .failed) : Open next.packetQueue := by
  obtain ⟨ok, rfl⟩ | ⟨holders, queues⟩ | rfl := step_queues stepped
  · exact isOpen.turn (turn_cases isOpen stepped) alive
  · exact isOpen.queues queues
  · exact isOpen

/-- A send that failed was the thread's last. -/
theorem step_alive (stepped : stream.step config event = some next) (alive : next.thread ≠ .failed) :
    stream.thread ≠ .failed := by
  intro failed
  obtain ⟨ok, rfl⟩ | ⟨holders, queues⟩ | rfl := step_queues stepped
  · have stepped : stream.inputSendThreadProc ok = some next := stepped
    rw [inputSendThreadProc, failed] at stepped
    cases stepped
  · exact alive (queues.thread.trans failed)
  · exact alive failed

theorem initializeInputStream_collected : Collected [] initializeInputStream where
  marked := fun motion => by cases motion <;> rfl
  kept := fun motion => by
    cases motion with
    | relative => exact ⟨rfl, rfl⟩
    | absolute => exact .inr ⟨rfl, rfl⟩
    | sensor controllerNumber motionType => exact .inr ⟨rfl, rfl⟩
  told := fun _ motion _ => by
    cases motion with
    | relative => exact ⟨rfl, rfl⟩
    | absolute => rfl
    | sensor controllerNumber motionType => rfl

theorem run_collected (ran : run (step config) initializeInputStream events = some stream)
    (alive : stream.thread ≠ .failed) : Open stream.packetQueue ∧ Collected events stream := by
  refine run_history (fun past stream => stream.thread ≠ .failed → Open stream.packetQueue ∧ Collected past stream)
    (fun past state event next held stepped alive => ?_) (fun _ => ⟨⟨rfl, rfl⟩, initializeInputStream_collected⟩)
    ran alive
  obtain ⟨isOpen, collected⟩ := held (step_alive stepped alive)
  exact ⟨isOpen.step stepped alive, collected.step isOpen stepped alive⟩

/-- In every run, as long as no send fails: the distance that was reported has been sent or is
still kept, of a position and of each sensor the last report is kept, and each motion is marked by
one packet at most. Once all packets have gone out and no report was refused, the host has been
told all of it: the whole distance, the last position and the last state of every sensor. -/
theorem motion_arrives (ran : run (step config) initializeInputStream events = some stream)
    (alive : stream.thread ≠ .failed) :
    (∀ motion, Kept (reports events) stream motion) ∧
    (∀ motion, stream.marks motion ≤ 1) ∧
    (stream.thread = .waiting ∨ stream.thread = .ended → stream.packetQueue.items = [] →
      (∀ event ∈ events, event.refused = false) → ∀ motion, Told (reports events) stream.sent motion) := by
  obtain ⟨_, collected⟩ := run_collected ran alive
  refine ⟨collected.kept, fun motion => ?_, fun rests none all motion => ?_⟩
  · rw [collected.marked]
    split <;> decide
  · refine collected.told all motion ?_
    have unmarked : stream.marks motion = 0 := by
      obtain waits | ends := rests
      · rw [marks, waits, none]
        rfl
      · rw [marks, ends, none]
        rfl
    rw [collected.marked] at unmarked
    by_contra dirty
    rw [if_pos (Bool.not_eq_false _ ▸ dirty)] at unmarked
    cases unmarked

def sunshineHost : InputConfig := ⟨7, true, false, true, true, false⟩

/-- Two moves go out together, in as many packets as their distance needs. -/
def movedEvents : List Event :=
  [.call (.mouseMove 7 7) (fun _ => true) (-2),
    .start fun _ => true,
    .call (.mouseMove 30000 5) (fun _ => true) 0,
    .call (.mousePosition 10 20 1920 1080) (fun _ => true) 0,
    .call (.controllerMotion 17 1 3 4 5) (fun _ => true) 0,
    .call (.mouseMove 30000 (-5)) (fun _ => true) 0,
    .call (.controllerMotion 1 1 6 7 8) (fun _ => true) 0,
    .thread true, .thread true, .thread true, .thread true, .thread true, .thread true, .thread true, .thread true]

theorem motion_arrives_moved : ∃ stream, run (step sunshineHost) initializeInputStream movedEvents = some stream ∧
    travel (fun deltaX _ => deltaX) stream.sent = 60000 ∧ travel (fun _ deltaY => deltaY) stream.sent = 0 ∧
      lastReport stream.sent .absolute = some (.mouseMoveAbs 10 20 1919 1079) ∧
      lastReport stream.sent (.sensor 1 1) = some (.controllerMotion ⟨1, 1, 6, 7, 8⟩) := by
  have observed : (run (step sunshineHost) initializeInputStream movedEvents).map (fun stream =>
      (stream.thread, stream.packetQueue.items)) = some (.waiting, []) := by decide +kernel
  obtain ⟨stream, ran, same⟩ := Option.map_eq_some_iff.mp observed
  obtain ⟨waits, none⟩ := Prod.mk.inj same
  obtain ⟨_, _, told⟩ := motion_arrives ran (by rw [waits]; decide)
  have all := told (.inl waits) none (by decide)
  obtain ⟨x, y⟩ := all .relative
  exact ⟨stream, ran, x, y, all .absolute, all (.sensor 1 1)⟩

end InputStream

end MoonlightWeb.MoonlightCommonC

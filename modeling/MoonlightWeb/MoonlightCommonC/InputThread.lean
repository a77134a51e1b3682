import MoonlightWeb.MoonlightCommonC.InputCalls

/-! What the sending thread does at its next turn: it takes a packet or finds that none will
come, it sends one, or it has come to the end of what goes out in pieces. -/
namespace MoonlightWeb.MoonlightCommonC
open Machine

/-- Sent as it was queued, or as the last of a batch. -/
def Packet.whole (packet : Packet) : Bool :=
  packet.motion.isNone && (match packet with | .unicode _ => false | _ => true)

/-- The packet that tells the host of this position. -/
def Position.packet (position : Position) : Packet :=
  .mouseMoveAbs position.x position.y (position.width - 1) (position.height - 1)

/-- The packet that tells the host of this state of a sensor. -/
def Sensor.packet (controllerNumber motionType : UInt8) (sensor : Sensor) : Packet :=
  .controllerMotion ⟨controllerNumber, motionType, sensor.x, sensor.y, sensor.z⟩

/-- Only a gyroscope at rest is told reliably. -/
def Sensor.reliable (motionType : UInt8) (sensor : Sensor) : Bool :=
  decide (motionType = LI_MOTION_TYPE_GYRO ∧ sensor.x.isZero ∧ sensor.y.isZero ∧ sensor.z.isZero)

/-- The packet that tells the host of as much of the motion as one can carry. -/
def RelativeMouseState.packet (state : RelativeMouseState) : Packet :=
  .mouseMoveRel (Int16.ofInt (InputStream.nextDelta state.deltaX)) (Int16.ofInt (InputStream.nextDelta state.deltaY))

namespace InputStream

/-- Nobody shuts the queue down or wakes the thread at it. -/
def Open (queue : BlockingQueue PacketHolder) : Prop := queue.shutdown = false ∧ queue.pendingUserWake = false

inductive Turn (stream : InputStream) : Bool → InputStream → Prop
  | ends (thread : stream.thread = .waiting) (none : stream.packetQueue.items = [])
      (draining : stream.packetQueue.draining = true) : Turn stream ok { stream with thread := .ended }
  | takes (thread : stream.thread = .waiting) (first : stream.packetQueue.items = holder :: queue.items)
      (isOpen : Open queue) (draining : queue.draining = stream.packetQueue.draining) :
      Turn stream ok { stream with packetQueue := queue, thread := .busy holder 0 }
  | fails (failed : next.thread = .failed) : Turn stream false next
  | settles (thread : stream.thread = .busy holder index) (isMark : holder.packet.motion = some .relative)
      (none : stream.currentRelativeMouseState.deltaX = 0 ∧ stream.currentRelativeMouseState.deltaY = 0) :
      Turn stream ok { stream with
        currentRelativeMouseState := { stream.currentRelativeMouseState with dirty := false }
        thread := .waiting }
  | moves (thread : stream.thread = .busy holder index) (isMark : holder.packet.motion = some .relative)
      (some : ¬(stream.currentRelativeMouseState.deltaX = 0 ∧ stream.currentRelativeMouseState.deltaY = 0)) :
      Turn stream true { stream with
        currentRelativeMouseState := { stream.currentRelativeMouseState with
          deltaX := stream.currentRelativeMouseState.deltaX - nextDelta stream.currentRelativeMouseState.deltaX
          deltaY := stream.currentRelativeMouseState.deltaY - nextDelta stream.currentRelativeMouseState.deltaY }
        sent := stream.sent ++ [{ holder with packet := stream.currentRelativeMouseState.packet }] }
  | position (thread : stream.thread = .busy holder index) (isMark : holder.packet.motion = some .absolute) :
      Turn stream true { stream with
        currentAbsoluteMouseState := { stream.currentAbsoluteMouseState with dirty := false }
        sent := stream.sent ++ [{ holder with packet := stream.currentAbsoluteMouseState.toPosition.packet }]
        thread := .waiting }
  | sensor (thread : stream.thread = .busy holder index) (isMark : holder.packet = .controllerMotion packet) :
      Turn stream true { stream.setSensor packet.controllerNumber packet.motionType
          { stream.currentGamepadSensorState packet.controllerNumber packet.motionType with dirty := false } with
        sent := stream.sent ++ [{ holder with
          reliable := (stream.currentGamepadSensorState packet.controllerNumber
            packet.motionType).toSensor.reliable packet.motionType
          packet := (stream.currentGamepadSensorState packet.controllerNumber
            packet.motionType).toSensor.packet packet.controllerNumber packet.motionType }]
        thread := .waiting }
  | textEnds (thread : stream.thread = .busy holder index) (isText : holder.packet = .unicode text)
      (finished : ∀ firstByte, text[index]? = some firstByte → codePointLength firstByte = none) :
      Turn stream ok { stream with thread := .waiting }
  | character (thread : stream.thread = .busy holder index) (isText : holder.packet = .unicode text)
      (here : text[index]? = some firstByte) (width : codePointLength firstByte = some length)
      (inside : index + length ≤ text.length) :
      Turn stream true { stream with
        sent := stream.sent ++ [{ holder with packet := .unicode ((text.drop index).take length) }]
        thread := .busy holder (index + length) }
  | batches (thread : stream.thread = .busy holder index)
      (first : stream.packetQueue.items = following :: queue.items) (same : batchable holder following = true)
      (isOpen : Open queue) (draining : queue.draining = stream.packetQueue.draining) :
      Turn stream ok { stream with packetQueue := queue, thread := .busy (batch holder following) index }
  | whole (thread : stream.thread = .busy holder index) (own : holder.packet.whole = true) :
      Turn stream true { stream with sent := stream.sent ++ [holder], thread := .waiting }

variable {stream next : InputStream} {holder following : PacketHolder}

/-- What the thread finds at an open queue, which lets it go only when it is drained. -/
theorem turn_waiting (isOpen : Open stream.packetQueue) (thread : stream.thread = .waiting)
    (stepped : stream.inputSendThreadProc ok = some next) : Turn stream ok next := by
  obtain ⟨running, unwoken⟩ := isOpen
  rw [inputSendThreadProc, thread] at stepped
  dsimp only at stepped
  by_cases idle : stream.packetQueue.Idle
  · rw [BlockingQueue.wait_eq_none.mpr idle] at stepped
    cases stepped
  rw [BlockingQueue.wait, if_neg idle, if_neg (by rw [running]; decide), if_neg (by rw [unwoken]; decide)] at stepped
  cases first : stream.packetQueue.items with
  | nil =>
    have draining : stream.packetQueue.draining = true := by
      by_contra notDraining
      exact idle ⟨first, Bool.eq_false_iff.mpr notDraining, running, unwoken⟩
    rw [BlockingQueue.poll_nil running first] at stepped
    cases stepped
    exact .ends thread first draining
  | cons holder rest =>
    rw [BlockingQueue.poll_cons running first (stream.packetQueue.bounded_of_cons first)] at stepped
    cases stepped
    exact .takes thread first ⟨running, unwoken⟩ rfl

theorem turn_relative (thread : stream.thread = .busy holder index) (isMark : holder.packet.motion = some .relative)
    (ok : Bool) : Turn stream ok (stream.sendMotion holder ok) := by
  unfold sendMotion
  dsimp only
  split
  · next none => exact .settles thread isMark none
  · next some =>
    cases ok with
    | true => exact .moves thread isMark some
    | false => exact .fails rfl

theorem turn_absolute (thread : stream.thread = .busy holder index) (isMark : holder.packet.motion = some .absolute)
    (ok : Bool) : Turn stream ok (stream.sendPosition holder ok) := by
  cases ok with
  | true => exact .position thread isMark
  | false => exact .fails rfl

theorem turn_sensor (thread : stream.thread = .busy holder index) (isMark : holder.packet = .controllerMotion packet)
    (ok : Bool) : Turn stream ok (stream.sendSensor holder packet ok) := by
  cases ok with
  | true => exact .sensor thread isMark
  | false => exact .fails rfl

theorem turn_text (thread : stream.thread = .busy holder index) (isText : holder.packet = .unicode text)
    (stepped : stream.sendText holder text index ok = some next) : Turn stream ok next := by
  unfold sendText at stepped
  cases here : text[index]? with
  | none =>
    rw [here] at stepped
    cases stepped
    exact .textEnds thread isText fun firstByte isHere => absurd (here.symm.trans isHere) nofun
  | some firstByte =>
    rw [here] at stepped
    dsimp only at stepped
    cases width : codePointLength firstByte with
    | none =>
      rw [width] at stepped
      cases stepped
      refine .textEnds thread isText fun other isHere => ?_
      obtain rfl := Option.some.inj (here.symm.trans isHere)
      exact width
    | some length =>
      rw [width] at stepped
      obtain ⟨inside, same⟩ := Option.ite_none_right_eq_some.mp stepped
      obtain rfl := Option.some.inj same
      cases ok with
      | true => exact .character thread isText here width inside
      | false => exact .fails rfl

/-- What is not rewritten is sent, or goes out as the next packet. -/
theorem turn_whole (isOpen : Open stream.packetQueue) (thread : stream.thread = .busy holder index)
    (own : holder.packet.whole = true)
    (stepped : (match stream.packetQueue.peek with
      | (_, some following) =>
        if batchable holder following then
          some { stream with
            packetQueue := stream.packetQueue.poll.2.2
            thread := .busy (batch holder following) index }
        else some (stream.sendInputPacket holder ok .waiting)
      | (_, none) => some (stream.sendInputPacket holder ok .waiting)) = some next) : Turn stream ok next := by
  have sends : Turn stream ok (stream.sendInputPacket holder ok .waiting) := by
    cases ok with
    | true => exact .whole thread own
    | false => exact .fails rfl
  obtain ⟨running, unwoken⟩ := isOpen
  rw [BlockingQueue.peek, if_neg (by rw [running]; decide)] at stepped
  cases first : stream.packetQueue.items with
  | nil =>
    rw [first] at stepped
    cases stepped
    exact sends
  | cons following rest =>
    rw [first] at stepped
    dsimp only at stepped
    split at stepped
    · next same =>
      rw [BlockingQueue.poll_cons running first (stream.packetQueue.bounded_of_cons first)] at stepped
      cases stepped
      exact .batches thread first same ⟨running, unwoken⟩ rfl
    · cases stepped
      exact sends

/-- Every turn of the thread is one of these. -/
theorem turn_cases (isOpen : Open stream.packetQueue) (stepped : stream.inputSendThreadProc ok = some next) :
    Turn stream ok next := by
  cases thread : stream.thread with
  | waiting => exact turn_waiting isOpen thread stepped
  | ended =>
    rw [inputSendThreadProc, thread] at stepped
    cases stepped
  | failed =>
    rw [inputSendThreadProc, thread] at stepped
    cases stepped
  | busy holder index =>
    rw [inputSendThreadProc, thread] at stepped
    dsimp only at stepped
    cases packet : holder.packet with
    | mouseMoveRel deltaX deltaY =>
      rw [packet] at stepped
      cases stepped
      exact turn_relative thread (by rw [packet]; rfl) ok
    | mouseMoveAbs x y width height =>
      rw [packet] at stepped
      cases stepped
      exact turn_absolute thread (by rw [packet]; rfl) ok
    | controllerMotion motion =>
      rw [packet] at stepped
      cases stepped
      exact turn_sensor thread packet ok
    | unicode text =>
      rw [packet] at stepped
      exact turn_text thread packet stepped
    | haptics | keyboard | mouseButton | controller | multiController | scroll | hscroll | touch | pen
    | controllerArrival | controllerTouch | controllerBattery =>
      rw [packet] at stepped
      exact turn_whole isOpen thread (by rw [packet]; rfl) stepped

theorem Open.queues (isOpen : Open stream.packetQueue) (queues : Queues stream next holders) : Open next.packetQueue :=
  ⟨queues.shutdown.trans isOpen.1, queues.pendingUserWake.trans isOpen.2⟩

theorem Open.turn (isOpen : Open stream.packetQueue) (turn : Turn stream ok next) (alive : next.thread ≠ .failed) :
    Open next.packetQueue := by
  cases turn with
  | takes _ _ isOpen' _ => exact isOpen'
  | batches _ _ _ isOpen' _ => exact isOpen'
  | fails failed => exact absurd failed alive
  | ends | settles | moves | position | sensor | textEnds | character | whole => exact isOpen

theorem motion_of_whole {packet : Packet} (own : packet.whole = true) : packet.motion = none := by
  cases packet with
  | mouseMoveRel | mouseMoveAbs | controllerMotion => cases own
  | _ => rfl

theorem batchable_whole (same : batchable holder following = true) :
    holder.packet.whole = true ∧ following.packet.whole = true ∧ (batch holder following).packet.whole = true := by
  obtain ⟨_, _, packet⟩ := holder
  obtain ⟨_, _, packet'⟩ := following
  unfold batchable at same
  unfold batch
  dsimp only at same ⊢
  split at same
  · exact ⟨rfl, rfl, rfl⟩
  · exact ⟨rfl, rfl, rfl⟩
  · cases same

/-! ## The end of the thread -/

/-- How many bytes of a text are not sent yet. -/
def textLeft (holder : PacketHolder) (next : Nat) : Nat :=
  match holder.packet with
  | .unicode text => text.length - next
  | _ => 0

/-- No fewer turns than the thread needs for all that is queued and kept. -/
def remaining (stream : InputStream) : Nat :=
  stream.currentRelativeMouseState.deltaX.natAbs + stream.currentRelativeMouseState.deltaY.natAbs +
    stream.packetQueue.items.foldr (fun holder left => textLeft holder 0 + 2 + left) 0 +
    match stream.thread with
    | .waiting => 1
    | .busy holder next => textLeft holder next + 2
    | .ended => 0
    | .failed => 0

theorem textLeft_of_whole (own : holder.packet.whole = true) (index : Nat) : textLeft holder index = 0 := by
  unfold textLeft
  split
  · next isText =>
    rw [isText] at own
    cases own
  · rfl

theorem codePointLength_pos (width : codePointLength firstByte = some length) : 0 < length := by
  unfold codePointLength at width
  repeat' split at width
  all_goals cases width
  all_goals decide

theorem natAbs_nextDelta (delta : Int) : (delta - nextDelta delta).natAbs ≤ delta.natAbs ∧
    (delta ≠ 0 → (delta - nextDelta delta).natAbs < delta.natAbs) := by
  unfold nextDelta INT16_MIN INT16_MAX
  split
  · omega
  · split <;> omega

/-- Every turn that does not fail brings the thread nearer to its end. -/
theorem Turn.less (turn : Turn stream true next) : next.remaining < stream.remaining := by
  cases turn with
  | ends thread none draining =>
    unfold remaining
    rw [thread]
    dsimp only
    omega
  | takes thread first isOpen draining =>
    unfold remaining
    rw [thread, first, List.foldr_cons]
    dsimp only
    omega
  | settles thread isMark none =>
    unfold remaining
    rw [thread]
    dsimp only
    omega
  | moves thread isMark some =>
    have x := natAbs_nextDelta stream.currentRelativeMouseState.deltaX
    have y := natAbs_nextDelta stream.currentRelativeMouseState.deltaY
    unfold remaining
    dsimp only
    omega
  | position thread isMark =>
    unfold remaining
    rw [thread]
    dsimp only
    omega
  | sensor thread isMark =>
    unfold remaining
    rw [thread]
    dsimp only [setSensor]
    omega
  | textEnds thread isText finished =>
    unfold remaining
    rw [thread]
    dsimp only
    omega
  | character thread isText here width inside =>
    have some := codePointLength_pos width
    unfold remaining
    rw [thread]
    dsimp only
    rw [textLeft, textLeft, isText]
    dsimp only
    omega
  | batches thread first same isOpen draining =>
    unfold remaining
    rw [thread, first, List.foldr_cons]
    dsimp only
    rw [textLeft_of_whole (batchable_whole same).2.2]
    omega
  | whole thread own =>
    unfold remaining
    rw [thread]
    dsimp only
    omega

theorem Turn.alive (turn : Turn stream true next) (alive : stream.thread ≠ .failed) : next.thread ≠ .failed := by
  cases turn with
  | moves thread isMark some => exact alive
  | ends | takes | settles | position | sensor | textEnds | character | batches | whole => exact nofun

/-- The thread queues nothing and does not close the queue. -/
theorem Turn.queue (turn : Turn stream true next) :
    next.packetQueue.draining = stream.packetQueue.draining ∧ next.queued = stream.queued := by
  cases turn with
  | takes thread first isOpen draining => exact ⟨draining, rfl⟩
  | batches thread first same isOpen draining => exact ⟨draining, rfl⟩
  | ends | settles | moves | position | sensor | textEnds | character | whole => exact ⟨rfl, rfl⟩

/-- No code point of the text that the thread is sending is cut off. -/
def Uncut (thread : InputSendThread) : Prop :=
  ∀ holder index text firstByte length, thread = .busy holder index → holder.packet = .unicode text →
    text[index]? = some firstByte → codePointLength firstByte = some length → index + length ≤ text.length

/-- At a drained queue nothing holds the thread up. -/
theorem turn_goes (draining : stream.packetQueue.draining = true) (uncut : Uncut stream.thread)
    (working : stream.thread ≠ .ended ∧ stream.thread ≠ .failed) :
    ∃ next, stream.inputSendThreadProc true = some next := by
  unfold inputSendThreadProc
  cases thread : stream.thread with
  | ended => exact absurd thread working.1
  | failed => exact absurd thread working.2
  | waiting =>
    dsimp only
    cases found : stream.packetQueue.wait with
    | none =>
      rw [BlockingQueue.wait_eq_none] at found
      exact absurd (draining.symm.trans found.2.1) (by decide)
    | some result =>
      obtain ⟨status, _ | holder, queue⟩ := result
      · exact ⟨_, rfl⟩
      · exact ⟨_, rfl⟩
  | busy holder index =>
    dsimp only
    split
    · exact ⟨_, rfl⟩
    · exact ⟨_, rfl⟩
    · exact ⟨_, rfl⟩
    · next text isText =>
      unfold sendText
      split
      · exact ⟨_, rfl⟩
      · next firstByte here =>
        split
        · exact ⟨_, rfl⟩
        · next length width =>
          rw [if_pos (uncut holder index text firstByte length thread isText here width)]
          exact ⟨_, rfl⟩
    · split
      · split
        · exact ⟨_, rfl⟩
        · exact ⟨_, rfl⟩
      · exact ⟨_, rfl⟩

end InputStream

end MoonlightWeb.MoonlightCommonC

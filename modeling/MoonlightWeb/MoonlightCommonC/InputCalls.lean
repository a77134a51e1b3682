import MoonlightWeb.MoonlightCommonC.InputStream

/-! What a call of the application can do: it queues packets, of which none stands for
motion, or it adds to some motion and marks that in the queue at most once. -/
namespace MoonlightWeb.MoonlightCommonC
open Machine

/-- The motion that is kept beside the queue. -/
inductive Motion
  | relative
  | absolute
  | sensor (controllerNumber motionType : UInt8)
  deriving DecidableEq

/-- What the packet marks. -/
def Packet.motion : Packet → Option Motion
  | .mouseMoveRel _ _ => some .relative
  | .mouseMoveAbs _ _ _ _ => some .absolute
  | .controllerMotion packet => some (.sensor packet.controllerNumber packet.motionType)
  | _ => none

namespace InputStream

def dirty (stream : InputStream) : Motion → Bool
  | .relative => stream.currentRelativeMouseState.dirty
  | .absolute => stream.currentAbsoluteMouseState.dirty
  | .sensor controllerNumber motionType => (stream.currentGamepadSensorState controllerNumber motionType).dirty

/-- A controller packet goes out reliably on the channel of its controller. -/
def Formed (holder : PacketHolder) : Prop :=
  ∀ packet, holder.packet = .multiController packet → holder.reliable = true ∧
    holder.channelId = CTRL_CHANNEL_GAMEPAD_BASE + packet.controllerNumber.toUInt16.toUInt8

/-- These packets are queued, and the thread is left alone. -/
structure Queues (stream next : InputStream) (holders : List PacketHolder) : Prop where
  thread : next.thread = stream.thread
  sent : next.sent = stream.sent
  queued : next.queued = stream.queued ++ holders
  items : next.packetQueue.items = stream.packetQueue.items ++ holders
  formed : ∀ holder ∈ holders, Formed holder
  shutdown : next.packetQueue.shutdown = stream.packetQueue.shutdown
  draining : next.packetQueue.draining = stream.packetQueue.draining
  pendingUserWake : next.packetQueue.pendingUserWake = stream.packetQueue.pendingUserWake
  closed : stream.packetQueue.draining = true → holders = []

/-- No motion is touched. -/
structure Still (stream next : InputStream) : Prop where
  relative : next.currentRelativeMouseState = stream.currentRelativeMouseState
  absolute : next.currentAbsoluteMouseState = stream.currentAbsoluteMouseState
  sensor : next.currentGamepadSensorState = stream.currentGamepadSensorState

def SameMotion (stream next : InputStream) : Motion → Prop
  | .relative => next.currentRelativeMouseState = stream.currentRelativeMouseState
  | .absolute => next.currentAbsoluteMouseState = stream.currentAbsoluteMouseState
  | .sensor controllerNumber motionType =>
    next.currentGamepadSensorState controllerNumber motionType =
      stream.currentGamepadSensorState controllerNumber motionType

variable {stream middle next : InputStream} {first second : List PacketHolder}

theorem Queues.refl : Queues stream stream [] where
  thread := rfl
  sent := rfl
  queued := (List.append_nil _).symm
  items := (List.append_nil _).symm
  formed := fun _ none => absurd none List.not_mem_nil
  shutdown := rfl
  draining := rfl
  pendingUserWake := rfl
  closed := fun _ => rfl

theorem Queues.trans (earlier : Queues stream middle first) (later : Queues middle next second) :
    Queues stream next (first ++ second) where
  thread := later.thread.trans earlier.thread
  sent := later.sent.trans earlier.sent
  queued := by rw [later.queued, earlier.queued, List.append_assoc]
  items := by rw [later.items, earlier.items, List.append_assoc]
  formed := List.forall_mem_append.mpr ⟨earlier.formed, later.formed⟩
  shutdown := later.shutdown.trans earlier.shutdown
  draining := later.draining.trans earlier.draining
  pendingUserWake := later.pendingUserWake.trans earlier.pendingUserWake
  closed := fun draining => by
    rw [earlier.closed draining, later.closed (earlier.draining.trans draining)]
    rfl

theorem Still.refl : Still stream stream := ⟨rfl, rfl, rfl⟩

theorem Still.trans (earlier : Still stream middle) (later : Still middle next) : Still stream next where
  relative := later.relative.trans earlier.relative
  absolute := later.absolute.trans earlier.absolute
  sensor := later.sensor.trans earlier.sensor

theorem Still.same (still : Still stream next) (motion : Motion) : SameMotion stream next motion := by
  cases motion with
  | relative => exact still.relative
  | absolute => exact still.absolute
  | sensor controllerNumber motionType =>
    exact congrFun (congrFun still.sensor controllerNumber) motionType

theorem SameMotion.trans (earlier : SameMotion stream middle motion) (later : SameMotion middle next motion) :
    SameMotion stream next motion := by
  cases motion with
  | relative => exact Eq.trans later earlier
  | absolute => exact Eq.trans later earlier
  | sensor controllerNumber motionType => exact Eq.trans later earlier

theorem SameMotion.dirty (same : SameMotion stream next motion) : next.dirty motion = stream.dirty motion := by
  cases motion with
  | relative => exact congrArg RelativeMouseState.dirty same
  | absolute => exact congrArg AbsoluteMouseState.dirty same
  | sensor controllerNumber motionType => exact congrArg SensorState.dirty same

theorem offer_queues (queue : BlockingQueue PacketHolder) (holder : PacketHolder) :
    ((queue.offer holder).1 = LBQ_SUCCESS ∧ queue.draining = false ∧
        (queue.offer holder).2.items = queue.items ++ [holder] ∨
      (queue.offer holder).1 ≠ LBQ_SUCCESS ∧ (queue.offer holder).2.items = queue.items) ∧
    (queue.offer holder).2.shutdown = queue.shutdown ∧ (queue.offer holder).2.draining = queue.draining ∧
      (queue.offer holder).2.pendingUserWake = queue.pendingUserWake := by
  unfold BlockingQueue.offer
  split
  · exact ⟨.inr ⟨(fun same => by cases same), rfl⟩, rfl, rfl, rfl⟩
  next running =>
  split
  · have undrained := (Bool.or_eq_false_iff.mp (Bool.eq_false_iff.mpr running)).2
    exact ⟨.inl ⟨rfl, undrained, rfl⟩, rfl, rfl, rfl⟩
  · exact ⟨.inr ⟨(fun same => by cases same), rfl⟩, rfl, rfl, rfl⟩

theorem statusCode_eq_zero (status : Status) : statusCode status = 0 ↔ status = LBQ_SUCCESS := by
  cases status <;> decide

/-- The packet is queued, or the code tells why it is not. -/
theorem queuePacket_spec (stream : InputStream) (allocated : Bool) (formed : Formed holder) :
    ∃ holders, Queues stream (stream.queuePacket allocated holder).2 holders ∧
      Still stream (stream.queuePacket allocated holder).2 ∧
      (holders = [holder] ∧ (stream.queuePacket allocated holder).1 = 0 ∨
        holders = [] ∧ (stream.queuePacket allocated holder).1 ≠ 0) := by
  unfold queuePacket
  split
  · obtain ⟨taken | refused, shutdown, draining, pendingUserWake⟩ := offer_queues stream.packetQueue holder
    · refine ⟨[holder], ⟨rfl, rfl, if_pos taken.1, taken.2.2, ?_, shutdown, draining, pendingUserWake,
        fun drained => ?_⟩, ⟨rfl, rfl, rfl⟩, .inl ⟨rfl, (statusCode_eq_zero _).mpr taken.1⟩⟩
      · exact List.forall_mem_singleton.mpr formed
      · exact absurd (taken.2.1.symm.trans drained) Bool.false_ne_true
    · refine ⟨[], ⟨rfl, rfl, ?_, ?_, fun _ none => absurd none List.not_mem_nil, shutdown, draining,
        pendingUserWake, fun _ => rfl⟩, ⟨rfl, rfl, rfl⟩,
        .inr ⟨rfl, fun code => refused.1 ((statusCode_eq_zero _).mp code)⟩⟩
      · exact (if_neg refused.1).trans (List.append_nil _).symm
      · exact refused.2.trans (List.append_nil _).symm
  · exact ⟨[], .refl, .refl, .inr ⟨rfl, Int.neg_ne_zero.mpr Int.one_ne_zero⟩⟩

/-- The call queues packets that stand for themselves. -/
def Plain (stream next : InputStream) : Prop :=
  ∃ holders, Queues stream next holders ∧ Still stream next ∧ ∀ holder ∈ holders, holder.packet.motion = none

theorem Plain.refl : Plain stream stream := ⟨[], .refl, .refl, fun _ none => absurd none List.not_mem_nil⟩

theorem Plain.trans (earlier : Plain stream middle) (later : Plain middle next) : Plain stream next := by
  obtain ⟨first, queues, still, plain⟩ := earlier
  obtain ⟨second, queues', still', plain'⟩ := later
  exact ⟨first ++ second, queues.trans queues', still.trans still', List.forall_mem_append.mpr ⟨plain, plain'⟩⟩

theorem Plain.queuePacket (stream : InputStream) (allocated : Bool) (formed : Formed holder)
    (plain : holder.packet.motion = none) : Plain stream (stream.queuePacket allocated holder).2 := by
  obtain ⟨holders, queues, still, given⟩ := queuePacket_spec stream allocated formed
  refine ⟨holders, queues, still, ?_⟩
  obtain ⟨rfl, _⟩ | ⟨rfl, _⟩ := given
  · exact List.forall_mem_singleton.mpr plain
  · exact fun _ none => absurd none List.not_mem_nil

/-- The motion is marked in the queue, unless it is already or the queue refuses. -/
def Marks (motion : Motion) (stream next : InputStream) (code : Int) : Prop :=
  ∃ holders, Queues stream next holders ∧
    (stream.dirty motion = true ∧ next.dirty motion = true ∧ holders = [] ∧ code = 0 ∨
      stream.dirty motion = false ∧ next.dirty motion = true ∧ code = 0 ∧
        (∃ mark, holders = [mark] ∧ mark.packet.motion = some motion) ∨
      stream.dirty motion = false ∧ next.dirty motion = false ∧ holders = [] ∧ code ≠ 0)

/-- The motion that a call reports. -/
def Call.motion : Call → Option Motion
  | .mouseMove _ _ => some .relative
  | .mousePosition _ _ _ _ => some .absolute
  | .controllerMotion controllerNumber motionType _ _ _ => some (.sensor (controllerNumber % MAX_GAMEPADS) motionType)
  | _ => none

/-- The motion that the call reports is kept. -/
def Keeps (stream next : InputStream) : Call → Prop
  | .mouseMove deltaX deltaY =>
    next.currentRelativeMouseState.deltaX = stream.currentRelativeMouseState.deltaX + deltaX.toInt ∧
      next.currentRelativeMouseState.deltaY = stream.currentRelativeMouseState.deltaY + deltaY.toInt
  | .mousePosition x y width height => next.currentAbsoluteMouseState.toPosition = ⟨x, y, width, height⟩
  | .controllerMotion controllerNumber motionType x y z =>
    (next.currentGamepadSensorState (controllerNumber % MAX_GAMEPADS) motionType).toSensor = ⟨x, y, z⟩
  | _ => True

/-! ## What has been reported -/

/-- The call was refused before it came to the motion. -/
def unheard (code : Int) : Bool := code = -2 || code = -3 || code = LI_ERR_UNSUPPORTED

/-- Distances are added up, and of a position or a sensor the last report counts. -/
structure Reports where
  distanceX : Int
  distanceY : Int
  position : Option Position
  sensor : UInt8 → UInt8 → Option Sensor

def Reports.add (reports : Reports) : Call → Reports
  | .mouseMove deltaX deltaY =>
    { reports with
      distanceX := reports.distanceX + deltaX.toInt
      distanceY := reports.distanceY + deltaY.toInt }
  | .mousePosition x y width height => { reports with position := some ⟨x, y, width, height⟩ }
  | .controllerMotion controllerNumber motionType x y z =>
    { reports with
      sensor := fun controller motion =>
        if controller = controllerNumber % MAX_GAMEPADS ∧ motion = motionType then some ⟨x, y, z⟩
        else reports.sensor controller motion }
  | _ => reports

def Reports.note (reports : Reports) : Event → Reports
  | .call request _ code => if unheard code then reports else reports.add request
  | _ => reports

/-- What the application has reported with these calls. -/
def reports (events : List Event) : Reports := events.foldl Reports.note ⟨0, 0, none, fun _ _ => none⟩

theorem Reports.add_plain (reports : Reports) (isPlain : request.motion = none) : reports.add request = reports := by
  cases request with
  | mouseMove | mousePosition | controllerMotion => cases isPlain
  | _ => rfl

theorem reports_snoc (past : List Event) (event : Event) : reports (past ++ [event]) = (reports past).note event := by
  rw [reports, List.foldl_append]
  rfl

/-- What a call does to the stream. -/
inductive Effect (stream next : InputStream) (code : Int) (request : Call) : Prop
  | plain (done : Plain stream next)
      (silent : ∀ reports : Reports, unheard code = true ∨ reports.add request = reports)
  | marks (isReport : request.motion = some motion) (heard : unheard code = false)
      (marks : Marks motion stream next code)
      (others : ∀ other, other ≠ motion → SameMotion stream next other) (keeps : Keeps stream next request)

/-! ## Each call -/

theorem Plain.unless {returned : Int × InputStream} (done : Plain stream returned.2) (refused : Prop)
    [Decidable refused] (code : Int) : Plain stream (if refused then (code, stream) else returned).2 := by
  split
  · exact .refl
  · exact done

theorem Plain.following {returned later : Int × InputStream} (done : Plain stream returned.2)
    (next : Plain returned.2 later.2) : Plain stream (if returned.1 = 0 then later else returned).2 := by
  split
  · exact done.trans next
  · exact done

theorem formed_controller (config : InputConfig) (controllerNumber activeGamepadMask buttonFlags2 : Int16)
    (packet : ControllerPacket) :
    Formed
      { reliable := true
        channelId := CTRL_CHANNEL_GAMEPAD_BASE + controllerNumber.toUInt16.toUInt8
        packet :=
          if config.generation = 3 then .controller packet
          else .multiController ⟨packet, controllerNumber, activeGamepadMask, buttonFlags2⟩ } := by
  intro multi same
  dsimp only at same
  split at same
  · cases same
  · cases same
    exact ⟨rfl, rfl⟩

theorem sendControllerEventInternal_plain (config : InputConfig) (allocated : Bool)
    (number mask : Int16) (buttons : Int32) (left right : UInt8) (leftX leftY rightX rightY : Int16)
    (stream : InputStream) :
    Plain stream (stream.sendControllerEventInternal config allocated number mask buttons left right leftX leftY
      rightX rightY).2 := by
  apply Plain.unless
  apply Plain.queuePacket stream allocated (formed_controller config _ _ _ _)
  dsimp only
  split
  · rfl
  · rfl

/-- Neither the delta of the wheel nor the buttons of the pen are motion. -/
theorem Plain.noted (stream : InputStream) (delta : Int) (buttons : UInt8) :
    Plain stream { stream with batchedScrollDelta := delta, currentPenButtonState := buttons } :=
  ⟨[], ⟨rfl, rfl, (List.append_nil _).symm, (List.append_nil _).symm, fun _ none => absurd none List.not_mem_nil,
    rfl, rfl, rfl, fun _ => rfl⟩, ⟨rfl, rfl, rfl⟩, fun _ none => absurd none List.not_mem_nil⟩

theorem sendBatchedScroll_plain (allocated : Nat → Bool) (limit round : Nat) (stream : InputStream) :
    Plain stream (sendBatchedScroll allocated limit round stream).2 := by
  induction limit generalizing round stream with
  | zero => exact .refl
  | succ limit ih =>
    have clicked (amount : Int) : Plain stream (stream.queuePacket (allocated round) (scrollHolder amount)).2 :=
      .queuePacket stream (allocated round) nofun rfl
    rw [sendBatchedScroll]
    generalize (if 0 < stream.batchedScrollDelta then LI_WHEEL_DELTA else -LI_WHEEL_DELTA) = amount
    split
    · dsimp only
      split
      · exact ((clicked amount).trans (.noted _ _ _)).trans (ih _ _)
      · exact clicked amount
    · exact .refl

theorem liSendHighResScrollEvent_plain (called :
    stream.liSendHighResScrollEvent config allocated scrollAmount = some (code, next)) : Plain stream next := by
  unfold liSendHighResScrollEvent at called
  split at called
  · cases called
    exact .refl
  split at called
  · cases called
    exact .refl
  split at called
  · obtain ⟨delta, _, same⟩ := Option.bind_eq_some_iff.mp called
    obtain rfl := congrArg Prod.snd (Option.some.inj same)
    exact (Plain.noted stream delta stream.currentPenButtonState).trans (sendBatchedScroll_plain allocated _ 0 _)
  · obtain rfl := congrArg Prod.snd (Option.some.inj called)
    exact .queuePacket stream (allocated 0) nofun rfl

theorem liSendControllerArrivalEvent_plain (config : InputConfig) (allocated : Nat → Bool) (number : UInt8)
    (mask : UInt16) (type : UInt8) (buttons : UInt32) (capabilities : UInt16) (stream : InputStream) :
    Plain stream (stream.liSendControllerArrivalEvent config allocated number mask type buttons capabilities).2 := by
  apply Plain.unless
  have arrived : Plain stream (if config.sunshine then
      stream.queuePacket (allocated 0)
        { reliable := true
          channelId := CTRL_CHANNEL_GAMEPAD_BASE + number % MAX_GAMEPADS
          packet := .controllerArrival ⟨number % MAX_GAMEPADS, type, capabilities, buttons⟩ }
      else (0, stream)).2 := by
    split
    · exact .queuePacket stream (allocated 0) nofun rfl
    · exact .refl
  exact arrived.following (sendControllerEventInternal_plain ..)

theorem plusInt_eq_some {delta more : Int} (added : plusInt delta more = some sum) : sum = delta + more := by
  obtain ⟨_, same⟩ := Option.ite_none_right_eq_some.mp added
  exact (Option.some.inj same).symm

theorem statusCode_heard (status : Status) : unheard (statusCode status) = false := by cases status <;> decide

theorem queuePacket_heard (stream : InputStream) (allocated : Bool) (holder : PacketHolder) :
    unheard (stream.queuePacket allocated holder).1 = false := by
  unfold queuePacket
  split
  · exact statusCode_heard _
  · rfl

theorem Reports.add_still (reports : Reports) : reports.add (.mouseMove 0 0) = reports := by
  unfold Reports.add
  simp only [Int16.toInt_zero, Int.add_zero]

theorem liSendMouseMoveEvent_effect (called : stream.liSendMouseMoveEvent allocated deltaX deltaY = some (code, next)) :
    Effect stream next code (.mouseMove deltaX deltaY) := by
  have others {next : InputStream} (absolute : next.currentAbsoluteMouseState = stream.currentAbsoluteMouseState)
      (sensor : next.currentGamepadSensorState = stream.currentGamepadSensorState) (other : Motion)
      (isOther : other ≠ .relative) : SameMotion stream next other := by
    cases other with
    | relative => exact absurd rfl isOther
    | absolute => exact absolute
    | sensor controllerNumber motionType => exact congrFun (congrFun sensor controllerNumber) motionType
  unfold liSendMouseMoveEvent at called
  split at called
  · cases called
    exact .plain .refl fun _ => .inl rfl
  split at called
  · next still =>
    cases called
    rw [still.1, still.2]
    exact .plain .refl fun reports => .inr reports.add_still
  obtain ⟨x, isX, called⟩ := Option.bind_eq_some_iff.mp called
  obtain ⟨y, isY, called⟩ := Option.bind_eq_some_iff.mp called
  obtain rfl := plusInt_eq_some isX
  obtain rfl := plusInt_eq_some isY
  dsimp only at called
  split at called
  · next dirty =>
    cases called
    exact .marks rfl rfl ⟨[], ⟨rfl, rfl, (List.append_nil _).symm, (List.append_nil _).symm,
      fun _ none => absurd none List.not_mem_nil, rfl, rfl, rfl, fun _ => rfl⟩, .inl ⟨dirty, dirty, rfl, rfl⟩⟩
      (others rfl rfl) ⟨rfl, rfl⟩
  · next clean =>
    obtain ⟨holders, queues, still, given⟩ := queuePacket_spec { stream with
        currentRelativeMouseState := { stream.currentRelativeMouseState with
          deltaX := stream.currentRelativeMouseState.deltaX + deltaX.toInt
          deltaY := stream.currentRelativeMouseState.deltaY + deltaY.toInt } } (allocated 0)
      (show Formed { reliable := true, channelId := CTRL_CHANNEL_MOUSE, packet := .mouseMoveRel 0 0 } from nofun)
    obtain ⟨rfl, rfl⟩ := Prod.mk.inj (Option.some.inj called)
    refine .marks rfl (queuePacket_heard _ _ _) ⟨holders, ⟨queues.thread, queues.sent, queues.queued, queues.items,
      queues.formed, queues.shutdown, queues.draining, queues.pendingUserWake, queues.closed⟩, ?_⟩
      (others still.absolute still.sensor) ⟨rfl, rfl⟩
    obtain ⟨rfl, taken⟩ | ⟨rfl, refused⟩ := given
    · exact .inr (.inl ⟨Bool.eq_false_iff.mpr clean, decide_eq_true taken, taken, _, rfl, rfl⟩)
    · exact .inr (.inr ⟨Bool.eq_false_iff.mpr clean, decide_eq_false refused, rfl, refused⟩)

theorem liSendMousePositionEvent_effect (allocated : Nat → Bool) (x y width height : Int16) (stream : InputStream) :
    Effect stream (stream.liSendMousePositionEvent allocated x y width height).2
      (stream.liSendMousePositionEvent allocated x y width height).1 (.mousePosition x y width height) := by
  have others {next : InputStream} (relative : next.currentRelativeMouseState = stream.currentRelativeMouseState)
      (sensor : next.currentGamepadSensorState = stream.currentGamepadSensorState) (other : Motion)
      (isOther : other ≠ .absolute) : SameMotion stream next other := by
    cases other with
    | relative => exact relative
    | absolute => exact absurd rfl isOther
    | sensor controllerNumber motionType => exact congrFun (congrFun sensor controllerNumber) motionType
  unfold liSendMousePositionEvent
  split
  · exact .plain .refl fun _ => .inl rfl
  dsimp only
  split
  · next dirty =>
    exact .marks rfl rfl ⟨[], ⟨rfl, rfl, (List.append_nil _).symm, (List.append_nil _).symm,
      fun _ none => absurd none List.not_mem_nil, rfl, rfl, rfl, fun _ => rfl⟩, .inl ⟨dirty, dirty, rfl, rfl⟩⟩
      (others rfl rfl) rfl
  · next clean =>
    obtain ⟨holders, queues, still, given⟩ := queuePacket_spec { stream with
        currentAbsoluteMouseState := ⟨⟨x, y, width, height⟩, stream.currentAbsoluteMouseState.dirty⟩ } (allocated 0)
      (show Formed { reliable := true, channelId := CTRL_CHANNEL_MOUSE, packet := .mouseMoveAbs 0 0 0 0 } from nofun)
    refine .marks rfl (queuePacket_heard _ _ _) ⟨holders, ⟨queues.thread, queues.sent, queues.queued, queues.items,
      queues.formed, queues.shutdown, queues.draining, queues.pendingUserWake, queues.closed⟩, ?_⟩
      (others still.relative still.sensor) rfl
    obtain ⟨rfl, taken⟩ | ⟨rfl, refused⟩ := given
    · exact .inr (.inl ⟨Bool.eq_false_iff.mpr clean, decide_eq_true taken, taken, _, rfl, rfl⟩)
    · exact .inr (.inr ⟨Bool.eq_false_iff.mpr clean, decide_eq_false refused, rfl, refused⟩)

theorem setSensor_self (stream : InputStream) (controllerNumber motionType : UInt8) (state : SensorState) :
    (stream.setSensor controllerNumber motionType state).currentGamepadSensorState controllerNumber motionType =
      state := if_pos ⟨rfl, rfl⟩

theorem setSensor_same (stream : InputStream) (state : SensorState)
    (isOther : other ≠ .sensor controllerNumber motionType) :
    SameMotion stream (stream.setSensor controllerNumber motionType state) other := by
  cases other with
  | relative => rfl
  | absolute => rfl
  | sensor controller motion =>
    refine if_neg ?_
    rintro ⟨rfl, rfl⟩
    exact isOther rfl

theorem liSendControllerMotionEvent_effect
    (called : stream.liSendControllerMotionEvent config allocated controllerNumber motionType x y z = some (code, next)) :
    Effect stream next code (.controllerMotion controllerNumber motionType x y z) := by
  unfold liSendControllerMotionEvent at called
  split at called
  · cases called
    exact .plain .refl fun _ => .inl rfl
  split at called
  · cases called
    exact .plain .refl fun _ => .inl rfl
  split at called
  · cases called
    exact .plain .refl fun _ => .inl rfl
  split at called
  · cases called
  dsimp only at called
  generalize number : controllerNumber % MAX_GAMEPADS = index at called
  have isReport : (Call.controllerMotion controllerNumber motionType x y z).motion = some (.sensor index motionType) := by
    rw [← number]
    rfl
  have own (stream : InputStream) (state : SensorState) :=
    congrArg SensorState.dirty (setSensor_self stream index motionType state)
  have keeps (stream middle : InputStream) (dirty : Bool) : Keeps stream
      (middle.setSensor index motionType ⟨⟨x, y, z⟩, dirty⟩) (.controllerMotion controllerNumber motionType x y z) := by
    rw [← number]
    exact congrArg SensorState.toSensor (setSensor_self ..)
  split at called
  · next dirty =>
    obtain ⟨rfl, rfl⟩ := Prod.mk.inj (Option.some.inj called)
    exact .marks isReport rfl ⟨[], ⟨rfl, rfl, (List.append_nil _).symm, (List.append_nil _).symm,
      fun _ none => absurd none List.not_mem_nil, rfl, rfl, rfl, fun _ => rfl⟩,
      .inl ⟨dirty, (own _ _).trans dirty, rfl, rfl⟩⟩ (fun _ => setSensor_same stream _) (keeps _ _ _)
  · next clean =>
    obtain ⟨holders, queues, still, given⟩ := queuePacket_spec (stream.setSensor index motionType
        ⟨⟨x, y, z⟩, (stream.currentGamepadSensorState index motionType).dirty⟩) (allocated 0)
      (show Formed ⟨false, CTRL_CHANNEL_SENSOR_BASE + index, .controllerMotion ⟨index, motionType, 0, 0, 0⟩⟩ from nofun)
    obtain ⟨rfl, rfl⟩ := Prod.mk.inj (Option.some.inj called)
    refine .marks isReport (queuePacket_heard _ _ _) ⟨holders, ⟨queues.thread, queues.sent, queues.queued, queues.items,
      queues.formed, queues.shutdown, queues.draining, queues.pendingUserWake, queues.closed⟩, ?_⟩
      (fun other isOther => ?_) (keeps _ _ _)
    · obtain ⟨rfl, taken⟩ | ⟨rfl, refused⟩ := given
      · exact .inr (.inl ⟨Bool.eq_false_iff.mpr clean, (own _ _).trans (decide_eq_true taken), taken, _, rfl, rfl⟩)
      · exact .inr (.inr ⟨Bool.eq_false_iff.mpr clean, (own _ _).trans (decide_eq_false refused), rfl, refused⟩)
    · exact ((setSensor_same stream _ isOther).trans (still.same other)).trans (setSensor_same _ _ isOther)

/-- Whatever is called. -/
theorem apply_effect (applied : Call.apply config allocated stream request = some (code, next)) :
    Effect stream next code request := by
  have plain {request : Call} {returned : Int × InputStream} (same : some returned = some (code, next))
      (isPlain : request.motion = none) (done : Plain stream returned.2) : Effect stream next code request := by
    obtain rfl := Option.some.inj same
    exact .plain done fun reports => .inr (reports.add_plain isPlain)
  cases request with
  | mouseMove deltaX deltaY => exact liSendMouseMoveEvent_effect applied
  | mousePosition x y width height =>
    obtain ⟨rfl, rfl⟩ := Prod.mk.inj (Option.some.inj applied)
    exact liSendMousePositionEvent_effect allocated x y width height stream
  | mouseButton action button => exact plain applied rfl (.unless (.queuePacket stream _ (by nofun) rfl) _ _)
  | keyboard2 keyCode keyAction modifiers flags =>
    exact plain applied rfl (.unless (.queuePacket stream _ (by nofun) rfl) _ _)
  | keyboard keyCode keyAction modifiers => exact plain applied rfl (.unless (.queuePacket stream _ (by nofun) rfl) _ _)
  | utf8Text text => exact plain applied rfl (.unless (.queuePacket stream _ (by nofun) rfl) _ _)
  | controller buttons left right leftX leftY rightX rightY =>
    exact plain applied rfl (sendControllerEventInternal_plain ..)
  | multiController number mask buttons left right leftX leftY rightX rightY =>
    exact plain applied rfl (sendControllerEventInternal_plain ..)
  | highResScroll scrollAmount => exact .plain (liSendHighResScrollEvent_plain applied) fun _ => .inr rfl
  | scroll scrollClicks => exact .plain (liSendHighResScrollEvent_plain applied) fun _ => .inr rfl
  | highResHScroll scrollAmount =>
    exact plain applied rfl (.unless (.unless (.unless (.queuePacket stream _ (by nofun) rfl) _ _) _ _) _ _)
  | hscroll scrollClicks =>
    exact plain applied rfl (.unless (.unless (.unless (.queuePacket stream _ (by nofun) rfl) _ _) _ _) _ _)
  | touch packet => exact plain applied rfl (.unless (.unless (.queuePacket stream _ (by nofun) rfl) _ _) _ _)
  | pen packet =>
    refine plain applied rfl (.unless (.unless (.unless ?_ _ _) _ _) _ _)
    exact (Plain.noted stream stream.batchedScrollDelta packet.penButtons).trans (.queuePacket _ true (by nofun) rfl)
  | controllerArrival number mask type buttons capabilities =>
    exact plain applied rfl (liSendControllerArrivalEvent_plain ..)
  | controllerTouch packet => exact plain applied rfl (.unless (.unless (.queuePacket stream _ (by nofun) rfl) _ _) _ _)
  | controllerMotion number motionType x y z => exact liSendControllerMotionEvent_effect applied
  | controllerBattery packet => exact plain applied rfl (.unless (.unless (.queuePacket stream _ (by nofun) rfl) _ _) _ _)

theorem startInputStream_plain (config : InputConfig) (allocated : Nat → Bool) (stream : InputStream) :
    Plain stream (stream.startInputStream config allocated) := by
  have started : Plain stream { stream with initialized := true } :=
    ⟨[], ⟨rfl, rfl, (List.append_nil _).symm, (List.append_nil _).symm, fun _ none => absurd none List.not_mem_nil,
      rfl, rfl, rfl, fun _ => rfl⟩, ⟨rfl, rfl, rfl⟩, fun _ none => absurd none List.not_mem_nil⟩
  unfold startInputStream sendEnableHaptics
  split
  · exact started.trans (.queuePacket _ _ (by nofun) rfl)
  · exact started

end InputStream

end MoonlightWeb.MoonlightCommonC

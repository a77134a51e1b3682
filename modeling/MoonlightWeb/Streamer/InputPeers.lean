import MoonlightWeb.Lib.OrderedMap
import MoonlightWeb.Streamer.Input

/-! The input-only clients of a stream. Each has a peer whose messages start
handlers, and a detach takes the peer away, closes it, and then releases the
gamepads that the client has by then. Handlers and detaches run interleaved,
each a task that stands at the await it will return from, and one that a message
started before its peer was closed still runs to its end. -/
namespace MoonlightWeb.Streamer
open MoonlightWeb.Machine ByteBuffer

/-- A message on the "controllers" channel, as its handler reads it. -/
inductive ControllerMessage where
  | add (localId : UInt8) (supportedButtons : BitVec 32) (capabilities : BitVec 16)
  | remove (localId : UInt8)
  | other
  deriving DecidableEq, Repr

def readControllerMessage : Getter ControllerMessage := do
  let ty ← getU8
  if ty = 0 then
    let localId ← getU8
    let buttons ← getU32
    let supportedButtons := (fromBits ControllerButtons.all buttons.toBitVec).getD
      ControllerButtons.all
    let bits ← getU16
    let capabilities := (fromBits ControllerCapabilities.all bits.toBitVec).getD 0
    return .add localId supportedButtons capabilities
  else if ty = 1 then
    let localId ← getU8
    return .remove localId
  else return .other

structure InputPeer where
  clientId : UInt32
  closed : Bool
  deriving DecidableEq, Repr

/-- Where `attach_input_peer` stands. -/
inductive Attach where
  | insert
  | config (count : Nat)
  | broadcast (count : Nat)
  deriving DecidableEq, Repr

/-- Where `detach_input_peer` stands. The count is there if it found the peer. -/
inductive Detach where
  | removePeer
  | close (peer : Nat)
  | count
  | collect (count : Option Nat)
  | releasing (count : Option Nat) (localIds : List UInt8)
  | disconnecting (slot : UInt8) (active : ActiveGamepads) (count : Option Nat)
    (localIds : List UInt8)
  | broadcast (count : Option Nat)
  deriving DecidableEq, Repr

/-- One call of `detach_input_peer`, with the number of times the client had been
attached when it began. -/
structure Removal where
  clientId : UInt32
  attachment : Nat
  deriving DecidableEq, Repr

inductive PeerTask where
  | attach (clientId : UInt32) (place : Attach)
  | allocate (clientId : UInt32) (localId : UInt8) (supportedButtons : BitVec 32)
    (capabilities : BitVec 16)
  | arrive (clientId : UInt32) (slot : UInt8) (active : ActiveGamepads)
    (supportedButtons : BitVec 32) (capabilities : BitVec 16)
  | release (clientId : UInt32) (localId : UInt8)
  | disconnect (clientId : UInt32) (slot : UInt8) (active : ActiveGamepads)
  | detach (removal : Removal) (place : Detach)
  | finished
  deriving DecidableEq

/-- What a message does if nothing comes between the awaits of its handler. -/
def ControllerMessage.outcome (clientId : UInt32) (connection : StreamConnection) :
    ControllerMessage → Outcome
  | .add localId supportedButtons capabilities =>
    match connection.input.allocateGamepadSlot clientId localId with
    | (none, input) => ([], input)
    | (some (slot, active), input) =>
      (if connection.stream then
        [.sendControllerArrival slot active .unknown supportedButtons capabilities] else [], input)
  | .remove localId =>
    match connection.input.releaseGamepadSlot clientId localId with
    | (some (slot, active), input) =>
      (if connection.stream then [.sendMultiController slot active 0 0 0 0 0 0 0] else [], input)
    | (none, input) => ([], input)
  | .other => ([], connection.input)

theorem on_controller_message_eq (clientId : UInt32) (connection : StreamConnection) :
    onControllerMessage clientId connection = do
      let message ← readControllerMessage
      return message.outcome clientId connection := by
  unfold onControllerMessage readControllerMessage
  rw [bind_assoc]
  refine bind_congr fun ty => ?_
  by_cases add : ty = 0
  · simp only [add, if_true, bind_assoc, pure_bind]
    rfl
  rw [if_neg add, if_neg add]
  by_cases remove : ty = 1
  · rw [if_pos remove, if_pos remove]
    simp only [bind_assoc, pure_bind]
    rfl
  · rw [if_neg remove, if_neg remove, pure_bind]
    rfl

/-- The handler that a message starts, up to its first await. -/
def ControllerMessage.handler (clientId : UInt32) : ControllerMessage → PeerTask
  | .add localId supportedButtons capabilities =>
    .allocate clientId localId supportedButtons capabilities
  | .remove localId => .release clientId localId
  | .other => .finished

structure InputPeers where
  connection : StreamConnection
  /-- Every peer that was inserted so far. -/
  peers : List InputPeer
  secondaryPeers : OrderedMap UInt32 Nat
  tasks : List PeerTask
  /-- The calls on the Moonlight stream. -/
  sent : List HostEvent
  /-- The counts that the primary client was told. -/
  told : List Nat
  /-- The removals that have collected the client's gamepads. -/
  collected : List Removal
  returned : List Removal
  deriving DecidableEq

inductive PeerEvent where
  | stream (up : Bool)
  | attach (clientId : UInt32)
  | message (peer : Nat) (message : List UInt8)
  | detach (clientId : UInt32)
  /-- A task goes on to its next await; a collect lists the gamepads in the order
  of the hash map. -/
  | run (task : Nat) (order : List UInt8)
  deriving DecidableEq, Repr

namespace InputPeers

def new : InputPeers := ⟨.new, [], .empty, [], [], [], [], []⟩

/-- How often a client has been attached. -/
def attachments (state : InputPeers) (clientId : UInt32) : Nat :=
  state.peers.countP fun peer => peer.clientId = clientId

def withInput (state : InputPeers) (input : StreamInput) : InputPeers :=
  { state with connection := { state.connection with input } }

/-- A call on the Moonlight stream, if it is up. -/
def call (state : InputPeers) (event : HostEvent) : InputPeers :=
  if state.connection.stream then { state with sent := state.sent ++ [event] } else state

/-- What the host is told of a gamepad that is gone. -/
def disconnected (slot : UInt8) (active : ActiveGamepads) : HostEvent :=
  .sendMultiController slot active 0 0 0 0 0 0 0

def runAttach (state : InputPeers) (clientId : UInt32) : Attach → InputPeers × PeerTask
  | .insert =>
    let secondaryPeers := state.secondaryPeers.set clientId state.peers.length
    ({ state with peers := state.peers ++ [⟨clientId, false⟩], secondaryPeers },
      .attach clientId (.config secondaryPeers.entries.length))
  | .config count => (state, .attach clientId (.broadcast count))
  | .broadcast count => ({ state with told := state.told ++ [count] }, .finished)

def runDetach (state : InputPeers) (order : List UInt8) (removal : Removal) :
    Detach → Option (InputPeers × PeerTask)
  | .removePeer =>
    match state.secondaryPeers.get removal.clientId with
    | some peer =>
      some ({ state with secondaryPeers := state.secondaryPeers.delete removal.clientId },
        .detach removal (.close peer))
    | none => some (state, .detach removal (.collect none))
  | .close peer =>
    some ({ state with peers := state.peers.modify peer fun peer => { peer with closed := true } },
      .detach removal .count)
  | .count =>
    some (state, .detach removal (.collect (some state.secondaryPeers.entries.length)))
  | .collect count =>
    if order.Perm (state.connection.input.localIds removal.clientId) then
      some ({ state with collected := removal :: state.collected },
        .detach removal (.releasing count order))
    else none
  | .releasing count [] => some (state, .detach removal (.broadcast count))
  | .releasing count (localId :: rest) =>
    let (released, input) :=
      state.connection.input.releaseGamepadSlot removal.clientId localId
    match released with
    | some (slot, active) =>
      some (state.withInput input, .detach removal (.disconnecting slot active count rest))
    | none => some (state.withInput input, .detach removal (.releasing count rest))
  | .disconnecting slot active count rest =>
    some (state.call (disconnected slot active), .detach removal (.releasing count rest))
  | .broadcast count =>
    some ({ state with told := state.told ++ count.toList, returned := removal :: state.returned },
      .finished)

def runTask (state : InputPeers) (order : List UInt8) : PeerTask → Option (InputPeers × PeerTask)
  | .attach clientId place => some (state.runAttach clientId place)
  | .allocate clientId localId supportedButtons capabilities =>
    let (allocated, input) := state.connection.input.allocateGamepadSlot clientId localId
    match allocated with
    | some (slot, active) =>
      some (state.withInput input, .arrive clientId slot active supportedButtons capabilities)
    | none => some (state.withInput input, .finished)
  | .arrive _ slot active supportedButtons capabilities =>
    some (state.call (.sendControllerArrival slot active .unknown supportedButtons capabilities),
      .finished)
  | .release clientId localId =>
    let (released, input) := state.connection.input.releaseGamepadSlot clientId localId
    match released with
    | some (slot, active) => some (state.withInput input, .disconnect clientId slot active)
    | none => some (state.withInput input, .finished)
  | .disconnect _ slot active => some (state.call (disconnected slot active), .finished)
  | .detach removal place => state.runDetach order removal place
  | .finished => none

/-- The handler of a message that arrives at a peer which is not closed. -/
def receive (state : InputPeers) (peer : Nat) (message : List UInt8) : Option PeerTask :=
  state.peers[peer]?.bind fun peer =>
    if peer.closed then none
    else
      match readControllerMessage.run (.new message) with
      | .ok (message, _) => some (message.handler peer.clientId)
      | .error _ => none

def step (state : InputPeers) : PeerEvent → Option InputPeers
  | .stream up => some { state with connection := { state.connection with stream := up } }
  | .attach clientId => some { state with tasks := state.tasks ++ [.attach clientId .insert] }
  | .message peer message =>
    (state.receive peer message).map fun task => { state with tasks := state.tasks ++ [task] }
  | .detach clientId =>
    some { state with
      tasks := state.tasks ++ [.detach ⟨clientId, state.attachments clientId⟩ .removePeer] }
  | .run index order =>
    state.tasks[index]?.bind fun before =>
      (state.runTask order before).map fun (next, after) =>
        { next with tasks := state.tasks.set index after }

@[simp] theorem connection_call (state : InputPeers) (event : HostEvent) :
    (state.call event).connection = state.connection := by
  unfold call
  split <;> rfl

@[simp] theorem peers_call (state : InputPeers) (event : HostEvent) :
    (state.call event).peers = state.peers := by
  unfold call
  split <;> rfl

@[simp] theorem collected_call (state : InputPeers) (event : HostEvent) :
    (state.call event).collected = state.collected := by
  unfold call
  split <;> rfl

@[simp] theorem returned_call (state : InputPeers) (event : HostEvent) :
    (state.call event).returned = state.returned := by
  unfold call
  split <;> rfl

theorem sent_call (state : InputPeers) (event : HostEvent) :
    (state.call event).sent =
      state.sent ++ if state.connection.stream then [event] else [] := by
  unfold call
  split <;> simp

/-! ## Tasks that nothing interrupts -/

section Alone
variable {state : InputPeers} {index : Nat}

private theorem step_run (state : InputPeers) (atIndex : state.tasks[index]? = some before)
    (ran : state.runTask order before = some (next, after)) :
    step state (.run index order) = some { next with tasks := state.tasks.set index after } := by
  simp [step, atIndex, ran]

private theorem run_twice (atIndex : state.tasks[index]? = some before)
    (first : state.runTask [] before = some (middle, between))
    (second : runTask { middle with tasks := state.tasks.set index between } [] between =
      some (final, after)) :
    ∃ last, run step state [.run index [], .run index []] = some last ∧
      last.connection = final.connection ∧ last.sent = final.sent := by
  have inside := (List.getElem?_eq_some_iff.mp atIndex).1
  have again : (state.tasks.set index between)[index]? = some between := by simp [inside]
  rw [run_cons, step_run state atIndex first, Option.bind_some, run_cons]
  rw [step_run { middle with tasks := state.tasks.set index between } again second]
  exact ⟨_, rfl, rfl, rfl⟩

/-- A handler that nothing interrupts makes the calls and leaves the slots that
the message does in one piece. -/
theorem handler_alone (message : ControllerMessage)
    (atIndex : state.tasks[index]? = some (message.handler clientId)) :
    ∃ events final, run step state events = some final ∧
      final.connection.input = (message.outcome clientId state.connection).2 ∧
      final.sent = state.sent ++ (message.outcome clientId state.connection).1 := by
  cases message with
  | add localId supportedButtons capabilities =>
    rcases allocated : state.connection.input.allocateGamepadSlot clientId localId
      with ⟨_ | ⟨slot, active⟩, input⟩
    · have ran : state.runTask [] (.allocate clientId localId supportedButtons capabilities) =
          some (state.withInput input, .finished) := by simp only [runTask, allocated]
      refine ⟨[.run index []], _, by rw [run_cons, step_run state atIndex ran]; rfl, ?_, ?_⟩
      · simp [ControllerMessage.outcome, allocated, withInput]
      · simp [ControllerMessage.outcome, allocated, withInput]
    · have ran : state.runTask [] (.allocate clientId localId supportedButtons capabilities) =
          some (state.withInput input,
            .arrive clientId slot active supportedButtons capabilities) := by
        simp only [runTask, allocated]
      obtain ⟨last, ran, connection, sent⟩ := run_twice atIndex ran rfl
      refine ⟨_, last, ran, ?_, ?_⟩
      · simp [connection, ControllerMessage.outcome, allocated, withInput]
      · rw [sent, sent_call]
        by_cases up : state.connection.stream = true <;>
          simp [ControllerMessage.outcome, allocated, withInput, up]
  | remove localId =>
    rcases released : state.connection.input.releaseGamepadSlot clientId localId
      with ⟨_ | ⟨slot, active⟩, input⟩
    · have ran : state.runTask [] (.release clientId localId) =
          some (state.withInput input, .finished) := by simp only [runTask, released]
      refine ⟨[.run index []], _, by rw [run_cons, step_run state atIndex ran]; rfl, ?_, ?_⟩
      · simp [ControllerMessage.outcome, released, withInput]
      · simp [ControllerMessage.outcome, released, withInput]
    · have ran : state.runTask [] (.release clientId localId) =
          some (state.withInput input, .disconnect clientId slot active) := by
        simp only [runTask, released]
      obtain ⟨last, ran, connection, sent⟩ := run_twice atIndex ran rfl
      refine ⟨_, last, ran, ?_, ?_⟩
      · simp [connection, ControllerMessage.outcome, released, withInput]
      · rw [sent, sent_call]
        by_cases up : state.connection.stream = true <;>
          simp [ControllerMessage.outcome, released, withInput, disconnected, up]
  | other => exact ⟨[], state, rfl, rfl, (List.append_nil _).symm⟩

/-- A detach that has listed its gamepads and is not interrupted leaves the slots
that releasing them in one piece does. -/
theorem releases_alone (state : InputPeers) (localIds : List UInt8)
    (atIndex : state.tasks[index]? = some (.detach removal (.releasing count localIds))) :
    ∃ events final, run step state events = some final ∧
      final.connection.input = (state.connection.input.releaseClientGamepads removal.clientId
        localIds).2 ∧
      final.tasks[index]? = some (.detach removal (.broadcast count)) := by
  induction localIds generalizing state with
  | nil =>
    have inside := (List.getElem?_eq_some_iff.mp atIndex).1
    refine ⟨[.run index []],
      { state with tasks := state.tasks.set index (.detach removal (.broadcast count)) }, ?_, rfl, ?_⟩
    · rw [run_cons, step_run state atIndex rfl]
      rfl
    · simp [inside]
  | cons localId rest ih =>
    have inside := (List.getElem?_eq_some_iff.mp atIndex).1
    rcases released : state.connection.input.releaseGamepadSlot removal.clientId localId
      with ⟨_ | ⟨slot, active⟩, input⟩
    · have ran : state.runTask [] (.detach removal (.releasing count (localId :: rest))) =
          some (state.withInput input, .detach removal (.releasing count rest)) := by
        simp only [runTask, runDetach, released]
      obtain ⟨events, final, ends, left, there⟩ := ih { state.withInput input with
        tasks := state.tasks.set index (.detach removal (.releasing count rest)) }
        (by simp [inside])
      refine ⟨.run index [] :: events, final, ?_, ?_, there⟩
      · rw [run_cons, step_run state atIndex ran]
        exact ends
      · rw [left, StreamInput.releaseClientGamepads, released]
        rfl
    · have ran : state.runTask [] (.detach removal (.releasing count (localId :: rest))) =
          some (state.withInput input,
            .detach removal (.disconnecting slot active count rest)) := by
        simp only [runTask, runDetach, released]
      have again : (state.tasks.set index
          (.detach removal (.disconnecting slot active count rest)))[index]? =
            some (.detach removal (.disconnecting slot active count rest)) := by simp [inside]
      obtain ⟨events, final, ends, left, there⟩ := ih { ({ state.withInput input with
          tasks := state.tasks.set index (.detach removal (.disconnecting slot active count rest))
          } : InputPeers).call (disconnected slot active) with
        tasks := (state.tasks.set index (.detach removal (.disconnecting slot active count rest))).set
          index (.detach removal (.releasing count rest)) } (by simp [inside])
      refine ⟨.run index [] :: .run index [] :: events, final, ?_, ?_, there⟩
      · rw [run_cons, step_run state atIndex ran, Option.bind_some, run_cons,
          step_run { state.withInput input with
            tasks := state.tasks.set index (.detach removal (.disconnecting slot active count rest)) }
            again rfl]
        exact ends
      · rw [left, StreamInput.releaseClientGamepads, released]
        simp [withInput]

end Alone

end InputPeers

end MoonlightWeb.Streamer

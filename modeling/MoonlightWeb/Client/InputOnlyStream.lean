import Mathlib.Data.List.Basic
import MoonlightWeb.Lib.Machine

/-! The client that only sends input: its websocket with the timers that connect it
again, and the peer it negotiates over that socket. Messages are handled one at a
time; a handler that awaits the browser leaves the events in between to the rest. -/
namespace MoonlightWeb.Client
open MoonlightWeb.Machine

/-- Where a message came from: its socket, and its place among all messages. -/
structure Received where
  socket : Nat
  number : Nat
  deriving DecidableEq

inductive ServerMessage where
  | waitingForStream
  | webRtcConfig
  | description (offer : Bool)
  | addIceCandidate
  | other
  deriving DecidableEq

structure RawMessage where
  source : Received
  message : ServerMessage
  deriving DecidableEq

structure Description where
  source : Received
  offer : Bool
  deriving DecidableEq

/-- A peer with the message that configured it and what was applied to it, remote
descriptions and candidates alike. -/
structure InputPeer where
  config : Received
  applied : List Received
  deriving DecidableEq

/-- What a handler awaits: the rollback before a remote description, that description,
the local answer to it and its candidates, one of the queued candidates, or the offer
of a new peer and its candidates. -/
inductive Awaited where
  | rollback (description : Description)
  | remoteDescription (description : Description)
  | answer
  | answerCandidates
  | candidate (rest : List Received)
  | offer
  | offerCandidates
  deriving DecidableEq

/-- `creating` tells that `createPeer` still has to dequeue the candidates. -/
structure Handler where
  awaited : Awaited
  creating : Bool
  deriving DecidableEq

structure Signaling where
  peer : Option InputPeer
  remoteDescription : Option Description
  iceCandidateQueue : List Received
  messageProcessingQueue : List RawMessage
  running : Option Handler
  received : Nat
  deriving DecidableEq

namespace Signaling

def start : Signaling where
  peer := none
  remoteDescription := none
  iceCandidateQueue := []
  messageProcessingQueue := []
  running := none
  received := 0

/-- The handler has returned or thrown. -/
def settle (signaling : Signaling) : Signaling := { signaling with running := none }

def awaiting (signaling : Signaling) (awaited : Awaited) (creating : Bool) : Signaling :=
  { signaling with running := some { awaited, creating } }

def teardownPeer (signaling : Signaling) : Signaling :=
  { signaling with peer := none, remoteDescription := none, iceCandidateQueue := [] }

def addApplied (peer : InputPeer) (item : Received) : InputPeer :=
  { peer with applied := peer.applied ++ [item] }

/-- Whether the candidate went to the peer, which is then awaited. -/
def handleIceCandidate (signaling : Signaling) (candidate : Received) : Signaling × Bool :=
  match signaling.peer with
  | some peer =>
    if signaling.remoteDescription.isSome then
      ({ signaling with peer := some (addApplied peer candidate) }, true)
    else ({ signaling with iceCandidateQueue := signaling.iceCandidateQueue ++ [candidate] }, false)
  | none =>
    ({ signaling with iceCandidateQueue := signaling.iceCandidateQueue ++ [candidate] }, false)

/-- The loop over dequeued candidates, up to the first that is awaited. -/
def forCandidates (signaling : Signaling) : List Received → Signaling × Option (List Received)
  | [] => (signaling, none)
  | candidate :: rest =>
    let handled := signaling.handleIceCandidate candidate
    if handled.2 then (handled.1, some rest) else forCandidates handled.1 rest

/-- The last use of the queue in a handler. -/
def dequeueLast (signaling : Signaling) (candidates : List Received) : Signaling :=
  let looped := signaling.forCandidates candidates
  match looped.2 with
  | some rest => looped.1.awaiting (.candidate rest) false
  | none => looped.1.settle

/-- Back in `createPeer`, the queue is used once more. -/
def afterDescription (signaling : Signaling) (creating : Bool) : Signaling :=
  if creating then
    { signaling with iceCandidateQueue := [] }.dequeueLast signaling.iceCandidateQueue
  else signaling.settle

def dequeue (signaling : Signaling) (candidates : List Received) (creating : Bool) : Signaling :=
  let looped := signaling.forCandidates candidates
  match looped.2 with
  | some rest => looped.1.awaiting (.candidate rest) creating
  | none => looped.1.afterDescription creating

def tryDequeueIceCandidates (signaling : Signaling) (creating : Bool) : Signaling :=
  { signaling with iceCandidateQueue := [] }.dequeue signaling.iceCandidateQueue creating

/-- `setRemoteDescription`, which throws where the peer is gone. -/
def applyDescription (signaling : Signaling) (description : Description) (creating : Bool) :
    Signaling :=
  match signaling.peer with
  | some peer =>
    { signaling with peer := some (addApplied peer description.source) }.awaiting
      (.remoteDescription description) creating
  | none => signaling.settle

/-- `busy` says that an offer of our own is under way, by `makingOffer` or by the
peer's signaling state. -/
def handleRemoteDescription (signaling : Signaling) (description : Description)
    (creating busy : Bool) : Signaling :=
  let signaling := { signaling with remoteDescription := some description }
  if signaling.peer.isNone then signaling.afterDescription creating
  else if description.offer && busy then signaling.awaiting (.rollback description) creating
  else signaling.applyDescription description creating

def createPeer (signaling : Signaling) (config : Received) (busy : Bool) : Signaling :=
  if signaling.peer.isSome then signaling.settle
  else
    let signaling := { signaling with peer := some { config, applied := [] } }
    match signaling.remoteDescription with
    | some description => signaling.handleRemoteDescription description true busy
    | none =>
      if busy then signaling.afterDescription true else signaling.awaiting .offer true

def onMessage (signaling : Signaling) (raw : RawMessage) (busy : Bool) : Signaling :=
  match raw.message with
  | .waitingForStream => signaling.teardownPeer.settle
  | .webRtcConfig => signaling.createPeer raw.source busy
  | .description offer =>
    signaling.handleRemoteDescription { source := raw.source, offer } false busy
  | .addIceCandidate =>
    let handled := signaling.handleIceCandidate raw.source
    if handled.2 then handled.1.awaiting (.candidate []) false else handled.1.settle
  | .other => signaling.settle

/-- The handler goes on when what it awaits has settled; `fails` says that it was
rejected, `ready` what the wait for candidates returned. A rejected candidate is
only logged, every other rejection ends the handler. -/
def resume (signaling : Signaling) (handler : Handler) (fails ready : Bool) : Signaling :=
  match handler.awaited with
  | .rollback description =>
    if fails then signaling.settle else signaling.applyDescription description handler.creating
  | .remoteDescription description =>
    if fails then signaling.settle
    else if description.offer then
      if signaling.peer.isNone then signaling.settle
      else signaling.awaiting .answer handler.creating
    else signaling.tryDequeueIceCandidates handler.creating
  | .answer =>
    if fails then signaling.settle else signaling.awaiting .answerCandidates handler.creating
  | .answerCandidates =>
    if ready then signaling.tryDequeueIceCandidates handler.creating
    else signaling.afterDescription handler.creating
  | .candidate rest => signaling.dequeue rest handler.creating
  | .offer =>
    if fails then signaling.settle else signaling.awaiting .offerCandidates handler.creating
  | .offerCandidates => signaling.afterDescription handler.creating

def onRawWsMessage (signaling : Signaling) (socket : Nat) (message : ServerMessage) : Signaling :=
  { signaling with
    messageProcessingQueue := signaling.messageProcessingQueue ++
      [{ source := { socket, number := signaling.received }, message }]
    received := signaling.received + 1 }

/-- The next message starts where no handler runs. -/
def handleNext (signaling : Signaling) (busy : Bool) : Option Signaling :=
  match signaling.running, signaling.messageProcessingQueue with
  | none, raw :: rest => some ({ signaling with messageProcessingQueue := rest }.onMessage raw busy)
  | _, _ => none

end Signaling

/-! ## The socket -/

inductive SocketState where
  | connecting
  | opened
  | closing
  | closed
  deriving DecidableEq

/-- `close()` of a socket, whose close event comes later. -/
def SocketState.afterClose : SocketState → SocketState
  | .connecting | .opened => .closing
  | .closing => .closing
  | .closed => .closed

/-- Sockets are numbered as they were created, and a connect timeout by the socket it
was armed for. `connectTimers` holds all that are armed, `wsConnectTimeout` the one that
can be cleared. The reconnect timeout has its delay. -/
structure InputOnlyStream where
  sockets : Nat
  readyState : Nat → SocketState
  ws : Nat
  connectTimers : List Nat
  wsConnectTimeout : Option Nat
  wsReconnectTimeout : Option Nat
  wsAttempt : Nat
  intentionalClose : Bool
  signaling : Signaling

namespace InputOnlyStream

def WS_MAX_ATTEMPTS : Nat := 20

def WS_RECONNECT_BASE_DELAY_MS : Nat := 500

def WS_RECONNECT_MAX_DELAY_MS : Nat := 15000

def setReadyState (stream : InputOnlyStream) (socket : Nat) (state : SocketState) :
    InputOnlyStream :=
  { stream with readyState := fun other => if other = socket then state else
      stream.readyState other }

def closeSocket (stream : InputOnlyStream) (socket : Nat) : InputOnlyStream :=
  stream.setReadyState socket (stream.readyState socket).afterClose

def clearConnectTimeout (stream : InputOnlyStream) : InputOnlyStream :=
  match stream.wsConnectTimeout with
  | some timer =>
    { stream with connectTimers := stream.connectTimers.erase timer, wsConnectTimeout := none }
  | none => stream

def connectWebSocket (stream : InputOnlyStream) : InputOnlyStream :=
  { stream with
    wsAttempt := stream.wsAttempt + 1
    ws := stream.sockets
    sockets := stream.sockets + 1
    connectTimers := stream.sockets :: stream.connectTimers
    wsConnectTimeout := some stream.sockets }.setReadyState stream.sockets .connecting

/-- Behind the constructor, which connects the first socket. -/
def start : InputOnlyStream :=
  { sockets := 0
    readyState := fun _ => .closed
    ws := 0
    connectTimers := []
    wsConnectTimeout := none
    wsReconnectTimeout := none
    wsAttempt := 0
    intentionalClose := false
    signaling := Signaling.start : InputOnlyStream }.connectWebSocket

def onConnectTimeout (stream : InputOnlyStream) (timer : Nat) : InputOnlyStream :=
  let stream := { stream with
    connectTimers := stream.connectTimers.erase timer
    wsConnectTimeout := none }
  stream.closeSocket stream.ws

def onWsOpen (stream : InputOnlyStream) : InputOnlyStream :=
  { stream.clearConnectTimeout with wsAttempt := 0 }

def scheduleReconnect (stream : InputOnlyStream) : InputOnlyStream :=
  if stream.wsReconnectTimeout.isSome then stream
  else if WS_MAX_ATTEMPTS ≤ stream.wsAttempt then stream
  else { stream with
    wsReconnectTimeout := some
      (min (WS_RECONNECT_BASE_DELAY_MS * Nat.pow 2 stream.wsAttempt) WS_RECONNECT_MAX_DELAY_MS) }

def onWsClose (stream : InputOnlyStream) : InputOnlyStream :=
  if stream.intentionalClose then stream
  else { stream with signaling := stream.signaling.teardownPeer }.scheduleReconnect

def onReconnectTimeout (stream : InputOnlyStream) : InputOnlyStream :=
  { stream with wsReconnectTimeout := none }.connectWebSocket

def close (stream : InputOnlyStream) : InputOnlyStream :=
  let stream := { stream with intentionalClose := true }.clearConnectTimeout
  { stream with wsReconnectTimeout := none }.closeSocket stream.ws

/-- `peerConnected` and `peerFailed` are states of the connection to the peer; `leave`
is `close`, and `unload` the page's `beforeunload`. -/
inductive Event where
  | wsOpen (socket : Nat)
  | wsClose (socket : Nat)
  | wsMessage (socket : Nat) (message : ServerMessage)
  | connectTimeout (timer : Nat)
  | reconnectTimeout
  | handleNext (busy : Bool)
  | resume (fails ready : Bool)
  | peerConnected
  | peerFailed
  | unload
  | leave

def step (stream : InputOnlyStream) : Event → Option InputOnlyStream
  | .wsOpen socket =>
    if stream.readyState socket = .connecting then
      some (stream.setReadyState socket .opened).onWsOpen
    else none
  | .wsClose socket =>
    if stream.readyState socket = .closed then none
    else some (stream.setReadyState socket .closed).onWsClose
  | .wsMessage socket message =>
    if stream.readyState socket = .opened then
      some { stream with signaling := stream.signaling.onRawWsMessage socket message }
    else none
  | .connectTimeout timer =>
    if timer ∈ stream.connectTimers then some (stream.onConnectTimeout timer) else none
  | .reconnectTimeout =>
    if stream.wsReconnectTimeout.isSome then some stream.onReconnectTimeout else none
  | .handleNext busy =>
    (stream.signaling.handleNext busy).map fun signaling => { stream with signaling }
  | .resume fails ready =>
    stream.signaling.running.map fun handler =>
      { stream with signaling := stream.signaling.resume handler fails ready }
  | .peerConnected =>
    if stream.signaling.peer.isSome then some stream.clearConnectTimeout else none
  | .peerFailed =>
    if stream.signaling.peer.isSome then
      some { stream with signaling := stream.signaling.teardownPeer }
    else none
  | .unload => some (stream.closeSocket stream.ws)
  | .leave => some stream.close

/-! ## Connect timeouts -/

/-- A connect timeout leaves every socket alone but the one it was armed for. -/
def OwnSocketOnly (stream : InputOnlyStream) (event : Event) (next : InputOnlyStream) : Prop :=
  ∀ timer, event = .connectTimeout timer →
    ∀ socket, socket ≠ timer → next.readyState socket = stream.readyState socket

/-- The stream connects again only when no connect timeout is armed. -/
def ReconnectsUnarmed (stream : InputOnlyStream) (event : Event) : Prop :=
  event = .reconnectTimeout → stream.connectTimers = []

/-- The timer that can be cleared is the only one, and is that of the socket. -/
structure TimerHeld (stream : InputOnlyStream) : Prop where
  only : stream.connectTimers = stream.wsConnectTimeout.toList
  ofSocket : ∀ timer, stream.wsConnectTimeout = some timer → timer = stream.ws

theorem setReadyState_other (stream : InputOnlyStream) (state : SocketState)
    (other : second ≠ first) :
    (stream.setReadyState first state).readyState second = stream.readyState second :=
  if_neg other

/-- Nothing about the timers or about which socket is in use. -/
theorem TimerHeld.kept {before after : InputOnlyStream} (held : before.TimerHeld)
    (timers : after.connectTimers = before.connectTimers)
    (timeout : after.wsConnectTimeout = before.wsConnectTimeout) (ws : after.ws = before.ws) :
    after.TimerHeld where
  only := by rw [timers, timeout]; exact held.only
  ofSocket := by rw [timeout, ws]; exact held.ofSocket

theorem TimerHeld.closeSocket {stream : InputOnlyStream} (held : stream.TimerHeld)
    (socket : Nat) : (stream.closeSocket socket).TimerHeld := held.kept rfl rfl rfl

theorem TimerHeld.erased {stream : InputOnlyStream} (held : stream.TimerHeld)
    (isTimer : stream.wsConnectTimeout = some timer) : stream.connectTimers.erase timer = [] := by
  rw [held.only, isTimer]
  exact List.erase_cons_head timer []

theorem TimerHeld.clearConnectTimeout {stream : InputOnlyStream} (held : stream.TimerHeld) :
    stream.clearConnectTimeout.TimerHeld := by
  unfold InputOnlyStream.clearConnectTimeout
  split
  · rename_i timer isTimer
    exact ⟨held.erased isTimer, fun _ impossible => by cases impossible⟩
  · exact held

theorem TimerHeld.connectTimeout {stream : InputOnlyStream} (held : stream.TimerHeld)
    (armed : timer ∈ stream.connectTimers) :
    timer = stream.ws ∧ (stream.onConnectTimeout timer).TimerHeld := by
  rw [held.only, Option.mem_toList] at armed
  refine ⟨held.ofSocket timer armed, ?_⟩
  apply TimerHeld.closeSocket
  exact ⟨held.erased armed, fun _ impossible => by cases impossible⟩

theorem TimerHeld.connectWebSocket {stream : InputOnlyStream}
    (unarmed : stream.connectTimers = []) : stream.connectWebSocket.TimerHeld where
  only := by
    change stream.sockets :: stream.connectTimers = [stream.sockets]
    rw [unarmed]
  ofSocket := by
    rintro timer ⟨⟩
    rfl

theorem TimerHeld.onWsClose {stream : InputOnlyStream} (held : stream.TimerHeld) :
    stream.onWsClose.TimerHeld := by
  unfold InputOnlyStream.onWsClose scheduleReconnect
  dsimp only
  split
  · exact held
  · split
    · exact held.kept rfl rfl rfl
    · split
      · exact held.kept rfl rfl rfl
      · exact held.kept rfl rfl rfl

theorem TimerHeld.step {stream next : InputOnlyStream} (held : stream.TimerHeld)
    (taken : stream.step event = some next) (unarmed : stream.ReconnectsUnarmed event) :
    next.TimerHeld := by
  cases event with
  | wsOpen socket =>
    obtain ⟨-, same⟩ := Option.ite_none_right_eq_some.mp taken
    cases same
    have opened : (stream.setReadyState socket .opened).TimerHeld := held.kept rfl rfl rfl
    exact opened.clearConnectTimeout.kept rfl rfl rfl
  | wsClose socket =>
    obtain ⟨-, same⟩ := Option.ite_none_left_eq_some.mp taken
    cases same
    have closed : (stream.setReadyState socket .closed).TimerHeld := held.kept rfl rfl rfl
    exact closed.onWsClose
  | wsMessage socket message =>
    obtain ⟨-, same⟩ := Option.ite_none_right_eq_some.mp taken
    cases same
    exact held.kept rfl rfl rfl
  | connectTimeout timer =>
    obtain ⟨armed, same⟩ := Option.ite_none_right_eq_some.mp taken
    cases same
    exact (held.connectTimeout armed).2
  | reconnectTimeout =>
    obtain ⟨-, same⟩ := Option.ite_none_right_eq_some.mp taken
    cases same
    exact .connectWebSocket (unarmed rfl)
  | handleNext busy =>
    obtain ⟨signaling, -, rfl⟩ := Option.map_eq_some_iff.mp taken
    exact held.kept rfl rfl rfl
  | resume fails ready =>
    obtain ⟨handler, -, rfl⟩ := Option.map_eq_some_iff.mp taken
    exact held.kept rfl rfl rfl
  | peerConnected =>
    obtain ⟨-, same⟩ := Option.ite_none_right_eq_some.mp taken
    cases same
    exact held.clearConnectTimeout
  | peerFailed =>
    obtain ⟨-, same⟩ := Option.ite_none_right_eq_some.mp taken
    cases same
    exact held.kept rfl rfl rfl
  | unload =>
    cases taken
    exact held.closeSocket _
  | leave =>
    cases taken
    have left : TimerHeld { stream with intentionalClose := true } := held.kept rfl rfl rfl
    apply TimerHeld.closeSocket
    exact left.clearConnectTimeout.kept rfl rfl rfl

/-- Where every reconnect finds no connect timeout armed, no timeout closes a socket
but its own. -/
theorem timeouts_close_own
    (unarmed : Along step (fun stream event _ => stream.ReconnectsUnarmed event) start events) :
    Along step OwnSocketOnly start events := by
  refine along_imp TimerHeld ?_ ?_ (TimerHeld.connectWebSocket rfl) unarmed
  · rintro stream event next held taken - timer rfl socket other
    obtain ⟨armed, same⟩ := Option.ite_none_right_eq_some.mp taken
    cases same
    obtain ⟨rfl, -⟩ := held.connectTimeout armed
    exact setReadyState_other _ _ other
  · intro stream event next held taken obeyed
    exact held.step taken obeyed

/-- The first socket does not open in time, the second does. -/
theorem second_attempt_opens : Along step OwnSocketOnly start
    [.connectTimeout 0, .wsClose 0, .reconnectTimeout, .wsOpen 1] := by
  apply timeouts_close_own
  refine along_cons rfl (fun isReconnect => ?_) (along_cons rfl (fun isReconnect => ?_)
    (along_cons rfl (fun _ => rfl) (along_cons rfl (fun isReconnect => ?_) trivial)))
  all_goals cases isReconnect

/-- The first socket is refused, and its timeout closes the second once that is
open. -/
theorem refused_socket_closes_next :
    ¬ ∀ events, Along step OwnSocketOnly start events := by
  intro always
  have along := always [.wsClose 0, .reconnectTimeout, .wsOpen 1, .connectTimeout 0]
  have untouched := ((((along _ rfl).2 _ rfl).2 _ rfl).2 _ rfl).1 0 rfl 1 (by decide)
  cases untouched

end InputOnlyStream

end MoonlightWeb.Client

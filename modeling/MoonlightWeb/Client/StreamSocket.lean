import Mathlib.Data.List.Nodup
import MoonlightWeb.Client.InputOnlyStream

/-! The websocket of a stream that has no peer yet: attempts, their timeouts and the
retries between them. The handlers of all sockets work on the one stream, so an
event of a socket that was replaced is taken for one of the current socket. -/
namespace MoonlightWeb.Client
open MoonlightWeb.Machine

inductive StreamMessage where
  | authenticateAndInit
  | clientLog
  deriving DecidableEq

/-- The timeout of an attempt, or the watchdog that starts when a socket opens. -/
inductive WsTimer where
  | attempt (socket : Nat)
  | watchdog (socket : Nat)
  deriving DecidableEq

/-- Sockets are numbered as they were created. `armed` holds the timers that have not
fired, of which `wsConnectTimeout` can be cleared; `retries` counts the timeouts set for
`connectWebSocket`. `sent` and `errors` record what was sent and shown. -/
structure StreamSocket where
  sockets : Nat
  readyState : Nat → SocketState
  ws : Nat
  armed : List WsTimer
  wsConnectTimeout : Option WsTimer
  retries : Nat
  wsAttempt : Nat
  wsOpened : Bool
  wsSendBuffer : List StreamMessage
  wsKeepaliveTimer : Bool
  isUnloading : Bool
  freshSessionReloadScheduled : Bool
  sent : List (Nat × StreamMessage)
  errors : List String

namespace StreamSocket

def WS_MAX_ATTEMPTS : Nat := 10

def setReadyState (stream : StreamSocket) (socket : Nat) (state : SocketState) : StreamSocket :=
  { stream with readyState := fun other => if other = socket then state else
      stream.readyState other }

/-- Connecting or open. -/
def Live (stream : StreamSocket) (socket : Nat) : Prop :=
  stream.readyState socket = .connecting ∨ stream.readyState socket = .opened

instance (stream : StreamSocket) : DecidablePred stream.Live := fun _ => inferInstanceAs
  (Decidable (_ ∨ _))

def closeSocket (stream : StreamSocket) (socket : Nat) : StreamSocket :=
  stream.setReadyState socket (stream.readyState socket).afterClose

def clearConnectTimeout (stream : StreamSocket) : StreamSocket :=
  match stream.wsConnectTimeout with
  | some timer =>
    { stream with armed := stream.armed.filter (· ≠ timer), wsConnectTimeout := none }
  | none => stream

def sendWsMessage (stream : StreamSocket) (message : StreamMessage) : StreamSocket :=
  if stream.readyState stream.ws = .opened then
    { stream with sent := stream.sent ++ [(stream.ws, message)] }
  else { stream with wsSendBuffer := stream.wsSendBuffer ++ [message] }

/-- The new socket is connecting, so its first message is buffered. -/
def connectWebSocket (stream : StreamSocket) : StreamSocket :=
  { stream with
    wsAttempt := stream.wsAttempt + 1
    wsOpened := false
    ws := stream.sockets
    sockets := stream.sockets + 1
    wsSendBuffer := [.authenticateAndInit]
    armed := .attempt stream.sockets :: stream.armed
    wsConnectTimeout := some (.attempt stream.sockets) }.setReadyState stream.sockets .connecting

def start : StreamSocket :=
  { sockets := 0
    readyState := fun _ => .closed
    ws := 0
    armed := []
    wsConnectTimeout := none
    retries := 0
    wsAttempt := 0
    wsOpened := false
    wsSendBuffer := []
    wsKeepaliveTimer := false
    isUnloading := false
    freshSessionReloadScheduled := false
    sent := []
    errors := [] : StreamSocket }.connectWebSocket

def dispatchError (stream : StreamSocket) (message : String) : StreamSocket :=
  { stream with errors := stream.errors ++ [message] }

def onAttemptTimeout (stream : StreamSocket) (socket : Nat) : StreamSocket :=
  let stream := { stream with
    armed := stream.armed.filter (· ≠ WsTimer.attempt socket)
    wsConnectTimeout := none }
  let stream := stream.closeSocket stream.ws
  if stream.wsAttempt < WS_MAX_ATTEMPTS then { stream with retries := stream.retries + 1 }
  else stream.dispatchError "WebSocket connection timed out (all retries exhausted)"

/-- The field keeps the watchdog that has fired. -/
def onWatchdog (stream : StreamSocket) (socket : Nat) : StreamSocket :=
  { stream with armed := stream.armed.filter (· ≠ WsTimer.watchdog socket) }.sendWsMessage .clientLog
    |>.dispatchError "Stream connection timed out"

/-- A socket that is still connecting throws, one that is closing discards. -/
def sendBuffered (stream : StreamSocket) : StreamSocket × Bool :=
  let buffered := stream.wsSendBuffer
  let stream := { stream with wsSendBuffer := [] }
  match stream.readyState stream.ws with
  | .opened =>
    ({ stream with sent := stream.sent ++ buffered.map fun raw => (stream.ws, raw) }, true)
  | .connecting => (stream, buffered = [])
  | .closing | .closed => (stream, true)

/-- The socket of the event only names the watchdog. -/
def onWsOpen (stream : StreamSocket) (socket : Nat) : StreamSocket :=
  let stream := { stream with wsOpened := true }.clearConnectTimeout
  let stream := { stream with
    armed := .watchdog socket :: stream.armed
    wsConnectTimeout := some (.watchdog socket) }
  let sent := stream.sendBuffered
  if sent.2 then { sent.1 with wsKeepaliveTimer := true } else sent.1

def onWsClose (stream : StreamSocket) : StreamSocket :=
  let stream := { stream with wsKeepaliveTimer := false }
  if stream.isUnloading then stream
  else if stream.freshSessionReloadScheduled then stream
  -- closed by the timeout, and the retry is pending
  else if stream.wsAttempt < WS_MAX_ATTEMPTS ∧ stream.wsConnectTimeout = none then stream
  else if stream.wsOpened = false ∧ stream.wsAttempt < WS_MAX_ATTEMPTS then
    let stream := stream.clearConnectTimeout
    { stream with retries := stream.retries + 1 }
  else stream.dispatchError "WebSocket closed before stream connected"

def onRetry (stream : StreamSocket) : StreamSocket :=
  { stream with retries := stream.retries - 1 }.connectWebSocket

def onBeforeUnload (stream : StreamSocket) : StreamSocket :=
  let stream := { stream with isUnloading := true, wsKeepaliveTimer := false }
  stream.closeSocket stream.ws

def onRetryFreshSession (stream : StreamSocket) : StreamSocket :=
  if stream.freshSessionReloadScheduled ∨ stream.isUnloading then stream
  else { stream with freshSessionReloadScheduled := true }.sendWsMessage .clientLog

inductive Event where
  | wsOpen (socket : Nat)
  | wsClose (socket : Nat)
  | attemptTimeout (socket : Nat)
  | watchdog (socket : Nat)
  | retry
  | keepalive
  | clientLog
  | retryFreshSession
  | beforeUnload

def step (stream : StreamSocket) : Event → Option StreamSocket
  | .wsOpen socket =>
    if stream.readyState socket = .connecting then
      some ((stream.setReadyState socket .opened).onWsOpen socket)
    else none
  | .wsClose socket =>
    if stream.readyState socket = .closed then none
    else some (stream.setReadyState socket .closed).onWsClose
  | .attemptTimeout socket =>
    if .attempt socket ∈ stream.armed then some (stream.onAttemptTimeout socket) else none
  | .watchdog socket =>
    if .watchdog socket ∈ stream.armed then some (stream.onWatchdog socket) else none
  | .retry => if 0 < stream.retries then some stream.onRetry else none
  | .keepalive =>
    if stream.wsKeepaliveTimer then
      if stream.readyState stream.ws = .opened then some (stream.sendWsMessage .clientLog)
      else some stream
    else none
  | .clientLog => some (stream.sendWsMessage .clientLog)
  | .retryFreshSession => some stream.onRetryFreshSession
  | .beforeUnload => some stream.onBeforeUnload

/-! ## One attempt at a time -/

/-- The sockets that are connecting or open, and the retries to come. -/
def outstanding (stream : StreamSocket) : Nat :=
  (List.range stream.sockets).countP (fun socket => stream.Live socket) + stream.retries

/-- An event of a replaced socket leaves the timeouts, what is sent and the retries
as they are. -/
def ReplacedQuiet (stream : StreamSocket) (event : Event) (next : StreamSocket) : Prop :=
  ∀ socket, event = .wsOpen socket ∨ event = .wsClose socket → socket ≠ stream.ws →
    next.wsConnectTimeout = stream.wsConnectTimeout ∧ next.armed = stream.armed ∧
      next.sent = stream.sent ∧ next.retries = stream.retries

/-- One attempt or retry is outstanding, and it is left alone. -/
def SingleAttempt (stream : StreamSocket) (event : Event) (next : StreamSocket) : Prop :=
  next.outstanding ≤ 1 ∧ stream.ReplacedQuiet event next

/-- The page is about to go, or the current attempt has opened, is the last one or has
no timeout set. -/
def Excused (stream : StreamSocket) : Prop :=
  stream.isUnloading = true ∨ stream.freshSessionReloadScheduled = true ∨
    stream.wsOpened = true ∨ WS_MAX_ATTEMPTS ≤ stream.wsAttempt ∨ stream.wsConnectTimeout = none

/-- No replaced socket closes while a close is taken for a refused attempt. -/
def NoLateClose (stream : StreamSocket) (event : Event) : Prop :=
  ∀ socket, event = .wsClose socket → socket ≠ stream.ws → stream.Excused

structure Inv (stream : StreamSocket) : Prop where
  replaced : ∀ socket, socket ≠ stream.ws → ¬ stream.Live socket
  single : stream.Live stream.ws → stream.retries = 0
  retries : stream.retries ≤ 1
  armed : ∀ socket, .attempt socket ∈ stream.armed → socket = stream.ws ∧
    stream.wsConnectTimeout = some (.attempt socket) ∧ stream.retries = 0
  closing : stream.readyState stream.ws = .closing →
    stream.wsConnectTimeout = none ∨ stream.isUnloading = true

theorem Inv.outstanding_le {stream : StreamSocket} (inv : stream.Inv) :
    stream.outstanding ≤ 1 := by
  have only : (List.range stream.sockets).countP (fun socket => stream.Live socket) ≤
      (List.range stream.sockets).count stream.ws := by
    apply List.countP_mono_left
    intro socket _ live
    rw [beq_iff_eq]
    apply Classical.byContradiction
    intro other
    exact inv.replaced socket other (of_decide_eq_true live)
  have once : (List.range stream.sockets).count stream.ws ≤ 1 :=
    List.nodup_iff_count_le_one.mp List.nodup_range stream.ws
  unfold outstanding
  by_cases live : stream.Live stream.ws
  · have none := inv.single live
    omega
  · have nowhere : (List.range stream.sockets).countP (fun socket => stream.Live socket) = 0 := by
      apply List.countP_eq_zero.mpr
      intro socket _ isLive
      have isLive := of_decide_eq_true isLive
      by_cases current : socket = stream.ws
      · rw [current] at isLive
        exact live isLive
      · exact inv.replaced socket current isLive
    have few := inv.retries
    omega

/-- Changes that do not touch the sockets, the timers or the retries. -/
theorem Inv.kept {before after : StreamSocket} (inv : before.Inv)
    (readyState : after.readyState = before.readyState) (ws : after.ws = before.ws)
    (armed : after.armed = before.armed)
    (timeout : after.wsConnectTimeout = before.wsConnectTimeout)
    (retries : after.retries = before.retries)
    (unloading : before.isUnloading = true → after.isUnloading = true) : after.Inv where
  replaced := by rw [ws]; intro socket; rw [Live, readyState]; exact inv.replaced socket
  single := by rw [ws, retries, Live, readyState]; exact inv.single
  retries := by rw [retries]; exact inv.retries
  armed := by rw [armed, ws, timeout, retries]; exact inv.armed
  closing := by
    rw [readyState, ws, timeout]
    exact fun closing => (inv.closing closing).imp_right unloading

theorem Inv.sendWsMessage {stream : StreamSocket} (inv : stream.Inv) (message : StreamMessage) :
    (stream.sendWsMessage message).Inv := by
  unfold StreamSocket.sendWsMessage
  split
  · exact inv.kept rfl rfl rfl rfl rfl id
  · exact inv.kept rfl rfl rfl rfl rfl id

theorem setReadyState_same (stream : StreamSocket) (socket : Nat) (state : SocketState) :
    (stream.setReadyState socket state).readyState socket = state := if_pos rfl

theorem setReadyState_other (stream : StreamSocket) (state : SocketState)
    (other : second ≠ first) :
    (stream.setReadyState first state).readyState second = stream.readyState second :=
  if_neg other

/-- A socket that is gone, or about to be, is not live. -/
theorem Inv.setReadyState {stream : StreamSocket} (inv : stream.Inv) (socket : Nat)
    (state : SocketState) (gone : state = .closed ∨ state = .closing ∧
      (stream.wsConnectTimeout = none ∨ stream.isUnloading = true)) :
    (stream.setReadyState socket state).Inv ∧
      ¬ (stream.setReadyState socket state).Live socket := by
  have notLive : ¬ (stream.setReadyState socket state).Live socket := by
    rw [Live, setReadyState_same]
    rcases gone with rfl | ⟨rfl, -⟩
    · simp
    · simp
  refine ⟨⟨?_, ?_, inv.retries, inv.armed, ?_⟩, notLive⟩
  · intro other isOther live
    by_cases same : other = socket
    · rw [same] at live
      exact notLive live
    · rw [Live, setReadyState_other stream state same] at live
      exact inv.replaced other isOther live
  · intro live
    change (stream.setReadyState socket state).Live stream.ws at live
    by_cases same : stream.ws = socket
    · rw [same] at live
      exact (notLive live).elim
    · rw [Live, setReadyState_other stream state same] at live
      exact inv.single live
  · intro closing
    change (stream.setReadyState socket state).readyState stream.ws = .closing at closing
    by_cases same : stream.ws = socket
    · rw [same, setReadyState_same] at closing
      rcases gone with rfl | ⟨-, excused⟩
      · cases closing
      · exact excused
    · rw [setReadyState_other stream state same] at closing
      exact inv.closing closing

theorem Inv.closeSocket {stream : StreamSocket} (inv : stream.Inv)
    (excused : stream.wsConnectTimeout = none ∨ stream.isUnloading = true) :
    (stream.closeSocket stream.ws).Inv ∧
      ¬ (stream.closeSocket stream.ws).Live stream.ws := by
  apply inv.setReadyState
  cases stream.readyState stream.ws with
  | connecting | opened | closing => exact .inr ⟨rfl, excused⟩
  | closed => exact .inl rfl

/-- A retry takes the place of a socket that is gone, once its timeout is. -/
theorem Inv.retryLater {stream : StreamSocket} (inv : stream.Inv)
    (notLive : ¬ stream.Live stream.ws) (none : stream.retries = 0)
    (unarmed : ∀ socket, .attempt socket ∉ stream.armed) :
    Inv { stream with retries := stream.retries + 1 } where
  replaced := inv.replaced
  single live := (notLive live).elim
  retries := by
    change stream.retries + 1 ≤ 1
    omega
  armed socket member := (unarmed socket member).elim
  closing := inv.closing

/-- The timeout that can be cleared is that of the attempt. -/
theorem Inv.clearConnectTimeout {stream : StreamSocket} (inv : stream.Inv) :
    stream.clearConnectTimeout.Inv ∧
      ∀ socket, .attempt socket ∉ stream.clearConnectTimeout.armed := by
  unfold StreamSocket.clearConnectTimeout
  split
  · rename_i timer isTimer
    have cleared : ∀ socket, WsTimer.attempt socket ∉ stream.armed.filter (· ≠ timer) := by
      intro socket member
      obtain ⟨member, other⟩ := List.mem_filter.mp member
      have isAttempt := (inv.armed socket member).2.1
      rw [isTimer, Option.some_inj] at isAttempt
      exact absurd isAttempt.symm (of_decide_eq_true other)
    refine ⟨⟨inv.replaced, inv.single, inv.retries, fun socket member => ?_, fun _ => .inl rfl⟩,
      cleared⟩
    exact (cleared socket member).elim
  · rename_i noTimer
    refine ⟨inv, fun socket member => ?_⟩
    have isAttempt := (inv.armed socket member).2.1
    rw [noTimer] at isAttempt
    cases isAttempt

theorem clearConnectTimeout_socket (stream : StreamSocket) :
    stream.clearConnectTimeout.readyState = stream.readyState ∧
      stream.clearConnectTimeout.ws = stream.ws ∧
        stream.clearConnectTimeout.retries = stream.retries := by
  unfold clearConnectTimeout
  split
  · exact ⟨rfl, rfl, rfl⟩
  · exact ⟨rfl, rfl, rfl⟩

theorem clearConnectTimeout_none (stream : StreamSocket) :
    stream.clearConnectTimeout.wsConnectTimeout = none := by
  unfold clearConnectTimeout
  split
  · rfl
  · assumption

theorem Inv.connectWebSocket {stream : StreamSocket}
    (notLive : ∀ socket, ¬ stream.Live socket) (none : stream.retries = 0)
    (unarmed : ∀ socket, .attempt socket ∉ stream.armed) : stream.connectWebSocket.Inv where
  replaced socket other live := by
    change socket ≠ stream.sockets at other
    unfold StreamSocket.connectWebSocket at live
    rw [Live, setReadyState_other _ _ other] at live
    exact notLive socket live
  single _ := none
  retries := by
    change stream.retries ≤ 1
    omega
  armed socket member := by
    rcases List.mem_cons.mp member with same | earlier
    · cases same
      exact ⟨rfl, rfl, none⟩
    · exact (unarmed socket earlier).elim
  closing closing := by
    have connecting : stream.connectWebSocket.readyState stream.sockets = .connecting :=
      setReadyState_same _ _ _
    cases connecting.symm.trans closing

theorem inv_start : start.Inv :=
  Inv.connectWebSocket (by simp [Live]) rfl (fun _ member => by cases member)

theorem Inv.onRetry {stream : StreamSocket} (inv : stream.Inv) (scheduled : 0 < stream.retries) :
    stream.onRetry.Inv := by
  have few := inv.retries
  apply Inv.connectWebSocket
  · intro socket live
    by_cases current : socket = stream.ws
    · have none := inv.single (current ▸ live)
      omega
    · exact inv.replaced socket current live
  · change stream.retries - 1 = 0
    omega
  · intro socket member
    have none := (inv.armed socket member).2.2
    omega

theorem Inv.onAttemptTimeout {stream : StreamSocket} (inv : stream.Inv)
    (member : .attempt socket ∈ stream.armed) : (stream.onAttemptTimeout socket).Inv := by
  obtain ⟨isCurrent, -, none⟩ := inv.armed socket member
  have unarmed : ∀ other,
      .attempt other ∉ stream.armed.filter (· ≠ WsTimer.attempt socket) := by
    intro other armed
    obtain ⟨armed, differs⟩ := List.mem_filter.mp armed
    have same := (inv.armed other armed).1.trans isCurrent.symm
    rw [same] at differs
    exact absurd rfl (of_decide_eq_true differs)
  have cleared : Inv { stream with
      armed := stream.armed.filter (· ≠ WsTimer.attempt socket)
      wsConnectTimeout := Option.none } :=
    ⟨inv.replaced, inv.single, inv.retries, fun other armed => (unarmed other armed).elim,
      fun _ => .inl rfl⟩
  obtain ⟨closed, notLive⟩ := cleared.closeSocket (.inl rfl)
  unfold StreamSocket.onAttemptTimeout
  dsimp only
  split
  · exact closed.retryLater notLive none unarmed
  · exact closed.kept rfl rfl rfl rfl rfl id

theorem Inv.onWatchdog {stream : StreamSocket} (inv : stream.Inv) (socket : Nat) :
    (stream.onWatchdog socket).Inv := by
  have fired : Inv { stream with
      armed := stream.armed.filter (· ≠ WsTimer.watchdog socket) } :=
    ⟨inv.replaced, inv.single, inv.retries,
      fun other member => inv.armed other (List.mem_filter.mp member).1, inv.closing⟩
  exact (fired.sendWsMessage .clientLog).kept rfl rfl rfl rfl rfl id

theorem Inv.sendBuffered {stream : StreamSocket} (inv : stream.Inv) :
    stream.sendBuffered.1.Inv := by
  unfold StreamSocket.sendBuffered
  dsimp only
  split
  · exact inv.kept rfl rfl rfl rfl rfl id
  · exact inv.kept rfl rfl rfl rfl rfl id
  · exact inv.kept rfl rfl rfl rfl rfl id
  · exact inv.kept rfl rfl rfl rfl rfl id

/-- Only the current socket can open. -/
theorem Inv.wsOpen {stream : StreamSocket} (inv : stream.Inv)
    (connecting : stream.readyState socket = .connecting) :
    socket = stream.ws ∧ ((stream.setReadyState socket .opened).onWsOpen socket).Inv := by
  have current : socket = stream.ws := by
    apply Classical.byContradiction
    intro other
    exact inv.replaced socket other (.inl connecting)
  subst current
  refine ⟨rfl, ?_⟩
  have none := inv.single (.inl connecting)
  have opened : (stream.setReadyState stream.ws .opened).Inv := by
    refine ⟨fun other isOther live => ?_, fun _ => none, inv.retries, inv.armed, fun closing => ?_⟩
    · change other ≠ stream.ws at isOther
      rw [Live, stream.setReadyState_other .opened isOther] at live
      exact inv.replaced other isOther live
    · cases (stream.setReadyState_same stream.ws .opened).symm.trans closing
  have begun : Inv { stream.setReadyState stream.ws .opened with wsOpened := true } :=
    opened.kept rfl rfl rfl rfl rfl id
  obtain ⟨cleared, unarmed⟩ := begun.clearConnectTimeout
  obtain ⟨readyState, ws, -⟩ := clearConnectTimeout_socket
    { stream.setReadyState stream.ws .opened with wsOpened := true }
  have watched : Inv { StreamSocket.clearConnectTimeout
      { stream.setReadyState stream.ws .opened with wsOpened := true } with
        armed := .watchdog stream.ws :: (StreamSocket.clearConnectTimeout
          { stream.setReadyState stream.ws .opened with wsOpened := true }).armed
        wsConnectTimeout := some (.watchdog stream.ws) } := by
    refine ⟨cleared.replaced, cleared.single, cleared.retries, fun other member => ?_,
      fun closing => ?_⟩
    · rcases List.mem_cons.mp member with same | armed
      · cases same
      · exact (unarmed other armed).elim
    · dsimp only at closing
      rw [readyState, ws] at closing
      cases (stream.setReadyState_same stream.ws .opened).symm.trans closing
  unfold StreamSocket.onWsOpen
  dsimp only
  split
  · exact watched.sendBuffered.kept rfl rfl rfl rfl rfl id
  · exact watched.sendBuffered

theorem onWsClose_excused {stream : StreamSocket} (excused : stream.Excused) :
    ∃ errors, stream.onWsClose = { stream with wsKeepaliveTimer := false, errors } := by
  unfold onWsClose
  dsimp only
  split
  · exact ⟨_, rfl⟩
  · split
    · exact ⟨_, rfl⟩
    · split
      · exact ⟨_, rfl⟩
      · split
        · rename_i loading notFresh noRetry refused
          rcases excused with unloading | fresh | opened | last | cleared
          · exact (loading unloading).elim
          · exact (notFresh fresh).elim
          · rw [opened] at refused
            cases refused.1
          · omega
          · exact (noRetry ⟨refused.2, cleared⟩).elim
        · exact ⟨_, rfl⟩

theorem onWsClose_refused {stream : StreamSocket} (refused : ¬ stream.Excused) :
    stream.onWsClose = { clearConnectTimeout { stream with wsKeepaliveTimer := false } with
      retries := (clearConnectTimeout { stream with wsKeepaliveTimer := false }).retries + 1 } := by
  simp only [Excused, not_or, Bool.not_eq_true] at refused
  obtain ⟨loading, notFresh, unopened, more, set⟩ := refused
  unfold onWsClose
  simp only [loading, notFresh, unopened, set, Nat.lt_of_not_le more, Bool.false_eq_true, if_false,
    and_false, and_self, if_true]

theorem Inv.wsClose {stream : StreamSocket} (inv : stream.Inv)
    (notClosed : stream.readyState socket ≠ .closed)
    (inTime : socket ≠ stream.ws → stream.Excused) :
    (stream.setReadyState socket .closed).onWsClose.Inv := by
  obtain ⟨closed, notLive⟩ := inv.setReadyState socket .closed (.inl rfl)
  by_cases excused : (stream.setReadyState socket .closed).Excused
  · obtain ⟨errors, same⟩ := onWsClose_excused excused
    rw [same]
    exact closed.kept rfl rfl rfl rfl rfl id
  · have current : socket = stream.ws := by
      apply Classical.byContradiction
      intro other
      exact excused (inTime other)
    subst current
    have none : stream.retries = 0 := by
      cases state : stream.readyState stream.ws with
      | connecting => exact inv.single (.inl state)
      | opened => exact inv.single (.inr state)
      | closing =>
        rcases inv.closing state with cleared | unloading
        · exact (excused (.inr (.inr (.inr (.inr cleared))))).elim
        · exact (excused (.inl unloading)).elim
      | closed => exact (notClosed state).elim
    rw [onWsClose_refused excused]
    have stopped : Inv { stream.setReadyState stream.ws .closed with wsKeepaliveTimer := false } :=
      closed.kept rfl rfl rfl rfl rfl id
    obtain ⟨cleared, unarmed⟩ := stopped.clearConnectTimeout
    obtain ⟨readyState, ws, retries⟩ := clearConnectTimeout_socket
      { stream.setReadyState stream.ws .closed with wsKeepaliveTimer := false }
    apply cleared.retryLater
    · rw [Live, readyState, ws]
      exact notLive
    · rw [retries]
      exact none
    · exact unarmed

theorem Inv.step {stream next : StreamSocket} (inv : stream.Inv)
    (taken : stream.step event = some next) (inTime : stream.NoLateClose event) : next.Inv := by
  cases event with
  | wsOpen socket =>
    obtain ⟨connecting, same⟩ := Option.ite_none_right_eq_some.mp taken
    cases same
    exact (inv.wsOpen connecting).2
  | wsClose socket =>
    obtain ⟨notClosed, same⟩ := Option.ite_none_left_eq_some.mp taken
    cases same
    exact inv.wsClose notClosed (inTime socket rfl)
  | attemptTimeout socket =>
    obtain ⟨member, same⟩ := Option.ite_none_right_eq_some.mp taken
    cases same
    exact inv.onAttemptTimeout member
  | watchdog socket =>
    obtain ⟨-, same⟩ := Option.ite_none_right_eq_some.mp taken
    cases same
    exact inv.onWatchdog socket
  | retry =>
    obtain ⟨scheduled, same⟩ := Option.ite_none_right_eq_some.mp taken
    cases same
    exact inv.onRetry scheduled
  | keepalive =>
    obtain ⟨-, ticked⟩ := Option.ite_none_right_eq_some.mp taken
    split at ticked
    · cases ticked
      exact inv.sendWsMessage .clientLog
    · cases ticked
      exact inv
  | clientLog =>
    cases taken
    exact inv.sendWsMessage .clientLog
  | retryFreshSession =>
    cases taken
    unfold onRetryFreshSession
    split
    · exact inv
    · have scheduled : Inv { stream with freshSessionReloadScheduled := true } :=
        inv.kept rfl rfl rfl rfl rfl id
      exact scheduled.sendWsMessage .clientLog
  | beforeUnload =>
    cases taken
    have unloading : Inv { stream with isUnloading := true, wsKeepaliveTimer := false } :=
      inv.kept rfl rfl rfl rfl rfl fun _ => rfl
    exact (unloading.closeSocket (.inr rfl)).1

theorem Inv.replacedQuiet {stream next : StreamSocket} (inv : stream.Inv)
    (taken : stream.step event = some next) (inTime : stream.NoLateClose event) :
    stream.ReplacedQuiet event next := by
  rintro socket (rfl | rfl) other
  · obtain ⟨connecting, -⟩ := Option.ite_none_right_eq_some.mp taken
    exact absurd (inv.wsOpen connecting).1 other
  · obtain ⟨-, same⟩ := Option.ite_none_left_eq_some.mp taken
    cases same
    have excused : (stream.setReadyState socket .closed).Excused := inTime socket rfl other
    obtain ⟨errors, quiet⟩ := onWsClose_excused excused
    rw [quiet]
    exact ⟨rfl, rfl, rfl, rfl⟩

/-- A late close clears the timeout of the current attempt. -/
theorem noLateClose_of_quiet {stream next : StreamSocket}
    (taken : stream.step event = some next) (quiet : stream.ReplacedQuiet event next) :
    stream.NoLateClose event := by
  rintro socket rfl other
  apply Classical.byContradiction
  intro refused
  obtain ⟨-, same⟩ := Option.ite_none_left_eq_some.mp taken
  cases same
  have timeout := (quiet socket (.inr rfl) other).1
  have late : ¬ (stream.setReadyState socket .closed).Excused := refused
  rw [onWsClose_refused late] at timeout
  have kept : stream.wsConnectTimeout = none := by
    rw [← timeout]
    exact clearConnectTimeout_none _
  exact refused (.inr (.inr (.inr (.inr kept))))

/-- One attempt or retry at a time is outstanding, and no event of a replaced socket
touches it, along exactly the runs in which no replaced socket closes late. -/
theorem single_attempt_iff : Along step SingleAttempt start events ↔
    Along step (fun stream event _ => stream.NoLateClose event) start events := by
  refine along_iff Inv ?_ ?_ inv_start
  · intro stream event next inv taken
    constructor
    · intro single
      exact noLateClose_of_quiet taken single.2
    · intro inTime
      exact ⟨(inv.step taken inTime).outstanding_le, inv.replacedQuiet taken inTime⟩
  · intro stream event next inv taken inTime
    exact inv.step taken inTime

/-- The first socket times out, and its close event comes when the second is on its
way. -/
theorem late_close_retries : ¬ ∀ events, Along step SingleAttempt start events := by
  intro always
  have along := always [.attemptTimeout 0, .retry, .wsClose 0]
  have single := (((along _ rfl).2 _ rfl).2 _ rfl).1.1
  revert single
  decide

end StreamSocket

end MoonlightWeb.Client

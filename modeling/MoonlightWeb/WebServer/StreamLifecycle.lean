import MoonlightWeb.Lib.Machine
import MoonlightWeb.Lib.OrderedMap
import MoonlightWeb.Lib.Watch

/-! The streams of one host. Browsers that want to see a stream start streamers
under the host's lifecycle lock, browsers that only send input attach to
whichever stream is active or start a placeholder, and a router for each stream
takes it out of the active slot when its streamer is gone. All of them run
interleaved, each a task that stands at the await it will return from. -/
namespace MoonlightWeb.WebServer

abbrev StreamId := Nat

inductive ServerIpcMessage where
  | init
  | webSocket (clientId : UInt32)
  | attachInputClient (clientId : UInt32)
  | detachInputClient (clientId : UInt32)
  | stop
  deriving DecidableEq, Repr

/-- Where the router of a stream stands. -/
inductive Router where
  | running | cleaning | closing | finished
  deriving DecidableEq, Repr

structure ActiveStream where
  startedAt : Nat
  nextClientId : UInt32
  /-- Each client's id and the task that owns its websocket. -/
  clients : OrderedMap UInt32 Nat
  /-- What was handed to the streamer, the newest message first. -/
  ipc : List ServerIpcMessage
  router : Router
  deriving DecidableEq

namespace ActiveStream

/-- The streamer has stopped or its pipe is closed. -/
def ended (stream : ActiveStream) : Prop := stream.router ≠ .running

instance (stream : ActiveStream) : Decidable stream.ended :=
  inferInstanceAs (Decidable (stream.router ≠ .running))

def send (stream : ActiveStream) (message : ServerIpcMessage) : ActiveStream :=
  { stream with ipc := message :: stream.ipc }

/-- The client id of a browser that attaches. -/
def takeClientId (stream : ActiveStream) (session : Nat) : ActiveStream :=
  { stream with
    nextClientId :=
      if stream.nextClientId = 0xffffffff then 1 else stream.nextClientId + 1
    clients := stream.clients.set stream.nextClientId session }

end ActiveStream

/-- Where `run_primary_stream` stands. -/
inductive Primary where
  | lock
  | active
  | age (existing : StreamId)
  | existing
  | stop (existing : StreamId)
  | wait (deadline : Nat)
  | spawn
  | register
  | init (stream : StreamId)
  | relay (stream : StreamId)
  | stopOwn (stream : StreamId)
  | finished
  deriving DecidableEq, Repr

inductive InputRelayExit where
  | streamEnded | wsClosed
  deriving DecidableEq, Repr

/-- Where `run_attach_input` stands; up to `init` it starts a placeholder. -/
inductive Input where
  | check
  | lock
  | recheck
  | connect
  | spawn
  | register
  | init (stream : StreamId)
  | borrow
  | idle
  | attach (stream : StreamId)
  | announce (stream : StreamId) (clientId : UInt32)
  | relaying (stream : StreamId) (clientId : UInt32)
  | borrowAttached (stream : StreamId) (clientId : UInt32)
  | remove (stream : StreamId) (clientId : UInt32) (exit : InputRelayExit)
  | detach (stream : StreamId) (clientId : UInt32) (exit : InputRelayExit)
  | finished
  deriving DecidableEq, Repr

/-- Where `supervise_placeholder_stream` stands. -/
inductive Supervisor where
  | sleep (wake emptyPolls : Nat)
  | poll (emptyPolls : Nat)
  | stop
  | finished
  deriving DecidableEq, Repr

inductive StreamTask where
  | primary (place : Primary)
  /-- With the version of the active stream that the receiver has seen. -/
  | input (seen : Nat) (place : Input)
  | supervisor (stream : StreamId) (place : Supervisor)
  deriving DecidableEq, Repr

structure Host where
  activeStream : Watch (Option StreamId)
  /-- The task that holds the lock. -/
  lifecycle : Option Nat
  streams : List ActiveStream
  tasks : List StreamTask
  now : Nat
  deriving DecidableEq

inductive HostEvent where
  | connectPrimary
  | connectInput
  /-- A task goes on to its next await; a call that can fail has an outcome. -/
  | run (task : Nat) (outcome : Bool)
  /-- One branch of a `select` of a task. -/
  | changed (task : Nat)
  | message (task : Nat)
  | wsClosed (task : Nat)
  | childExited (task : Nat)
  | clock (now : Nat)
  | streamEnds (stream : StreamId)
  | clean (stream : StreamId)
  | closePrimary (stream : StreamId)
  deriving DecidableEq, Repr

namespace Host

def start : Host := ⟨.channel none, none, [], [], 0⟩

def modifyStream (host : Host) (stream : StreamId) (change : ActiveStream → ActiveStream) : Host :=
  { host with streams := host.streams.modify stream change }

def send (host : Host) (stream : StreamId) (message : ServerIpcMessage) : Host :=
  host.modifyStream stream fun active => active.send message

def acquire (host : Host) (task : Nat) : Option Host :=
  if host.lifecycle = none then some { host with lifecycle := some task } else none

def release (host : Host) : Host := { host with lifecycle := none }

/-- A new stream becomes the active one; the browser that sees it, if any, is
its client 0. -/
def registerStream (host : Host) (primary : Option Nat) : Host :=
  { host with
    activeStream := host.activeStream.sendReplace (some host.streams.length)
    streams := host.streams ++ [{
      startedAt := host.now
      nextClientId := 1
      clients := match primary with
        | some session => OrderedMap.empty.set 0 session
        | none => .empty
      ipc := []
      router := .running }] }

def supervise (host : Host) (stream : StreamId) : Host :=
  { host with tasks := host.tasks ++ [.supervisor stream (.sleep (host.now + 10000) 0)] }

/-- Whether the active stream has a browser that sees it since less than ten
seconds. -/
def primaryIsRecent (host : Host) (existing : StreamId) : Bool :=
  match host.streams[existing]? with
  | some stream => (stream.clients.get 0).isSome && host.now - stream.startedAt < 10000
  | none => false

def runPrimary (host : Host) (task : Nat) (outcome : Bool) : Primary → Option (Host × Primary)
  | .lock => (host.acquire task).map fun host => (host, .active)
  | .active =>
    match host.activeStream.value with
    | some existing => some (host, .age existing)
    | none => some (host, .existing)
  | .age existing =>
    if host.primaryIsRecent existing then some (host.release, .finished) else some (host, .existing)
  | .existing =>
    match host.activeStream.value with
    | some existing => some (host, .stop existing)
    | none => some (host, .spawn)
  | .stop existing => some (host.send existing .stop, .wait (host.now + 10000))
  | .wait deadline =>
    if host.activeStream.value = none ∨ deadline ≤ host.now then some (host, .spawn) else none
  | .spawn => if outcome then some (host, .register) else some (host.release, .finished)
  | .register => some (host.registerStream (some task), .init host.streams.length)
  | .init stream => some ((host.send stream .init).release, .relay stream)
  | .stopOwn stream => some (host.send stream .stop, .finished)
  | .relay _ | .finished => none

def runInput (host : Host) (task : Nat) (outcome : Bool) : Input → Option (Host × Input)
  | .check =>
    if host.activeStream.value.isSome then some (host, .borrow) else some (host, .lock)
  | .lock => (host.acquire task).map fun host => (host, .recheck)
  | .recheck =>
    if host.activeStream.value.isSome || !outcome then some (host.release, .borrow)
    else some (host, .connect)
  | .connect => if outcome then some (host, .spawn) else some (host.release, .borrow)
  | .spawn => if outcome then some (host, .register) else some (host.release, .borrow)
  | .register => some (host.registerStream none, .init host.streams.length)
  | .init stream => some (((host.send stream .init).release).supervise stream, .borrow)
  | .borrow =>
    match host.activeStream.value with
    | some active => some (host, .attach active)
    | none => some (host, if outcome then .idle else .finished)
  | .attach stream =>
    match host.streams[stream]? with
    | some active =>
      some (host.modifyStream stream (·.takeClientId task), .announce stream active.nextClientId)
    | none => none
  | .announce stream clientId =>
    some (host.send stream (.attachInputClient clientId), .relaying stream clientId)
  | .borrowAttached stream clientId =>
    if host.activeStream.value = none then some (host, .remove stream clientId .streamEnded)
    else some (host, .relaying stream clientId)
  | .remove stream clientId exit =>
    some (host.modifyStream stream fun active =>
      { active with clients := active.clients.delete clientId }, .detach stream clientId exit)
  | .detach stream clientId exit =>
    some (host.send stream (.detachInputClient clientId),
      match exit with
      | .streamEnded => .check
      | .wsClosed => .finished)
  | .idle | .relaying .. | .finished => none

def runSupervisor (host : Host) (stream : StreamId) (outcome : Bool) :
    Supervisor → Option (Host × Supervisor)
  | .sleep wake emptyPolls => if wake ≤ host.now then some (host, .poll emptyPolls) else none
  | .poll emptyPolls =>
    -- the child has exited
    if outcome then some (host, .finished)
    else
      match host.streams[stream]? with
      | some active =>
        if active.clients.entries ≠ [] then some (host, .sleep (host.now + 10000) 0)
        else if emptyPolls + 1 < 3 then some (host, .sleep (host.now + 10000) (emptyPolls + 1))
        else some (host, .stop)
      | none => none
  | .stop => some (host.send stream .stop, .finished)
  | .finished => none

def runTask (host : Host) (task : Nat) (outcome : Bool) : StreamTask → Option (Host × StreamTask)
  | .primary place => (runPrimary host task outcome place).map fun (host, place) =>
      (host, .primary place)
  | .input seen place => (runInput host task outcome place).map fun (host, place) =>
      (host, .input seen place)
  | .supervisor stream place => (runSupervisor host stream outcome place).map fun (host, place) =>
      (host, .supervisor stream place)

/-- What a `select` branch does to the task that waits in it. -/
def select (host : Host) (event : HostEvent) : StreamTask → Option (Host × StreamTask)
  | .primary (.relay stream) =>
    match event with
    | .message _ => some (host.send stream (.webSocket 0), .primary (.relay stream))
    | .wsClosed _ => some (host, .primary (.stopOwn stream))
    | .childExited _ => some (host, .primary .finished)
    | _ => none
  | .input seen .idle =>
    match event with
    | .changed _ => (host.activeStream.changed seen).map fun seen => (host, .input seen .borrow)
    | .wsClosed _ => some (host, .input seen .finished)
    | _ => none
  | .input seen (.relaying stream clientId) =>
    match event with
    | .changed _ => (host.activeStream.changed seen).map fun seen =>
        (host, .input seen (.borrowAttached stream clientId))
    | .message _ =>
      some (host.send stream (.webSocket clientId), .input seen (.relaying stream clientId))
    | .wsClosed _ => some (host, .input seen (.remove stream clientId .wsClosed))
    | _ => none
  | _ => none

/-- A task of the host goes on. -/
def resume (host : Host) (task : Nat) (go : StreamTask → Option (Host × StreamTask)) :
    Option Host :=
  host.tasks[task]?.bind fun before =>
    (go before).map fun (host, after) => { host with tasks := host.tasks.set task after }

/-- The router of a stream goes on. -/
def router (host : Host) (stream : StreamId) (place : Router) (go : ActiveStream → Host) :
    Option Host :=
  host.streams[stream]?.bind fun active => if active.router = place then some (go active) else none

def step (host : Host) (event : HostEvent) : Option Host :=
  match event with
  | .connectPrimary => some { host with tasks := host.tasks ++ [.primary .lock] }
  | .connectInput =>
    some { host with tasks := host.tasks ++ [.input host.activeStream.subscribe .check] }
  | .run task outcome => host.resume task (host.runTask task outcome)
  | .changed task | .message task | .wsClosed task | .childExited task =>
    host.resume task (host.select event)
  | .clock now => if host.now ≤ now then some { host with now } else none
  | .streamEnds stream =>
    host.router stream .running fun _ =>
      host.modifyStream stream fun active => { active with router := .cleaning }
  | .clean stream =>
    host.router stream .cleaning fun _ =>
      let host := host.modifyStream stream fun active => { active with router := .closing }
      if host.activeStream.value = some stream then
        { host with activeStream := host.activeStream.sendReplace none }
      else host
  | .closePrimary stream =>
    host.router stream .closing fun _ =>
      host.modifyStream stream fun active =>
        { active with router := .finished, clients := active.clients.delete 0 }

end Host

end MoonlightWeb.WebServer

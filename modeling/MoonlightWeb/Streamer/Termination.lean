import MoonlightWeb.WebServer.StreamLifecycle

/-! How a streamer ends. Its main task sets the connection up and then waits to be
told to exit; tasks that find a reason to end call `stop`, the last thing of which is
to wake whoever waits. A wake-up that comes first is not kept. -/
namespace MoonlightWeb.Streamer
open MoonlightWeb.Machine MoonlightWeb.WebServer

/-- Where the main task stands: before the peer has its callbacks, before the IPC task
is spawned, at its two messages, before it waits, waiting, and woken. -/
inductive MainTask where
  | callbacks
  | ipcTask
  | stageComplete
  | stageStarting
  | wait
  | waiting
  | woken
  | exited
  deriving DecidableEq

/-- Where a call of `stop` stands. -/
inductive StopCall where
  | takeStream
  | dropStream
  | closePeers
  | sendStop
  | notifyWaiters
  deriving DecidableEq

/-- Tasks that may end the streamer: `start_stream` before its guard and behind it, the
deadline for a connection, `request_fresh_session` before its guard and at its
message, and the calls of `stop`. -/
inductive EndTask where
  | start
  | starting
  | deadline
  | requestFreshSession
  | retryFreshSession
  | stop (place : StopCall)
  | finished
  deriving DecidableEq

inductive IpcTask where
  | unspawned
  | receiving
  | handling
  | returned
  deriving DecidableEq

inductive StreamerMessage where
  | setupComplete
  | negotiationStarting
  | streamStarting
  | retryFreshSession
  | peerDisconnect
  | connectionTerminated
  | stop
  deriving DecidableEq

/-- `notified` records that some call of `stop` has come to its end, `sent` what was
sent to the server and the browser. -/
structure StreamerProcess where
  main : MainTask
  tasks : List EndTask
  ipcQueue : List ServerIpcMessage
  ipcTask : IpcTask
  stream : Bool
  secondaryPeers : List UInt32
  relayOnly : Bool
  primaryUdpRelayGathered : Bool
  preconnectDeadlineStarted : Bool
  freshSessionRequested : Bool
  streamStartInitiated : Bool
  notified : Bool
  sent : List StreamerMessage

namespace StreamerProcess

def start (relayOnly : Bool) : StreamerProcess where
  main := .callbacks
  tasks := []
  ipcQueue := []
  ipcTask := .unspawned
  stream := false
  secondaryPeers := []
  relayOnly
  primaryUdpRelayGathered := false
  preconnectDeadlineStarted := false
  freshSessionRequested := false
  streamStartInitiated := false
  notified := false
  sent := []

def send (process : StreamerProcess) (messages : List StreamerMessage) : StreamerProcess :=
  { process with sent := process.sent ++ messages }

def spawn (process : StreamerProcess) (task : EndTask) : StreamerProcess :=
  { process with tasks := process.tasks ++ [task] }

/-- `stop` up to its first await. Its first two messages have tasks of their own. -/
def beginStop (process : StreamerProcess) : StreamerProcess × EndTask :=
  (process.send [.peerDisconnect, .connectionTerminated], .stop .takeStream)

def notifyWaiters (process : StreamerProcess) : StreamerProcess :=
  { process with
    notified := true
    main := if process.main = .waiting then .woken else process.main }

def runStop (process : StreamerProcess) : StopCall → StreamerProcess × EndTask
  | .takeStream => ({ process with stream := false }, .stop .dropStream)
  | .dropStream => (process, .stop .closePeers)
  | .closePeers => ({ process with secondaryPeers := [] }, .stop .sendStop)
  | .sendStop => (process.send [.stop], .stop .notifyWaiters)
  | .notifyWaiters => (process.notifyWaiters, .finished)

/-- A task goes on; `ok` says that the stream has started, or that the peer is
connected at the deadline. -/
def runTask (process : StreamerProcess) (ok : Bool) : EndTask → StreamerProcess × EndTask
  | .start =>
    if process.streamStartInitiated then (process, .finished)
    else ({ process with streamStartInitiated := true }.send [.streamStarting], .starting)
  | .starting =>
    if ok then ({ process with stream := true }, .finished) else process.beginStop
  | .deadline => (process, if ok then .finished else .requestFreshSession)
  | .requestFreshSession =>
    if process.freshSessionRequested then (process, .finished)
    else ({ process with freshSessionRequested := true }, .retryFreshSession)
  | .retryFreshSession => (process.send [.retryFreshSession]).beginStop
  | .stop place => process.runStop place
  | .finished => (process, .finished)

def runMain (process : StreamerProcess) : Option StreamerProcess :=
  match process.main with
  | .callbacks => some { process with main := .ipcTask }
  | .ipcTask => some { process with main := .stageComplete, ipcTask := .receiving }
  | .stageComplete => some { process.send [.setupComplete] with main := .stageStarting }
  | .stageStarting => some { process.send [.negotiationStarting] with main := .wait }
  | .wait => some { process with main := .waiting }
  | .woken => some { process with main := .exited }
  | .waiting | .exited => none

/-- The gathering of candidates is complete. -/
def onGatheringComplete (process : StreamerProcess) : StreamerProcess :=
  if process.relayOnly then
    if process.primaryUdpRelayGathered = false then process.spawn .requestFreshSession
    else if process.preconnectDeadlineStarted then process
    else { process with preconnectDeadlineStarted := true }.spawn .deadline
  else process

/-- The IPC task takes the next message, and returns behind a stop. -/
def receiveIpc (process : StreamerProcess) : Option StreamerProcess :=
  match process.ipcTask, process.ipcQueue with
  | .receiving, .stop :: rest =>
    let begun := process.beginStop
    some ({ begun.1 with ipcQueue := rest, ipcTask := .returned }.spawn begun.2)
  | .receiving, _ :: rest => some { process with ipcQueue := rest, ipcTask := .handling }
  | _, _ => none

/-- `peerEnded` is a peer that failed or was closed. -/
inductive Event where
  | main
  | run (task : Nat) (ok : Bool)
  | peerEnded
  | iceConnected
  | candidate (udpRelay : Bool)
  | gatheringComplete
  | ipcArrives (message : ServerIpcMessage)
  | ipcReceive
  | ipcHandled
  | ipcClosed
  | attached (clientId : UInt32)

/-- Callbacks of the peer need to be set, and nothing runs behind the exit. -/
def step (process : StreamerProcess) (event : Event) : Option StreamerProcess :=
  if process.main = .exited then none
  else
    match event with
    | .main => process.runMain
    | .run index ok =>
      process.tasks[index]?.map fun task =>
        let ran := process.runTask ok task
        { ran.1 with tasks := process.tasks.set index ran.2 }
    | .peerEnded =>
      if process.main = .callbacks then none
      else some (process.beginStop.1.spawn process.beginStop.2)
    | .iceConnected =>
      if process.main = .callbacks then none else some (process.spawn .start)
    | .candidate udpRelay =>
      if process.main = .callbacks then none
      else some { process with
        primaryUdpRelayGathered := process.primaryUdpRelayGathered || udpRelay }
    | .gatheringComplete =>
      if process.main = .callbacks then none else some process.onGatheringComplete
    | .ipcArrives message => some { process with ipcQueue := process.ipcQueue ++ [message] }
    | .ipcReceive => process.receiveIpc
    | .ipcHandled =>
      if process.ipcTask = .handling then some { process with ipcTask := .receiving } else none
    | .ipcClosed =>
      if process.ipcTask = .receiving ∧ process.ipcQueue = [] then
        some { process with ipcTask := .returned }
      else none
    | .attached clientId =>
      some { process with secondaryPeers := process.secondaryPeers ++ [clientId] }

/-! ## Lost stops -/

/-- A task that comes to the end of a `stop`, whatever else happens. -/
def isStop : EndTask → Bool
  | .retryFreshSession | .stop _ => true
  | _ => false

/-- A call of `stop` is under way, or the IPC task will get to one. -/
def StopToCome (process : StreamerProcess) : Prop :=
  (∃ task ∈ process.tasks, isStop task = true) ∨
    process.ipcTask ≠ .returned ∧ .stop ∈ process.ipcQueue

/-- The main task waits, a call of `stop` has come to its end without waking it, and
no other is to come. -/
def StopLost (process : StreamerProcess) : Prop :=
  process.main = .waiting ∧ process.notified = true ∧ ¬ process.StopToCome

/-- The main task begins to wait before any call of `stop` has ended, or while one is
to come. -/
def WaitsInTime (process : StreamerProcess) (event : Event) : Prop :=
  event = .main → process.main = .wait → process.notified = true → process.StopToCome

/-- A step that neither lets the main task wait nor ends a call of `stop`, and that
takes none away. -/
theorem not_lost_of_kept {before after : StreamerProcess} (found : ¬ before.StopLost)
    (main : after.main = .waiting → before.main = .waiting)
    (notified : after.notified = before.notified)
    (toCome : before.StopToCome → after.StopToCome) : ¬ after.StopLost := by
  rintro ⟨waiting, ended, none⟩
  rw [notified] at ended
  exact found ⟨main waiting, ended, fun earlier => none (toCome earlier)⟩

/-- A call of `stop` goes on to its end, which wakes the main task. -/
theorem runTask_spec (process : StreamerProcess) (ok : Bool) (task : EndTask) :
    (process.runTask ok task).1.ipcQueue = process.ipcQueue ∧
    (process.runTask ok task).1.ipcTask = process.ipcTask ∧
    ((process.runTask ok task).1.main = process.main ∧
      (process.runTask ok task).1.notified = process.notified ∧
      (isStop task = true → isStop (process.runTask ok task).2 = true) ∨
    (process.runTask ok task).1.main ≠ .waiting) := by
  cases task with
  | start | starting | requestFreshSession =>
    unfold runTask
    dsimp only
    split <;> exact ⟨rfl, rfl, .inl ⟨rfl, rfl, fun impossible => by cases impossible⟩⟩
  | deadline | finished =>
    exact ⟨rfl, rfl, .inl ⟨rfl, rfl, fun impossible => by cases impossible⟩⟩
  | retryFreshSession => exact ⟨rfl, rfl, .inl ⟨rfl, rfl, fun _ => rfl⟩⟩
  | stop place =>
    cases place with
    | takeStream | dropStream | closePeers | sendStop =>
      exact ⟨rfl, rfl, .inl ⟨rfl, rfl, fun _ => rfl⟩⟩
    | notifyWaiters =>
      refine ⟨rfl, rfl, .inr ?_⟩
      change (if process.main = .waiting then MainTask.woken else process.main) ≠ .waiting
      split
      · exact fun impossible => by cases impossible
      · assumption

theorem not_lost_run {process : StreamerProcess} (found : ¬ process.StopLost)
    (isTask : process.tasks[index]? = some task) (ok : Bool) :
    ¬ StopLost { (process.runTask ok task).1 with
      tasks := process.tasks.set index (process.runTask ok task).2 } := by
  obtain ⟨queue, ipcTask, ⟨main, notified, goesOn⟩ | woken⟩ := runTask_spec process ok task
  · refine not_lost_of_kept found (fun waiting => main ▸ waiting) notified ?_
    rintro (⟨stopping, member, isStopping⟩ | ⟨alive, queued⟩)
    · left
      obtain itself | stays := mem_set_of_mem member isTask (process.runTask ok task).2
      · have bound := (List.getElem?_eq_some_iff.mp isTask).1
        refine ⟨_, List.mem_set bound _, goesOn ?_⟩
        rw [← itself]
        exact isStopping
      · exact ⟨stopping, stays, isStopping⟩
    · right
      change (process.runTask ok task).1.ipcTask ≠ .returned ∧ _ ∈ (process.runTask ok task).1.ipcQueue
      rw [queue, ipcTask]
      exact ⟨alive, queued⟩
  · exact fun lost => woken lost.1

theorem not_lost_spawn {process : StreamerProcess} (found : ¬ process.StopLost)
    (task : EndTask) : ¬ (process.spawn task).StopLost := by
  refine not_lost_of_kept found id rfl ?_
  rintro (⟨stopping, member, isStopping⟩ | queued)
  · exact .inl ⟨stopping, List.mem_append_left _ member, isStopping⟩
  · exact .inr queued

/-- A call of `stop` that has begun is to come to its end. -/
theorem not_lost_stopping (process : StreamerProcess) (stops : isStop task = true) :
    ¬ (process.spawn task).StopLost := by
  rintro ⟨-, -, none⟩
  apply none
  left
  exact ⟨task, List.mem_append_right _ (List.mem_singleton_self _), stops⟩

/-- Only the step into the wait can leave the main task waiting for a stop that has
been. -/
theorem runMain_spec {process : StreamerProcess} (taken : process.runMain = some next) :
    next.notified = process.notified ∧ next.tasks = process.tasks ∧
      next.ipcQueue = process.ipcQueue ∧
      (process.ipcTask ≠ .returned → next.ipcTask ≠ .returned) ∧
      (next.main = .waiting ↔ process.main = .wait) := by
  unfold runMain at taken
  cases place : process.main with
  | callbacks | stageComplete | stageStarting | wait | woken =>
    rw [place] at taken
    cases taken
    exact ⟨rfl, rfl, rfl, id, by simp only [reduceCtorEq]⟩
  | ipcTask =>
    rw [place] at taken
    cases taken
    refine ⟨rfl, rfl, rfl, fun _ impossible => ?_, by simp only [reduceCtorEq]⟩
    cases impossible
  | waiting | exited =>
    rw [place] at taken
    cases taken

/-- The main task that begins to wait loses a stop exactly if it is late for it. -/
theorem lost_main_iff {process : StreamerProcess} (taken : process.runMain = some next) :
    ¬ next.StopLost ↔ process.WaitsInTime .main := by
  obtain ⟨notified, tasks, queue, alive, waits⟩ := runMain_spec taken
  constructor
  · intro kept _ beginsWait ended
    by_contra none
    apply kept
    refine ⟨waits.mpr beginsWait, notified.trans ended, ?_⟩
    rintro (⟨task, member, isStopping⟩ | ⟨receives, queued⟩)
    · apply none
      left
      rw [tasks] at member
      exact ⟨task, member, isStopping⟩
    · -- The IPC task has not changed, as the main task was past its start.
      apply none
      right
      have same : next.ipcTask = process.ipcTask := by
        unfold runMain at taken
        rw [beginsWait] at taken
        cases taken
        rfl
      rw [queue] at queued
      exact ⟨same ▸ receives, queued⟩
  · rintro inTime ⟨waiting, ended, none⟩
    apply none
    obtain ⟨task, member, isStopping⟩ | ⟨receives, queued⟩ :=
      inTime rfl (waits.mp waiting) (notified.symm.trans ended)
    · left
      rw [tasks]
      exact ⟨task, member, isStopping⟩
    · right
      rw [queue]
      exact ⟨alive receives, queued⟩

theorem not_lost_gathered {process : StreamerProcess} (found : ¬ process.StopLost) :
    ¬ process.onGatheringComplete.StopLost := by
  unfold onGatheringComplete
  split
  · split
    · exact not_lost_spawn found _
    · split
      · exact found
      · apply not_lost_spawn
        exact found
  · exact found

/-- The IPC task leaves the queue only by a stop, of which it makes a call. -/
theorem not_lost_received {process : StreamerProcess} (found : ¬ process.StopLost)
    (taken : process.receiveIpc = some next) : ¬ next.StopLost := by
  unfold receiveIpc at taken
  split at taken
  · cases taken
    exact not_lost_stopping _ rfl
  · rename_i first rest other receiving isQueue
    cases taken
    refine not_lost_of_kept found id rfl ?_
    rintro (running | ⟨-, queued⟩)
    · exact .inl running
    · right
      refine ⟨nofun, ?_⟩
      rw [isQueue] at queued
      obtain isStop | later := List.mem_cons.mp queued
      · exact (other isStop.symm).elim
      · exact later
  · cases taken

/-- Everything but the step into the wait keeps the main task from missing a stop. -/
theorem step_spec {process : StreamerProcess} (found : ¬ process.StopLost)
    (taken : process.step event = some next) :
    ¬ next.StopLost ↔ process.WaitsInTime event := by
  obtain ⟨-, taken⟩ := Option.ite_none_left_eq_some.mp taken
  cases event with
  | main => exact lost_main_iff taken
  | run index ok =>
    obtain ⟨task, isTask, same⟩ := Option.map_eq_some_iff.mp taken
    cases same
    exact iff_of_true (not_lost_run found isTask ok) nofun
  | peerEnded =>
    obtain ⟨-, same⟩ := Option.ite_none_left_eq_some.mp taken
    cases same
    exact iff_of_true (not_lost_stopping _ rfl) nofun
  | iceConnected =>
    obtain ⟨-, same⟩ := Option.ite_none_left_eq_some.mp taken
    cases same
    exact iff_of_true (not_lost_spawn found .start) nofun
  | candidate udpRelay =>
    obtain ⟨-, same⟩ := Option.ite_none_left_eq_some.mp taken
    cases same
    exact iff_of_true (not_lost_of_kept found id rfl id) nofun
  | gatheringComplete =>
    obtain ⟨-, same⟩ := Option.ite_none_left_eq_some.mp taken
    cases same
    exact iff_of_true (not_lost_gathered found) nofun
  | ipcArrives message =>
    cases taken
    refine iff_of_true (not_lost_of_kept found id rfl ?_) nofun
    rintro (running | ⟨alive, queued⟩)
    · exact .inl running
    · exact .inr ⟨alive, List.mem_append_left _ queued⟩
  | ipcReceive => exact iff_of_true (not_lost_received found taken) nofun
  | ipcHandled =>
    obtain ⟨handling, same⟩ := Option.ite_none_right_eq_some.mp taken
    cases same
    refine iff_of_true (not_lost_of_kept found id rfl ?_) nofun
    rintro (running | ⟨-, queued⟩)
    · exact .inl running
    · exact .inr ⟨nofun, queued⟩
  | ipcClosed =>
    obtain ⟨⟨-, isEmpty⟩, same⟩ := Option.ite_none_right_eq_some.mp taken
    cases same
    refine iff_of_true (not_lost_of_kept found id rfl ?_) nofun
    rintro (running | ⟨-, queued⟩)
    · exact .inl running
    · rw [isEmpty] at queued
      cases queued
  | attached clientId =>
    cases taken
    exact iff_of_true (not_lost_of_kept found id rfl id) nofun

/-- No stop is ever lost along a run exactly if the main task begins to wait in time
for each: before any call of `stop` has come to its end, or while one is to come. -/
theorem no_stop_lost_iff (relayOnly : Bool) (events : List Event) :
    Along step (fun _ _ next => ¬ next.StopLost) (start relayOnly) events ↔
      Along step (fun process event _ => process.WaitsInTime event) (start relayOnly) events := by
  apply along_iff (fun process => ¬ process.StopLost)
  · exact fun process event next found taken => step_spec found taken
  · exact fun process event next found taken inTime => (step_spec found taken).mpr inTime
  · rintro ⟨impossible, -⟩
    cases impossible

/-- The server stops a streamer whose main task is still at its messages. -/
def stopBeforeWait : List Event :=
  [.main, .main, .ipcArrives .stop, .ipcReceive,
    .run 0 true, .run 0 true, .run 0 true, .run 0 true, .run 0 true, .main, .main, .main]

theorem early_stop_lost : ¬ ∀ relayOnly events stopped,
    run step (start relayOnly) events = some stopped → ¬ stopped.StopLost := by
  intro kept
  have ran : ∃ stopped, run step (start false) stopBeforeWait = some stopped ∧
      stopped.main = .waiting ∧ stopped.notified = true ∧
      stopped.tasks = [.finished] ∧ stopped.ipcTask = .returned :=
    ⟨_, rfl, rfl, rfl, rfl, rfl⟩
  obtain ⟨stopped, ran, waiting, ended, tasks, returned⟩ := ran
  apply kept false stopBeforeWait stopped ran
  refine ⟨waiting, ended, ?_⟩
  rintro (⟨task, member, isStopping⟩ | ⟨alive, -⟩)
  · rw [tasks, List.mem_singleton] at member
    subst member
    cases isStopping
  · exact alive returned

end StreamerProcess

end MoonlightWeb.Streamer

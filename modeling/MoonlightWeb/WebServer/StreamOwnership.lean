import MoonlightWeb.WebServer.StreamLifecycle

/-! Who may take a stream out of the active slot. A starter replaces a stream
only after it has sent it Stop, and it holds the lifecycle lock from before it
looks at the slot until after it has filled it, so no other starter comes in
between. A router clears the slot only while its own stream is in it. -/
namespace MoonlightWeb.WebServer
open MoonlightWeb.Machine

/-- No message is unsent and no stream that has ended runs again. -/
def Keeps (before after : List ActiveStream) : Prop :=
  ∀ (stream : StreamId) earlier, before[stream]? = some earlier →
    ∃ later, after[stream]? = some later ∧
      (∀ message ∈ earlier.ipc, message ∈ later.ipc) ∧ (earlier.ended → later.ended)

theorem keeps_refl (streams : List ActiveStream) : Keeps streams streams :=
  fun _ earlier held => ⟨earlier, held, fun _ sent => sent, id⟩

theorem keeps_modify (streams : List ActiveStream) (stream : StreamId)
    (sent : ∀ active : ActiveStream, ∀ message ∈ active.ipc, message ∈ (change active).ipc)
    (ended : ∀ active : ActiveStream, active.ended → (change active).ended) :
    Keeps streams (streams.modify stream change) := by
  intro other earlier held
  rw [List.getElem?_modify, held]
  by_cases same : stream = other
  · exact ⟨change earlier, by simp [same], sent earlier, ended earlier⟩
  · exact ⟨earlier, by simp [same], fun _ sent => sent, id⟩

theorem keeps_append (streams more : List ActiveStream) : Keeps streams (streams ++ more) := by
  intro stream earlier held
  have inside := (List.getElem?_eq_some_iff.mp held).1
  exact ⟨earlier, by rw [List.getElem?_append_left inside, held], fun _ sent => sent, id⟩

def StopSent (streams : List ActiveStream) (stream : StreamId) : Prop :=
  ∃ active, streams[stream]? = some active ∧ .stop ∈ active.ipc

/-- A stream was told to stop or has ended by itself. -/
def Finishing (streams : List ActiveStream) (stream : StreamId) : Prop :=
  ∃ active, streams[stream]? = some active ∧ (.stop ∈ active.ipc ∨ active.ended)

theorem StopSent.kept (sent : StopSent before stream) (keeps : Keeps before after) :
    StopSent after stream := by
  obtain ⟨active, held, member⟩ := sent
  obtain ⟨later, heldLater, messages, _⟩ := keeps stream active held
  exact ⟨later, heldLater, messages _ member⟩

theorem Finishing.kept (finishing : Finishing before stream) (keeps : Keeps before after) :
    Finishing after stream := by
  obtain ⟨active, held, cause⟩ := finishing
  obtain ⟨later, heldLater, messages, ended⟩ := keeps stream active held
  exact ⟨later, heldLater, cause.imp (messages _) ended⟩

theorem StopSent.finishing (sent : StopSent streams stream) : Finishing streams stream := by
  obtain ⟨active, held, member⟩ := sent
  exact ⟨active, held, .inl member⟩

namespace StreamTask

/-- The places at which a task holds the lifecycle lock. -/
def underLock : StreamTask → Prop
  | .primary .active | .primary (.age _) | .primary .existing | .primary (.stop _)
  | .primary (.wait _) | .primary .spawn | .primary .register | .primary (.init _) => True
  | .input _ .recheck | .input _ .connect | .input _ .spawn | .input _ .register
  | .input _ (.init _) => True
  | _ => False

/-- What a starter has seen to before it replaces the active stream. -/
def Replaces (streams : List ActiveStream) (active : Option StreamId) : StreamTask → Prop
  | .primary (.stop existing) => ∀ stream, active = some stream → stream = existing
  | .primary (.wait _) | .primary .spawn | .primary .register
  | .input _ .connect | .input _ .spawn | .input _ .register =>
    ∀ stream, active = some stream → StopSent streams stream
  | _ => True

theorem replaces_of_free (free : ¬ task.underLock) : Replaces streams active task := by
  cases task with
  | primary place => cases place <;> first | trivial | exact (free trivial).elim
  | input seen place => cases place <;> first | trivial | exact (free trivial).elim
  | supervisor stream place => trivial

/-- Less in the slot and more sent never hurts. -/
theorem Replaces.kept (replaces : Replaces before held task) (keeps : Keeps before after)
    (fewer : ∀ stream, holds = some stream → held = some stream) :
    Replaces after holds task := by
  cases task with
  | primary place =>
    cases place with
    | stop existing => exact fun stream active => replaces stream (fewer stream active)
    | wait | spawn | register =>
      exact fun stream active => (replaces stream (fewer stream active)).kept keeps
    | _ => trivial
  | input seen place =>
    cases place with
    | connect | spawn | register =>
      exact fun stream active => (replaces stream (fewer stream active)).kept keeps
    | _ => trivial
  | supervisor stream place => trivial

end StreamTask

structure Owned (host : Host) : Prop where
  known : ∀ stream, host.activeStream.value = some stream → stream < host.streams.length
  finishing : ∀ stream < host.streams.length, host.activeStream.value ≠ some stream →
    Finishing host.streams stream
  exclusive : ∀ (index : Nat) task, host.tasks[index]? = some task → task.underLock →
    host.lifecycle = some index
  replaces : ∀ (index : Nat) task, host.tasks[index]? = some task →
    task.Replaces host.streams host.activeStream.value

/-- Everything a task can do to the host when it goes on: the slot stays, or the
task, which holds the lock, registers a new stream over one that was told to
stop. -/
structure Goes (host : Host) (index : Nat) (next : Host) (after : StreamTask) : Prop where
  keeps : Keeps host.streams next.streams
  active : (next.activeStream = host.activeStream ∧ next.streams.length = host.streams.length) ∨
    (host.lifecycle = some index ∧
      (∀ stream, host.activeStream.value = some stream → StopSent host.streams stream) ∧
      next.activeStream = host.activeStream.sendReplace (some host.streams.length) ∧
      next.streams.length = host.streams.length + 1)
  lifecycle : next.lifecycle = host.lifecycle ∨ host.lifecycle = none ∨
    host.lifecycle = some index
  locked : after.underLock → next.lifecycle = some index
  replaces : after.Replaces next.streams next.activeStream.value
  tasks : ∃ more, next.tasks = host.tasks ++ more ∧
    ∀ task ∈ more, ∃ stream place, task = .supervisor stream place

theorem goes_on (locked : after.underLock → host.lifecycle = some index)
    (replaces : after.Replaces host.streams host.activeStream.value) : Goes host index host after :=
  ⟨keeps_refl _, .inl ⟨rfl, rfl⟩, .inl rfl, locked, replaces, [], by simp⟩

theorem goes_free (free : ¬ after.underLock) : Goes host index host after :=
  goes_on (fun underLock => (free underLock).elim) (StreamTask.replaces_of_free free)

theorem goes_release (holds : host.lifecycle = some index) (free : ¬ after.underLock) :
    Goes host index host.release after :=
  ⟨keeps_refl _, .inl ⟨rfl, rfl⟩, .inr (.inr holds), fun underLock => (free underLock).elim,
    StreamTask.replaces_of_free free, [], by simp [Host.release]⟩

theorem goes_acquire (got : host.acquire index = some next)
    (replaces : after.Replaces host.streams host.activeStream.value) :
    Goes host index next after := by
  simp only [Host.acquire, Option.ite_none_right_eq_some, Option.some.injEq] at got
  obtain ⟨noHolder, rfl⟩ := got
  exact ⟨keeps_refl _, .inl ⟨rfl, rfl⟩, .inr (.inl noHolder), fun _ => rfl, replaces, [], by simp⟩

/-- A change of one stream that unsends nothing and revives nothing. -/
theorem goes_modify (free : ¬ after.underLock)
    (sent : ∀ active : ActiveStream, ∀ message ∈ active.ipc, message ∈ (change active).ipc)
    (ended : ∀ active : ActiveStream, active.ended → (change active).ended) :
    Goes host index (host.modifyStream stream change) after :=
  ⟨keeps_modify _ _ sent ended, .inl ⟨rfl, by simp [Host.modifyStream]⟩, .inl rfl,
    fun underLock => (free underLock).elim, StreamTask.replaces_of_free free, [],
    by simp [Host.modifyStream]⟩

theorem goes_send (free : ¬ after.underLock) : Goes host index (host.send stream message) after :=
  goes_modify free (fun _ _ sent => List.mem_cons_of_mem _ sent) fun _ ended => ended

/-- A starter fills the slot. -/
theorem goes_register (holds : host.lifecycle = some index)
    (stopped : ∀ stream, host.activeStream.value = some stream → StopSent host.streams stream)
    (replaces : after.Replaces (host.registerStream primary).streams
      (host.registerStream primary).activeStream.value) :
    Goes host index (host.registerStream primary) after :=
  ⟨keeps_append _ _, .inr ⟨holds, stopped, rfl, by simp [Host.registerStream]⟩, .inl rfl,
    fun _ => holds, replaces, [], by simp [Host.registerStream]⟩

private theorem send_stop_sent {host : Host} (known : stream < host.streams.length) :
    StopSent (host.send stream .stop).streams stream := by
  have held : host.streams[stream]? = some host.streams[stream] := List.getElem?_eq_getElem known
  exact ⟨host.streams[stream].send .stop,
    by simp [Host.send, Host.modifyStream, held], List.mem_cons_self⟩

theorem runPrimary_goes (owned : Owned host) (here : host.tasks[index]? = some (.primary place))
    (ran : host.runPrimary index outcome place = some (next, after)) :
    Goes host index next (.primary after) := by
  have holds := owned.exclusive index _ here
  have replaces := owned.replaces index _ here
  cases place with
  | lock =>
    obtain ⟨host', got, same⟩ := Option.map_eq_some_iff.mp ran
    cases same
    exact goes_acquire got trivial
  | active =>
    simp only [Host.runPrimary] at ran
    split at ran <;> cases ran <;> exact goes_on (fun _ => holds trivial) trivial
  | age existing =>
    simp only [Host.runPrimary] at ran
    split at ran <;> cases ran
    · exact goes_release (holds trivial) id
    · exact goes_on (fun _ => holds trivial) trivial
  | existing =>
    simp only [Host.runPrimary] at ran
    split at ran <;> rename_i slot <;> cases ran
    · exact goes_on (fun _ => holds trivial) fun stream active =>
        Option.some.inj (active.symm.trans slot)
    · exact goes_on (fun _ => holds trivial) fun stream active => by
        cases slot.symm.trans active
  | stop existing =>
    cases ran
    refine ⟨keeps_modify _ _ (fun _ _ sent => List.mem_cons_of_mem _ sent) fun _ ended => ended,
      .inl ⟨rfl, by simp [Host.send, Host.modifyStream]⟩, .inl rfl, fun _ => holds trivial, ?_, [],
      by simp [Host.send, Host.modifyStream]⟩
    intro stream active
    cases replaces stream active
    exact send_stop_sent (owned.known _ active)
  | wait deadline =>
    simp only [Host.runPrimary, Option.ite_none_right_eq_some] at ran
    cases ran.2
    exact goes_on (fun _ => holds trivial) replaces
  | spawn =>
    simp only [Host.runPrimary] at ran
    split at ran <;> cases ran
    · exact goes_on (fun _ => holds trivial) replaces
    · exact goes_release (holds trivial) id
  | register =>
    cases ran
    exact goes_register (holds trivial) replaces trivial
  | init stream =>
    cases ran
    exact ⟨keeps_modify _ _ (fun _ _ sent => List.mem_cons_of_mem _ sent) fun _ ended => ended,
      .inl ⟨rfl, by simp [Host.send, Host.modifyStream, Host.release]⟩, .inr (.inr (holds trivial)),
      False.elim, trivial, [], by simp [Host.send, Host.modifyStream, Host.release]⟩
  | stopOwn stream =>
    cases ran
    exact goes_send id
  | relay | finished => cases ran

theorem runInput_goes (owned : Owned host) (here : host.tasks[index]? = some (.input seen place))
    (ran : host.runInput index outcome place = some (next, after)) :
    Goes host index next (.input seen after) := by
  have holds := owned.exclusive index _ here
  have replaces := owned.replaces index _ here
  cases place with
  | check =>
    simp only [Host.runInput] at ran
    split at ran <;> cases ran <;> exact goes_free id
  | lock =>
    obtain ⟨host', got, same⟩ := Option.map_eq_some_iff.mp ran
    cases same
    exact goes_acquire got trivial
  | recheck =>
    simp only [Host.runInput] at ran
    split at ran <;> rename_i free <;> cases ran
    · exact goes_release (holds trivial) id
    · refine goes_on (fun _ => holds trivial) fun stream active => ?_
      simp [active] at free
  | connect | spawn =>
    simp only [Host.runInput] at ran
    split at ran <;> cases ran
    · exact goes_on (fun _ => holds trivial) replaces
    · exact goes_release (holds trivial) id
  | register =>
    cases ran
    exact goes_register (holds trivial) replaces trivial
  | init stream =>
    cases ran
    refine ⟨keeps_modify _ _ (fun _ _ sent => List.mem_cons_of_mem _ sent) fun _ ended => ended,
      .inl ⟨rfl, by simp [Host.send, Host.modifyStream, Host.release, Host.supervise]⟩,
      .inr (.inr (holds trivial)), False.elim, trivial, _, rfl, ?_⟩
    simp
  | borrow =>
    simp only [Host.runInput] at ran
    split at ran <;> cases ran
    · exact goes_free id
    · cases outcome <;> exact goes_free id
  | attach stream =>
    simp only [Host.runInput] at ran
    split at ran <;> cases ran
    exact goes_modify id (fun _ _ sent => sent) fun _ ended => ended
  | announce stream clientId =>
    cases ran
    exact goes_send id
  | borrowAttached stream clientId =>
    simp only [Host.runInput] at ran
    split at ran <;> cases ran <;> exact goes_free id
  | remove stream clientId exit =>
    cases ran
    exact goes_modify id (fun _ _ sent => sent) fun _ ended => ended
  | detach stream clientId exit =>
    cases ran
    cases exit <;> exact goes_send id
  | idle | relaying | finished => cases ran

/-- A supervisor only ever sends its stream the stop. -/
theorem runSupervisor_cases {host next : Host}
    (ran : host.runSupervisor stream outcome place = some (next, after)) :
    next = host ∨ next = host.send stream .stop := by
  cases place with
  | sleep wake emptyPolls =>
    simp only [Host.runSupervisor, Option.ite_none_right_eq_some] at ran
    cases ran.2
    exact .inl rfl
  | poll emptyPolls =>
    simp only [Host.runSupervisor] at ran
    split at ran
    · cases ran
      exact .inl rfl
    split at ran
    · split at ran
      · cases ran
        exact .inl rfl
      · split at ran <;> cases ran <;> exact .inl rfl
    · cases ran
  | stop =>
    cases ran
    exact .inr rfl
  | finished => cases ran

theorem runSupervisor_goes (ran : host.runSupervisor stream outcome place = some (next, after)) :
    Goes host index next (.supervisor stream after) := by
  rcases runSupervisor_cases ran with rfl | rfl
  · exact goes_free id
  · exact goes_send id

theorem runTask_goes (owned : Owned host) (here : host.tasks[index]? = some task)
    (ran : host.runTask index outcome task = some (next, after)) : Goes host index next after := by
  cases task with
  | primary place =>
    obtain ⟨⟨host', place'⟩, went, same⟩ := Option.map_eq_some_iff.mp ran
    cases same
    exact runPrimary_goes owned here went
  | input seen place =>
    obtain ⟨⟨host', place'⟩, went, same⟩ := Option.map_eq_some_iff.mp ran
    cases same
    exact runInput_goes owned here went
  | supervisor stream place =>
    obtain ⟨⟨host', place'⟩, went, same⟩ := Option.map_eq_some_iff.mp ran
    cases same
    exact runSupervisor_goes went

/-- What a browser's input does where its `select` ends: look at the slot again,
or leave. -/
inductive Input.Woken : Input → Input → Prop
  | again : Woken .idle .borrow
  | leaves : Woken .idle .finished
  | looks (stream : StreamId) (clientId : UInt32) :
      Woken (.relaying stream clientId) (.borrowAttached stream clientId)
  | closes (stream : StreamId) (clientId : UInt32) :
      Woken (.relaying stream clientId) (.remove stream clientId .wsClosed)

theorem Input.Woken.free (woken : Input.Woken before place) :
    ¬ (StreamTask.input seen place).underLock := by
  cases woken <;> exact id

/-- Everything a branch of a `select` can do: send a message on and wait again, or
end the wait of a primary or of an input. -/
theorem select_cases {host next : Host} {task after : StreamTask}
    (ran : host.select event task = some (next, after)) :
    (∃ stream clientId, next = host.send stream (.webSocket clientId) ∧ after = task ∧
      ¬ task.underLock) ∨
    (next = host ∧ ∃ before place, task = .primary before ∧ after = .primary place ∧
      ¬ after.underLock) ∨
    (next = host ∧ ∃ seen before seen' place, task = .input seen before ∧
      after = .input seen' place ∧ (seen' = seen ∨ host.activeStream.changed seen = some seen') ∧
      before.Woken place) := by
  unfold Host.select at ran
  split at ran
  · rename_i stream
    split at ran <;> cases ran
    · exact .inl ⟨stream, 0, rfl, rfl, id⟩
    · exact .inr (.inl ⟨rfl, _, _, rfl, rfl, id⟩)
    · exact .inr (.inl ⟨rfl, _, _, rfl, rfl, id⟩)
  · rename_i seen
    split at ran
    · obtain ⟨seen', told, same⟩ := Option.map_eq_some_iff.mp ran
      cases same
      exact .inr (.inr ⟨rfl, seen, _, seen', _, rfl, rfl, .inr told, .again⟩)
    · cases ran
      exact .inr (.inr ⟨rfl, seen, _, seen, _, rfl, rfl, .inl rfl, .leaves⟩)
    · cases ran
  · rename_i seen stream clientId
    split at ran
    · obtain ⟨seen', told, same⟩ := Option.map_eq_some_iff.mp ran
      cases same
      exact .inr (.inr ⟨rfl, seen, _, seen', _, rfl, rfl, .inr told, .looks stream clientId⟩)
    · cases ran
      exact .inl ⟨stream, clientId, rfl, rfl, id⟩
    · cases ran
      exact .inr (.inr ⟨rfl, seen, _, seen, _, rfl, rfl, .inl rfl, .closes stream clientId⟩)
    · cases ran
  · cases ran

/-- A branch of a `select` leaves the slot alone. -/
theorem select_keeps_slot {host next : Host} (ran : host.select event task = some (next, after)) :
    next.activeStream = host.activeStream := by
  rcases select_cases ran with ⟨stream, clientId, rfl, _⟩ | ⟨rfl, _⟩ | ⟨rfl, _⟩ <;> rfl

/-- A branch of a `select` needs no lock and takes none. -/
theorem select_goes (ran : host.select event task = some (next, after)) :
    Goes host index next after := by
  rcases select_cases ran with ⟨stream, clientId, rfl, rfl, free⟩ |
    ⟨rfl, before, place, rfl, rfl, free⟩ | ⟨rfl, seen, before, seen', place, rfl, rfl, _, woken⟩
  · exact goes_send free
  · exact goes_free free
  · exact goes_free woken.free

/-- Any task after a step is the one that went on, an older one, or a new one
without the lock. -/
theorem task_cases {tasks more : List StreamTask}
    (found : ((tasks ++ more).set index after)[other]? = some task) :
    (other = index ∧ task = after) ∨ (other ≠ index ∧ tasks[other]? = some task) ∨ task ∈ more := by
  rw [List.getElem?_set] at found
  split at found
  · rename_i same
    split at found
    · exact .inl ⟨same.symm, (Option.some.inj found).symm⟩
    · cases found
  · rename_i different
    rw [List.getElem?_append] at found
    split at found
    · exact .inr (.inl ⟨Ne.symm different, found⟩)
    · exact .inr (.inr (List.mem_of_getElem? found))

theorem resumed_owned (owned : Owned host) (goes : Goes host index next after) :
    Owned { next with tasks := next.tasks.set index after } := by
  obtain ⟨keeps, active, lifecycle, locked, replaces, more, tasks, supervisors⟩ := goes
  have free (task : StreamTask) (new : task ∈ more) : ¬ task.underLock := by
    obtain ⟨stream, place, rfl⟩ := supervisors task new
    exact id
  -- Another task that holds the lock keeps it, and the slot keeps its stream.
  have others (other : Nat) (task : StreamTask) (different : other ≠ index)
      (found : host.tasks[other]? = some task) (underLock : task.underLock) :
      next.lifecycle = host.lifecycle ∧ next.activeStream = host.activeStream := by
    have holds := owned.exclusive other task found underLock
    have notMine : host.lifecycle ≠ some index := by
      rw [holds]
      exact fun same => different (Option.some.inj same)
    refine ⟨lifecycle.resolve_right (not_or.mpr ⟨by simp [holds], notMine⟩), ?_⟩
    rcases active with ⟨same, _⟩ | ⟨mine, _⟩
    · exact same
    · exact (notMine mine).elim
  refine ⟨?_, ?_, ?_, ?_⟩
  · intro stream isActive
    show stream < next.streams.length
    rcases active with ⟨same, length⟩ | ⟨_, _, same, length⟩
    · exact length ▸ owned.known stream (same ▸ isActive)
    · simp only [same, Watch.sendReplace, Option.some.injEq] at isActive
      rw [length, ← isActive]
      exact Nat.lt_succ_self _
  · intro stream inside replaced
    rcases active with ⟨same, length⟩ | ⟨_, stopped, same, length⟩
    · exact (owned.finishing stream (length ▸ inside) (same ▸ replaced)).kept keeps
    · simp only [same, Watch.sendReplace, ne_eq, Option.some.injEq] at replaced
      have older : stream < host.streams.length :=
        Nat.lt_of_le_of_ne (Nat.le_of_lt_succ (Nat.lt_of_lt_of_eq inside length)) (Ne.symm replaced)
      by_cases wasActive : host.activeStream.value = some stream
      · exact ((stopped stream wasActive).kept keeps).finishing
      · exact (owned.finishing stream older wasActive).kept keeps
  · intro other task found underLock
    rw [tasks] at found
    rcases task_cases found with ⟨rfl, rfl⟩ | ⟨different, found⟩ | new
    · exact locked underLock
    · rw [(others other task different found underLock).1]
      exact owned.exclusive other task found underLock
    · exact (free task new underLock).elim
  · intro other task found
    rw [tasks] at found
    by_cases underLock : task.underLock
    · rcases task_cases found with ⟨rfl, rfl⟩ | ⟨different, found⟩ | new
      · exact replaces
      · rw [(others other task different found underLock).2]
        exact (owned.replaces other task found).kept keeps fun _ => id
      · exact (free task new underLock).elim
    · exact StreamTask.replaces_of_free underLock

/-- A host whose slot holds no more, whose streams keep what they have, and
whose tasks and lock are the same. -/
private theorem owned_of_kept {host next : Host} (owned : Owned host)
    (keeps : Keeps host.streams next.streams) (length : next.streams.length = host.streams.length)
    (fewer : ∀ stream, next.activeStream.value = some stream →
      host.activeStream.value = some stream)
    (taken : ∀ stream, host.activeStream.value = some stream →
      next.activeStream.value ≠ some stream → Finishing next.streams stream)
    (tasks : next.tasks = host.tasks) (lifecycle : next.lifecycle = host.lifecycle) :
    Owned next where
  known stream isActive := length ▸ owned.known stream (fewer stream isActive)
  finishing stream inside replaced := by
    by_cases wasActive : host.activeStream.value = some stream
    · exact taken stream wasActive replaced
    · exact (owned.finishing stream (length ▸ inside) wasActive).kept keeps
  exclusive index task found underLock := by
    rw [lifecycle]
    exact owned.exclusive index task (tasks ▸ found) underLock
  replaces index task found := (owned.replaces index task (tasks ▸ found)).kept keeps fewer

private theorem owned_connect (owned : Owned host) (free : ¬ StreamTask.underLock task) :
    Owned { host with tasks := host.tasks ++ [task] } where
  known := owned.known
  finishing := owned.finishing
  exclusive index other found underLock := by
    rw [List.getElem?_append] at found
    split at found
    · exact owned.exclusive index other found underLock
    · cases List.mem_singleton.mp (List.mem_of_getElem? found)
      exact (free underLock).elim
  replaces index other found := by
    rw [List.getElem?_append] at found
    split at found
    · exact owned.replaces index other found
    · cases List.mem_singleton.mp (List.mem_of_getElem? found)
      exact StreamTask.replaces_of_free free

private theorem keeps_router {host : Host} {stream : StreamId} {change : ActiveStream → ActiveStream}
    (sent : ∀ active : ActiveStream, (change active).ipc = active.ipc)
    (ended : ∀ active : ActiveStream, (change active).ended) :
    Keeps host.streams (host.modifyStream stream change).streams :=
  keeps_modify _ _ (fun active message member => by rwa [sent]) fun active _ => ended active

theorem step_keeps_owned (host : Host) (event : HostEvent) (next : Host) (owned : Owned host)
    (taken : host.step event = some next) : Owned next := by
  cases event with
  | connectPrimary =>
    cases taken
    exact owned_connect owned id
  | connectInput =>
    cases taken
    exact owned_connect owned id
  | run index outcome =>
    obtain ⟨task, here, taken⟩ := Option.bind_eq_some_iff.mp taken
    obtain ⟨⟨host', after⟩, ran, rfl⟩ := Option.map_eq_some_iff.mp taken
    exact resumed_owned owned (runTask_goes owned here ran)
  | changed index | message index | wsClosed index | childExited index =>
    obtain ⟨task, here, taken⟩ := Option.bind_eq_some_iff.mp taken
    obtain ⟨⟨host', after⟩, ran, rfl⟩ := Option.map_eq_some_iff.mp taken
    exact resumed_owned owned (select_goes ran)
  | clock now =>
    simp only [Host.step, Option.ite_none_right_eq_some, Option.some.injEq] at taken
    obtain ⟨_, rfl⟩ := taken
    exact owned_of_kept owned (keeps_refl _) rfl (fun _ => id) (fun _ held other => (other held).elim)
      rfl rfl
  | streamEnds stream =>
    obtain ⟨active, held, taken⟩ := Option.bind_eq_some_iff.mp taken
    simp only [Option.ite_none_right_eq_some, Option.some.injEq] at taken
    obtain ⟨_, rfl⟩ := taken
    exact owned_of_kept owned (keeps_router (fun _ => rfl) fun _ => nofun)
      (by simp [Host.modifyStream]) (fun _ => id) (fun _ held other => (other held).elim) rfl rfl
  | closePrimary stream =>
    obtain ⟨active, held, taken⟩ := Option.bind_eq_some_iff.mp taken
    simp only [Option.ite_none_right_eq_some, Option.some.injEq] at taken
    obtain ⟨_, rfl⟩ := taken
    exact owned_of_kept owned (keeps_router (fun _ => rfl) fun _ => nofun)
      (by simp [Host.modifyStream]) (fun _ => id) (fun _ held other => (other held).elim) rfl rfl
  | clean stream =>
    obtain ⟨active, held, taken⟩ := Option.bind_eq_some_iff.mp taken
    simp only [Option.ite_none_right_eq_some, Option.some.injEq] at taken
    obtain ⟨_, rfl⟩ := taken
    have keeps : Keeps host.streams (host.modifyStream stream fun active =>
        { active with router := .closing }).streams :=
      keeps_router (fun _ => rfl) fun _ => nofun
    split
    · rename_i isCurrent
      refine owned_of_kept owned keeps (by simp [Host.modifyStream]) nofun
        (fun other wasActive _ => ?_) rfl rfl
      cases Option.some.inj (isCurrent.symm.trans wasActive)
      exact ⟨{ active with router := .closing },
        by simp [Host.modifyStream, held], .inr nofun⟩
    · exact owned_of_kept owned keeps (by simp [Host.modifyStream]) (fun _ => id)
        (fun _ held other => (other held).elim) rfl rfl

theorem start_owned : Owned Host.start where
  known := nofun
  finishing := nofun
  exclusive := by simp [Host.start]
  replaces := by simp [Host.start]

/-- The slot changes only by its own stream's router, or by a task that
registers a new stream. -/
theorem slot_step_cases (owned : Owned host) (taken : host.step event = some next) :
    next.activeStream = host.activeStream ∨
      (∃ stream, event = .clean stream ∧ host.activeStream.value = some stream ∧
        next.activeStream = host.activeStream.sendReplace none) ∨
      ∃ index outcome, event = .run index outcome ∧
        next.activeStream = host.activeStream.sendReplace (some host.streams.length) := by
  cases event with
  | connectPrimary | connectInput =>
    cases taken
    exact .inl rfl
  | run index outcome =>
    obtain ⟨task, here, taken⟩ := Option.bind_eq_some_iff.mp taken
    obtain ⟨⟨host', after⟩, ran, rfl⟩ := Option.map_eq_some_iff.mp taken
    rcases (runTask_goes owned here ran).active with ⟨same, _⟩ | ⟨_, _, registered, _⟩
    · exact .inl same
    · exact .inr (.inr ⟨index, outcome, rfl, registered⟩)
  | changed index | message index | wsClosed index | childExited index =>
    obtain ⟨task, here, taken⟩ := Option.bind_eq_some_iff.mp taken
    obtain ⟨⟨host', after⟩, ran, rfl⟩ := Option.map_eq_some_iff.mp taken
    have same := select_keeps_slot ran
    exact .inl same
  | clock now =>
    simp only [Host.step, Option.ite_none_right_eq_some, Option.some.injEq] at taken
    obtain ⟨_, rfl⟩ := taken
    exact .inl rfl
  | streamEnds stream | closePrimary stream =>
    obtain ⟨active, held, taken⟩ := Option.bind_eq_some_iff.mp taken
    simp only [Option.ite_none_right_eq_some, Option.some.injEq] at taken
    obtain ⟨_, rfl⟩ := taken
    exact .inl rfl
  | clean stream =>
    obtain ⟨active, held, taken⟩ := Option.bind_eq_some_iff.mp taken
    simp only [Option.ite_none_right_eq_some, Option.some.injEq] at taken
    obtain ⟨_, rfl⟩ := taken
    split
    · rename_i isCurrent
      exact .inr (.inl ⟨stream, rfl, isCurrent, rfl⟩)
    · exact .inl rfl

/-- In every run the active stream is taken out of the slot by its own router or
replaced by a newer one, and every stream that is not in the slot was told to
stop or has ended. -/
theorem stream_lifecycle (reached : Reachable Host.step Host.start host) :
    (∀ event next stream, host.step event = some next →
      host.activeStream.value = some stream → next.activeStream.value ≠ some stream →
        event = .clean stream ∨ ∃ index outcome, event = .run index outcome ∧
          next.activeStream.value = some host.streams.length) ∧
    ∀ (stream : StreamId) active, host.streams[stream]? = some active →
      host.activeStream.value ≠ some stream → .stop ∈ active.ipc ∨ active.ended := by
  have owned := reachable_invariant Owned start_owned step_keeps_owned reached
  constructor
  · intro event next stream taken wasActive replaced
    rcases slot_step_cases owned taken with same | ⟨cleaned, rfl, isCurrent, _⟩ |
      ⟨index, outcome, rfl, registered⟩
    · exact (replaced (same ▸ wasActive)).elim
    · cases wasActive.symm.trans isCurrent
      exact .inl rfl
    · exact .inr ⟨index, outcome, rfl, by rw [registered]; rfl⟩
  · intro stream active held replaced
    obtain ⟨other, found, finishing⟩ :=
      owned.finishing stream (List.getElem?_eq_some_iff.mp held).1 replaced
    cases held.symm.trans found
    exact finishing

/-- A browser starts a stream, and another one takes over ten seconds later from
a streamer that does not stop. -/
def takeover : List HostEvent :=
  [.connectPrimary, .run 0 true, .run 0 true, .run 0 true, .run 0 true, .run 0 true, .run 0 true,
    .clock 10000, .connectPrimary, .run 1 true, .run 1 true, .run 1 true, .run 1 true, .run 1 true,
    .clock 20000, .run 1 true, .run 1 true, .run 1 true]

theorem taken_over_stream_was_stopped : ∃ host, run Host.step Host.start takeover = some host ∧
    host.activeStream.value = some 1 ∧
    ∀ active, host.streams[0]? = some active → .stop ∈ active.ipc ∨ active.ended :=
  ⟨_, rfl, rfl, fun active held => (stream_lifecycle ⟨takeover, rfl⟩).2 0 active held nofun⟩

end MoonlightWeb.WebServer

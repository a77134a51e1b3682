import MoonlightWeb.WebServer.StreamOwnership

/-! Which stream an attached browser's input goes to. The relay loop is told
that the active stream changed, and then only looks whether there is one at all,
so a stream that was replaced without the browser seeing the slot empty keeps
its input. -/
namespace MoonlightWeb.WebServer
open MoonlightWeb.Machine

/-- The stream a browser has taken from the slot and sends its input to. -/
def Input.attachedTo : Input → Option StreamId
  | .attach stream | .announce stream _ | .relaying stream _ => some stream
  | _ => none

/-- As far as a browser has been told, the stream it is attached to is active. -/
def StreamTask.Follows (slot : Watch (Option StreamId)) : StreamTask → Prop
  | .input seen place =>
    slot.Follows seen fun active => ∀ stream, place.attachedTo = some stream → active = some stream
  | _ => True

theorem StreamTask.Follows.sendReplace {task : StreamTask} (follows : task.Follows slot)
    (active : Option StreamId) : task.Follows (slot.sendReplace active) := by
  cases task with
  | input seen place => exact Watch.Follows.sendReplace follows active
  | primary | supervisor => trivial

/-- A browser that is attached to nothing follows anything. -/
theorem follows_unattached {slot : Watch (Option StreamId)} {place : Input}
    (past : seen ≤ slot.version) (unattached : place.attachedTo = none) :
    StreamTask.Follows slot (.input seen place) :=
  Watch.follows_of_value past fun stream attached => by cases unattached.symm.trans attached

/-- No browser that has been told of every change relays to a stream that is not
the active one. -/
def RelaysToActive (host : Host) : Prop :=
  ∀ seen stream clientId, .input seen (.relaying stream clientId) ∈ host.tasks →
    seen = host.activeStream.version → host.activeStream.value = some stream

/-- When an attached browser looks at the slot after a change, the slot is empty
or has the browser's own stream, unless another change is pending. -/
def EmptyOrOwn (host : Host) (event : HostEvent) (_ : Host) : Prop :=
  ∀ index outcome seen stream clientId, event = .run index outcome →
    host.tasks[index]? = some (.input seen (.borrowAttached stream clientId)) →
      seen = host.activeStream.version →
        host.activeStream.value = none ∨ host.activeStream.value = some stream

theorem runInput_follows {host next : Host} {place after : Input}
    (follows : StreamTask.Follows host.activeStream (.input seen place))
    (emptyOrOwn : ∀ stream clientId, place = .borrowAttached stream clientId →
      seen = host.activeStream.version →
        host.activeStream.value = none ∨ host.activeStream.value = some stream)
    (ran : host.runInput index outcome place = some (next, after)) :
    StreamTask.Follows next.activeStream (.input seen after) := by
  cases place with
  | check =>
    simp only [Host.runInput] at ran
    split at ran <;> cases ran <;> exact follows_unattached follows.past rfl
  | lock =>
    obtain ⟨host', got, same⟩ := Option.map_eq_some_iff.mp ran
    cases same
    simp only [Host.acquire, Option.ite_none_right_eq_some, Option.some.injEq] at got
    obtain ⟨_, rfl⟩ := got
    exact follows_unattached follows.past rfl
  | recheck | connect | spawn =>
    simp only [Host.runInput] at ran
    split at ran <;> cases ran <;> exact follows_unattached follows.past rfl
  | register =>
    cases ran
    exact follows_unattached (Watch.Follows.sendReplace follows _).past rfl
  | init stream =>
    cases ran
    exact follows_unattached follows.past rfl
  | borrow =>
    simp only [Host.runInput] at ran
    split at ran <;> rename_i slot <;> cases ran
    · refine Watch.follows_of_value follows.past fun stream attached => ?_
      cases attached
      exact slot
    · cases outcome <;> exact follows_unattached follows.past rfl
  | attach stream =>
    simp only [Host.runInput] at ran
    split at ran <;> cases ran
    exact follows
  | announce stream clientId =>
    cases ran
    exact follows
  | borrowAttached stream clientId =>
    simp only [Host.runInput] at ran
    split at ran <;> rename_i slot <;> cases ran
    · exact follows_unattached follows.past rfl
    · refine ⟨follows.past, fun told other attached => ?_⟩
      cases attached
      exact (emptyOrOwn stream clientId rfl told).resolve_left slot
  | remove stream clientId exit =>
    cases ran
    exact follows_unattached follows.past rfl
  | detach stream clientId exit =>
    cases ran
    cases exit <;> exact follows_unattached follows.past rfl
  | idle | relaying | finished => cases ran

theorem Input.Woken.unattached (woken : Input.Woken before place) : place.attachedTo = none := by
  cases woken <;> rfl

theorem select_follows {host next : Host} (follows : task.Follows host.activeStream)
    (ran : host.select event task = some (next, after)) : after.Follows next.activeStream := by
  rcases select_cases ran with ⟨stream, clientId, rfl, rfl, _⟩ |
    ⟨rfl, before, place, rfl, rfl, _⟩ | ⟨rfl, seen, before, seen', place, rfl, rfl, told, woken⟩
  · exact follows
  · trivial
  · rcases told with rfl | told
    · exact follows_unattached follows.past woken.unattached
    · exact follows_unattached (Nat.le_of_eq (Watch.changed_version told)) woken.unattached

structure Following (host : Host) : Prop where
  owned : Owned host
  follows : ∀ task ∈ host.tasks, task.Follows host.activeStream

/-- A change of the slot tells every receiver that there is something to look at. -/
private theorem follows_slot_step {task : StreamTask} (owned : Owned host)
    (follows : task.Follows host.activeStream) (taken : host.step event = some next) :
    task.Follows next.activeStream := by
  rcases slot_step_cases owned taken with same | ⟨_, _, _, cleared⟩ | ⟨_, _, _, registered⟩
  · rwa [same]
  · rw [cleared]
    exact follows.sendReplace _
  · rw [registered]
    exact follows.sendReplace _

/-- Where a task goes on, the tasks after it are that one, the older ones, and
supervisors. -/
private theorem follows_resumed {host' : Host}
    (stay : ∀ task ∈ host.tasks, task.Follows host'.activeStream)
    (goes : Goes host index host' after) (follows : after.Follows host'.activeStream) :
    ∀ task ∈ host'.tasks.set index after, task.Follows host'.activeStream := by
  intro task member
  obtain ⟨more, tasks, supervisors⟩ := goes.tasks
  rcases List.mem_or_eq_of_mem_set member with member | rfl
  · rw [tasks] at member
    rcases List.mem_append.mp member with old | new
    · exact stay task old
    · obtain ⟨stream, place, rfl⟩ := supervisors task new
      trivial
  · exact follows

theorem step_keeps_following (host : Host) (event : HostEvent) (next : Host)
    (following : Following host) (taken : host.step event = some next)
    (emptyOrOwn : EmptyOrOwn host event next) : Following next := by
  refine ⟨step_keeps_owned host event next following.owned taken, ?_⟩
  have stay (task : StreamTask) (member : task ∈ host.tasks) : task.Follows next.activeStream :=
    follows_slot_step following.owned (following.follows task member) taken
  cases event with
  | connectPrimary =>
    cases taken
    intro task member
    rcases List.mem_append.mp member with old | new
    · exact stay task old
    · cases List.mem_singleton.mp new
      trivial
  | connectInput =>
    cases taken
    intro task member
    rcases List.mem_append.mp member with old | new
    · exact stay task old
    · cases List.mem_singleton.mp new
      exact follows_unattached (Nat.le_refl _) rfl
  | run index outcome =>
    obtain ⟨task, here, taken⟩ := Option.bind_eq_some_iff.mp taken
    obtain ⟨⟨host', after⟩, ran, rfl⟩ := Option.map_eq_some_iff.mp taken
    have goes := runTask_goes following.owned here ran
    refine follows_resumed stay goes ?_
    cases task with
    | input seen place =>
      obtain ⟨⟨host'', place'⟩, went, same⟩ := Option.map_eq_some_iff.mp ran
      cases same
      refine runInput_follows (following.follows _ (List.mem_of_getElem? here)) ?_ went
      rintro stream clientId rfl told
      exact emptyOrOwn index outcome seen stream clientId rfl here told
    | primary place | supervisor stream place =>
      obtain ⟨⟨host'', place'⟩, went, same⟩ := Option.map_eq_some_iff.mp ran
      cases same
      trivial
  | changed index | message index | wsClosed index | childExited index =>
    obtain ⟨task, here, taken⟩ := Option.bind_eq_some_iff.mp taken
    obtain ⟨⟨host', after⟩, ran, rfl⟩ := Option.map_eq_some_iff.mp taken
    exact follows_resumed stay (select_goes ran)
      (select_follows (following.follows _ (List.mem_of_getElem? here)) ran)
  | clock now =>
    simp only [Host.step, Option.ite_none_right_eq_some, Option.some.injEq] at taken
    obtain ⟨_, rfl⟩ := taken
    exact stay
  | streamEnds stream | closePrimary stream =>
    obtain ⟨active, held, taken⟩ := Option.bind_eq_some_iff.mp taken
    simp only [Option.ite_none_right_eq_some, Option.some.injEq] at taken
    obtain ⟨_, rfl⟩ := taken
    exact stay
  | clean stream =>
    obtain ⟨active, held, taken⟩ := Option.bind_eq_some_iff.mp taken
    simp only [Option.ite_none_right_eq_some, Option.some.injEq] at taken
    obtain ⟨_, isNext⟩ := taken
    have tasks : next.tasks = host.tasks := by
      rw [← isNext]
      split <;> rfl
    rw [tasks]
    exact stay

theorem relays_to_active_of_following (following : Following host) : RelaysToActive host :=
  fun _ stream _ member told => (following.follows _ member).current told stream rfl

/-- A browser that goes on relaying after it looked at another stream has been
told of everything. -/
private theorem empty_or_own_of_relays (taken : host.step event = some next)
    (relays : RelaysToActive next) : EmptyOrOwn host event next := by
  rintro index outcome seen stream clientId rfl here told
  obtain ⟨task, isTask, taken⟩ := Option.bind_eq_some_iff.mp taken
  cases here.symm.trans isTask
  obtain ⟨⟨host', after⟩, ran, rfl⟩ := Option.map_eq_some_iff.mp taken
  obtain ⟨⟨host'', place⟩, went, same⟩ := Option.map_eq_some_iff.mp ran
  cases same
  simp only [Host.runInput] at went
  split at went <;> cases went
  · exact .inl ‹_›
  · exact .inr (relays seen stream clientId
      (List.mem_set (List.getElem?_eq_some_iff.mp here).1 _) told)

theorem start_following : Following Host.start := ⟨start_owned, by simp [Host.start]⟩

/-- In every run, no browser that has been told of every change relays to a
stream that is not active, exactly when an attached browser that looks at the
slot never finds another stream there. -/
theorem relays_to_active_iff (events : List HostEvent) :
    Along Host.step (fun _ _ after => RelaysToActive after) Host.start events ↔
      Along Host.step EmptyOrOwn Host.start events :=
  along_iff Following
    (fun host event next following taken =>
      ⟨empty_or_own_of_relays taken, fun emptyOrOwn => relays_to_active_of_following
        (step_keeps_following host event next following taken emptyOrOwn)⟩)
    step_keeps_following start_following

/-- A browser attaches its input to a stream that does not stop when another
browser takes over, and is told of the new stream. -/
def takeoverWhileAttached : List HostEvent :=
  [.connectPrimary, .run 0 true, .run 0 true, .run 0 true, .run 0 true, .run 0 true, .run 0 true,
    .connectInput, .run 1 true, .run 1 true, .run 1 true, .run 1 true,
    .clock 10000, .connectPrimary, .run 2 true, .run 2 true, .run 2 true, .run 2 true, .run 2 true,
    .clock 20000, .run 2 true, .run 2 true, .run 2 true, .changed 1]

theorem input_stays_with_replaced_stream :
    ¬ ∀ events, Along Host.step (fun _ _ after => RelaysToActive after) Host.start events := by
  intro claimed
  have relays := along_last (claimed (takeoverWhileAttached ++ [.run 1 true])) rfl rfl
  have stale := relays 2 0 1 (.tail _ (.head _)) rfl
  cases stale

end MoonlightWeb.WebServer

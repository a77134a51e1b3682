import MoonlightWeb.WebServer.StreamOwnership
import Mathlib.Data.Nat.ModEq

/-! The ids of the browsers that are attached to one stream. They are counted
from 1, since 0 is the browser that sees the stream, and the counter goes back
to 1 at its end without a look at the ids that are still in use. -/
namespace MoonlightWeb.WebServer
open MoonlightWeb.Machine

/-- How many ids there are to give. -/
def CLIENT_IDS : Nat := 2 ^ 32 - 1

/-- The id a browser has on a stream, from its attachment until its detachment
is sent. -/
def Input.clientOn : Input → Option (StreamId × UInt32)
  | .announce stream clientId | .relaying stream clientId | .borrowAttached stream clientId
  | .remove stream clientId _ | .detach stream clientId _ => some (stream, clientId)
  | _ => none

def StreamTask.clientOn : StreamTask → Option (StreamId × UInt32)
  | .input _ place => place.clientOn
  | _ => none

/-- The stream a browser is about to attach to in this step. -/
def Host.attaching (host : Host) (event : HostEvent) : Option (Nat × StreamId) :=
  match event with
  | .run index _ =>
    match host.tasks[index]? with
    | some (.input _ (.attach stream)) => some (index, stream)
    | _ => none
  | _ => none

/-- A host beside the numbers of the attachments: how many each stream has had,
and which one each browser's latest was. -/
structure Numbered where
  host : Host
  count : StreamId → Nat
  number : Nat → Nat

namespace Numbered

def start : Numbered := ⟨.start, fun _ => 0, fun _ => 0⟩

def step (numbered : Numbered) (event : HostEvent) : Option Numbered :=
  (numbered.host.step event).map fun next =>
    match numbered.host.attaching event with
    | some (index, stream) =>
      ⟨next, Function.update numbered.count stream (numbered.count stream + 1),
        Function.update numbered.number index (numbered.count stream)⟩
    | none => { numbered with host := next }

/-- The id that is given in this step is not the reserved one, and no other
browser has it. -/
def GivesFreshId (before : Numbered) (event : HostEvent) (after : Numbered) : Prop :=
  ∀ index stream, before.host.attaching event = some (index, stream) →
    ∀ seen clientId, after.host.tasks[index]? = some (.input seen (.announce stream clientId)) →
      clientId ≠ 0 ∧ ∀ (other : Nat) task usedId, other ≠ index →
        after.host.tasks[other]? = some task → task.clientOn = some (stream, usedId) →
          usedId ≠ clientId

/-- No other browser is attached since as many attachments as there are ids, or
a multiple of that. -/
def NoneOutlivesIds (before : Numbered) (event : HostEvent) (_ : Numbered) : Prop :=
  ∀ index stream, before.host.attaching event = some (index, stream) →
    ∀ (other : Nat) task usedId, other ≠ index → before.host.tasks[other]? = some task →
      task.clientOn = some (stream, usedId) →
        ¬ CLIENT_IDS ∣ before.count stream - before.number other

end Numbered

/-- The id that the next browser gets; a stream that is still to come will
begin at 1. -/
def Host.nextId (host : Host) (stream : StreamId) : UInt32 :=
  (host.streams[stream]?.map ActiveStream.nextClientId).getD 1

theorem nextId_modify {host : Host} {change : ActiveStream → ActiveStream}
    (same : ∀ active, (change active).nextClientId = active.nextClientId)
    (changed stream : StreamId) :
    (host.modifyStream changed change).nextId stream = host.nextId stream := by
  simp only [Host.nextId, Host.modifyStream, List.getElem?_modify]
  cases host.streams[stream]? with
  | none => rfl
  | some active => by_cases isChanged : changed = stream <;> simp [isChanged, same]

theorem nextId_send {host : Host} {message : ServerIpcMessage} (told stream : StreamId) :
    (host.send told message).nextId stream = host.nextId stream :=
  nextId_modify (fun active : ActiveStream => show (active.send message).nextClientId = _ from rfl) told stream

theorem nextId_register {host : Host} {primary : Option Nat} (stream : StreamId) :
    (host.registerStream primary).nextId stream = host.nextId stream := by
  simp only [Host.nextId, Host.registerStream, List.getElem?_append]
  split
  · rfl
  · rename_i past
    have absent : host.streams[stream]? = none := List.getElem?_eq_none (Nat.le_of_not_lt past)
    rw [absent]
    cases stream - host.streams.length <;> rfl

/-- A step that gives no id: the counters stay, and a browser keeps its id or
loses it. -/
structure GivesNoId (host : Host) (task : StreamTask) (next : Host) (after : StreamTask) : Prop where
  ids : ∀ stream, next.nextId stream = host.nextId stream
  client : after.clientOn = task.clientOn ∨ after.clientOn = none

theorem gives_no_id_here {task after : StreamTask}
    (client : after.clientOn = task.clientOn ∨ after.clientOn = none) :
    GivesNoId host task host after := ⟨fun _ => rfl, client⟩

theorem gives_no_id_send {task after : StreamTask}
    (client : after.clientOn = task.clientOn ∨ after.clientOn = none) :
    GivesNoId host task (host.send stream message) after := ⟨nextId_send stream, client⟩

theorem gives_no_id_acquire {task after : StreamTask} (got : host.acquire index = some next)
    (client : after.clientOn = task.clientOn ∨ after.clientOn = none) :
    GivesNoId host task next after := by
  simp only [Host.acquire, Option.ite_none_right_eq_some, Option.some.injEq] at got
  obtain ⟨_, rfl⟩ := got
  exact ⟨fun _ => rfl, client⟩

theorem gives_no_id_register {task after : StreamTask}
    (client : after.clientOn = task.clientOn ∨ after.clientOn = none) :
    GivesNoId host task (host.registerStream primary) after := ⟨nextId_register, client⟩

theorem runPrimary_gives_no_id (ran : host.runPrimary index outcome place = some (next, after)) :
    GivesNoId host (.primary place) next (.primary after) := by
  cases place with
  | lock =>
    obtain ⟨host', got, same⟩ := Option.map_eq_some_iff.mp ran
    cases same
    exact gives_no_id_acquire got (.inr rfl)
  | active | age existing | existing | spawn =>
    simp only [Host.runPrimary] at ran
    split at ran <;> cases ran <;> exact ⟨fun _ => rfl, .inr rfl⟩
  | wait deadline =>
    simp only [Host.runPrimary, Option.ite_none_right_eq_some] at ran
    cases ran.2
    exact gives_no_id_here (.inr rfl)
  | register =>
    cases ran
    exact gives_no_id_register (.inr rfl)
  | init stream | stop existing | stopOwn stream =>
    cases ran
    exact ⟨nextId_send _, .inr rfl⟩
  | relay | finished => cases ran

/-- A browser gets an id where it attaches, and nowhere else. -/
theorem runInput_gives_no_id (noAttach : ∀ stream, place ≠ .attach stream)
    (ran : host.runInput index outcome place = some (next, after)) :
    GivesNoId host (.input seen place) next (.input seen after) := by
  cases place with
  | check | recheck | connect | spawn | borrow =>
    simp only [Host.runInput] at ran
    split at ran <;> cases ran <;> first
      | exact ⟨fun _ => rfl, .inr rfl⟩
      | cases outcome <;> exact ⟨fun _ => rfl, .inr rfl⟩
  | lock =>
    obtain ⟨host', got, same⟩ := Option.map_eq_some_iff.mp ran
    cases same
    exact gives_no_id_acquire got (.inr rfl)
  | register =>
    cases ran
    exact gives_no_id_register (.inr rfl)
  | init stream =>
    cases ran
    exact ⟨nextId_send stream, .inr rfl⟩
  | attach stream => exact absurd rfl (noAttach stream)
  | announce stream clientId =>
    cases ran
    exact gives_no_id_send (.inl rfl)
  | borrowAttached stream clientId =>
    simp only [Host.runInput] at ran
    split at ran <;> cases ran <;> exact gives_no_id_here (.inl rfl)
  | remove stream clientId exit =>
    cases ran
    have same (active : ActiveStream) :
        { active with clients := active.clients.delete clientId }.nextClientId =
          active.nextClientId := rfl
    exact ⟨nextId_modify same stream, .inl rfl⟩
  | detach stream clientId exit =>
    cases ran
    cases exit <;> exact gives_no_id_send (.inr rfl)
  | idle | relaying | finished => cases ran

theorem runSupervisor_gives_no_id
    (ran : host.runSupervisor stream outcome place = some (next, after)) :
    GivesNoId host (.supervisor stream place) next (.supervisor stream after) := by
  rcases runSupervisor_cases ran with rfl | rfl
  · exact gives_no_id_here (.inr rfl)
  · exact gives_no_id_send (.inr rfl)

theorem runTask_gives_no_id (noAttach : ∀ seen stream, task ≠ .input seen (.attach stream))
    (ran : host.runTask index outcome task = some (next, after)) :
    GivesNoId host task next after := by
  cases task with
  | primary place =>
    obtain ⟨⟨host', place'⟩, went, same⟩ := Option.map_eq_some_iff.mp ran
    cases same
    exact runPrimary_gives_no_id went
  | input seen place =>
    obtain ⟨⟨host', place'⟩, went, same⟩ := Option.map_eq_some_iff.mp ran
    cases same
    exact runInput_gives_no_id (fun stream isAttach => noAttach seen stream (isAttach ▸ rfl)) went
  | supervisor stream place =>
    obtain ⟨⟨host', place'⟩, went, same⟩ := Option.map_eq_some_iff.mp ran
    cases same
    exact runSupervisor_gives_no_id went

theorem Input.Woken.clientOn (woken : Input.Woken before place) :
    place.clientOn = before.clientOn := by
  cases woken <;> rfl

theorem select_gives_no_id (ran : host.select event task = some (next, after)) :
    GivesNoId host task next after := by
  rcases select_cases ran with ⟨stream, clientId, rfl, rfl, _⟩ |
    ⟨rfl, before, place, rfl, rfl, _⟩ | ⟨rfl, seen, before, seen', place, rfl, rfl, _, woken⟩
  · exact gives_no_id_send (.inl rfl)
  · exact gives_no_id_here (.inr rfl)
  · exact gives_no_id_here (.inl woken.clientOn)

/-- The host after a browser took its id. -/
def Host.attached (host : Host) (index seen : Nat) (stream : StreamId) : Host :=
  { host.modifyStream stream (·.takeClientId index) with
    tasks := host.tasks.set index (.input seen (.announce stream (host.nextId stream))) }

/-- A task that went on has no id that it did not have before. -/
theorem resumed_keeps_ids {host next : Host} {task after : StreamTask}
    (here : host.tasks[index]? = some task) (goes : Goes host index next after)
    (gives : GivesNoId host task next after) (other : Nat) (found : StreamTask)
    (pair : StreamId × UInt32) (isFound : (next.tasks.set index after)[other]? = some found)
    (client : found.clientOn = some pair) :
    ∃ before, host.tasks[other]? = some before ∧ before.clientOn = some pair := by
  obtain ⟨more, tasks, supervisors⟩ := goes.tasks
  rw [tasks] at isFound
  rcases task_cases isFound with ⟨rfl, rfl⟩ | ⟨_, older⟩ | new
  · refine ⟨task, here, ?_⟩
    rcases gives.client with same | lost
    · rw [← same, client]
    · cases lost.symm.trans client
  · exact ⟨found, older, client⟩
  · obtain ⟨stream, place, rfl⟩ := supervisors found new
    cases client

/-- Everything a step can do about ids: a browser takes the next one, or the
counters stay and no browser gets an id. -/
theorem step_ids (owned : Owned host) (taken : host.step event = some next) :
    (∃ index seen stream active, host.attaching event = some (index, stream) ∧
      host.tasks[index]? = some (.input seen (.attach stream)) ∧
      host.streams[stream]? = some active ∧ next = host.attached index seen stream) ∨
    (host.attaching event = none ∧ (∀ stream, next.nextId stream = host.nextId stream) ∧
      ∀ (index : Nat) task pair, next.tasks[index]? = some task → task.clientOn = some pair →
        ∃ before, host.tasks[index]? = some before ∧ before.clientOn = some pair) := by
  cases event with
  | connectPrimary | connectInput =>
    cases taken
    refine .inr ⟨rfl, fun _ => rfl, fun index task pair found client => ?_⟩
    rw [List.getElem?_append] at found
    split at found
    · exact ⟨task, found, client⟩
    · cases List.mem_singleton.mp (List.mem_of_getElem? found)
      cases client
  | run index outcome =>
    obtain ⟨task, here, taken⟩ := Option.bind_eq_some_iff.mp taken
    obtain ⟨⟨host', after⟩, ran, rfl⟩ := Option.map_eq_some_iff.mp taken
    by_cases attach : ∃ seen stream, task = .input seen (.attach stream)
    · obtain ⟨seen, stream, rfl⟩ := attach
      obtain ⟨⟨host'', place⟩, went, same⟩ := Option.map_eq_some_iff.mp ran
      cases same
      simp only [Host.runInput] at went
      split at went
      · rename_i active held
        cases went
        refine .inl ⟨index, seen, stream, active, by simp only [Host.attaching, here], here, held, ?_⟩
        simp only [Host.attached, Host.nextId, held]
        rfl
      · cases went
    · have noAttach (seen : Nat) (stream : StreamId) : task ≠ .input seen (.attach stream) :=
        fun isAttach => attach ⟨seen, stream, isAttach⟩
      have gives := runTask_gives_no_id noAttach ran
      refine .inr ⟨?_, gives.ids, resumed_keeps_ids here (runTask_goes owned here ran) gives⟩
      simp only [Host.attaching, here]
      split
      · rename_i seen stream isAttach
        exact absurd (Option.some.inj isAttach) (noAttach seen stream)
      · rfl
  | changed index | message index | wsClosed index | childExited index =>
    obtain ⟨task, here, taken⟩ := Option.bind_eq_some_iff.mp taken
    obtain ⟨⟨host', after⟩, ran, rfl⟩ := Option.map_eq_some_iff.mp taken
    have gives := select_gives_no_id ran
    exact .inr ⟨rfl, gives.ids, resumed_keeps_ids here (select_goes ran) gives⟩
  | clock now =>
    simp only [Host.step, Option.ite_none_right_eq_some, Option.some.injEq] at taken
    obtain ⟨_, rfl⟩ := taken
    exact .inr ⟨rfl, fun _ => rfl, fun _ task _ found client => ⟨task, found, client⟩⟩
  | streamEnds stream =>
    obtain ⟨active, held, taken⟩ := Option.bind_eq_some_iff.mp taken
    simp only [Option.ite_none_right_eq_some, Option.some.injEq] at taken
    obtain ⟨_, rfl⟩ := taken
    have same (active : ActiveStream) :
        { active with router := .cleaning }.nextClientId = active.nextClientId := rfl
    exact .inr ⟨rfl, nextId_modify same stream, fun _ task _ found client => ⟨task, found, client⟩⟩
  | closePrimary stream =>
    obtain ⟨active, held, taken⟩ := Option.bind_eq_some_iff.mp taken
    simp only [Option.ite_none_right_eq_some, Option.some.injEq] at taken
    obtain ⟨_, rfl⟩ := taken
    have same (active : ActiveStream) :
        { active with router := .finished, clients := active.clients.delete 0 }.nextClientId =
          active.nextClientId := rfl
    exact .inr ⟨rfl, nextId_modify same stream, fun _ task _ found client => ⟨task, found, client⟩⟩
  | clean stream =>
    obtain ⟨active, held, taken⟩ := Option.bind_eq_some_iff.mp taken
    simp only [Option.ite_none_right_eq_some, Option.some.injEq] at taken
    obtain ⟨_, rfl⟩ := taken
    have same (active : ActiveStream) :
        { active with router := .closing }.nextClientId = active.nextClientId := rfl
    split
    · exact .inr ⟨rfl, nextId_modify same stream, fun _ task _ found client =>
        ⟨task, found, client⟩⟩
    · exact .inr ⟨rfl, nextId_modify same stream, fun _ task _ found client =>
        ⟨task, found, client⟩⟩

namespace Numbered

/-- A number among the attachments of a stream gives the id. -/
structure Counted (numbered : Numbered) : Prop where
  owned : Owned numbered.host
  ids : ∀ stream,
    (numbered.host.nextId stream).toNat = numbered.count stream % CLIENT_IDS + 1
  clients : ∀ (index : Nat) task stream clientId, numbered.host.tasks[index]? = some task →
    task.clientOn = some (stream, clientId) →
      numbered.number index < numbered.count stream ∧
        clientId.toNat = numbered.number index % CLIENT_IDS + 1

/-- The counter goes from its last id back to the first. -/
theorem next_id_counts {id : UInt32} {given : Nat} (isId : id.toNat = given % CLIENT_IDS + 1) :
    (if id = 0xffffffff then (1 : UInt32) else id + 1).toNat = (given + 1) % CLIENT_IDS + 1 := by
  unfold CLIENT_IDS at *
  split
  · rename_i last
    rw [last] at isId
    have value : (0xffffffff : UInt32).toNat = 4294967295 := rfl
    rw [value] at isId
    have one : (1 : UInt32).toNat = 1 := rfl
    omega
  · rename_i more
    have notLast : id.toNat ≠ 4294967295 := fun equal => more (UInt32.toNat_inj.mp equal)
    have one : (1 : UInt32).toNat = 1 := rfl
    rw [UInt32.toNat_add, one]
    omega

theorem nextId_attached {host : Host} (held : host.streams[stream]? = some active)
    (index seen : Nat) (other : StreamId) :
    (host.attached index seen stream).nextId other =
      if other = stream then
        if host.nextId stream = 0xffffffff then 1 else host.nextId stream + 1
      else host.nextId other := by
  simp only [Host.nextId, Host.attached, Host.modifyStream, List.getElem?_modify]
  by_cases same : other = stream
  · subst same
    simp only [if_true, held]
    rfl
  · have differs : ¬ stream = other := fun equal => same equal.symm
    simp only [if_neg same, if_neg differs]
    cases host.streams[other]? <;> rfl

theorem step_keeps_counted (numbered : Numbered) (event : HostEvent) (next : Numbered)
    (counted : Counted numbered) (taken : step numbered event = some next) : Counted next := by
  obtain ⟨after, stepped, rfl⟩ := Option.map_eq_some_iff.mp taken
  have owned := step_keeps_owned numbered.host event after counted.owned stepped
  obtain ⟨index, seen, stream, active, attaching, here, held, rfl⟩ | ⟨attaching, ids, clients⟩ :=
    step_ids counted.owned stepped
  · simp only [attaching]
    refine ⟨owned, fun other => ?_, fun other task on clientId found client => ?_⟩
    · rw [nextId_attached held]
      by_cases same : other = stream
      · subst same
        simp only [if_true, Function.update_self]
        exact next_id_counts (counted.ids other)
      · simp only [if_neg same, Function.update_of_ne same]
        exact counted.ids other
    · change (numbered.host.tasks.set index _)[other]? = some task at found
      rw [List.getElem?_set] at found
      by_cases same : index = other
      · subst same
        have inside := (List.getElem?_eq_some_iff.mp here).1
        rw [if_pos rfl, if_pos inside] at found
        cases found
        cases client
        simp only [Function.update_self]
        exact ⟨Nat.lt_succ_self _, counted.ids stream⟩
      · rw [if_neg same] at found
        obtain ⟨older, isNumber⟩ := counted.clients other task on clientId found client
        simp only [Function.update_of_ne (Ne.symm same)]
        refine ⟨?_, isNumber⟩
        by_cases onSame : on = stream
        · subst onSame
          simp only [Function.update_self]
          exact Nat.lt_succ_of_lt older
        · simp only [Function.update_of_ne onSame]
          exact older
  · simp only [attaching]
    refine ⟨owned, fun stream => ?_, fun index task stream clientId found client => ?_⟩
    · rw [ids stream]
      exact counted.ids stream
    · obtain ⟨before, wasHere, had⟩ := clients index task _ found client
      exact counted.clients index before stream clientId wasHere had

/-- Two attachments get the same id exactly when their numbers are apart by a
multiple of the number of ids. -/
theorem same_id_iff {first second : UInt32} {earlier later : Nat}
    (isFirst : first.toNat = earlier % CLIENT_IDS + 1)
    (isSecond : second.toNat = later % CLIENT_IDS + 1) (older : earlier < later) :
    first = second ↔ CLIENT_IDS ∣ later - earlier := by
  rw [← UInt32.toNat_inj, isFirst, isSecond, Nat.succ_inj,
    ← Nat.modEq_iff_dvd' (Nat.le_of_lt older)]
  rfl

theorem gives_fresh_id_iff (numbered : Numbered) (event : HostEvent) (next : Numbered)
    (counted : Counted numbered) (taken : step numbered event = some next) :
    GivesFreshId numbered event next ↔ NoneOutlivesIds numbered event next := by
  obtain ⟨after, stepped, rfl⟩ := Option.map_eq_some_iff.mp taken
  obtain ⟨index, seen, stream, active, attaching, here, held, rfl⟩ | ⟨attaching, _, _⟩ :=
    step_ids counted.owned stepped
  · have isNext := counted.ids stream
    have given : (numbered.host.attached index seen stream).tasks[index]? =
        some (.input seen (.announce stream (numbered.host.nextId stream))) := by
      have inside := (List.getElem?_eq_some_iff.mp here).1
      change (numbered.host.tasks.set index _)[index]? = _
      rw [List.getElem?_set, if_pos rfl, if_pos inside]
    have others (other : Nat) (different : other ≠ index) :
        (numbered.host.attached index seen stream).tasks[other]? =
          numbered.host.tasks[other]? := by
      change (numbered.host.tasks.set index _)[other]? = _
      rw [List.getElem?_set, if_neg (Ne.symm different)]
    constructor
    · intro fresh index' stream' isAttaching other task usedId different found client divides
      cases attaching.symm.trans isAttaching
      obtain ⟨older, isUsed⟩ := counted.clients other task stream usedId found client
      have same := (same_id_iff isUsed isNext older).mpr divides
      simp only [GivesFreshId, attaching] at fresh
      exact (fresh index stream rfl seen _ given).2 other task usedId different
        ((others other different).trans found) client same
    · intro apart
      simp only [GivesFreshId, attaching]
      rintro index' stream' ⟨⟩ seen' clientId announced
      cases given.symm.trans announced
      refine ⟨fun zero => ?_, fun other task usedId different found client same => ?_⟩
      · rw [zero] at isNext
        cases isNext
      · rw [others other different] at found
        obtain ⟨older, isUsed⟩ := counted.clients other task stream usedId found client
        exact apart index stream attaching other task usedId different found client
          ((same_id_iff isUsed isNext older).mp same)
  · constructor <;> intro _ index stream isAttaching <;> cases attaching.symm.trans isAttaching

theorem start_counted : Counted start where
  owned := start_owned
  ids _ := rfl
  clients := nofun

/-- In every run, the ids that are given are fresh exactly when no browser stays
attached until as many attachments have followed its own as there are ids, or a
multiple of that. -/
theorem fresh_ids_iff (events : List HostEvent) :
    Along step GivesFreshId start events ↔ Along step NoneOutlivesIds start events :=
  along_iff Counted gives_fresh_id_iff
    (fun numbered event next counted taken _ =>
      step_keeps_counted numbered event next counted taken) start_counted

section ReturningVisitors

/-- A browser whose turn it is, behind the tasks there are. -/
private def visiting (host : Host) (place : Input) : Host :=
  { host with tasks := host.tasks ++ [.input host.activeStream.subscribe place] }

/-- A browser comes, attaches to the active stream and leaves. -/
private def visit (index : Nat) : List HostEvent :=
  [.connectInput, .run index true, .run index true, .run index true, .run index true,
    .wsClosed index, .run index true, .run index true]

/-- The first browser relays on the active stream, with the first id. -/
private structure Busy (host : Host) : Prop where
  active : host.activeStream.value = some 0
  held : ∃ active, host.streams[0]? = some active
  first : ∃ seen, host.tasks[0]? = some (.input seen (.relaying 0 1))

private theorem visiting_runs {host next : Host} {place after : Input}
    (ran : (visiting host place).runInput host.tasks.length true place =
      some (visiting next place, after))
    (tasks : next.tasks = host.tasks) (slot : next.activeStream = host.activeStream) :
    (visiting host place).step (.run host.tasks.length true) = some (visiting next after) := by
  have here : (visiting host place).tasks[host.tasks.length]? =
      some (.input host.activeStream.subscribe place) := by
    simp [visiting]
  simp only [Host.step, Host.resume, here, Option.bind_some, Host.runTask, ran, Option.map_some]
  simp [visiting, tasks, slot]

private theorem visiting_leaves (host : Host) (stream : StreamId) (clientId : UInt32) :
    (visiting host (.relaying stream clientId)).step (.wsClosed host.tasks.length) =
      some (visiting host (.remove stream clientId .wsClosed)) := by
  simp [Host.step, Host.resume, visiting, Host.select]

/-- A whole visit moves the counter on, and the first browser stays. -/
private theorem visited {host : Host} (busy : Busy host) :
    ∃ next, run Host.step host (visit host.tasks.length) = some next ∧ Busy next ∧
      next.nextId 0 = if host.nextId 0 = 0xffffffff then 1 else host.nextId 0 + 1 := by
  obtain ⟨active, ⟨stream, held⟩, seen, first⟩ := busy
  let id := stream.nextClientId
  let taken := host.modifyStream 0 (·.takeClientId host.tasks.length)
  let told := taken.send 0 (.attachInputClient id)
  let removed := told.modifyStream 0 fun active =>
    { active with clients := active.clients.delete id }
  let left := removed.send 0 (.detachInputClient id)
  have checked : (visiting host .check).step (.run host.tasks.length true) =
      some (visiting host .borrow) :=
    visiting_runs (by simp [Host.runInput, visiting, active]) rfl rfl
  have borrowed : (visiting host .borrow).step (.run host.tasks.length true) =
      some (visiting host (.attach 0)) :=
    visiting_runs (by simp [Host.runInput, visiting, active]) rfl rfl
  have attached : (visiting host (.attach 0)).step (.run host.tasks.length true) =
      some (visiting taken (.announce 0 id)) :=
    visiting_runs (by simp [Host.runInput, visiting, held, taken, id, Host.modifyStream]) rfl rfl
  have announced : (visiting taken (.announce 0 id)).step (.run host.tasks.length true) =
      some (visiting told (.relaying 0 id)) :=
    visiting_runs rfl rfl rfl
  have closed : (visiting told (.relaying 0 id)).step (.wsClosed host.tasks.length) =
      some (visiting told (.remove 0 id .wsClosed)) :=
    visiting_leaves told 0 id
  have gone : (visiting told (.remove 0 id .wsClosed)).step (.run host.tasks.length true) =
      some (visiting removed (.detach 0 id .wsClosed)) :=
    visiting_runs rfl rfl rfl
  have detached : (visiting removed (.detach 0 id .wsClosed)).step (.run host.tasks.length true) =
      some (visiting left .finished) :=
    visiting_runs rfl rfl rfl
  have deleted (active : ActiveStream) :
      { active with clients := active.clients.delete id }.nextClientId = active.nextClientId := rfl
  refine ⟨visiting left .finished, ?_, ⟨active, ?_, seen, ?_⟩, ?_⟩
  · change run Host.step host (.connectInput :: _) = _
    have connected : host.step .connectInput = some (visiting host .check) := rfl
    simp only [run_cons, connected, checked, borrowed, attached, announced, closed, gone, detached,
      Option.bind_some, run_nil]
  · simp [visiting, left, removed, told, taken, Host.send, Host.modifyStream, held]
  · change (host.tasks ++ _)[0]? = _
    rw [List.getElem?_append_left (List.getElem?_eq_some_iff.mp first).1, first]
  · calc (visiting left .finished).nextId 0 = left.nextId 0 := rfl
      _ = removed.nextId 0 := nextId_send 0 0
      _ = told.nextId 0 := nextId_modify deleted 0 0
      _ = taken.nextId 0 := nextId_send 0 0
      _ = _ := nextId_attached held host.tasks.length seen 0

/-- Any number of visits can follow. -/
private theorem many_visits {host : Host} {given : Nat} (busy : Busy host)
    (isId : (host.nextId 0).toNat = given % CLIENT_IDS + 1) (visits : Nat) :
    ∃ events next, run Host.step host events = some next ∧ Busy next ∧
      (next.nextId 0).toNat = (given + visits) % CLIENT_IDS + 1 := by
  induction visits with
  | zero => exact ⟨[], host, rfl, busy, isId⟩
  | succ visits ih =>
    obtain ⟨events, middle, ran, busy, isMiddle⟩ := ih
    obtain ⟨next, left, busy, isNext⟩ := visited busy
    refine ⟨events ++ visit middle.tasks.length, next, ?_, busy, ?_⟩
    · rw [run_append, ran]
      exact left
    · rw [isNext]
      exact next_id_counts isMiddle

/-- What the numbers are does not matter to the host. -/
private theorem numbered_run (numbered : Numbered)
    (ran : run Host.step numbered.host events = some next) :
    ∃ after, run step numbered events = some after ∧ after.host = next := by
  induction events generalizing numbered with
  | nil =>
    cases ran
    exact ⟨numbered, rfl, rfl⟩
  | cons event rest ih =>
    obtain ⟨middle, taken, ran⟩ := Option.bind_eq_some_iff.mp ran
    obtain ⟨stepped, isStepped, same⟩ : ∃ stepped, step numbered event = some stepped ∧
        stepped.host = middle := by
      refine ⟨_, by rw [step, taken]; rfl, ?_⟩
      split <;> rfl
    obtain ⟨after, final, isFinal⟩ := ih stepped (same ▸ ran)
    exact ⟨after, by rw [run_cons, isStepped]; exact final, isFinal⟩

/-- A browser starts a stream that nobody sees, attaches and stays. -/
private def firstAttached : List HostEvent :=
  [.connectInput, .run 0 true, .run 0 true, .run 0 true, .run 0 true, .run 0 true, .run 0 true,
    .run 0 true, .run 0 true, .run 0 true, .run 0 true]

/-- The first browser stays while as many others come and go as there are ids
but one; the next one gets the id of the first. -/
theorem ids_run_out : ¬ ∀ events, Along step GivesFreshId start events := by
  intro claimed
  obtain ⟨host, began, busy, isSecond⟩ : ∃ host, run Host.step Host.start firstAttached = some host ∧
      Busy host ∧ (host.nextId 0).toNat = 1 % CLIENT_IDS + 1 :=
    ⟨_, rfl, ⟨rfl, ⟨_, rfl⟩, _, rfl⟩, rfl⟩
  obtain ⟨events, full, ran, busy, isFirst⟩ := many_visits busy isSecond (CLIENT_IDS - 1)
  have last : full.nextId 0 = 1 := by
    rw [← UInt32.toNat_inj, isFirst, Nat.add_sub_cancel' (by decide), Nat.mod_self]
    rfl
  obtain ⟨active, ⟨stream, held⟩, seen, first⟩ := busy
  have connected : full.step .connectInput = some (visiting full .check) := rfl
  have checked : (visiting full .check).step (.run full.tasks.length true) =
      some (visiting full .borrow) :=
    visiting_runs (by simp [Host.runInput, visiting, active]) rfl rfl
  have borrowed : (visiting full .borrow).step (.run full.tasks.length true) =
      some (visiting full (.attach 0)) :=
    visiting_runs (by simp [Host.runInput, visiting, active]) rfl rfl
  have whole : run Host.step Host.start (firstAttached ++ (events ++
      [.connectInput, .run full.tasks.length true, .run full.tasks.length true])) =
        some (visiting full (.attach 0)) := by
    simp only [run_append, began, ran, run_cons, connected, checked, borrowed, Option.bind_some,
      run_nil]
  have attached : (visiting full (.attach 0)).step (.run full.tasks.length true) =
      some (visiting (full.modifyStream 0 (·.takeClientId full.tasks.length))
        (.announce 0 stream.nextClientId)) :=
    visiting_runs (by simp [Host.runInput, visiting, held, Host.modifyStream]) rfl rfl
  obtain ⟨before, isBefore, same⟩ := numbered_run start whole
  obtain ⟨after, isAfter, sameAfter⟩ := numbered_run before
    (show run Host.step before.host [.run full.tasks.length true] = _ by
      rw [same, run_cons, attached]; rfl)
  rw [run_cons, Option.bind_eq_some_iff] at isAfter
  obtain ⟨_, taken, ⟨⟩⟩ := isAfter
  have fresh := along_last (claimed _) isBefore taken
  have isThere := (List.getElem?_eq_some_iff.mp first).1
  have attaching : before.host.attaching (.run full.tasks.length true) =
      some (full.tasks.length, 0) := by
    simp [same, Host.attaching, visiting]
  have announced : after.host.tasks[full.tasks.length]? =
      some (.input full.activeStream.subscribe (.announce 0 stream.nextClientId)) := by
    rw [sameAfter]
    simp [visiting, Host.modifyStream]
  have stays : after.host.tasks[0]? = some (.input seen (.relaying 0 1)) := by
    rw [sameAfter]
    change (full.tasks ++ _)[0]? = _
    rw [List.getElem?_append_left isThere, first]
  have isOne : stream.nextClientId = 1 := by
    simpa [Host.nextId, held] using last
  exact (fresh _ _ attaching _ _ announced).2 0 _ 1 (Nat.ne_of_lt isThere) stays rfl isOne.symm

end ReturningVisitors

end Numbered

end MoonlightWeb.WebServer

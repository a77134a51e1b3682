import MoonlightWeb.Lib.Machine
import MoonlightWeb.Lib.Slab

/-! The hosts under their keys, while streams are started. A start looks its host
up by the key again and again, with other requests in between, and a key that was
given back may be another host's by then. Each start runs as a task that stands at
the step it takes next. -/
namespace MoonlightWeb.WebServer.HostRegistry
open MoonlightWeb.Machine

/-- The keys and certificates of a host that was paired. -/
structure Pairing where
  clientPrivateKeyPem : String
  clientCertificatePem : String
  serverCertificatePem : String
  deriving DecidableEq, Repr

structure RuntimeHost where
  /-- How many hosts were put before it. -/
  number : Nat
  address : String
  httpPort : UInt16
  paired : Option Pairing
  activeStream : Option Nat
  deriving DecidableEq, Repr

structure HostConnectionInfo where
  hostAddress : String
  hostHttpPort : UInt16
  pairing : Pairing
  deriving DecidableEq, Repr

/-- Connection information as a start holds it, with the host that it was read
from and the number of hosts that had been put by then. -/
structure ConnectionRead where
  info : HostConnectionInfo
  host : Nat
  known : Nat
  deriving DecidableEq, Repr

/-- A streamer process, the key its router looks up, and the host whose
connection information it was given. -/
structure Streamer where
  hostId : Nat
  info : HostConnectionInfo
  host : Nat
  deriving DecidableEq, Repr

/-- Where `run_primary_stream` stands. A lock is the one of the host that was
found under the key when it was looked up. -/
inductive Primary where
  | connectionInfo
  | app (read : ConnectionRead)
  | lifecycle (read : ConnectionRead)
  | lock (read : ConnectionRead) (host : Nat)
  | age (read : ConnectionRead) (host : Nat)
  | recent (read : ConnectionRead) (host existing : Nat)
  | existing (read : ConnectionRead) (host : Nat)
  | stop (read : ConnectionRead) (host existing : Nat)
  | wait (read : ConnectionRead) (host : Nat)
  deriving DecidableEq, Repr

/-- Where `maybe_start_placeholder_stream` stands. -/
inductive Placeholder where
  | check
  | lock (host : Nat)
  | currentGame (host : Nat)
  | connectionInfo (host : Nat)
  deriving DecidableEq, Repr

/-- Where `spawn_streamer_process` stands. -/
inductive Spawn where
  | spawn
  | register (streamer : Nat)
  | init (streamer : Nat)
  deriving DecidableEq, Repr

inductive Start where
  | primary (hostId : Nat) (place : Primary)
  | placeholder (hostId : Nat) (place : Placeholder)
  /-- Under the lifecycle lock of a host. -/
  | spawning (hostId host : Nat) (read : ConnectionRead) (place : Spawn)
  | finished
  deriving DecidableEq, Repr

structure Registry where
  hosts : Slab RuntimeHost
  /-- The task that holds the lifecycle lock of each host, also of removed ones. -/
  lifecycles : List (Option Nat)
  streamers : List Streamer
  /-- The streamers that were told to stop. -/
  stopped : List Nat
  starts : List Start

inductive Event where
  | putHost (address : String) (httpPort : UInt16)
  | deleteHost (hostId : Nat)
  | pair (hostId : Nat) (paired : Option Pairing)
  | startPrimary (hostId : Nat)
  | startPlaceholder (hostId : Nat)
  /-- A start goes on; a call that can fail has an outcome. -/
  | run (index : Nat) (outcome : Bool)
  | streamEnds (streamer : Nat)
  deriving DecidableEq, Repr

/-- `host_connection_info` -/
def hostConnectionInfo (registry : Registry) (hostId : Nat) : Option ConnectionRead :=
  (registry.hosts.get hostId).bind fun host =>
    host.paired.map fun pairing =>
      ⟨⟨host.address, host.httpPort, pairing⟩, host.number, registry.lifecycles.length⟩

namespace Registry

def start : Registry := ⟨.empty, [], [], [], []⟩

def acquire (registry : Registry) (host index : Nat) : Option Registry :=
  if registry.lifecycles[host]? = some none then
    some { registry with lifecycles := registry.lifecycles.set host (some index) }
  else none

def release (registry : Registry) (host : Nat) : Registry :=
  { registry with lifecycles := registry.lifecycles.set host none }

def setActive (registry : Registry) (hostId : Nat) (active : Option Nat) : Registry :=
  { registry with
    hosts := registry.hosts.modify hostId fun host => { host with activeStream := active } }

def runPrimary (registry : Registry) (index hostId : Nat) (outcome : Bool) :
    Primary → Option (Registry × Start)
  | .connectionInfo =>
    match hostConnectionInfo registry hostId with
    | some read => some (registry, .primary hostId (.app read))
    | none => some (registry, .finished)
  | .app read =>
    -- the host is there and has the app
    if (registry.hosts.get hostId).isSome && outcome then
      some (registry, .primary hostId (.lifecycle read))
    else some (registry, .finished)
  | .lifecycle read =>
    match registry.hosts.get hostId with
    | some host => some (registry, .primary hostId (.lock read host.number))
    | none => some (registry, .finished)
  | .lock read host =>
    (registry.acquire host index).map fun registry => (registry, .primary hostId (.age read host))
  | .age read host =>
    match (registry.hosts.get hostId).bind RuntimeHost.activeStream with
    | some existing => some (registry, .primary hostId (.recent read host existing))
    | none => some (registry, .primary hostId (.existing read host))
  | .recent read host _ =>
    -- a browser that sees the stream has started it less than ten seconds ago
    if outcome then some (registry.release host, .finished)
    else some (registry, .primary hostId (.existing read host))
  | .existing read host =>
    match (registry.hosts.get hostId).bind RuntimeHost.activeStream with
    | some existing => some (registry, .primary hostId (.stop read host existing))
    | none => some (registry, .spawning hostId host read .spawn)
  | .stop read host existing =>
    some ({ registry with stopped := existing :: registry.stopped },
      .primary hostId (.wait read host))
  -- it ends after ten seconds at the latest
  | .wait read host => some (registry, .spawning hostId host read .spawn)

def runPlaceholder (registry : Registry) (index hostId : Nat) (outcome : Bool) :
    Placeholder → Option (Registry × Start)
  | .check =>
    match registry.hosts.get hostId with
    | none => some (registry, .finished)
    | some host =>
      if host.activeStream.isSome then some (registry, .finished)
      else some (registry, .placeholder hostId (.lock host.number))
  | .lock host =>
    (registry.acquire host index).map fun registry =>
      (registry, .placeholder hostId (.currentGame host))
  | .currentGame locked =>
    match registry.hosts.get hostId with
    | none => some (registry.release locked, .finished)
    | some host =>
      if host.activeStream.isSome || !outcome then some (registry.release locked, .finished)
      else some (registry, .placeholder hostId (.connectionInfo locked))
  | .connectionInfo locked =>
    match hostConnectionInfo registry hostId with
    | some read => some (registry, .spawning hostId locked read .spawn)
    | none => some (registry.release locked, .finished)

def runSpawn (registry : Registry) (hostId host : Nat) (read : ConnectionRead) (outcome : Bool) :
    Spawn → Registry × Start
  | .spawn =>
    if outcome then
      ({ registry with streamers := registry.streamers ++ [⟨hostId, read.info, read.host⟩] },
        .spawning hostId host read (.register registry.streamers.length))
    else (registry.release host, .finished)
  -- nothing is found under the key of a host that is gone
  | .register streamer =>
    (registry.setActive hostId (some streamer), .spawning hostId host read (.init streamer))
  | .init _ => (registry.release host, .finished)

def runStart (registry : Registry) (index : Nat) (outcome : Bool) :
    Start → Option (Registry × Start)
  | .primary hostId place => registry.runPrimary index hostId outcome place
  | .placeholder hostId place => registry.runPlaceholder index hostId outcome place
  | .spawning hostId host read place => some (registry.runSpawn hostId host read outcome place)
  | .finished => none

def step (registry : Registry) : Event → Option Registry
  | .putHost address httpPort =>
    some { registry with
      hosts := registry.hosts.insert ⟨registry.lifecycles.length, address, httpPort, none, none⟩
      lifecycles := registry.lifecycles ++ [none] }
  | .deleteHost hostId =>
    some { registry with
      hosts := ((registry.hosts.tryRemove hostId).map Prod.snd).getD registry.hosts }
  | .pair hostId paired =>
    some { registry with hosts := registry.hosts.modify hostId fun host => { host with paired } }
  | .startPrimary hostId =>
    some { registry with starts := registry.starts ++ [.primary hostId .connectionInfo] }
  | .startPlaceholder hostId =>
    some { registry with starts := registry.starts ++ [.placeholder hostId .check] }
  | .run index outcome =>
    registry.starts[index]?.bind fun before =>
      (registry.runStart index outcome before).map fun (next, after) =>
        { next with starts := registry.starts.set index after }
  | .streamEnds streamer =>
    registry.streamers[streamer]?.map fun ended =>
      -- the router clears the slot only while its own stream is in it
      if (registry.hosts.get ended.hostId).bind RuntimeHost.activeStream = some streamer then
        registry.setActive ended.hostId none
      else registry

/-- A streamer that is active for a host was given that host's connection
information. -/
def StreamsOwnHost (registry : Registry) : Prop :=
  ∀ hostId host, registry.hosts.get hostId = some host →
    ∀ active, host.activeStream = some active →
      ∃ streamer, registry.streamers[active]? = some streamer ∧ streamer.host = host.number

/-- Where a start registers its streamer, the host that it finds under the key,
if any, had been put before the start read the connection information. -/
def NoneTookKey (before : Registry) (event : Event) (_ : Registry) : Prop :=
  ∀ index outcome hostId host read streamer, event = .run index outcome →
    before.starts[index]? = some (.spawning hostId host read (.register streamer)) →
      ∀ found, before.hosts.get hostId = some found → found.number < read.known

/-- What a read of connection information remains good for: of the hosts that had
been put by then, only its own can still be under the key. -/
structure ReadHolds (registry : Registry) (hostId : Nat) (read : ConnectionRead) : Prop where
  own : read.host < read.known
  past : read.known ≤ registry.lifecycles.length
  only : ∀ host, registry.hosts.get hostId = some host → host.number < read.known →
    host.number = read.host

end Registry

/-- The key and the connection information of a start that has some. -/
def Start.read : Start → Option (Nat × ConnectionRead)
  | .primary hostId (.app read) | .primary hostId (.lifecycle read) | .primary hostId (.lock read _)
  | .primary hostId (.age read _) | .primary hostId (.recent read _ _)
  | .primary hostId (.existing read _) | .primary hostId (.stop read _ _)
  | .primary hostId (.wait read _) | .spawning hostId _ read _ => some (hostId, read)
  | _ => none

namespace Registry

/-- What a start knows is so. -/
structure Fits (registry : Registry) (task : Start) : Prop where
  read : ∀ hostId read, task.read = some (hostId, read) → registry.ReadHolds hostId read
  spawned : ∀ hostId host read streamer, task = .spawning hostId host read (.register streamer) →
    registry.streamers[streamer]? = some ⟨hostId, read.info, read.host⟩

structure Sound (registry : Registry) : Prop where
  own : registry.StreamsOwnHost
  numbered : ∀ hostId host, registry.hosts.get hostId = some host →
    host.number < registry.lifecycles.length
  starts : ∀ task ∈ registry.starts, registry.Fits task

theorem sound_start : Sound start := ⟨nofun, nofun, nofun⟩

/-- Hosts come and go, and a host that is new has a new number. -/
structure Evolves (before after : Registry) : Prop where
  hosts : ∀ hostId host, after.hosts.get hostId = some host →
    (∃ older, before.hosts.get hostId = some older ∧ older.number = host.number) ∨
    (host.number = before.lifecycles.length ∧ host.number < after.lifecycles.length)
  known : before.lifecycles.length ≤ after.lifecycles.length
  streamers : ∀ (streamer : Nat) held, before.streamers[streamer]? = some held →
    after.streamers[streamer]? = some held

/-- No streamer becomes active. -/
def KeepsActive (before after : Registry) : Prop :=
  ∀ hostId host, after.hosts.get hostId = some host →
    ∀ active, host.activeStream = some active →
      ∃ older, before.hosts.get hostId = some older ∧ older.number = host.number ∧
        older.activeStream = some active

theorem StreamsOwnHost.evolves {before after : Registry} (own : StreamsOwnHost before)
    (evolves : Evolves before after) (keeps : KeepsActive before after) :
    StreamsOwnHost after := by
  intro hostId host found active isActive
  obtain ⟨older, wasThere, same, wasActive⟩ := keeps hostId host found active isActive
  obtain ⟨streamer, held, owner⟩ := own hostId older wasThere active wasActive
  exact ⟨streamer, evolves.streamers active streamer held, owner.trans same⟩

theorem ReadHolds.evolves {before after : Registry} {read : ConnectionRead}
    (holds : ReadHolds before hostId read) (evolves : Evolves before after) :
    ReadHolds after hostId read := by
  refine ⟨holds.own, Nat.le_trans holds.past evolves.known, fun host found older => ?_⟩
  obtain ⟨earlier, wasThere, same⟩ | ⟨new, _⟩ := evolves.hosts hostId host found
  · rw [← same] at older ⊢
    exact holds.only earlier wasThere older
  · rw [new] at older
    exact absurd holds.past (Nat.not_le.mpr older)

theorem Fits.evolves {before after : Registry} {task : Start} (fits : Fits before task)
    (evolves : Evolves before after) : Fits after task where
  read hostId read held := (fits.read hostId read held).evolves evolves
  spawned hostId host read streamer isTask :=
    evolves.streamers _ _ (fits.spawned hostId host read streamer isTask)

theorem Sound.evolves {before after : Registry} (sound : Sound before)
    (evolves : Evolves before after) (own : StreamsOwnHost after)
    (starts : ∀ task ∈ after.starts, task ∈ before.starts ∨ after.Fits task) : Sound after where
  own := own
  numbered hostId host found := by
    obtain ⟨older, wasThere, same⟩ | ⟨_, inside⟩ := evolves.hosts hostId host found
    · rw [← same]
      exact Nat.lt_of_lt_of_le (sound.numbered hostId older wasThere) evolves.known
    · exact inside
  starts task member := by
    obtain old | fits := starts task member
    · exact (sound.starts task old).evolves evolves
    · exact fits

/-- What is read now holds. -/
theorem Sound.read_holds {registry : Registry} {read : ConnectionRead} (sound : Sound registry)
    (isRead : hostConnectionInfo registry hostId = some read) : registry.ReadHolds hostId read := by
  obtain ⟨host, found, isRead⟩ := Option.bind_eq_some_iff.mp isRead
  obtain ⟨pairing, _, rfl⟩ := Option.map_eq_some_iff.mp isRead
  refine ⟨sound.numbered hostId host found, Nat.le_refl _, fun other isOther _ => ?_⟩
  cases found.symm.trans isOther
  rfl

/-- The registries that differ only in what no host and no streamer is read from. -/
structure Still (before after : Registry) : Prop where
  hosts : after.hosts = before.hosts
  known : after.lifecycles.length = before.lifecycles.length
  streamers : ∀ (streamer : Nat) held, before.streamers[streamer]? = some held →
    after.streamers[streamer]? = some held

theorem Still.rfl {registry : Registry} : Still registry registry := ⟨Eq.refl _, Eq.refl _, fun _ _ => id⟩

theorem still_release (registry : Registry) (host : Nat) : Still registry (registry.release host) :=
  ⟨.refl _, List.length_set, fun _ _ => id⟩

theorem still_acquire {registry next : Registry}
    (acquired : registry.acquire host index = some next) : Still registry next := by
  unfold acquire at acquired
  split at acquired
  · cases acquired
    exact ⟨.refl _, List.length_set, fun _ _ => id⟩
  · cases acquired

theorem Still.evolves {before after : Registry} (still : Still before after) :
    Evolves before after where
  hosts _ host found := .inl ⟨host, still.hosts ▸ found, .refl _⟩
  known := Nat.le_of_eq still.known.symm
  streamers := still.streamers

theorem Still.keeps_active {before after : Registry} (still : Still before after) :
    KeepsActive before after :=
  fun _ host found _ isActive => ⟨host, still.hosts ▸ found, .refl _, isActive⟩

/-- What a step of a start leaves: the hosts as they were, and a start that knows
what it knew or what it reads now. -/
structure Continues (registry next : Registry) (before after : Start) : Prop where
  still : Still registry next
  read : ∀ hostId read, after.read = some (hostId, read) →
    before.read = some (hostId, read) ∨ hostConnectionInfo registry hostId = some read
  spawned : ∀ hostId host read streamer, after = .spawning hostId host read (.register streamer) →
    next.streamers[streamer]? = some ⟨hostId, read.info, read.host⟩

theorem continues_finished {registry next : Registry} {before : Start}
    (still : Still registry next) : Continues registry next before .finished := ⟨still, nofun, nofun⟩

theorem run_primary_continues {registry next : Registry} {place : Primary}
    (runs : registry.runPrimary index hostId outcome place = some (next, after)) :
    Continues registry next (.primary hostId place) after := by
  cases place with
  | connectionInfo =>
    simp only [runPrimary] at runs
    split at runs
    · rename_i read isRead
      cases runs
      refine ⟨.rfl, fun _ _ known => .inr ?_, nofun⟩
      cases known
      exact isRead
    · cases runs
      exact continues_finished .rfl
  | app read | lifecycle read =>
    simp only [runPrimary] at runs
    split at runs
    · cases runs
      exact ⟨.rfl, fun _ _ => .inl, nofun⟩
    · cases runs
      exact continues_finished .rfl
  | lock read host =>
    obtain ⟨held, acquired, runs⟩ := Option.map_eq_some_iff.mp runs
    cases runs
    exact ⟨still_acquire acquired, fun _ _ => .inl, nofun⟩
  | recent read host existing =>
    simp only [runPrimary] at runs
    split at runs
    · cases runs
      exact continues_finished (still_release registry host)
    · cases runs
      exact ⟨.rfl, fun _ _ => .inl, nofun⟩
  | age read host | existing read host =>
    simp only [runPrimary] at runs
    split at runs
    all_goals
      cases runs
      exact ⟨.rfl, fun _ _ => .inl, nofun⟩
  | stop read host existing =>
    cases runs
    exact ⟨⟨.refl _, .refl _, fun _ _ => id⟩, fun _ _ => .inl, nofun⟩
  | wait read host =>
    cases runs
    exact ⟨.rfl, fun _ _ => .inl, nofun⟩

theorem run_placeholder_continues {registry next : Registry} {place : Placeholder}
    (runs : registry.runPlaceholder index hostId outcome place = some (next, after)) :
    Continues registry next (.placeholder hostId place) after := by
  cases place with
  | check =>
    simp only [runPlaceholder] at runs
    split at runs
    · cases runs
      exact continues_finished .rfl
    · split at runs
      · cases runs
        exact continues_finished .rfl
      · cases runs
        exact ⟨.rfl, nofun, nofun⟩
  | lock host =>
    obtain ⟨held, acquired, runs⟩ := Option.map_eq_some_iff.mp runs
    cases runs
    exact ⟨still_acquire acquired, nofun, nofun⟩
  | currentGame host =>
    simp only [runPlaceholder] at runs
    split at runs
    · cases runs
      exact continues_finished (still_release registry host)
    · split at runs
      · cases runs
        exact continues_finished (still_release registry host)
      · cases runs
        exact ⟨.rfl, nofun, nofun⟩
  | connectionInfo host =>
    simp only [runPlaceholder] at runs
    split at runs
    · rename_i read isRead
      cases runs
      refine ⟨.rfl, fun _ _ known => .inr ?_, nofun⟩
      cases known
      exact isRead
    · cases runs
      exact continues_finished (still_release registry host)

/-- A start goes on, or it registers its streamer. -/
theorem run_start_cases {registry next : Registry} {before : Start}
    (runs : registry.runStart index outcome before = some (next, after)) :
    (Continues registry next before after ∧
      ∀ hostId host read streamer, before ≠ .spawning hostId host read (.register streamer)) ∨
    ∃ hostId host read streamer, before = .spawning hostId host read (.register streamer) ∧
      next = registry.setActive hostId (some streamer) ∧
      after = .spawning hostId host read (.init streamer) := by
  cases before with
  | primary hostId place => exact .inl ⟨run_primary_continues runs, nofun⟩
  | placeholder hostId place => exact .inl ⟨run_placeholder_continues runs, nofun⟩
  | spawning hostId host read place =>
    cases place with
    | spawn =>
      simp only [runStart, runSpawn] at runs
      refine .inl ⟨?_, nofun⟩
      split at runs
      · cases runs
        refine ⟨⟨.refl _, .refl _, fun streamer held isThere => ?_⟩, fun _ _ => .inl, ?_⟩
        · exact (List.getElem?_append_left (List.getElem?_eq_some_iff.mp isThere).1).trans isThere
        · intro hostId host read streamer isAfter
          cases isAfter
          exact List.getElem?_concat_length
      · cases runs
        exact continues_finished (still_release registry host)
    | register streamer =>
      cases runs
      exact .inr ⟨hostId, host, read, streamer, rfl, rfl, rfl⟩
    | init streamer =>
      cases runs
      exact .inl ⟨continues_finished (still_release registry host), nofun⟩
  | finished => cases runs

theorem get_set_active (registry : Registry) (hostId other : Nat) (active : Option Nat) :
    (registry.setActive hostId active).hosts.get other =
      if other = hostId then
        (registry.hosts.get other).map fun host => { host with activeStream := active }
      else registry.hosts.get other :=
  registry.hosts.get_modify hostId other _

/-- A change of the hosts in place. -/
theorem evolves_of_modify {registry next : Registry}
    (hosts : next.hosts = registry.hosts.modify hostId change)
    (numbered : ∀ host, (change host).number = host.number)
    (known : next.lifecycles = registry.lifecycles) (streamers : next.streamers = registry.streamers) :
    Evolves registry next where
  hosts other host found := by
    left
    rw [hosts, Slab.get_modify] at found
    split at found
    · obtain ⟨older, wasThere, rfl⟩ := Option.map_eq_some_iff.mp found
      exact ⟨older, wasThere, (numbered older).symm⟩
    · exact ⟨host, found, rfl⟩
  known := Nat.le_of_eq (congrArg List.length known).symm
  streamers _ _ held := streamers ▸ held

theorem keeps_active_of_modify {registry next : Registry}
    (hosts : next.hosts = registry.hosts.modify hostId change)
    (numbered : ∀ host, (change host).number = host.number)
    (keeps : ∀ host active, (change host).activeStream = some active →
      host.activeStream = some active) : KeepsActive registry next := by
  intro other host found active isActive
  rw [hosts, Slab.get_modify] at found
  split at found
  · obtain ⟨older, wasThere, rfl⟩ := Option.map_eq_some_iff.mp found
    exact ⟨older, wasThere, (numbered older).symm, keeps older active isActive⟩
  · exact ⟨host, found, rfl, isActive⟩

theorem get_put_host {registry next : Registry}
    (stepped : registry.step (.putHost address httpPort) = some next)
    (found : next.hosts.get hostId = some host) :
    registry.hosts.get hostId = some host ∨
      host = ⟨registry.lifecycles.length, address, httpPort, none, none⟩ := by
  cases stepped
  by_cases isKey : hostId = registry.hosts.vacantKey
  · subst isKey
    exact .inr (Option.some.inj (found.symm.trans (registry.hosts.get_insert _)))
  · exact .inl ((registry.hosts.get_insert_of_ne _ isKey).symm.trans found)

theorem put_host_evolves {registry next : Registry}
    (stepped : registry.step (.putHost address httpPort) = some next) :
    Evolves registry next ∧ KeepsActive registry next := by
  have known : next.lifecycles.length = registry.lifecycles.length + 1 := by
    cases stepped
    exact List.length_append
  refine ⟨⟨fun hostId host found => ?_, by omega, ?_⟩, fun hostId host found active isActive => ?_⟩
  · obtain old | rfl := get_put_host stepped found
    · exact .inl ⟨host, old, rfl⟩
    · exact .inr ⟨rfl, known ▸ Nat.lt_succ_self _⟩
  · cases stepped
    exact fun _ _ => id
  · obtain old | rfl := get_put_host stepped found
    · exact ⟨host, old, rfl, isActive⟩
    · cases isActive

theorem get_delete_host {registry next : Registry}
    (stepped : registry.step (.deleteHost removed) = some next)
    (found : next.hosts.get hostId = some host) : registry.hosts.get hostId = some host := by
  cases stepped
  cases removes : registry.hosts.tryRemove removed with
  | none =>
    simp only [removes] at found
    exact found
  | some rest =>
    simp only [removes] at found
    have isRest := Slab.get_tryRemove removes hostId
    rw [Option.map_some, Option.getD_some] at found
    rw [found] at isRest
    split at isRest
    · cases isRest
    · exact isRest.symm

theorem delete_host_evolves {registry next : Registry}
    (stepped : registry.step (.deleteHost removed) = some next) :
    Evolves registry next ∧ KeepsActive registry next := by
  refine ⟨⟨fun _ host found => .inl ⟨host, get_delete_host stepped found, rfl⟩, ?_, ?_⟩,
    fun _ host found _ isActive => ⟨host, get_delete_host stepped found, rfl, isActive⟩⟩
  · cases stepped
    exact Nat.le_refl _
  · cases stepped
    exact fun _ _ => id

theorem pair_evolves {registry next : Registry}
    (stepped : registry.step (.pair hostId paired) = some next) :
    Evolves registry next ∧ KeepsActive registry next := by
  cases stepped
  exact ⟨evolves_of_modify rfl (fun _ => rfl) rfl rfl,
    keeps_active_of_modify rfl (fun _ => rfl) fun _ _ => id⟩

theorem stream_ends_evolves {registry next : Registry}
    (stepped : registry.step (.streamEnds streamer) = some next) :
    Evolves registry next ∧ KeepsActive registry next := by
  obtain ⟨ended, _, rfl⟩ := Option.map_eq_some_iff.mp stepped
  split
  · exact ⟨evolves_of_modify rfl (fun _ => rfl) rfl rfl,
      keeps_active_of_modify rfl (fun _ => rfl) nofun⟩
  · exact ⟨Still.rfl.evolves, Still.rfl.keeps_active⟩

theorem Continues.fits {registry next : Registry} {before after : Start} (sound : Sound registry)
    (continues : Continues registry next before after) (member : before ∈ registry.starts) :
    next.Fits after where
  read hostId read known := by
    obtain held | isRead := continues.read hostId read known
    · exact ((sound.starts before member).read hostId read held).evolves continues.still.evolves
    · exact (sound.read_holds isRead).evolves continues.still.evolves
  spawned := continues.spawned

/-- What a step does that registers no streamer. -/
structure Passes (before : Registry) (event : Event) (after : Registry) : Prop where
  evolves : Evolves before after
  keeps : KeepsActive before after
  starts : ∀ task ∈ after.starts, task ∈ before.starts ∨ after.Fits task
  unregistered : before.NoneTookKey event after

/-- What a step does that registers a streamer. -/
structure Registers (before after : Registry) (index hostId host : Nat) (read : ConnectionRead)
    (streamer : Nat) : Prop where
  task : before.starts[index]? = some (.spawning hostId host read (.register streamer))
  hosts : after.hosts = (before.setActive hostId (some streamer)).hosts
  lifecycles : after.lifecycles = before.lifecycles
  streamers : after.streamers = before.streamers
  starts : after.starts = before.starts.set index (.spawning hostId host read (.init streamer))

theorem Registers.evolves {before after : Registry} {read : ConnectionRead}
    (registers : Registers before after index hostId host read streamer) : Evolves before after :=
  evolves_of_modify registers.hosts (fun _ => rfl) registers.lifecycles registers.streamers

theorem passes_of_same_starts {before after : Registry}
    (evolves : Evolves before after ∧ KeepsActive before after)
    (starts : after.starts = before.starts) (noRun : ∀ index outcome, event ≠ .run index outcome) :
    Passes before event after where
  evolves := evolves.1
  keeps := evolves.2
  starts _ member := .inl (starts ▸ member)
  unregistered index outcome _ _ _ _ isRun := absurd isRun (noRun index outcome)

theorem passes_of_new_start {before after : Registry} {task : Start} (still : Still before after)
    (starts : after.starts = before.starts ++ [task]) (fits : after.Fits task)
    (noRun : ∀ index outcome, event ≠ .run index outcome) : Passes before event after where
  evolves := still.evolves
  keeps := still.keeps_active
  starts other member := by
    rw [starts] at member
    obtain old | new := List.mem_append.mp member
    · exact .inl old
    · cases List.mem_singleton.mp new
      exact .inr fits
  unregistered index outcome _ _ _ _ isRun := absurd isRun (noRun index outcome)

/-- A step registers a streamer, or it makes none active. -/
theorem step_cases {registry next : Registry} (sound : Sound registry)
    (stepped : registry.step event = some next) :
    Passes registry event next ∨
    ∃ index outcome hostId host read streamer, event = .run index outcome ∧
      Registers registry next index hostId host read streamer := by
  cases event with
  | putHost address httpPort =>
    refine .inl (passes_of_same_starts (put_host_evolves stepped) ?_ nofun)
    cases stepped
    rfl
  | deleteHost hostId =>
    refine .inl (passes_of_same_starts (delete_host_evolves stepped) ?_ nofun)
    cases stepped
    rfl
  | pair hostId paired =>
    refine .inl (passes_of_same_starts (pair_evolves stepped) ?_ nofun)
    cases stepped
    rfl
  | startPrimary hostId =>
    cases stepped
    exact .inl (passes_of_new_start ⟨.refl _, .refl _, fun _ _ => id⟩ rfl ⟨nofun, nofun⟩ nofun)
  | startPlaceholder hostId =>
    cases stepped
    exact .inl (passes_of_new_start ⟨.refl _, .refl _, fun _ _ => id⟩ rfl ⟨nofun, nofun⟩ nofun)
  | run index outcome =>
    obtain ⟨before, isAt, stepped⟩ := Option.bind_eq_some_iff.mp stepped
    obtain ⟨⟨left, after⟩, runs, rfl⟩ := Option.map_eq_some_iff.mp stepped
    obtain ⟨continues, unregistered⟩ | ⟨hostId, host, read, streamer, rfl, rfl, rfl⟩ :=
      run_start_cases runs
    · have fits := continues.fits sound (List.mem_of_getElem? isAt)
      refine .inl ⟨?_, continues.still.keeps_active, fun task member => ?_, ?_⟩
      · exact ⟨continues.still.evolves.hosts, continues.still.evolves.known,
          continues.still.evolves.streamers⟩
      · obtain old | rfl := List.mem_or_eq_of_mem_set member
        · exact .inl old
        · exact .inr (fits.evolves (Still.evolves ⟨rfl, rfl, fun _ _ => id⟩))
      · intro _ _ hostId host read streamer isRun registers
        cases isRun
        cases isAt.symm.trans registers
        exact absurd rfl (unregistered hostId host read streamer)
    · exact .inr ⟨index, outcome, hostId, host, read, streamer, rfl, isAt, rfl, rfl, rfl, rfl⟩
  | streamEnds streamer =>
    refine .inl (passes_of_same_starts (stream_ends_evolves stepped) ?_ nofun)
    obtain ⟨ended, _, rfl⟩ := Option.map_eq_some_iff.mp stepped
    split <;> rfl

/-- A registered streamer is its host's own exactly if no new host took the key. -/
theorem Registers.own_iff {before after : Registry} {read : ConnectionRead}
    (registers : Registers before after index hostId host read streamer) (sound : Sound before) :
    after.StreamsOwnHost ↔
      ∀ found, before.hosts.get hostId = some found → found.number < read.known := by
  have fits := sound.starts _ (List.mem_of_getElem? registers.task)
  have holds := fits.read hostId read rfl
  have spawned := fits.spawned hostId host read streamer rfl
  constructor
  · intro own found isFound
    have isActive : after.hosts.get hostId = some { found with activeStream := some streamer } := by
      rw [registers.hosts, get_set_active, if_pos rfl, isFound]
      rfl
    obtain ⟨held, isThere, owner⟩ := own hostId _ isActive streamer rfl
    rw [registers.streamers, spawned] at isThere
    cases isThere
    have isOwner : read.host = found.number := owner
    rw [← isOwner]
    exact holds.own
  · intro noneTook other found isFound active isActive
    rw [registers.hosts, get_set_active] at isFound
    rw [registers.streamers]
    split at isFound
    · rename_i isKey
      subst isKey
      obtain ⟨older, wasThere, rfl⟩ := Option.map_eq_some_iff.mp isFound
      cases isActive
      exact ⟨_, spawned, (holds.only older wasThere (noneTook older wasThere)).symm⟩
    · exact sound.own other found isFound active isActive

theorem Registers.sound {before after : Registry} {read : ConnectionRead}
    (registers : Registers before after index hostId host read streamer) (sound : Sound before)
    (own : after.StreamsOwnHost) : Sound after := by
  refine sound.evolves registers.evolves own fun task member => ?_
  rw [registers.starts] at member
  obtain old | rfl := List.mem_or_eq_of_mem_set member
  · exact .inl old
  · have fits := sound.starts _ (List.mem_of_getElem? registers.task)
    refine .inr ⟨fun _ _ known => ?_, nofun⟩
    cases known
    exact (fits.read hostId read rfl).evolves registers.evolves

theorem Registers.none_took_key_iff {before after next : Registry} {read : ConnectionRead}
    (registers : Registers before after index hostId host read streamer) :
    before.NoneTookKey (.run index outcome) next ↔
      ∀ found, before.hosts.get hostId = some found → found.number < read.known := by
  constructor
  · intro noneTook
    exact noneTook index outcome hostId host read streamer rfl registers.task
  · intro noneTook _ _ _ _ _ _ isRun isAt
    cases isRun
    cases registers.task.symm.trans isAt
    exact noneTook

/-- Along a run, streamers are active only for the hosts whose connection information
they were given, exactly if none is registered where a new host took the key. -/
theorem streams_own_host_iff (events : List Event) :
    Along step (fun _ _ after => after.StreamsOwnHost) start events ↔
      Along step NoneTookKey start events := by
  refine along_iff Sound (fun before event after sound stepped => ?_)
    (fun before event after sound stepped noneTook => ?_) sound_start
  · obtain passes | ⟨index, outcome, hostId, host, read, streamer, rfl, registers⟩ :=
      step_cases sound stepped
    · exact iff_of_true (sound.own.evolves passes.evolves passes.keeps) passes.unregistered
    · rw [registers.own_iff sound, registers.none_took_key_iff]
  · obtain passes | ⟨index, outcome, hostId, host, read, streamer, rfl, registers⟩ :=
      step_cases sound stepped
    · exact sound.evolves passes.evolves (sound.own.evolves passes.evolves passes.keeps)
        passes.starts
    · have own := (registers.own_iff sound).mpr (registers.none_took_key_iff.mp noneTook)
      exact registers.sound sound own

/-- The first host is removed while its streamer starts, and the next one is put under
its key. -/
def keyTaken : List Event :=
  [.putHost "10.0.0.1" 47989, .pair 0 (some ⟨"key", "certificate", "server certificate"⟩),
    .startPrimary 0, .run 0 true, .run 0 true, .run 0 true, .run 0 true, .run 0 true, .run 0 true,
    .run 0 true, .deleteHost 0, .putHost "10.0.0.2" 47989]

/-- The streamer that was given the first host's connection information becomes the
second one's. -/
theorem stream_of_removed_host :
    ¬Along step (fun _ _ after => after.StreamsOwnHost) start (keyTaken ++ [.run 0 true]) := by
  intro along
  have own := along_last along rfl rfl
  obtain ⟨streamer, held, owner⟩ := own 0 ⟨1, "10.0.0.2", 47989, none, some 0⟩ rfl 0 rfl
  cases held
  cases owner

end Registry

end MoonlightWeb.WebServer.HostRegistry

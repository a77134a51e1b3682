import MoonlightWeb.WebServer.Authorisation
import Mathlib.Data.List.Perm.Basic

/-! What becomes of the sessions. They are entered in memory and written to the
file in a later step, under concurrent logins; expired ones are dropped when
another is entered and when the file is loaded. No session is lost by it and
none outlives its time, over restarts too, as long as the server is not
restarted in the middle of a creation. -/
namespace MoonlightWeb.WebServer
open MoonlightWeb.Machine

/-- The token a task is about to enter, with its expiry. -/
def Task.entering : Task → Option (String × Nat)
  | .insertSession _ token expiresAt => some (token, expiresAt)
  | _ => none

/-- The token a task has entered and is to hand out once it is written, with its
expiry. -/
def Task.handing : Task → Option (String × Nat)
  | .persistSessions token expiresAt => some (token, expiresAt)
  | _ => none

/-- The token an answer hands out, with its expiry. -/
def LogEntry.session : LogEntry → Option (String × Nat)
  | .replied (.session token expiresAtMs) => some (token, expiresAtMs)
  | _ => none

/-- The stages of `create_session`, to the end of its write. -/
def Task.creates : Task → Bool
  | .createSession _ | .insertSession _ _ _ | .persistSessions _ _ => true
  | _ => false

namespace Server

def entering (server : Server) : List (String × Nat) := server.tasks.filterMap Task.entering

/-- The tokens of the logins that have been answered, and of those whose answer
waits for the write of the file alone. -/
def handedOut (server : Server) : List (String × Nat) :=
  server.log.filterMap LogEntry.session ++ server.tasks.filterMap Task.handing

/-- Some creation is in flight. -/
def Creating (server : Server) : Prop := ∃ task ∈ server.tasks, task.creates = true

end Server

/-- The server beside the tokens drawn so far, each with the time from which its
lifetime counts. -/
structure Observed where
  server : Server
  created : List (String × Nat)

namespace Observed

variable (crypto : Crypto)

/-- The token a step draws. -/
def drawn (server : Server) : Event → List (String × Nat)
  | .resume index supply =>
    match server.tasks[index]? with
    | some (.createSession _) => [(hexEncode supply.random, server.now)]
    | _ => []
  | _ => []

def step (observed : Observed) (event : Event) : Option Observed :=
  (Server.step crypto observed.server event).map fun next =>
    ⟨next, drawn observed.server event ++ observed.created⟩

def start (configFile : Option Config) (now : Nat) : Observed := ⟨.start configFile now, []⟩

/-- A token that a login hands out for 90 days, counted from its drawing. -/
def Issued (observed : Observed) (token : String) (issuedAt : Nat) : Prop :=
  (token, issuedAt) ∈ observed.created ∧
    (token, issuedAt + SESSION_DURATION_MS) ∈ observed.server.handedOut

/-- What is assumed of the steps of a run: the clock does not go back, the
server is not stopped in the middle of a creation, the sessions are written
when they are to be, and no token is drawn twice. -/
structure Orderly (before : Observed) (event : Event) (_ : Observed) : Prop where
  clock : ∀ now, event = .clock now → before.server.now ≤ now
  restart : event = .kill → ¬ before.server.Creating
  written : ∀ index supply token expiresAt, event = .resume index supply →
    before.server.tasks[index]? = some (.persistSessions token expiresAt) →
      supply.write = .written
  distinct : ∀ pair ∈ drawn before.server event, pair.1 ∉ before.created.map Prod.fst

/-- A token is accepted for its lifetime and not longer, and is in the file
whenever no creation is in flight. -/
structure SessionsKept (observed : Observed) : Prop where
  accepted : ∀ process, observed.server.process = some process → ∀ token,
    process.creds.validateSession token observed.server.now = true ↔
      ∃ issuedAt, observed.Issued token issuedAt ∧
        observed.server.now < issuedAt + SESSION_DURATION_MS
  persisted : ¬ observed.server.Creating → ∀ token issuedAt, observed.Issued token issuedAt →
    observed.server.now < issuedAt + SESSION_DURATION_MS →
      ∃ sessions, observed.server.sessionsFile = some sessions ∧
        sessions.get token = some (issuedAt + SESSION_DURATION_MS)

variable {crypto}

/-- A token with an expiry that its creation gave it. -/
def Dated (created : List (String × Nat)) (token : String) (expiresAt : Nat) : Prop :=
  ∃ issuedAt, (token, issuedAt) ∈ created ∧ expiresAt = issuedAt + SESSION_DURATION_MS

/-- Every session that is still good is in the file or about to be written. -/
def Backed (server : Server) : Prop :=
  ∀ issue ∈ server.issued, server.now < issue.expiresAt →
    (∃ sessions, server.sessionsFile = some sessions ∧
      sessions.get issue.token = some issue.expiresAt) ∨
    .persistSessions issue.token issue.expiresAt ∈ server.tasks

/-- Every issued session that is still good is in the map. -/
def Holds (issued : List Issue) (now : Nat) (sessions : Sessions) : Prop :=
  ∀ issue ∈ issued, now < issue.expiresAt → sessions.get issue.token = some issue.expiresAt

/-- Sessions are where they have to be, and no token is entered twice. -/
structure Stored (crypto : Crypto) (configured : Option String) (observed : Observed) : Prop where
  sound : Sound crypto configured observed.server
  once : (observed.created.map Prod.fst).Nodup
  issued : ∀ issue ∈ observed.server.issued, Dated observed.created issue.token issue.expiresAt
  entering : ∀ pair ∈ observed.server.entering, Dated observed.created pair.1 pair.2
  fresh : (observed.server.entering.map Prod.fst ++
    observed.server.issued.map Issue.token).Nodup
  held : ∀ process, observed.server.process = some process →
    Holds observed.server.issued observed.server.now process.creds.sessions
  backed : Backed observed.server
  handed : observed.server.handedOut.Perm
    (observed.server.issued.map fun issue => (issue.token, issue.expiresAt))

/-- A token has one date. -/
theorem Dated.unique {pairs : List (String × Nat)} (once : (pairs.map Prod.fst).Nodup)
    (dated : Dated pairs token expiresAt) (isDrawn : (token, issuedAt) ∈ pairs) :
    expiresAt = issuedAt + SESSION_DURATION_MS := by
  obtain ⟨other, member, rfl⟩ := dated
  have same := List.inj_on_of_nodup_map once member isDrawn rfl
  cases same
  rfl

/-- What the invariant says of acceptance and of the file. -/
theorem Stored.kept (stored : Stored crypto configured observed) : SessionsKept observed := by
  refine ⟨fun process running token => ?_, fun idle token issuedAt known good => ?_⟩
  · constructor
    · intro valid
      obtain ⟨issue, member, rfl, alive⟩ := validated_session_was_issued
        (stored.sound.process process running).sessions valid
      obtain ⟨issuedAt, drawn, expires⟩ := stored.issued issue member
      have handed := stored.handed.mem_iff.mpr (List.mem_map_of_mem member)
      exact ⟨issuedAt, ⟨drawn, expires ▸ handed⟩, expires ▸ alive⟩
    · rintro ⟨issuedAt, ⟨_, handed⟩, good⟩
      obtain ⟨issue, member, same⟩ := List.mem_map.mp (stored.handed.mem_iff.mp handed)
      obtain ⟨rfl, expires⟩ := Prod.mk.inj same
      have found := stored.held process running issue member (expires ▸ good)
      simp [ApiCredentials.validateSession, found, expires, good]
  · obtain ⟨issue, member, same⟩ := List.mem_map.mp (stored.handed.mem_iff.mp known.2)
    obtain ⟨rfl, expires⟩ := Prod.mk.inj same
    rcases stored.backed issue member (expires ▸ good) with inFile | waiting
    · exact expires ▸ inFile
    · exact absurd ⟨_, waiting, rfl⟩ idle

/-- A step that issues, draws and writes nothing keeps the invariant, if the
sessions stay and no write is forgotten. -/
theorem Stored.frame (stored : Stored crypto configured observed)
    (sound : Sound crypto configured next) (issued : next.issued = observed.server.issued)
    (file : next.sessionsFile = observed.server.sessionsFile)
    (later : observed.server.now ≤ next.now)
    (entering : next.entering.Sublist observed.server.entering)
    (writes : ∀ token expiresAt, .persistSessions token expiresAt ∈ observed.server.tasks →
      .persistSessions token expiresAt ∈ next.tasks)
    (held : ∀ process, next.process = some process →
      ∃ before, observed.server.process = some before ∧
        process.creds.sessions = before.creds.sessions)
    (handed : next.handedOut.Perm observed.server.handedOut) :
    Stored crypto configured ⟨next, observed.created⟩ where
  sound := sound
  once := stored.once
  issued issue member := stored.issued issue (issued ▸ member)
  entering pair member := stored.entering pair (entering.subset member)
  fresh := by
    rw [issued]
    exact stored.fresh.sublist ((entering.map _).append_right _)
  held process running issue member good := by
    obtain ⟨before, wasRunning, same⟩ := held process running
    rw [same]
    exact stored.held before wasRunning issue (issued ▸ member) (Nat.lt_of_le_of_lt later good)
  backed issue member good := by
    rw [file]
    exact (stored.backed issue (issued ▸ member) (Nat.lt_of_le_of_lt later good)).imp_right
      (writes _ _)
  handed := by
    rw [issued]
    exact handed.trans stored.handed

/-- Neither the tasks that begin nor the answers that are given enter a session or
hand one out. -/
structure Quiet (server after : Server) (begun : List Task) : Prop where
  enters : begun.filterMap Task.entering = []
  hands : begun.filterMap Task.handing = []
  answers : after.log.filterMap LogEntry.session = server.log.filterMap LogEntry.session

theorem handle_quiet (server : Server) (endpoint : Endpoint) (presented : Option String) :
    Quiet server (server.decide (.api endpoint) presented true) (Server.handle endpoint) := by
  cases endpoint <;> exact ⟨rfl, rfl, rfl⟩

theorem receive_quiet (server : Server) (creds : ApiCredentials) (request : Request) :
    Quiet server (Server.receive crypto server creds request).1
      (Server.receive crypto server creds request).2 := by
  unfold Server.receive
  split
  · exact ⟨rfl, rfl, rfl⟩
  split
  · split
    · split
      · exact ⟨rfl, rfl, rfl⟩
      split <;> exact ⟨rfl, rfl, rfl⟩
    · exact ⟨rfl, rfl, rfl⟩
    · exact ⟨rfl, rfl, rfl⟩
  split
  · exact handle_quiet _ _ _
  split <;> exact ⟨rfl, rfl, rfl⟩

theorem authenticate_quiet (server : Server) (creds : ApiCredentials)
    (request : StreamRequest) (credentials : Option String) :
    Quiet server (Server.authenticate crypto server creds request credentials).1
      (Server.authenticate crypto server creds request credentials).2 := by
  unfold Server.authenticate
  split
  · exact ⟨rfl, rfl, rfl⟩
  split <;> exact ⟨rfl, rfl, rfl⟩

/-- What begins behind the other tasks leaves them as they are. -/
theorem stored_of_begun (stored : Stored crypto configured observed)
    (running : observed.server.process = some process)
    (logged : ∃ entries, after = { observed.server with log := entries })
    (quiet : Quiet observed.server after tasks)
    (sound : Sound crypto configured
      { after with process := some { process with tasks := process.tasks ++ tasks } }) :
    Stored crypto configured
      ⟨{ after with process := some { process with tasks := process.tasks ++ tasks } },
        observed.created⟩ := by
  obtain ⟨entries, rfl⟩ := logged
  refine stored.frame sound rfl rfl (Nat.le_refl _) ?_ ?_ ?_ (.of_eq ?_)
  · simp [Server.entering, Server.tasks, running, quiet.enters]
  · intro token expiresAt member
    rw [Server.tasks_running running] at member
    exact List.mem_append_left _ member
  · rintro _ ⟨⟩
    exact ⟨process, running, rfl⟩
  · rw [Server.handedOut, quiet.answers]
    simp [Server.handedOut, Server.tasks, running, quiet.hands]

/-- A task of no creation leaves sessions and files alone. -/
theorem runTask_frame {server : Server} {creds : ApiCredentials} (task : Task)
    (other : task.creates = false)
    (ran : Server.runTask crypto server creds supply task = some (after, creds', rest)) :
    after.issued = server.issued ∧ after.sessionsFile = server.sessionsFile ∧
      after.now = server.now ∧ creds'.sessions = creds.sessions ∧
        Quiet server after rest := by
  cases task with
  | session endpoint token =>
    simp only [Server.runTask] at ran
    split at ran
    · cases ran
      exact ⟨rfl, rfl, rfl, rfl, handle_quiet server endpoint _⟩
    · cases ran
      exact ⟨rfl, rfl, rfl, rfl, rfl, rfl, rfl⟩
  | fallback endpoint token =>
    simp only [Server.runTask] at ran
    split at ran
    · cases ran
      exact ⟨rfl, rfl, rfl, rfl, handle_quiet server endpoint _⟩
    · cases ran
      exact ⟨rfl, rfl, rfl, rfl, rfl, rfl, rfl⟩
  | readTotp body =>
    simp only [Server.runTask] at ran
    split at ran
    · cases ran
      exact ⟨rfl, rfl, rfl, rfl, rfl, rfl, rfl⟩
    split at ran
    · cases ran
      exact ⟨rfl, rfl, rfl, rfl, rfl, rfl, rfl⟩
    split at ran <;> cases ran <;> exact ⟨rfl, rfl, rfl, rfl, rfl, rfl, rfl⟩
  | createSession login | insertSession login token expiresAt | persistSessions token expiresAt =>
    cases other
  | setupTotp =>
    simp only [Server.runTask, Option.ite_none_right_eq_some] at ran
    cases ran.2
    exact ⟨rfl, rfl, rfl, rfl, rfl, rfl, rfl⟩
  | readPending code =>
    simp only [Server.runTask] at ran
    split at ran
    · cases ran
      exact ⟨rfl, rfl, rfl, rfl, rfl, rfl, rfl⟩
    split at ran <;> cases ran <;> exact ⟨rfl, rfl, rfl, rfl, rfl, rfl, rfl⟩
  | readConfig totpSecret | writeConfig totpSecret content =>
    simp only [Server.runTask] at ran
    split at ran <;> cases ran <;> exact ⟨rfl, rfl, rfl, rfl, rfl, rfl, rfl⟩
  | streamSession request token | storeTotp totpSecret | clearPending =>
    cases ran
    exact ⟨rfl, rfl, rfl, rfl, rfl, rfl, rfl⟩

/-- The server after one of its tasks ran. -/
def resumed (after : Server) (creds : ApiCredentials) (tasks : List Task) (index : Nat)
    (rest : List Task) : Server :=
  { after with process := some ⟨creds, tasks.eraseIdx index ++ rest⟩ }

theorem resumed_tasks (after : Server) (creds : ApiCredentials) (tasks : List Task) (index : Nat)
    (rest : List Task) :
    (resumed after creds tasks index rest).tasks = tasks.eraseIdx index ++ rest := rfl

/-- What is said of the others, when one task runs. -/
theorem filterMap_perm {tasks : List Task} (said : Task → Option (String × Nat))
    (isAt : tasks[index]? = some task) :
    (tasks.filterMap said).Perm
      ((said task).toList ++ (tasks.eraseIdx index).filterMap said) := by
  obtain ⟨inside, rfl⟩ := List.getElem?_eq_some_iff.mp isAt
  have split := (List.getElem_cons_eraseIdx_perm inside).symm.filterMap said
  rw [List.filterMap_cons] at split
  cases entry : said tasks[index] with
  | none => simpa [entry] using split
  | some pair => simpa [entry] using split

theorem mem_eraseIdx_of_ne {tasks : List Task} (isAt : tasks[index]? = some task)
    (member : other ∈ tasks) (differs : other ≠ task) : other ∈ tasks.eraseIdx index := by
  obtain ⟨inside, rfl⟩ := List.getElem?_eq_some_iff.mp isAt
  have split := (List.getElem_cons_eraseIdx_perm inside).mem_iff.mpr member
  exact (List.mem_cons.mp split).resolve_left differs

section Resume

variable {process : Process} {server : Server} {pairs : List (String × Nat)}

/-- What a task hands out in its answer or is to hand out, beside what it was to hand
out already, is added. -/
theorem handedOut_resumed {creds : ApiCredentials} (added : List (String × Nat))
    (running : server.process = some process) (isAt : process.tasks[index]? = some task)
    (balance : (after.log.filterMap LogEntry.session ++ rest.filterMap Task.handing).Perm
      (added ++ (task.handing.toList ++ server.log.filterMap LogEntry.session))) :
    (resumed after creds process.tasks index rest).handedOut.Perm (added ++ server.handedOut) := by
  refine List.perm_iff_count.mpr fun pair => ?_
  have split := (filterMap_perm Task.handing isAt).count_eq pair
  have balance := balance.count_eq pair
  change List.count pair (after.log.filterMap LogEntry.session ++
    (resumed after creds process.tasks index rest).tasks.filterMap Task.handing) = _
  rw [resumed_tasks, Server.handedOut, Server.tasks_running running]
  simp only [List.filterMap_append, List.count_append] at split balance ⊢
  omega

theorem stored_of_frame (stored : Stored crypto configured ⟨server, pairs⟩)
    (running : server.process = some process) (isAt : process.tasks[index]? = some task)
    (other : task.creates = false)
    (ran : Server.runTask crypto server process.creds supply task = some (after, creds, rest))
    (sound : Sound crypto configured (resumed after creds process.tasks index rest)) :
    Stored crypto configured ⟨resumed after creds process.tasks index rest, pairs⟩ := by
  obtain ⟨issued, file, now, same, quiet⟩ := runTask_frame task other ran
  refine stored.frame sound issued file (Nat.le_of_eq now.symm) ?_ ?_ ?_ ?_
  · change ((resumed after creds process.tasks index rest).tasks.filterMap Task.entering).Sublist
      (server.tasks.filterMap Task.entering)
    rw [resumed_tasks, Server.tasks_running running, List.filterMap_append, quiet.enters,
      List.append_nil]
    exact (List.eraseIdx_sublist _ _).filterMap _
  · intro token expiresAt member
    rw [Server.tasks_running running] at member
    refine List.mem_append_left _ (mem_eraseIdx_of_ne isAt member ?_)
    rintro rfl
    cases other
  · rintro _ ⟨⟩
    exact ⟨process, running, same⟩
  · have hands : task.handing = none := by cases task <;> first | rfl | cases other
    refine handedOut_resumed [] running isAt (.of_eq ?_)
    rw [hands, quiet.answers, quiet.hands, List.append_nil]
    rfl

/-- A creation draws a token that no other one has. -/
theorem stored_of_create (stored : Stored crypto configured ⟨server, pairs⟩)
    (running : server.process = some process)
    (isAt : process.tasks[index]? = some (.createSession login))
    (distinct : token ∉ pairs.map Prod.fst)
    (sound : Sound crypto configured (resumed server process.creds process.tasks index
      [.insertSession login token (server.now + SESSION_DURATION_MS)])) :
    Stored crypto configured ⟨resumed server process.creds process.tasks index
      [.insertSession login token (server.now + SESSION_DURATION_MS)],
        (token, server.now) :: pairs⟩ := by
  have older (other : String) (expiresAt : Nat) (dated : Dated pairs other expiresAt) :
      Dated ((token, server.now) :: pairs) other expiresAt := by
    obtain ⟨issuedAt, member, expires⟩ := dated
    exact ⟨issuedAt, List.mem_cons_of_mem _ member, expires⟩
  have before : server.entering.Perm ((process.tasks.eraseIdx index).filterMap Task.entering) := by
    have split := filterMap_perm Task.entering isAt
    rw [Server.entering, Server.tasks_running running]
    exact split
  have entering : (resumed server process.creds process.tasks index
      [.insertSession login token (server.now + SESSION_DURATION_MS)]).entering =
        (process.tasks.eraseIdx index).filterMap Task.entering ++
          [(token, server.now + SESSION_DURATION_MS)] := by
    rw [Server.entering, resumed_tasks, List.filterMap_append]
    rfl
  refine ⟨sound, ?_, fun issue member => older _ _ (stored.issued issue member), ?_, ?_, ?_, ?_, ?_⟩
  · exact List.nodup_cons.mpr ⟨distinct, stored.once⟩
  · intro pair member
    rw [entering] at member
    rcases List.mem_append.mp member with old | new
    · exact older _ _ (stored.entering pair (before.mem_iff.mpr old))
    · rw [List.mem_singleton.mp new]
      exact ⟨server.now, List.mem_cons_self, rfl⟩
  · -- The token is new, so it is neither entering nor entered.
    have absent : token ∉ server.entering.map Prod.fst ++ server.issued.map Issue.token := by
      intro member
      rcases List.mem_append.mp member with enters | entered
      · obtain ⟨pair, inTasks, rfl⟩ := List.mem_map.mp enters
        obtain ⟨issuedAt, isDrawn, _⟩ := stored.entering pair inTasks
        exact distinct (List.mem_map.mpr ⟨_, isDrawn, rfl⟩)
      · obtain ⟨issue, issued, rfl⟩ := List.mem_map.mp entered
        obtain ⟨issuedAt, isDrawn, _⟩ := stored.issued issue issued
        exact distinct (List.mem_map.mpr ⟨_, isDrawn, rfl⟩)
    have whole := List.nodup_cons.mpr ⟨absent, stored.fresh⟩
    refine (List.Perm.nodup_iff ?_).mp whole
    change (token :: (server.entering.map Prod.fst ++ server.issued.map Issue.token)).Perm
      ((resumed server process.creds process.tasks index _).entering.map Prod.fst ++
        server.issued.map Issue.token)
    rw [entering, List.map_append, ← List.cons_append]
    refine List.Perm.append_right _ ?_
    exact ((before.map Prod.fst).cons token).trans (List.perm_append_singleton _ _).symm
  · rintro _ ⟨⟩
    exact stored.held process running
  · intro issue member good
    refine (stored.backed issue member good).imp_right fun waiting => ?_
    rw [Server.tasks_running running] at waiting
    exact List.mem_append_left _ (mem_eraseIdx_of_ne isAt waiting (by simp))
  · refine List.Perm.trans (handedOut_resumed [] running isAt ?_) stored.handed
    exact .of_eq (List.append_nil _)

/-- A session is entered: the expired ones go, the good ones stay, and its
write is still to come. -/
theorem stored_of_insert (stored : Stored crypto configured ⟨server, pairs⟩)
    (running : server.process = some process)
    (isAt : process.tasks[index]? = some (.insertSession login token expiresAt))
    (ran : Server.runTask crypto server process.creds supply (.insertSession login token expiresAt) =
      some (after, creds, rest))
    (sound : Sound crypto configured (resumed after creds process.tasks index rest)) :
    Stored crypto configured ⟨resumed after creds process.tasks index rest, pairs⟩ := by
  cases ran
  have before : server.entering.Perm
      ((token, expiresAt) :: (process.tasks.eraseIdx index).filterMap Task.entering) := by
    have split := filterMap_perm Task.entering isAt
    rw [Server.entering, Server.tasks_running running]
    exact split
  have fresh := (List.Perm.nodup_iff
    ((before.map Prod.fst).append_right (server.issued.map Issue.token))).mp stored.fresh
  rw [List.map_cons, List.cons_append] at fresh
  obtain ⟨absent, others⟩ := List.nodup_cons.mp fresh
  have entering {after : Server} {creds : ApiCredentials} :
      (resumed after creds process.tasks index [.persistSessions token expiresAt]).entering =
        (process.tasks.eraseIdx index).filterMap Task.entering := by
    rw [Server.entering, resumed_tasks, List.filterMap_append]
    exact List.append_nil _
  refine ⟨sound, stored.once, ?_, ?_, ?_, ?_, ?_, ?_⟩
  · intro issue member
    rcases List.mem_cons.mp member with rfl | old
    · exact stored.entering (token, expiresAt) (before.mem_iff.mpr List.mem_cons_self)
    · exact stored.issued issue old
  · intro pair member
    rw [entering] at member
    exact stored.entering pair (before.mem_iff.mpr (List.mem_cons_of_mem _ member))
  · rw [entering]
    exact (List.Perm.nodup_iff List.perm_middle.symm).mp fresh
  · rintro _ ⟨⟩ issue member good
    change ((process.creds.sessions.retain _).set token expiresAt).get issue.token = _
    rw [OrderedMap.get_set]
    rcases List.mem_cons.mp member with rfl | old
    · exact if_pos rfl
    · have differs : issue.token ≠ token := by
        rintro rfl
        exact absent (List.mem_append_right _ (List.mem_map_of_mem old))
      have found := stored.held process running issue old good
      rw [if_neg differs, OrderedMap.get_retain, found, Option.filter_eq_some_iff]
      exact ⟨rfl, decide_eq_true good⟩
  · intro issue member good
    rcases List.mem_cons.mp member with rfl | old
    · exact .inr (List.mem_append_right _ List.mem_cons_self)
    · refine (stored.backed issue old good).imp_right fun waiting => ?_
      rw [Server.tasks_running running] at waiting
      exact List.mem_append_left _ (mem_eraseIdx_of_ne isAt waiting (by simp))
  · refine List.Perm.trans (handedOut_resumed [(token, expiresAt)] running isAt ?_)
      (stored.handed.cons _)
    exact List.perm_append_comm

/-- A write brings every session that is still good into the file. -/
theorem stored_of_persist (stored : Stored crypto configured ⟨server, pairs⟩)
    (running : server.process = some process)
    (isAt : process.tasks[index]? = some (.persistSessions token expiresAt))
    (written : supply.write = .written)
    (ran : Server.runTask crypto server process.creds supply (.persistSessions token expiresAt) =
      some (after, creds, rest))
    (sound : Sound crypto configured (resumed after creds process.tasks index rest)) :
    Stored crypto configured ⟨resumed after creds process.tasks index rest, pairs⟩ := by
  cases ran
  have fewer : ((process.tasks.eraseIdx index ++ []).filterMap Task.entering).Sublist
      server.entering := by
    rw [List.append_nil, Server.entering, Server.tasks_running running]
    exact (List.eraseIdx_sublist _ _).filterMap _
  refine ⟨sound, stored.once, stored.issued, ?_, ?_, ?_, ?_, ?_⟩
  · exact fun pair member => stored.entering pair (fewer.subset member)
  · exact stored.fresh.sublist ((fewer.map _).append_right _)
  · rintro _ ⟨⟩
    exact stored.held process running
  · intro issue member good
    refine .inl ⟨process.creds.sessions, ?_, stored.held process running issue member good⟩
    change supply.write.apply process.creds.sessions server.sessionsFile = _
    rw [written]
    rfl
  · refine List.Perm.trans (handedOut_resumed [] running isAt ?_) stored.handed
    exact .of_eq (List.append_nil _)

end Resume

/-- What a start loads: nothing waits to be written, so the file has all that is still
good. -/
theorem Stored.boots {server : Server} {creds : ApiCredentials}
    (stored : Stored crypto configured ⟨server, pairs⟩) (stopped : server.process = none)
    (loaded : creds.sessions = server.loadSessionsFromFile)
    (sound : Sound crypto configured { server with process := some ⟨creds, []⟩ }) :
    Stored crypto configured ⟨{ server with process := some ⟨creds, []⟩ }, pairs⟩ := by
  have idle : server.tasks = [] := by simp [Server.tasks, stopped]
  have inFile (issue : Issue) (member : issue ∈ server.issued)
      (good : server.now < issue.expiresAt) : ∃ sessions, server.sessionsFile = some sessions ∧
        sessions.get issue.token = some issue.expiresAt := by
    refine (stored.backed issue member good).resolve_right fun waiting => ?_
    rw [idle] at waiting
    cases waiting
  refine ⟨sound, stored.once, stored.issued, fun _ member => absurd member List.not_mem_nil,
    (List.nodup_append.mp stored.fresh).2.1, ?_, fun issue member good =>
    .inl (inFile issue member good), ?_⟩
  rotate_left
  · have same := stored.handed
    rw [Server.handedOut, idle] at same
    exact same
  rintro _ ⟨⟩ issue member good
  obtain ⟨sessions, file, found⟩ := inFile issue member good
  rw [loaded, Server.loadSessionsFromFile, file, OrderedMap.get_retain, found,
    Option.filter_eq_some_iff]
  exact ⟨rfl, decide_eq_true good⟩

/-- One step keeps the sessions where they have to be. -/
theorem step_keeps_stored (observed : Observed) (event : Event) (next : Observed)
    (stored : Stored crypto configured observed) (taken : step crypto observed event = some next)
    (orderly : Orderly observed event next) : Stored crypto configured next := by
  obtain ⟨server, pairs⟩ := observed
  obtain ⟨after, stepped, rfl⟩ := Option.map_eq_some_iff.mp taken
  have sound := step_keeps_sound server event after stored.sound stepped
  cases event with
  | boot =>
    simp only [Server.step] at stepped
    split at stepped
    · rename_i content stopped _
      simp only [Option.ite_none_left_eq_some, Option.some.injEq] at stepped
      obtain ⟨_, rfl⟩ := stepped
      exact stored.boots stopped rfl sound
    · cases stepped
  | kill =>
    obtain ⟨process, running, rfl⟩ := Option.map_eq_some_iff.mp stepped
    have idle := orderly.restart rfl
    refine ⟨sound, stored.once, stored.issued, fun _ member => absurd member List.not_mem_nil,
      (List.nodup_append.mp stored.fresh).2.1, by rintro _ ⟨⟩, fun issue member good => ?_, ?_⟩
    · refine (stored.backed issue member good).imp_right fun waiting => ?_
      exact absurd ⟨_, waiting, rfl⟩ idle
    · have none : server.tasks.filterMap Task.handing = [] := by
        refine List.filterMap_eq_nil_iff.mpr fun task member => ?_
        cases task <;> first | rfl | exact absurd ⟨_, member, rfl⟩ idle
      have same := stored.handed
      rw [Server.handedOut, none] at same
      exact same
  | clock now =>
    cases stepped
    exact stored.frame sound rfl rfl (orderly.clock now rfl) (List.Sublist.refl _)
      (fun _ _ member => member) (fun process running => ⟨process, running, rfl⟩) (.refl _)
  | request request =>
    obtain ⟨process, running, rfl⟩ := Option.map_eq_some_iff.mp stepped
    have received := receive_sound crypto server
      (stored.sound.process process running).credentials request
    exact stored_of_begun stored running received.1 (receive_quiet _ _ _) sound
  | streamMessage request credentials =>
    obtain ⟨process, running, rfl⟩ := Option.map_eq_some_iff.mp stepped
    have received := authenticate_sound crypto configured server process.creds request credentials
    exact stored_of_begun stored running received.1 (authenticate_quiet _ _ _ _) sound
  | resume index supply =>
    obtain ⟨process, running, stepped⟩ := Option.bind_eq_some_iff.mp stepped
    obtain ⟨task, isAt, stepped⟩ := Option.bind_eq_some_iff.mp stepped
    obtain ⟨⟨after, creds, rest⟩, ran, rfl⟩ := Option.map_eq_some_iff.mp stepped
    have atIndex : server.tasks[index]? = some task := by
      rw [Server.tasks_running running]
      exact isAt
    have distinct := orderly.distinct
    cases task with
    | createSession login =>
      have draws : drawn server (.resume index supply) =
          [(hexEncode supply.random, server.now)] := by
        simp only [drawn, atIndex]
      simp only [draws] at distinct ⊢
      simp only [Server.runTask, Option.ite_none_right_eq_some] at ran
      cases ran.2
      exact stored_of_create stored running isAt (distinct _ List.mem_cons_self) sound
    | insertSession login token expiresAt =>
      simp only [drawn, atIndex]
      exact stored_of_insert stored running isAt ran sound
    | persistSessions token expiresAt =>
      simp only [drawn, atIndex]
      exact stored_of_persist stored running isAt
        (orderly.written index supply token expiresAt rfl atIndex) ran sound
    | session | fallback | streamSession | readTotp | setupTotp | readPending | readConfig
    | writeConfig | storeTotp | clearPending =>
      simp only [drawn, atIndex]
      exact stored_of_frame stored running isAt rfl ran sound

theorem start_stored (configFile : Option Config) (now : Nat) :
    Stored crypto (configFile.bind Config.credentials) (start configFile now) where
  sound := start_sound configFile now
  once := List.nodup_nil
  issued := nofun
  entering := nofun
  fresh := List.nodup_nil
  held := nofun
  backed := nofun
  handed := .nil

/-- In every run of logins, requests and restarts a token is accepted exactly
for its lifetime, and while no creation is in flight the file has every session
that is still good. -/
theorem sessions_kept (crypto : Crypto) (configFile : Option Config) (now : Nat)
    (events : List Event) (orderly : Along (step crypto) Orderly (start configFile now) events) :
    Along (step crypto) (fun _ _ after => SessionsKept after) (start configFile now) events :=
  along_imp (Stored crypto (configFile.bind Config.credentials))
    (fun observed event next stored taken orderly =>
      (step_keeps_stored observed event next stored taken orderly).kept)
    step_keeps_stored (start_stored configFile now) orderly

section LoginAndRestart

/-- No password is configured, so nothing is asked of the libraries. -/
private def idleCrypto : Crypto where
  sha256 _ := []
  base32Encode _ := ""
  base32Decode _ := none
  totpNew _ := none

private def loginSupply : Supply := ⟨List.replicate 32 0xa5, true, .written⟩

/-- A login, its three stages, and a restart a while later. -/
private def loginAndRestart : List Event :=
  [.boot, .request ⟨.post, "/api/auth/login", none, .login ⟨"", none⟩⟩, .resume 0 loginSupply,
    .resume 0 loginSupply, .resume 0 loginSupply, .clock 5, .kill, .boot]

/-- The server of that run with its tasks and sessions. -/
private def serving (server : Server) (sessions : Sessions) (tasks : List Task) : Server :=
  { server with process := some ⟨⟨none, none, sessions, none⟩, tasks⟩ }

private def started : Server := .start (some ⟨none, none⟩) 0

private def login : Login := ⟨⟨"", none⟩, none, 0⟩

private def token : String := hexEncode loginSupply.random

private def entered : Server := { started with issued := [⟨token, SESSION_DURATION_MS, login⟩] }

private def session : Sessions := OrderedMap.empty.set token SESSION_DURATION_MS

private def written : Server :=
  { entered with sessionsFile := some session, log := [.replied (.session token SESSION_DURATION_MS)] }

private theorem login_orderly :
    Along (step idleCrypto) Orderly (start (some ⟨none, none⟩) 0) loginAndRestart := by
  have boots : step idleCrypto (start (some ⟨none, none⟩) 0) .boot =
      some ⟨serving started .empty [], []⟩ := rfl
  have asks : step idleCrypto ⟨serving started .empty [], []⟩
      (.request ⟨.post, "/api/auth/login", none, .login ⟨"", none⟩⟩) =
        some ⟨serving started .empty [.createSession login], []⟩ := rfl
  have draws : step idleCrypto ⟨serving started .empty [.createSession login], []⟩
      (.resume 0 loginSupply) = some ⟨serving started .empty
        [.insertSession login token SESSION_DURATION_MS], [(token, 0)]⟩ := rfl
  have enters : step idleCrypto ⟨serving started .empty
      [.insertSession login token SESSION_DURATION_MS], [(token, 0)]⟩ (.resume 0 loginSupply) =
        some ⟨serving entered session [.persistSessions token SESSION_DURATION_MS],
          [(token, 0)]⟩ := rfl
  have writes : step idleCrypto ⟨serving entered session
      [.persistSessions token SESSION_DURATION_MS], [(token, 0)]⟩ (.resume 0 loginSupply) =
        some ⟨serving written session [], [(token, 0)]⟩ := rfl
  refine along_cons boots ⟨nofun, nofun, nofun, nofun⟩ ?_
  refine along_cons asks ⟨nofun, nofun, nofun, nofun⟩ ?_
  refine along_cons draws ⟨nofun, nofun, by rintro _ _ _ _ ⟨⟩ ⟨⟩, fun _ _ => List.not_mem_nil⟩ ?_
  refine along_cons enters ⟨nofun, nofun, by rintro _ _ _ _ ⟨⟩ ⟨⟩, nofun⟩ ?_
  refine along_cons writes ⟨nofun, nofun, by rintro _ _ _ _ ⟨⟩ _; rfl, nofun⟩ ?_
  refine along_cons rfl ⟨by rintro _ ⟨⟩; decide, nofun, nofun, nofun⟩ ?_
  refine along_cons rfl ⟨nofun, fun _ ⟨_, member, _⟩ => (List.not_mem_nil member).elim, nofun,
    nofun⟩ ?_
  exact along_cons rfl ⟨nofun, nofun, nofun, nofun⟩ trivial

/-- The session that the login handed out is accepted after the restart. -/
theorem session_survives_restart :
    ∃ final process, run (step idleCrypto) (start (some ⟨none, none⟩) 0) loginAndRestart =
      some final ∧ final.server.process = some process ∧
        .replied (.session token SESSION_DURATION_MS) ∈ final.server.log ∧
        process.creds.validateSession token final.server.now = true := by
  have kept := sessions_kept idleCrypto (some ⟨none, none⟩) 0 loginAndRestart login_orderly
  have ended : (run (step idleCrypto) (start (some ⟨none, none⟩) 0) loginAndRestart).map
      (fun final => (final.server.now, final.created, final.server.log,
        final.server.process.isSome)) =
      some (5, [(token, 0)], [.replied (.session token SESSION_DURATION_MS)], true) := by
    decide +kernel
  obtain ⟨final, ran, fields⟩ := Option.map_eq_some_iff.mp ended
  simp only [Prod.mk.injEq] at fields
  obtain ⟨now, created, log, isRunning⟩ := fields
  obtain ⟨process, running⟩ := Option.isSome_iff_exists.mp isRunning
  have replied : .replied (.session token SESSION_DURATION_MS) ∈ final.server.log := by simp [log]
  refine ⟨final, process, ran, running, replied, ?_⟩
  have initially : SessionsKept (start (some ⟨none, none⟩) 0) :=
    Stored.kept (start_stored (some ⟨none, none⟩) 0 : Stored idleCrypto none _)
  refine ((along_final kept initially ran).accepted process running token).mpr ⟨0, ⟨?_, ?_⟩, ?_⟩
  · simp [created]
  · exact List.mem_append_left _ (List.mem_filterMap.mpr ⟨_, replied, rfl⟩)
  · rw [now]
    decide

end LoginAndRestart

end Observed

end MoonlightWeb.WebServer

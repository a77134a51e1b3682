import MoonlightWeb.WebServer.Auth

/-! The second factor in memory and on disk. A handler that turns it on or off
reads the config file, writes it, and then assigns the secret in memory, each
after an await of its own and under no lock. Two that overlap may write in one
order and assign in the other, and the server then runs with a second factor
that is gone at its next start, or without one that comes back. -/
namespace MoonlightWeb.WebServer
open MoonlightWeb.Machine

variable {crypto : Crypto}

/-- The task is on its way from reading the config file to its assignment. -/
def Task.Storing : Task → Prop
  | .readConfig _ | .writeConfig .. | .storeTotp _ => True
  | .session .. | .fallback .. | .streamSession .. | .readTotp _ | .createSession _
  | .insertSession .. | .persistSessions .. | .setupTotp | .readPending _ | .clearPending => False

/-- The task is a handler of the second factor. -/
def Task.OfTotp : Task → Prop
  | .setupTotp | .readPending _ | .readConfig _ | .writeConfig .. | .storeTotp _
  | .clearPending => True
  | .session .. | .fallback .. | .streamSession .. | .readTotp _ | .createSession _
  | .insertSession .. | .persistSessions .. => False

instance : DecidablePred Task.Storing
  | .readConfig _ | .writeConfig .. | .storeTotp _ => isTrue trivial
  | .session .. | .fallback .. | .streamSession .. | .readTotp _ | .createSession _
  | .insertSession .. | .persistSessions .. | .setupTotp | .readPending _ | .clearPending =>
    isFalse id

/-- The task's next step writes the config file. -/
def Task.writes : Task → Bool
  | .writeConfig .. => true
  | _ => false

/-- The task's next step assigns the secret. -/
def Task.assigns : Task → Bool
  | .storeTotp _ => true
  | _ => false

/-- Every file operation of the event succeeds. -/
def Event.Succeeds : Event → Prop
  | .resume _ supply => supply.readable = true ∧ supply.write = .written
  | .boot | .kill | .clock _ | .request _ | .streamMessage .. => True

instance : DecidablePred Event.Succeeds
  | .resume _ supply =>
    inferInstanceAs (Decidable (supply.readable = true ∧ supply.write = .written))
  | .boot | .kill | .clock _ | .request _ | .streamMessage .. => isTrue trivial

/-- The secret in memory is the one in the config file. -/
def SecretsAgree (server : Server) : Prop :=
  ∀ process, server.process = some process →
    server.configFile.map Config.totpSecret = some process.creds.totpSecret

/-- No task of a kind is in flight. -/
def Idle (kind : Task → Prop) (server : Server) : Prop :=
  ∀ process, server.process = some process → ∀ task ∈ process.tasks, ¬kind task

/-- An observer marks the task of the handler that wrote the config file last.
Every handler is one task at a time. -/
def noteWriter (wroteLast : List Bool) (before : Server) (event : Event) (after : Server) :
    List Bool :=
  match event with
  | .boot | .kill => []
  | .clock _ => wroteLast
  | .request _ | .streamMessage .. =>
    wroteLast ++ List.replicate (after.tasks.length - wroteLast.length) false
  | .resume index _ =>
    let others := wroteLast.eraseIdx index
    let left := after.tasks.length - others.length
    if before.tasks[index]?.any Task.writes then
      List.replicate others.length false ++ List.replicate left true
    else others ++ List.replicate left (wroteLast[index]?.getD false)

/-- The server under an observer of the writes. -/
abbrev watchedStep (crypto : Crypto) :
    Server × List Bool → Event → Option (Server × List Bool) :=
  watching (Server.step crypto) noteWriter

/-- A handler that assigns its secret while no other one is storing has written
the config file last. -/
def LastToWrite (before : Server × List Bool) : Event → Prop
  | .resume index _ =>
    before.1.tasks[index]?.any Task.assigns →
      (∀ task ∈ before.1.tasks.eraseIdx index, ¬task.Storing) → before.2[index]? = some true
  | .boot | .kill | .clock _ | .request _ | .streamMessage .. => True

instance (before : Server × List Bool) : DecidablePred (LastToWrite before)
  | .resume index _ => inferInstanceAs (Decidable (before.1.tasks[index]?.any Task.assigns →
      (∀ task ∈ before.1.tasks.eraseIdx index, ¬task.Storing) → before.2[index]? = some true))
  | .boot | .kill | .clock _ | .request _ | .streamMessage .. => isTrue trivial

/-- A handler that assigns its secret while no other one is storing assigns what
the config file holds. -/
def AssignsWritten (server : Server) (event : Event) : Prop :=
  ∀ process index supply totpSecret, event = .resume index supply →
    server.process = some process → process.tasks[index]? = some (.storeTotp totpSecret) →
    (∀ task ∈ process.tasks.eraseIdx index, ¬task.Storing) →
      server.configFile.map Config.totpSecret = some totpSecret

/-- The secrets agree unless a handler is on its way to assign one. -/
structure Settling (server : Server) : Prop where
  config : server.configFile.isSome
  agree : ∀ process, server.process = some process →
    server.configFile.map Config.totpSecret = some process.creds.totpSecret ∨
      ∃ task ∈ process.tasks, task.Storing

/-- What a task may do to the two secrets while its file operations succeed. -/
inductive Stores (server : Server) (creds : ApiCredentials) (task : Task) (after : Server)
    (creds' : ApiCredentials) (rest : List Task) : Prop where
  | none (idle : ¬task.Storing) (config : after.configFile = server.configFile)
    (secret : creds'.totpSecret = creds.totpSecret) (fresh : ∀ next ∈ rest, next.assigns = false)
  | reads (totpSecret : Option String) (content : Config) (isRead : task = .readConfig totpSecret)
    (config : after.configFile = server.configFile)
    (isRest : rest = [.writeConfig totpSecret content])
  | writes (totpSecret : Option String) (content : Config)
    (isWrite : task = .writeConfig totpSecret content)
    (config : after.configFile = some { content with totpSecret })
    (isRest : rest = [.storeTotp totpSecret])
  | assigns (totpSecret : Option String) (isStore : task = .storeTotp totpSecret)
    (config : after.configFile = server.configFile) (secret : creds'.totpSecret = totpSecret)
    (isRest : rest = [.clearPending])

theorem handle_fresh (endpoint : Endpoint) :
    ∀ next ∈ Server.handle endpoint, next.assigns = false := by
  cases endpoint <;> simp [Server.handle, Task.assigns]

theorem runTask_stores {server : Server} {creds : ApiCredentials}
    (config : server.configFile.isSome) (readable : supply.readable = true)
    (written : supply.write = .written) (task : Task)
    (ran : Server.runTask crypto server creds supply task = some (after, creds', rest)) :
    Stores server creds task after creds' rest := by
  cases task with
  | session endpoint token | fallback endpoint token =>
    simp only [Server.runTask] at ran
    split at ran <;> cases ran
    · exact .none id rfl rfl (handle_fresh endpoint)
    · exact .none id rfl rfl (by simp [Task.assigns])
  | readPending code | readTotp body =>
    simp only [Server.runTask] at ran
    repeat' split at ran
    all_goals cases ran; exact .none id rfl rfl (by simp [Task.assigns])
  | createSession login | setupTotp =>
    simp only [Server.runTask, Option.ite_none_right_eq_some] at ran
    cases ran.2
    exact .none id rfl rfl (by simp [Task.assigns])
  | streamSession request token | insertSession login token expiresAt
  | persistSessions token expiresAt | clearPending =>
    cases ran
    exact .none id rfl rfl (by simp [Task.assigns])
  | readConfig totpSecret =>
    obtain ⟨content, held⟩ := Option.isSome_iff_exists.mp config
    simp only [Server.runTask, held, readable] at ran
    cases ran
    exact .reads totpSecret content rfl rfl rfl
  | writeConfig totpSecret content =>
    simp only [Server.runTask, written, FileWrite.apply] at ran
    cases ran
    exact .writes totpSecret content rfl rfl rfl
  | storeTotp totpSecret =>
    cases ran
    exact .assigns totpSecret rfl rfl rfl rfl

/-- A task that resumes is replaced; the others stay. -/
private theorem mem_resumed {tasks rest : List Task} {index : Nat} {storing : Task}
    (atIndex : tasks[index]? = some task) (member : storing ∈ tasks) (other : storing ≠ task) :
    storing ∈ tasks.eraseIdx index ++ rest := by
  apply List.mem_append_left
  obtain ⟨position, held⟩ := List.mem_iff_getElem?.mp member
  rw [List.mem_eraseIdx_iff_getElem?]
  refine ⟨position, ?_, held⟩
  rintro rfl
  rw [atIndex] at held
  cases held
  exact other rfl

theorem receive_stores (crypto : Crypto) (server : Server) (creds : ApiCredentials) (request : Request) :
    (Server.receive crypto server creds request).1.configFile = server.configFile ∧
      ∀ task ∈ (Server.receive crypto server creds request).2, task.assigns = false := by
  unfold Server.receive
  repeat' split
  all_goals first
    | exact ⟨rfl, handle_fresh _⟩
    | exact ⟨rfl, by simp [Task.assigns]⟩

theorem authenticate_stores (crypto : Crypto) (server : Server) (creds : ApiCredentials)
    (request : StreamRequest) (credentials : Option String) :
    (Server.authenticate crypto server creds request credentials).1.configFile =
        server.configFile ∧
      ∀ task ∈ (Server.authenticate crypto server creds request credentials).2,
        task.assigns = false := by
  unfold Server.authenticate
  repeat' split
  all_goals exact ⟨rfl, by simp [Task.assigns]⟩

/-- New tasks change no secret. -/
private theorem settling_begun {begun : List Task} (settling : Settling server)
    (running : server.process = some process) (config : after.configFile = server.configFile)
    (isProcess : after.process = some { process with tasks := process.tasks ++ begun }) :
    Settling after := by
  refine ⟨by rw [config]; exact settling.config, fun other isOther => ?_⟩
  rw [isProcess] at isOther
  cases isOther
  rw [config]
  obtain agree | ⟨task, member, storing⟩ := settling.agree process running
  · exact .inl agree
  · exact .inr ⟨task, List.mem_append_left _ member, storing⟩

theorem step_keeps_settling (server : Server) (event : Event) (next : Server)
    (settling : Settling server) (taken : Server.step crypto server event = some next)
    (orderly : event.Succeeds ∧ AssignsWritten server event) : Settling next := by
  cases event with
  | boot =>
    simp only [Server.step] at taken
    split at taken
    · rename_i content _ readConfig
      simp only [Option.ite_none_left_eq_some, Option.some.injEq] at taken
      obtain ⟨_, rfl⟩ := taken
      refine ⟨settling.config, fun process isProcess => .inl ?_⟩
      cases isProcess
      rw [readConfig]
      rfl
    · cases taken
  | kill =>
    obtain ⟨process, _, rfl⟩ := Option.map_eq_some_iff.mp taken
    exact ⟨settling.config, by simp⟩
  | clock now =>
    cases taken
    exact ⟨settling.config, settling.agree⟩
  | request request =>
    obtain ⟨process, running, rfl⟩ := Option.map_eq_some_iff.mp taken
    exact settling_begun settling running (receive_stores _ _ _ _).1 rfl
  | streamMessage request credentials =>
    obtain ⟨process, running, rfl⟩ := Option.map_eq_some_iff.mp taken
    exact settling_begun settling running (authenticate_stores _ _ _ _ _).1 rfl
  | resume index supply =>
    obtain ⟨process, running, taken⟩ := Option.bind_eq_some_iff.mp taken
    obtain ⟨task, atIndex, taken⟩ := Option.bind_eq_some_iff.mp taken
    obtain ⟨⟨after, creds, rest⟩, ran, rfl⟩ := Option.map_eq_some_iff.mp taken
    obtain ⟨⟨readable, written⟩, assigns⟩ := orderly
    cases runTask_stores settling.config readable written task ran with
    | none idle config secret fresh =>
      refine ⟨by rw [config]; exact settling.config, fun other isOther => ?_⟩
      cases isOther
      rw [config, secret]
      obtain agree | ⟨storing, member, stores⟩ := settling.agree process running
      · exact .inl agree
      · have other : storing ≠ task := by
          rintro rfl
          exact idle stores
        exact .inr ⟨storing, mem_resumed atIndex member other, stores⟩
    | reads totpSecret content isRead config isRest =>
      refine ⟨by rw [config]; exact settling.config, fun other isOther => .inr ?_⟩
      cases isOther
      exact ⟨.writeConfig totpSecret content, by simp [isRest], trivial⟩
    | writes totpSecret content isWrite config isRest =>
      refine ⟨by rw [config]; rfl, fun other isOther => .inr ?_⟩
      cases isOther
      exact ⟨.storeTotp totpSecret, by simp [isRest], trivial⟩
    | assigns totpSecret isStore config secret isRest =>
      refine ⟨by rw [config]; exact settling.config, fun other isOther => ?_⟩
      cases isOther
      rw [config, secret]
      by_cases alone : ∀ task ∈ process.tasks.eraseIdx index, ¬task.Storing
      · subst isStore
        exact .inl (assigns process index supply totpSecret rfl running atIndex alone)
      · push Not at alone
        obtain ⟨storing, member, stores⟩ := alone
        exact .inr ⟨storing, List.mem_append_left _ member, stores⟩

/-- The observer has one mark for each task, and what a marked handler is to
assign is in the config file. -/
structure Marked (tasks : List Task) (configFile : Option Config) (wroteLast : List Bool) :
    Prop where
  length : wroteLast.length = tasks.length
  written : ∀ (index : Nat) (totpSecret : Option String),
    tasks[index]? = some (.storeTotp totpSecret) → wroteLast[index]? = some true →
      configFile.map Config.totpSecret = some totpSecret

namespace Marked

variable {tasks begun : List Task} {configFile : Option Config} {wroteLast marks : List Bool}

theorem assigns_written {server : Server} (marked : Marked server.tasks server.configFile wroteLast)
    (last : LastToWrite (server, wroteLast) event) : AssignsWritten server event := by
  rintro process index supply totpSecret rfl running atIndex alone
  rw [← Server.tasks_running running] at atIndex alone
  refine marked.written index totpSecret atIndex (last ?_ alone)
  rw [atIndex]
  rfl

/-- Tasks that assign nothing may begin, with any marks. -/
theorem begin (marked : Marked tasks configFile wroteLast) (many : marks.length = begun.length)
    (fresh : ∀ task ∈ begun, task.assigns = false) :
    Marked (tasks ++ begun) configFile (wroteLast ++ marks) := by
  refine ⟨by simp [marked.length, many], fun index totpSecret atIndex isMarked => ?_⟩
  by_cases old : index < tasks.length
  · rw [List.getElem?_append_left old] at atIndex
    rw [List.getElem?_append_left (marked.length ▸ old)] at isMarked
    exact marked.written index totpSecret atIndex isMarked
  · rw [List.getElem?_append_right (Nat.le_of_not_lt old)] at atIndex
    cases fresh _ (List.mem_of_getElem? atIndex)

/-- A task that ends takes its mark with it. -/
theorem erase (marked : Marked tasks configFile wroteLast) (index : Nat) :
    Marked (tasks.eraseIdx index) configFile (wroteLast.eraseIdx index) := by
  refine ⟨by simp [List.length_eraseIdx, marked.length], fun place totpSecret atPlace isMarked => ?_⟩
  rw [List.getElem?_eraseIdx] at atPlace isMarked
  split at atPlace
  · rw [if_pos ‹_›] at isMarked
    exact marked.written place totpSecret atPlace isMarked
  · rw [if_neg ‹_›] at isMarked
    exact marked.written (place + 1) totpSecret atPlace isMarked

/-- The handler that writes the config file is the only one that is marked then. -/
theorem write (tasks : List Task) (content : Config) (totpSecret : Option String) :
    Marked (tasks ++ [.storeTotp totpSecret]) (some { content with totpSecret })
      (List.replicate tasks.length false ++ [true]) := by
  refine ⟨by simp, fun index other atIndex isMarked => ?_⟩
  by_cases old : index < tasks.length
  · rw [List.getElem?_append_left (by simpa using old), List.getElem?_replicate, if_pos old] at isMarked
    cases isMarked
  · rw [List.getElem?_append_right (Nat.le_of_not_lt old)] at atIndex
    cases List.mem_singleton.mp (List.mem_of_getElem? atIndex)
    rfl

end Marked

theorem step_keeps_marked (server : Server) (wroteLast : List Bool) (event : Event) (next : Server)
    (config : server.configFile.isSome) (marked : Marked server.tasks server.configFile wroteLast)
    (taken : Server.step crypto server event = some next) (succeeds : event.Succeeds) :
    Marked next.tasks next.configFile (noteWriter wroteLast server event next) := by
  cases event with
  | boot =>
    simp only [Server.step] at taken
    split at taken
    · simp only [Option.ite_none_left_eq_some, Option.some.injEq] at taken
      obtain ⟨_, rfl⟩ := taken
      exact ⟨rfl, nofun⟩
    · cases taken
  | kill =>
    obtain ⟨process, _, rfl⟩ := Option.map_eq_some_iff.mp taken
    exact ⟨rfl, nofun⟩
  | clock now =>
    cases taken
    exact marked
  | request request =>
    obtain ⟨process, running, rfl⟩ := Option.map_eq_some_iff.mp taken
    rw [Server.tasks_running running] at marked
    obtain ⟨same, fresh⟩ := receive_stores crypto server process.creds request
    have begun := marked.begin (List.length_replicate (a := false)) fresh
    simpa [noteWriter, Server.tasks, same, marked.length] using begun
  | streamMessage request credentials =>
    obtain ⟨process, running, rfl⟩ := Option.map_eq_some_iff.mp taken
    rw [Server.tasks_running running] at marked
    obtain ⟨same, fresh⟩ :=
      authenticate_stores crypto server process.creds request credentials
    have begun := marked.begin (List.length_replicate (a := false)) fresh
    simpa [noteWriter, Server.tasks, same, marked.length] using begun
  | resume index supply =>
    obtain ⟨process, running, taken⟩ := Option.bind_eq_some_iff.mp taken
    obtain ⟨task, atIndex, taken⟩ := Option.bind_eq_some_iff.mp taken
    obtain ⟨⟨after, creds, rest⟩, ran, rfl⟩ := Option.map_eq_some_iff.mp taken
    rw [Server.tasks_running running] at marked
    have atServer : server.tasks[index]? = some task := by
      rw [Server.tasks_running running, atIndex]
    have goes := marked.erase index
    have left : (process.tasks.eraseIdx index).length + rest.length -
        (wroteLast.eraseIdx index).length = rest.length := by
      rw [goes.length, Nat.add_sub_cancel_left]
    -- Whatever does not write keeps its mark, and then assigns nothing.
    have keeps (same : after.configFile = server.configFile) (reads : task.writes = false)
        (fresh : ∀ next ∈ rest, next.assigns = false) :
        Marked (process.tasks.eraseIdx index ++ rest) after.configFile
          (noteWriter wroteLast server (.resume index supply)
            { after with process := some ⟨creds, process.tasks.eraseIdx index ++ rest⟩ }) := by
      have begun := goes.begin
        (List.length_replicate (n := rest.length) (a := wroteLast[index]?.getD false)) fresh
      simpa [noteWriter, Server.tasks, running, atIndex, reads, left, same] using begun
    cases runTask_stores config succeeds.1 succeeds.2 task ran with
    | none idle same secret fresh =>
      refine keeps same ?_ fresh
      cases task <;> first | rfl | exact absurd trivial idle
    | reads totpSecret content isRead same isRest =>
      subst isRead isRest
      exact keeps same rfl (by simp [Task.assigns])
    | assigns totpSecret isStore same secret isRest =>
      subst isStore isRest
      exact keeps same rfl (by simp [Task.assigns])
    | writes totpSecret content isWrite isWritten isRest =>
      subst isWrite isRest
      have written := Marked.write (process.tasks.eraseIdx index) content totpSecret
      simpa [noteWriter, Server.tasks, running, atIndex, Task.writes, left, goes.length, isWritten]
        using written

theorem agree_of_settling (settling : Settling server) (idle : Idle Task.Storing server) :
    SecretsAgree server := by
  intro process running
  obtain agree | ⟨task, member, storing⟩ := settling.agree process running
  · exact agree
  · exact absurd storing (idle process running task member)

/-- Exactly then the secrets agree whenever no handler is storing. -/
theorem secrets_settle_iff (crypto : Crypto) (config : Config) (now : Nat) (events : List Event) :
    Along (Server.step crypto) (fun _ event after =>
        event.Succeeds ∧ (Idle Task.Storing after → SecretsAgree after))
        (Server.start (some config) now) events ↔
      Along (Server.step crypto) (fun server event _ =>
        event.Succeeds ∧ AssignsWritten server event) (Server.start (some config) now) events := by
  apply along_iff Settling
  · intro server event next settling taken
    refine and_congr_right fun succeeds => ?_
    constructor
    · rintro settles process index supply totpSecret rfl running atIndex alone
      obtain ⟨_, isProcess, taken⟩ := Option.bind_eq_some_iff.mp taken
      cases running.symm.trans isProcess
      obtain ⟨_, isTask, taken⟩ := Option.bind_eq_some_iff.mp taken
      cases atIndex.symm.trans isTask
      cases taken
      refine settles ?_ _ rfl
      rintro _ ⟨⟩ task member
      rcases List.mem_append.mp member with old | new
      · exact alone task old
      · rw [List.mem_singleton.mp new]
        exact id
    · intro assigns idle
      exact agree_of_settling (step_keeps_settling server event next settling taken
        ⟨succeeds, assigns⟩) idle
  · exact step_keeps_settling
  · exact ⟨rfl, by simp [Server.start]⟩

/-- In every run in which the last of overlapping handlers to assign is the last
to write, memory and disk hold one secret whenever no handler is in flight. -/
theorem totp_memory_agrees_with_disk (crypto : Crypto) (config : Config) (now : Nat)
    (events : List Event)
    (orderly : Along (watchedStep crypto) (fun before event _ =>
      event.Succeeds ∧ LastToWrite before event) (Server.start (some config) now, []) events) :
    Along (Server.step crypto) (fun _ _ after => Idle Task.OfTotp after → SecretsAgree after)
      (Server.start (some config) now) events := by
  have settled : Along (watchedStep crypto) (fun _ _ after =>
      Idle Task.OfTotp after.1 → SecretsAgree after.1) (Server.start (some config) now, [])
        events := by
    refine along_imp (fun state => Settling state.1 ∧
      Marked state.1.tasks state.1.configFile state.2) ?_ ?_
        ⟨⟨rfl, by simp [Server.start]⟩, rfl, nofun⟩ orderly
    · rintro ⟨server, wroteLast⟩ event next ⟨settling, marked⟩ taken ⟨succeeds, last⟩ idle
      obtain ⟨after, stepped, rfl⟩ := Option.map_eq_some_iff.mp taken
      apply agree_of_settling (step_keeps_settling server event after settling stepped
        ⟨succeeds, marked.assigns_written last⟩)
      intro process running task member storing
      refine idle process running task member ?_
      cases task <;> trivial
    · rintro ⟨server, wroteLast⟩ event next ⟨settling, marked⟩ taken ⟨succeeds, last⟩
      obtain ⟨after, stepped, rfl⟩ := Option.map_eq_some_iff.mp taken
      exact ⟨step_keeps_settling server event after settling stepped
          ⟨succeeds, marked.assigns_written last⟩,
        step_keeps_marked server wroteLast event after settling.config marked stepped succeeds⟩
  exact along_of_watching settled

/-- Encoding and codes as they are for one secret, at the start of 1970. -/
private def oneSecretCrypto : Crypto where
  sha256 _ := []
  base32Encode _ := "JBSWY3DPEHPK3PXPJBSWY3DPEHPK3PXP"
  base32Decode _ := some [72, 101, 108, 108, 111, 33, 222, 173, 190, 239,
    72, 101, 108, 108, 111, 33, 222, 173, 190, 239]
  totpNew _ := some fun code _ => code == "702218"

private def goesWell : Supply where
  random := [72, 101, 108, 108, 111, 33, 222, 173, 190, 239,
    72, 101, 108, 108, 111, 33, 222, 173, 190, 239]
  readable := true
  write := .written

private def totpRequest (method : Method) (path : String) (body : Body) : Event :=
  .request ⟨method, path, none, body⟩

/-- An enable and a delete that overlap, up to where both have written: both read
the config file, and the enable writes it first. -/
private def totpOverlap : List Event :=
  [.boot, totpRequest .get "/api/auth/totp/setup" .other, .resume 0 goesWell,
    totpRequest .post "/api/auth/totp/enable" (.totpEnable "702218"), .resume 0 goesWell,
    .resume 0 goesWell, totpRequest .delete "/api/auth/totp" .other, .resume 1 goesWell,
    .resume 0 goesWell, .resume 0 goesWell]

/-- Where the delete, which wrote last, also assigns last, the second factor is off
in memory and on disk. -/
theorem totp_turned_off_in_turn :
    ∃ final, run (Server.step oneSecretCrypto) (Server.start (some ⟨none, none⟩) 0)
      (totpOverlap ++ List.replicate 4 (.resume 0 goesWell)) = some final ∧
        Idle Task.OfTotp final ∧ SecretsAgree final := by
  have settles := totp_memory_agrees_with_disk oneSecretCrypto ⟨none, none⟩ 0
    (totpOverlap ++ List.replicate 4 (.resume 0 goesWell)) (by decide +kernel)
  have ended : (run (Server.step oneSecretCrypto) (Server.start (some ⟨none, none⟩) 0)
      (totpOverlap ++ List.replicate 4 (.resume 0 goesWell))).map Server.tasks = some [] := by
    decide +kernel
  obtain ⟨final, ran, isTasks⟩ := Option.map_eq_some_iff.mp ended
  have idle : Idle Task.OfTotp final := by
    intro process running task member
    rw [Server.tasks_running running] at isTasks
    rw [isTasks] at member
    cases member
  exact ⟨final, ran, idle, along_final settles nofun ran idle⟩

/-- The second factor is on in memory and gone from the disk, with no handler
left to mend it. -/
theorem totp_lost_at_restart :
    ∃ final, run (Server.step oneSecretCrypto) (Server.start (some ⟨none, none⟩) 0)
      (totpOverlap ++ [.resume 1 goesWell, .resume 0 goesWell, .resume 0 goesWell,
        .resume 0 goesWell]) = some final ∧ Idle Task.OfTotp final ∧ ¬SecretsAgree final := by
  have ended : (run (Server.step oneSecretCrypto) (Server.start (some ⟨none, none⟩) 0)
      (totpOverlap ++ [.resume 1 goesWell, .resume 0 goesWell, .resume 0 goesWell,
        .resume 0 goesWell])).map (fun final => (final.configFile, final.process)) =
        some (some ⟨none, none⟩,
          some ⟨⟨none, some "JBSWY3DPEHPK3PXPJBSWY3DPEHPK3PXP", .empty, none⟩, []⟩) := by
    decide +kernel
  obtain ⟨final, ran, fields⟩ := Option.map_eq_some_iff.mp ended
  obtain ⟨config, process⟩ := Prod.mk.inj fields
  refine ⟨final, ran, ?_, ?_⟩
  · intro ends running task member
    rw [process] at running
    cases running
    cases member
  · intro agree
    have same := agree _ process
    rw [config] at same
    cases same

end MoonlightWeb.WebServer

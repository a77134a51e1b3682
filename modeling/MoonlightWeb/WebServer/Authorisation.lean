import MoonlightWeb.WebServer.Auth

/-! What an authorisation rests on. Every session the server holds, in memory or
on disk, was entered after a login that passed the checks of its time, so a
decision that looks the token up is sound. The websocket also takes the
password itself, whether or not a second factor is on. -/
namespace MoonlightWeb.WebServer
open MoonlightWeb.Machine

variable {crypto : Crypto}

/-- The login sent the password and, if a second factor was on, a valid code. -/
def Login.Passed (crypto : Crypto) (configured : Option String) (login : Login) : Prop :=
  (ApiCredentials.new configured none).authenticateWithCredentials crypto
      (some login.request.password) = true ∧
    ∀ secret, login.totpSecret = some secret → ∃ code, login.request.totpCode = some code ∧
      verifyTotpCode crypto secret code login.checkedAt = true

/-- What was presented is the token of a session that has not expired. -/
def PresentsSession (server : Server) (presented : Option String) (issue : Issue) : Prop :=
  presented = some issue.token ∧ issue ∈ server.issued ∧ server.now < issue.expiresAt

theorem authenticate_depends_on_credentials {creds : ApiCredentials}
    (same : creds.credentials = configured) (provided : Option String) :
    creds.authenticateWithCredentials crypto provided =
      (ApiCredentials.new configured none).authenticateWithCredentials crypto provided := by
  subst same
  rfl

/-- Every session of a map was issued with its expiry. -/
def AllIssued (issued : List Issue) (sessions : Sessions) : Prop :=
  ∀ token expires, sessions.get token = some expires →
    ∃ issue ∈ issued, issue.token = token ∧ issue.expiresAt = expires

theorem all_issued_retain (known : AllIssued issued sessions) :
    AllIssued issued (sessions.retain test) := by
  intro token expires held
  rw [OrderedMap.get_retain, Option.filter_eq_some_iff] at held
  exact known token expires held.1

theorem all_issued_insert (known : AllIssued issued sessions) (issue : Issue) :
    AllIssued (issue :: issued) (sessions.set issue.token issue.expiresAt) := by
  intro token expires held
  rw [OrderedMap.get_set] at held
  split at held
  · cases held
    exact ⟨issue, List.mem_cons_self, by simp_all⟩
  · obtain ⟨older, member, same⟩ := known token expires held
    exact ⟨older, List.mem_cons_of_mem _ member, same⟩

theorem all_issued_cons (known : AllIssued issued sessions) (issue : Issue) :
    AllIssued (issue :: issued) sessions := by
  intro token expires held
  obtain ⟨older, member, same⟩ := known token expires held
  exact ⟨older, List.mem_cons_of_mem _ member, same⟩

/-- What a task carries was checked before it came there. -/
def Task.Sound (crypto : Crypto) (configured : Option String) : Task → Prop
  | .readTotp body => (ApiCredentials.new configured none).authenticateWithCredentials crypto
      (some body.password) = true
  | .createSession login | .insertSession login _ _ => login.Passed crypto configured
  | .writeConfig _ content => content.credentials = configured
  | _ => True

/-- Nothing on disk or issued is more than the configured password allows. -/
structure StoreSound (crypto : Crypto) (configured : Option String) (server : Server) : Prop where
  config : ∀ content, server.configFile = some content → content.credentials = configured
  file : ∀ sessions, server.sessionsFile = some sessions → AllIssued server.issued sessions
  logins : ∀ issue ∈ server.issued, issue.login.Passed crypto configured

structure ProcessSound (crypto : Crypto) (configured : Option String) (issued : List Issue)
    (process : Process) : Prop where
  credentials : process.creds.credentials = configured
  sessions : AllIssued issued process.creds.sessions
  tasks : ∀ task ∈ process.tasks, task.Sound crypto configured

structure Sound (crypto : Crypto) (configured : Option String) (server : Server) : Prop where
  store : StoreSound crypto configured server
  process : ∀ process, server.process = some process →
    ProcessSound crypto configured server.issued process

theorem handle_sound (endpoint : Endpoint) (task : Task) (member : task ∈ Server.handle endpoint) :
    task.Sound crypto configured := by
  cases endpoint <;> simp [Server.handle] at member <;> subst member <;> trivial

theorem validated_session_was_issued {creds : ApiCredentials}
    (known : AllIssued issued creds.sessions) (valid : creds.validateSession token now = true) :
    ∃ issue ∈ issued, issue.token = token ∧ now < issue.expiresAt := by
  unfold ApiCredentials.validateSession at valid
  split at valid
  · obtain ⟨issue, member, same, expires⟩ := known _ _ ‹_›
    exact ⟨issue, member, same, by simp_all⟩
  · cases valid

/-- A written file has the new content or none, a failed write may leave the
old one. -/
theorem fileWrite_cases {write : FileWrite} {content : α} {before : Option α}
    (held : write.apply content before = some after) : after = content ∨ before = some after := by
  cases write with
  | written => exact .inl (Option.some.inj held).symm
  | failed => exact .inr held
  | torn => cases held

private theorem configured_write (store : StoreSound crypto configured server)
    (content : Config) (same : content.credentials = configured) (write : FileWrite) :
    ∀ after, write.apply content server.configFile = some after →
      after.credentials = configured := by
  intro after held
  obtain rfl | before := fileWrite_cases held
  · exact same
  · exact store.config after before

/-- What one task does keeps the store sound, and the credentials, and hands on
a task that is sound. -/
theorem runTask_sound {server : Server} {creds : ApiCredentials}
    (store : StoreSound crypto configured server) (same : creds.credentials = configured)
    (known : AllIssued server.issued creds.sessions) (task : Task)
    (sound : task.Sound crypto configured)
    (ran : Server.runTask crypto server creds supply task = some (after, creds', rest)) :
    StoreSound crypto configured after ∧ ProcessSound crypto configured after.issued ⟨creds', rest⟩ := by
  have log (entries : List LogEntry) :
      StoreSound crypto configured { server with log := entries } := { store with }
  have ended (creds : ApiCredentials) (same : creds.credentials = configured)
      (known : AllIssued server.issued creds.sessions) :
      ProcessSound crypto configured server.issued ⟨creds, []⟩ := ⟨same, known, by simp⟩
  have goesOn (creds : ApiCredentials) (same : creds.credentials = configured)
      (known : AllIssued server.issued creds.sessions) (next : Task)
      (sound : next.Sound crypto configured) :
      ProcessSound crypto configured server.issued ⟨creds, [next]⟩ := ⟨same, known, by simpa⟩
  cases task with
  | session endpoint token =>
    simp only [Server.runTask] at ran
    split at ran
    · cases ran
      exact ⟨log _, same, known, handle_sound endpoint⟩
    · cases ran
      exact ⟨store, goesOn _ same known _ trivial⟩
  | fallback endpoint token =>
    simp only [Server.runTask] at ran
    split at ran
    · cases ran
      exact ⟨log _, same, known, handle_sound endpoint⟩
    · cases ran
      exact ⟨log _, ended _ same known⟩
  | streamSession request token =>
    cases ran
    exact ⟨log _, ended _ same known⟩
  | readTotp body =>
    simp only [Server.runTask] at ran
    split at ran
    · cases ran
      exact ⟨store, goesOn _ same known _ ⟨sound, by simp⟩⟩
    · rename_i secret active
      split at ran
      · cases ran
        exact ⟨log _, ended _ same known⟩
      · rename_i code sent
        split at ran
        · rename_i verified
          cases ran
          refine ⟨store, goesOn _ same known _ ⟨sound, fun other isSecret => ?_⟩⟩
          cases isSecret
          exact ⟨code, sent, verified⟩
        · cases ran
          exact ⟨log _, ended _ same known⟩
  | createSession login =>
    simp only [Server.runTask, Option.ite_none_right_eq_some] at ran
    cases ran.2
    exact ⟨store, goesOn _ same known _ sound⟩
  | insertSession login token expiresAt =>
    cases ran
    refine ⟨⟨store.config, fun sessions held => all_issued_cons (store.file sessions held) _, ?_⟩,
      same, ?_, by simp [Task.Sound]⟩
    · intro issue member
      cases member with
      | head => exact sound
      | tail _ older => exact store.logins issue older
    · exact all_issued_insert (all_issued_retain known) ⟨token, expiresAt, login⟩
  | persistSessions token expiresAt =>
    cases ran
    refine ⟨⟨store.config, fun sessions held => ?_, store.logins⟩, ended _ same known⟩
    obtain rfl | before := fileWrite_cases held
    · exact known
    · exact store.file sessions before
  | setupTotp =>
    simp only [Server.runTask, Option.ite_none_right_eq_some] at ran
    cases ran.2
    exact ⟨log _, ended _ same known⟩
  | readPending code =>
    simp only [Server.runTask] at ran
    split at ran
    · cases ran
      exact ⟨log _, ended _ same known⟩
    · split at ran
      · cases ran
        exact ⟨store, goesOn _ same known _ trivial⟩
      · cases ran
        exact ⟨log _, ended _ same known⟩
  | readConfig totpSecret =>
    simp only [Server.runTask] at ran
    split at ran
    · rename_i content readConfig _
      cases ran
      exact ⟨store, goesOn _ same known _ (store.config content readConfig)⟩
    · cases ran
      exact ⟨log _, ended _ same known⟩
  | writeConfig totpSecret content =>
    have config := configured_write store { content with totpSecret } sound supply.write
    simp only [Server.runTask] at ran
    split at ran <;> cases ran
    · exact ⟨{ store with config }, goesOn _ same known _ trivial⟩
    · exact ⟨{ store with config }, ended _ same known⟩
    · exact ⟨{ store with config }, ended _ same known⟩
  | storeTotp totpSecret =>
    cases ran
    exact ⟨store, same, known, by simp [Task.Sound]⟩
  | clearPending =>
    cases ran
    exact ⟨log _, ended _ same known⟩

/-- A request adds tasks that are sound, and an entry to the log at most. -/
theorem receive_sound (crypto : Crypto) (server : Server) {creds : ApiCredentials}
    (same : creds.credentials = configured) (request : Request) :
    (∃ entries, (Server.receive crypto server creds request).1 = { server with log := entries }) ∧
      ∀ task ∈ (Server.receive crypto server creds request).2, task.Sound crypto configured := by
  unfold Server.receive
  split
  · exact ⟨⟨_, rfl⟩, by simp⟩
  split
  · split
    · rename_i body _
      split
      · rename_i unconfigured
        have noPassword : creds.credentials = none := by
          simpa [ApiCredentials.enableCredentialAuthentication] using unconfigured
        have passed : Login.Passed crypto configured ⟨body, none, server.now⟩ := by
          cases same.symm.trans noPassword
          exact ⟨rfl, by simp⟩
        exact ⟨⟨_, rfl⟩, by simpa [Task.Sound] using passed⟩
      split
      · exact ⟨⟨_, rfl⟩, by simp⟩
      · rename_i accepted
        rw [authenticate_depends_on_credentials same] at accepted
        exact ⟨⟨_, rfl⟩, by simpa [Task.Sound] using accepted⟩
    · exact ⟨⟨_, rfl⟩, by simp⟩
    · exact ⟨⟨_, rfl⟩, by simp⟩
  split
  · exact ⟨⟨_, rfl⟩, handle_sound _⟩
  · split
    · exact ⟨⟨_, rfl⟩, by simp⟩
    · exact ⟨⟨_, rfl⟩, by simp [Task.Sound]⟩

theorem authenticate_sound (crypto : Crypto) (configured : Option String) (server : Server)
    (creds : ApiCredentials) (request : StreamRequest) (credentials : Option String) :
    (∃ entries, (Server.authenticate crypto server creds request credentials).1 =
        { server with log := entries }) ∧
      ∀ task ∈ (Server.authenticate crypto server creds request credentials).2,
        task.Sound crypto configured := by
  unfold Server.authenticate
  split
  · exact ⟨⟨_, rfl⟩, by simp⟩
  · split
    · exact ⟨⟨_, rfl⟩, by simp [Task.Sound]⟩
    · exact ⟨⟨_, rfl⟩, by simp⟩

private theorem sound_of_begun {server : Server} {process : Process}
    (sound : Sound crypto configured server) (running : server.process = some process)
    (logged : ∃ entries, after = { server with log := entries })
    (begun : ∀ task ∈ tasks, task.Sound crypto configured) :
    Sound crypto configured
      { after with process := some { process with tasks := process.tasks ++ tasks } } := by
  obtain ⟨entries, rfl⟩ := logged
  refine ⟨{ sound.store with }, fun other isOther => ?_⟩
  cases isOther
  have held := sound.process process running
  refine ⟨held.credentials, held.sessions, fun task member => ?_⟩
  rcases List.mem_append.mp member with old | new
  · exact held.tasks task old
  · exact begun task new

theorem step_keeps_sound (server : Server) (event : Event) (next : Server)
    (sound : Sound crypto configured server)
    (taken : Server.step crypto server event = some next) : Sound crypto configured next := by
  cases event with
  | boot =>
    simp only [Server.step] at taken
    split at taken
    · rename_i content _ readConfig
      simp only [Option.ite_none_left_eq_some, Option.some.injEq] at taken
      obtain ⟨_, rfl⟩ := taken
      refine ⟨{ sound.store with }, fun process isProcess => ?_⟩
      cases isProcess
      refine ⟨sound.store.config content readConfig, ?_, by simp⟩
      simp only [Server.loadSessionsFromFile]
      split
      · exact all_issued_retain (sound.store.file _ ‹_›)
      · intro token expires held
        cases held
    · cases taken
  | kill =>
    obtain ⟨process, _, rfl⟩ := Option.map_eq_some_iff.mp taken
    exact ⟨{ sound.store with }, by simp⟩
  | clock now =>
    cases taken
    exact ⟨{ sound.store with }, sound.process⟩
  | request request =>
    obtain ⟨process, running, rfl⟩ := Option.map_eq_some_iff.mp taken
    have received := receive_sound crypto server
      (sound.process process running).credentials request
    exact sound_of_begun sound running received.1 received.2
  | streamMessage request credentials =>
    obtain ⟨process, running, rfl⟩ := Option.map_eq_some_iff.mp taken
    have received := authenticate_sound crypto configured server
      process.creds request credentials
    exact sound_of_begun sound running received.1 received.2
  | resume index supply =>
    obtain ⟨process, running, taken⟩ := Option.bind_eq_some_iff.mp taken
    obtain ⟨task, atIndex, taken⟩ := Option.bind_eq_some_iff.mp taken
    obtain ⟨⟨after, creds, rest⟩, ran, rfl⟩ := Option.map_eq_some_iff.mp taken
    have held := sound.process process running
    obtain ⟨store, resumed⟩ := runTask_sound sound.store held.credentials held.sessions task
      (held.tasks task (List.mem_of_getElem? atIndex)) ran
    refine ⟨{ store with }, fun other isOther => ?_⟩
    cases isOther
    refine ⟨resumed.credentials, resumed.sessions, fun task member => ?_⟩
    rcases List.mem_append.mp member with old | new
    · exact held.tasks task (List.mem_of_mem_eraseIdx old)
    · exact resumed.tasks task new

theorem start_sound (configFile : Option Config) (now : Nat) :
    Sound crypto (configFile.bind Config.credentials) (Server.start configFile now) where
  store := {
    config := by rintro content rfl; rfl
    file := by simp [Server.start]
    logins := by simp [Server.start] }
  process := by simp [Server.start]

/-- While credentials are configured and the second factor is on, whoever is
authorised presents the token of an unexpired session whose login passed the
checks of its time. -/
def SessionsOnly (crypto : Crypto) (before : Server) (_ : Event) (after : Server) : Prop :=
  ∀ process, before.process = some process → process.creds.credentials.isSome →
    process.creds.isTotpEnabled → ∀ asker presented,
      after.log = .decided asker presented true :: before.log →
        ∃ issue, PresentsSession before presented issue ∧
          issue.login.Passed crypto process.creds.credentials

/-- While credentials are configured and the second factor is on, no websocket
opens with the password, unless that is the token of an unexpired session. -/
def NoRawPassword (crypto : Crypto) (before : Server) (event : Event) (_ : Server) : Prop :=
  ∀ process, before.process = some process → process.creds.credentials.isSome →
    process.creds.isTotpEnabled → ∀ request credentials,
      event = .streamMessage request credentials →
        process.creds.authenticateWithCredentials crypto credentials = true →
          ∃ issue, PresentsSession before credentials issue

/-- A task grants a request only for a session, or while the second factor is
off. -/
private theorem runTask_grants {server : Server} {creds : ApiCredentials}
    (totp : creds.isTotpEnabled = true) (task : Task)
    (ran : Server.runTask crypto server creds supply task = some (after, creds', rest))
    (granted : after.log = .decided asker presented true :: server.log) :
    ∃ token, presented = some token ∧ creds.validateSession token server.now = true := by
  cases task with
  | session endpoint token =>
    simp only [Server.runTask] at ran
    split at ran
    · rename_i valid
      cases ran
      simp only [Server.decide, List.cons.injEq, LogEntry.decided.injEq, and_true] at granted
      exact ⟨token, granted.2.symm, valid⟩
    · cases ran
      simp at granted
  | fallback endpoint token =>
    simp only [Server.runTask, totp, Bool.not_true, Bool.false_and, Bool.false_eq_true,
      ↓reduceIte] at ran
    cases ran
    simp [Server.decide] at granted
  | streamSession request token =>
    cases ran
    simp only [Server.decide, List.cons.injEq, LogEntry.decided.injEq, and_true] at granted
    exact ⟨token, granted.2.1.symm, granted.2.2⟩
  | readTotp body =>
    simp only [Server.runTask] at ran
    split at ran
    · cases ran
      simp at granted
    split at ran
    · cases ran
      simp [Server.reply] at granted
    split at ran <;> cases ran <;> simp [Server.reply] at granted
  | createSession login | setupTotp =>
    simp only [Server.runTask, Option.ite_none_right_eq_some] at ran
    cases ran.2
    simp [Server.reply] at granted
  | insertSession login token expiresAt | persistSessions token expiresAt | storeTotp totpSecret
  | clearPending =>
    cases ran
    simp [Server.reply] at granted
  | readPending code =>
    simp only [Server.runTask] at ran
    split at ran
    · cases ran
      simp [Server.reply] at granted
    split at ran <;> cases ran <;> simp [Server.reply] at granted
  | readConfig totpSecret | writeConfig totpSecret content =>
    simp only [Server.runTask] at ran
    split at ran <;> cases ran <;> simp [Server.reply] at granted

/-- With credentials configured, no request is granted before its first await. -/
private theorem receive_grants_nothing {server : Server} {creds : ApiCredentials}
    (configured : creds.credentials.isSome = true)
    (granted : (Server.receive crypto server creds request).1.log =
      .decided asker presented true :: server.log) : False := by
  unfold Server.receive at granted
  split at granted
  · simp at granted
  split at granted
  · split at granted
    · split at granted
      · simp at granted
      split at granted <;> simp [Server.reply] at granted
    · simp [Server.reply] at granted
    · simp at granted
  split at granted
  · simp_all [ApiCredentials.enableCredentialAuthentication]
  split at granted <;> simp [Server.decide] at granted

private theorem authenticate_grants_iff {server : Server} {creds : ApiCredentials} :
    (Server.authenticate crypto server creds request credentials).1.log =
        .decided asker presented true :: server.log ↔
      creds.authenticateWithCredentials crypto credentials = true ∧
        asker = .stream request ∧ presented = credentials := by
  unfold Server.authenticate
  split
  · rename_i accepted
    simp [Server.decide, accepted, eq_comm]
  · split <;> simp_all [Server.decide]

private theorem sessions_only_step_iff (server : Server) (event : Event) (next : Server)
    (sound : Sound crypto configured server) (taken : Server.step crypto server event = some next) :
    SessionsOnly crypto server event next ↔ NoRawPassword crypto server event next := by
  refine forall_congr' fun process => forall_congr' fun running => forall_congr' fun isSome =>
    forall_congr' fun totp => ?_
  cases event with
  | boot =>
    simp only [Server.step] at taken
    rw [running] at taken
    cases taken
  | kill =>
    obtain ⟨_, _, rfl⟩ := Option.map_eq_some_iff.mp taken
    simp
  | clock now =>
    cases taken
    simp
  | request request =>
    obtain ⟨_, isProcess, rfl⟩ := Option.map_eq_some_iff.mp taken
    cases running.symm.trans isProcess
    exact ⟨by simp, fun _ asker presented granted =>
      (receive_grants_nothing isSome granted).elim⟩
  | streamMessage request credentials =>
    obtain ⟨_, isProcess, rfl⟩ := Option.map_eq_some_iff.mp taken
    cases running.symm.trans isProcess
    have held := sound.process process running
    constructor
    · rintro sessions _ _ ⟨⟩ accepted
      obtain ⟨issue, presents, _⟩ := sessions (.stream request) credentials
        (authenticate_grants_iff.mpr ⟨accepted, rfl, rfl⟩)
      exact ⟨issue, presents⟩
    · intro noRaw asker presented granted
      obtain ⟨accepted, _, rfl⟩ := authenticate_grants_iff.mp granted
      obtain ⟨issue, presents⟩ := noRaw request presented rfl accepted
      rw [held.credentials]
      exact ⟨issue, presents, sound.store.logins issue presents.2.1⟩
  | resume index supply =>
    obtain ⟨_, isProcess, taken⟩ := Option.bind_eq_some_iff.mp taken
    cases running.symm.trans isProcess
    obtain ⟨task, _, taken⟩ := Option.bind_eq_some_iff.mp taken
    obtain ⟨⟨after, creds, rest⟩, ran, rfl⟩ := Option.map_eq_some_iff.mp taken
    have held := sound.process process running
    refine ⟨by simp, fun _ asker presented granted => ?_⟩
    obtain ⟨token, rfl, valid⟩ := runTask_grants totp task ran granted
    obtain ⟨issue, member, rfl, alive⟩ := validated_session_was_issued held.sessions valid
    rw [held.credentials]
    exact ⟨issue, ⟨rfl, member, alive⟩, sound.store.logins issue member⟩

/-- In every run, whoever is authorised presents a session exactly when no
websocket opens with the password: the websocket takes it where the middleware
does not. -/
theorem authorised_by_sessions_iff (crypto : Crypto) (configFile : Option Config) (now : Nat)
    (events : List Event) :
    Along (Server.step crypto) (SessionsOnly crypto) (Server.start configFile now) events ↔
      Along (Server.step crypto) (NoRawPassword crypto) (Server.start configFile now) events :=
  along_iff _ sessions_only_step_iff
    (fun server event next sound taken _ => step_keeps_sound server event next sound taken)
    (start_sound configFile now)

/-- The digest function as it is on one password. -/
private def sampleCrypto : Crypto where
  sha256 _ := [0x2b, 0xb8, 0x0d, 0x53, 0x7b, 0x1d, 0xa3, 0xe3, 0x8b, 0xd3, 0x03, 0x61, 0xaa, 0x85,
    0x56, 0x86, 0xbd, 0xe0, 0xea, 0xcd, 0x71, 0x62, 0xfe, 0xf6, 0xa2, 0x5f, 0xe9, 0x7b, 0xf5, 0x27,
    0xa2, 0x5b]
  base32Encode _ := "JBSWY3DPEHPK3PXPJBSWY3DPEHPK3PXP"
  base32Decode _ := none
  totpNew _ := none

/-- The second factor is on, and the password alone opens a stream. -/
theorem password_alone_opens_stream :
    ¬ ∀ (crypto : Crypto) (configFile : Option Config) (now : Nat) (events : List Event),
      Along (Server.step crypto) (SessionsOnly crypto) (Server.start configFile now) events := by
  intro claimed
  have running := claimed sampleCrypto
    (some ⟨some "secret", some "JBSWY3DPEHPK3PXPJBSWY3DPEHPK3PXP"⟩) 0
    [.boot, .streamMessage .init (some "secret")]
  obtain ⟨_, booted⟩ := running _ rfl
  obtain ⟨opened, _⟩ := booted _ rfl
  obtain ⟨issue, ⟨_, member, _⟩, _⟩ := opened _ rfl rfl rfl (.stream .init) (some "secret") rfl
  cases member

end MoonlightWeb.WebServer

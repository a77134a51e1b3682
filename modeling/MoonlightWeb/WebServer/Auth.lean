import MoonlightWeb.Lib.Machine
import MoonlightWeb.Lib.OrderedMap

/-! Who may use the web server: the configured password, the second factor, and
the sessions that a login creates. The handlers run interleaved, so each one is
a task that stands at the await it will return from. Two places decide: the
middleware in front of `/api` and the first message of a stream websocket. -/
namespace MoonlightWeb.WebServer

/-- What the server takes from its libraries. A secret of fewer than 128 bits
makes no TOTP. -/
structure Crypto where
  sha256 : List UInt8 → List UInt8
  base32Encode : List UInt8 → String
  base32Decode : String → Option (List UInt8)
  totpNew : List UInt8 → Option (String → Nat → Bool)

def SESSION_DURATION_MS : Nat := 90 * 24 * 60 * 60 * 1000

def hexEncode (bytes : List UInt8) : String :=
  String.ofList (bytes.flatMap fun byte =>
    [Nat.digitChar (byte.toNat / 16), Nat.digitChar (byte.toNat % 16)])

/-- The secret that 20 random bytes become, as an authenticator takes it. -/
def totpUri (secretBase32 : String) : String :=
  "otpauth://totp/Moonlight%20Web?secret=" ++ secretBase32 ++
    "&issuer=Moonlight+Web&algorithm=SHA1&digits=6&period=30"

def constantTimeStrEq (crypto : Crypto) (a b : String) : Bool :=
  crypto.sha256 a.toUTF8.toList == crypto.sha256 b.toUTF8.toList

def verifyTotpCode (crypto : Crypto) (secretBase32 code : String) (now : Nat) : Bool :=
  match crypto.base32Decode secretBase32.toUpper with
  | none => false
  | some bytes =>
    match crypto.totpNew bytes with
    | none => false
    | some checkCurrent => checkCurrent code now

/-- Tokens and when they expire. -/
abbrev Sessions := OrderedMap String Nat

structure ApiCredentials where
  credentials : Option String
  /-- The active secret; none while the second factor is off. -/
  totpSecret : Option String
  sessions : Sessions
  pendingTotp : Option String
  deriving DecidableEq

namespace ApiCredentials

def new (credentials totpSecret : Option String) : ApiCredentials :=
  ⟨credentials, totpSecret, .empty, none⟩

def validateSession (creds : ApiCredentials) (token : String) (now : Nat) : Bool :=
  match creds.sessions.get token with
  | some expires => expires > now
  | none => false

def enableCredentialAuthentication (creds : ApiCredentials) : Bool := creds.credentials.isSome

def authenticateWithCredentials (crypto : Crypto) (creds : ApiCredentials)
    (provided : Option String) : Bool :=
  match creds.credentials with
  | none => true
  | some expected =>
    match provided with
    | some provided => constantTimeStrEq crypto provided expected
    | none => false

def isTotpEnabled (creds : ApiCredentials) : Bool := creds.totpSecret.isSome

end ApiCredentials

structure LoginRequest where
  password : String
  totpCode : Option String
  deriving DecidableEq, Repr

inductive Method where
  | get | post | put | delete
  deriving DecidableEq, Repr

/-- The bodies that the handlers below can deserialize. -/
inductive Body where
  | other
  | login (body : LoginRequest)
  | totpEnable (code : String)
  deriving DecidableEq, Repr

structure Request where
  method : Method
  path : String
  authorization : Option (List UInt8)
  body : Body
  deriving DecidableEq, Repr

/-- The handlers of the `/api` scope; the ones that do not concern
authentication are one. -/
inductive Endpoint where
  | login (body : LoginRequest)
  | info
  | totpSetup
  | totpEnable (code : String)
  | totpDelete
  | other
  deriving DecidableEq, Repr

def route (request : Request) : Endpoint :=
  match request.method, request.path, request.body with
  | .post, "/api/auth/login", .login body => .login body
  | .get, "/api/auth/info", _ => .info
  | .get, "/api/auth/totp/setup", _ => .totpSetup
  | .post, "/api/auth/totp/enable", .totpEnable code => .totpEnable code
  | .delete, "/api/auth/totp", _ => .totpDelete
  | _, _, _ => .other

/-- The ACME challenges have a scope of their own, without authentication. -/
def acmeScope (path : String) : Bool :=
  path == "/api/acme/challenge" || path.startsWith "/api/acme/challenge/"

def publicPath (path : String) : Bool :=
  path == "/api/host/stream" || path == "/api/auth/login" || path == "/api/auth/info"

def toStr (value : List UInt8) : Option String :=
  if value.all fun byte => (32 ≤ byte && byte < 127) || byte = 9 then
    some (String.ofList (value.map fun byte => Char.ofNat byte.toNat))
  else none

def stripBearer (value : String) : Option String :=
  if "Bearer ".toList <+: value.toList then some (String.ofList (value.toList.drop 7)) else none

def bearer (request : Request) : Option String :=
  (request.authorization.bind toStr).bind stripBearer

/-- What the first message of a stream websocket asks for. -/
inductive StreamRequest where
  | init | attachInput
  deriving DecidableEq, Repr

inductive Asker where
  | api (endpoint : Endpoint)
  | stream (request : StreamRequest)
  deriving DecidableEq, Repr

inductive Reply where
  | ok
  | session (token : String) (expiresAtMs : Nat)
  | requiresTotp
  | info (totpEnabled credentialAuthenticationEnabled : Bool)
  | totpSetup (secret uri : String)
  | unauthorized
  | badRequest (text : String)
  | internalServerError
  deriving DecidableEq, Repr

inductive LogEntry where
  | decided (asker : Asker) (presented : Option String) (granted : Bool)
  | replied (reply : Reply)
  deriving DecidableEq, Repr

/-- A login: what it sent, the secret that was active when it was checked, and
when that was. -/
structure Login where
  request : LoginRequest
  totpSecret : Option String
  checkedAt : Nat
  deriving DecidableEq, Repr

/-- A session that `create_session` has entered. -/
structure Issue where
  token : String
  expiresAt : Nat
  login : Login
  deriving DecidableEq, Repr

/-- The parts of `config.json` that concern authentication. -/
structure Config where
  credentials : Option String
  totpSecret : Option String
  deriving DecidableEq, Repr

/-- The awaits at which the handlers stand. -/
inductive Task where
  | session (endpoint : Endpoint) (token : String)
  | fallback (endpoint : Endpoint) (token : String)
  | streamSession (request : StreamRequest) (token : String)
  | readTotp (body : LoginRequest)
  | createSession (login : Login)
  | insertSession (login : Login) (token : String) (expiresAt : Nat)
  | persistSessions (token : String) (expiresAt : Nat)
  | setupTotp
  | readPending (code : String)
  | readConfig (totpSecret : Option String)
  | writeConfig (totpSecret : Option String) (content : Config)
  | storeTotp (totpSecret : Option String)
  | clearPending
  deriving DecidableEq, Repr

structure Process where
  creds : ApiCredentials
  tasks : List Task
  deriving DecidableEq

/-- The server process, if it runs, its files and the clock. A file that is
missing or cannot be parsed has no content. -/
structure Server where
  configFile : Option Config
  sessionsFile : Option Sessions
  now : Nat
  process : Option Process
  issued : List Issue
  /-- The newest entry comes first. -/
  log : List LogEntry
  deriving DecidableEq

/-- How writing a file went: a write that fails may leave a torn file. -/
inductive FileWrite where
  | written | failed | torn
  deriving DecidableEq, Repr

def FileWrite.apply (write : FileWrite) (content : α) (before : Option α) : Option α :=
  match write with
  | .written => some content
  | .failed => before
  | .torn => none

/-- What a task gets from the system when it resumes. -/
structure Supply where
  random : List UInt8
  readable : Bool
  write : FileWrite
  deriving DecidableEq, Repr

inductive Event where
  | boot
  | kill
  | clock (now : Nat)
  | request (request : Request)
  | streamMessage (request : StreamRequest) (credentials : Option String)
  | resume (index : Nat) (supply : Supply)
  deriving DecidableEq, Repr

namespace Server

def tasks (server : Server) : List Task := (server.process.map Process.tasks).getD []

theorem tasks_running {server : Server} {running : Process}
    (isRunning : server.process = some running) : server.tasks = running.tasks := by
  simp [tasks, isRunning]

/-- A machine on which the server has not run yet. -/
def start (configFile : Option Config) (now : Nat) : Server :=
  { configFile, now, sessionsFile := none, process := none, issued := [], log := [] }

def reply (server : Server) (reply : Reply) : Server :=
  { server with log := .replied reply :: server.log }

def decide (server : Server) (asker : Asker) (presented : Option String) (granted : Bool) :
    Server :=
  { server with log := .decided asker presented granted :: server.log }

/-- The handler that an authorised request reaches. -/
def handle (endpoint : Endpoint) : List Task :=
  match endpoint with
  | .totpSetup => [.setupTotp]
  | .totpEnable code => [.readPending code]
  | .totpDelete => [.readConfig none]
  | .login _ | .info | .other => []

variable (crypto : Crypto)

/-- One task runs from its await to the next: the server, the credentials and
what is left of the task. -/
def runTask (server : Server) (creds : ApiCredentials) (supply : Supply) :
    Task → Option (Server × ApiCredentials × List Task)
  | .session endpoint token =>
    if creds.validateSession token server.now then
      some (server.decide (.api endpoint) (some token) true, creds, handle endpoint)
    else some (server, creds, [.fallback endpoint token])
  | .fallback endpoint token =>
    if !creds.isTotpEnabled && creds.authenticateWithCredentials crypto (some token) then
      some (server.decide (.api endpoint) (some token) true, creds, handle endpoint)
    else some (server.decide (.api endpoint) (some token) false, creds, [])
  | .streamSession request token =>
    some (server.decide (.stream request) (some token) (creds.validateSession token server.now),
      creds, [])
  | .readTotp body =>
    match creds.totpSecret with
    | none => some (server, creds, [.createSession ⟨body, none, server.now⟩])
    | some secret =>
      match body.totpCode with
      | none => some (server.reply .requiresTotp, creds, [])
      | some code =>
        if verifyTotpCode crypto secret code server.now then
          some (server, creds, [.createSession ⟨body, some secret, server.now⟩])
        else some (server.reply .unauthorized, creds, [])
  | .createSession login =>
    if supply.random.length = 32 then
      some (server, creds,
        [.insertSession login (hexEncode supply.random) (server.now + SESSION_DURATION_MS)])
    else none
  | .insertSession login token expiresAt =>
    let kept := creds.sessions.retain fun _ expires => expires > server.now
    some ({ server with issued := ⟨token, expiresAt, login⟩ :: server.issued },
      { creds with sessions := kept.set token expiresAt }, [.persistSessions token expiresAt])
  | .persistSessions token expiresAt =>
    let server := { server with
      sessionsFile := supply.write.apply creds.sessions server.sessionsFile }
    some (server.reply (.session token expiresAt), creds, [])
  | .setupTotp =>
    if supply.random.length = 20 then
      let secret := crypto.base32Encode supply.random
      some (server.reply (.totpSetup secret (totpUri secret)),
        { creds with pendingTotp := some secret }, [])
    else none
  | .readPending code =>
    match creds.pendingTotp with
    | none =>
      some (server.reply
        (.badRequest "No pending 2FA setup — call GET /api/auth/totp/setup first"), creds, [])
    | some secret =>
      if verifyTotpCode crypto secret code server.now then
        some (server, creds, [.readConfig (some secret)])
      else some (server.reply (.badRequest "Invalid verification code"), creds, [])
  | .readConfig totpSecret =>
    match server.configFile, supply.readable with
    | some content, true => some (server, creds, [.writeConfig totpSecret content])
    | _, _ => some (server.reply .internalServerError, creds, [])
  | .writeConfig totpSecret content =>
    let configFile := supply.write.apply { content with totpSecret } server.configFile
    match supply.write with
    | .written => some ({ server with configFile }, creds, [.storeTotp totpSecret])
    | .failed | .torn => some (({ server with configFile } : Server).reply .internalServerError,
        creds, [])
  | .storeTotp totpSecret => some (server, { creds with totpSecret }, [.clearPending])
  | .clearPending => some (server.reply .ok, { creds with pendingTotp := none }, [])

/-- A request runs up to its first await. -/
def receive (server : Server) (creds : ApiCredentials) (request : Request) : Server × List Task :=
  if acmeScope request.path then (server, [])
  else if publicPath request.path then
    match route request with
    | .login body =>
      if !creds.enableCredentialAuthentication then
        (server, [.createSession ⟨body, none, server.now⟩])
      else if !creds.authenticateWithCredentials crypto (some body.password) then
        (server.reply .unauthorized, [])
      else (server, [.readTotp body])
    | .info =>
      (server.reply (.info creds.isTotpEnabled creds.enableCredentialAuthentication), [])
    | _ => (server, [])
  else if !creds.enableCredentialAuthentication then
    (server.decide (.api (route request)) none true, handle (route request))
  else
    match bearer request with
    | none => (server.decide (.api (route request)) none false, [])
    | some token => (server, [.session (route request) token])

/-- The first message of a stream websocket runs up to its first await. -/
def authenticate (server : Server) (creds : ApiCredentials) (request : StreamRequest)
    (credentials : Option String) : Server × List Task :=
  if creds.authenticateWithCredentials crypto credentials then
    (server.decide (.stream request) credentials true, [])
  else
    match credentials with
    | some token => (server, [.streamSession request token])
    | none => (server.decide (.stream request) none false, [])

def loadSessionsFromFile (server : Server) : Sessions :=
  match server.sessionsFile with
  | some sessions => sessions.retain fun _ expires => expires > server.now
  | none => .empty

def step (server : Server) : Event → Option Server
  | .boot =>
    match server.process, server.configFile with
    | none, some config =>
      if config.credentials = some "default" then none
      else
        let creds := ApiCredentials.new config.credentials config.totpSecret
        let creds := { creds with sessions := server.loadSessionsFromFile }
        some { server with process := some ⟨creds, []⟩ }
    | _, _ => none
  | .kill => server.process.map fun _ => { server with process := none }
  | .clock now => some { server with now }
  | .request request =>
    server.process.map fun process =>
      let (server, begun) := receive crypto server process.creds request
      { server with process := some { process with tasks := process.tasks ++ begun } }
  | .streamMessage request credentials =>
    server.process.map fun process =>
      let (server, begun) := authenticate crypto server process.creds request credentials
      { server with process := some { process with tasks := process.tasks ++ begun } }
  | .resume index supply =>
    server.process.bind fun process =>
      process.tasks[index]?.bind fun task =>
        (runTask crypto server process.creds supply task).map fun (server, creds, rest) =>
          { server with process := some ⟨creds, process.tasks.eraseIdx index ++ rest⟩ }

end Server

end MoonlightWeb.WebServer

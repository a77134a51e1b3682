import MoonlightWeb.MoonlightCommon.Pair

/-! A host as the server keeps it: the client that makes its requests, what the
host last said of itself, and the keys of both sides once they have paired. What
a host says is fetched over plain HTTP first, since only that tells on which
port it answers those it has paired with. -/
namespace MoonlightWeb.MoonlightCommon
open Throwing

abbrev Uuid := BitVec 128

structure MacAddress where
  bytes : Vector UInt8 6
  deriving DecidableEq, Repr

inductive ServerState where
  | busy | free
  deriving DecidableEq, Repr

structure HostInfo where
  hostName : String
  appVersion : ServerVersion
  gfeVersion : String
  uniqueId : Uuid
  httpsPort : UInt16
  externalPort : UInt16
  maxLumaPixelsHevc : UInt32
  mac : Option MacAddress
  localIp : String
  serverCodecModeSupport : UInt32
  pairStatus : PairStatus
  currentGame : UInt32
  stateString : String
  state : ServerState
  deriving DecidableEq, Repr

structure App where
  id : UInt32
  title : String
  isHdrSupported : Bool
  deriving DecidableEq, Repr

structure ServerAppListResponse where
  apps : List App
  deriving DecidableEq, Repr

structure ClientAuth where
  privateKey : Pem
  certificate : Pem
  deriving DecidableEq, Repr

inductive HostError (RequestError : Type) where
  | notPaired
  | api (error : ApiError RequestError)
  | pair (error : PairError RequestError)
  | likelyOffline
  deriving DecidableEq, Repr

structure Paired where
  clientPrivateKey : Pem
  clientCertificate : Pem
  serverCertificate : Pem
  cacheAppList : Option ServerAppListResponse
  deriving DecidableEq, Repr

inductive Endpoint where
  | http | https
  deriving DecidableEq, Repr

/-- Cached information, with the endpoint it came from; the cache itself does not
tell. -/
structure CachedInfo where
  fetched : Endpoint
  info : HostInfo
  deriving DecidableEq, Repr

/-- Information that was handed out, and whether the host was paired by then. -/
structure Served where
  paired : PairStatus
  fetched : Endpoint
  deriving DecidableEq, Repr

structure MoonlightHost (Client : Type) where
  client : Client
  address : String
  httpPort : UInt16
  triedConnect : Bool
  cacheInfo : Option CachedInfo
  paired : Option Paired
  /-- All that `host_info` has returned, for the record. -/
  served : List Served
  deriving DecidableEq, Repr

/-- What comes back for the two requests of one `host_info`, should they be made. -/
structure InfoAnswers (RequestError : Type) where
  http : Except (ApiError RequestError) HostInfo
  https : Except (ApiError RequestError) HostInfo

abbrev HostAction (Client RequestError : Type) :=
  Fallible (HostError RequestError) (MoonlightHost Client)

def buildHttpsAddress (address : String) (httpsPort : UInt16) : String :=
  address ++ ":" ++ toString httpsPort

namespace MoonlightHost

variable {X509 PKey Client RequestError : Type}

def new (client : Client) (address : String) (httpPort : UInt16) : MoonlightHost Client where
  client := client
  address := address
  httpPort := httpPort
  triedConnect := false
  cacheInfo := none
  paired := none
  served := []

def httpAddress (host : MoonlightHost Client) : String :=
  host.address ++ ":" ++ toString host.httpPort

def isPaired (host : MoonlightHost Client) : PairStatus :=
  if host.paired.isSome then .paired else .notPaired

/-- The first request. Only an answer that failed marks the host as tried. -/
def contact (answer : Except (ApiError RequestError) HostInfo) :
    HostAction Client RequestError PUnit :=
  match answer with
  | .ok info => modify fun host => { host with cacheInfo := some ⟨.http, info⟩ }
  | .error error => do
    modify fun host => { host with triedConnect := true }
    fail (.api error)

/-- The second request, to those it has paired with. -/
def authenticate (answer : Except (ApiError RequestError) HostInfo) :
    HostAction Client RequestError PUnit := do
  let info ← attempt .api answer
  modify fun host => { host with cacheInfo := some ⟨.https, info⟩ }

/-- The cached information goes to the caller. -/
def serve : HostAction Client RequestError HostInfo := do
  let host ← get
  let cached ← expect host.cacheInfo
  let served : Served := ⟨host.isPaired, cached.fetched⟩
  set { host with served := host.served ++ [served] }
  pure cached.info

def hostInfo (answers : InfoAnswers RequestError) : HostAction Client RequestError HostInfo := do
  let host ← get
  let hasCache := host.cacheInfo.isSome
  check (¬(host.triedConnect = true ∧ hasCache = false)) .likelyOffline
  if hasCache then
    serve
  else do
    contact answers.http
    if host.isPaired = .paired then do
      authenticate answers.https
      serve
    else
      serve

def clearCache (host : MoonlightHost Client) : MoonlightHost Client :=
  { host with
    triedConnect := false
    cacheInfo := none
    paired := host.paired.map fun paired => { paired with cacheAppList := none } }

def hostName (answers : InfoAnswers RequestError) : HostAction Client RequestError String := do
  let info ← hostInfo answers
  pure info.hostName

def mac (answers : InfoAnswers RequestError) :
    HostAction Client RequestError (Option MacAddress) := do
  let info ← hostInfo answers
  pure info.mac

def version (answers : InfoAnswers RequestError) :
    HostAction Client RequestError ServerVersion := do
  let info ← hostInfo answers
  pure info.appVersion

def httpsAddress (answers : InfoAnswers RequestError) : HostAction Client RequestError String := do
  let info ← hostInfo answers
  let host ← get
  pure (buildHttpsAddress host.address info.httpsPort)

def setPairingInfo (requests : RequestClient Client RequestError) (clientAuth : ClientAuth)
    (serverCertificate : Pem) : HostAction Client RequestError PUnit := do
  let client ← attempt (.api ∘ .requestClient)
    (requests.withCertificates clientAuth.privateKey clientAuth.certificate serverCertificate)
  modify fun host => clearCache { host with
    client := client
    paired := some ⟨clientAuth.privateKey, clientAuth.certificate, serverCertificate, none⟩ }

def verifyPaired (answers : InfoAnswers RequestError)
    (answer : Except (ApiError RequestError) HostInfo) :
    HostAction Client RequestError PairStatus := do
  let _ ← httpsAddress answers
  let info ← attempt .api answer
  modify fun host => { host with cacheInfo := some ⟨.https, info⟩ }
  pure info.pairStatus

def clearPairingInfo (requests : RequestClient Client RequestError) :
    HostAction Client RequestError PUnit := do
  let client ← attempt (.api ∘ .requestClient) requests.withDefaults
  modify fun host => { host with client := client, paired := none }

def unpair (requests : RequestClient Client RequestError)
    (answer : Except (ApiError RequestError) PUnit) : HostAction Client RequestError PUnit := do
  let host ← get
  check (host.isPaired = .paired) .notPaired
  attempt .api answer
  clearPairingInfo requests

/-- A pairing, started for this host. -/
def runPairing (pairing : Pairing Client RequestError α) : HostAction Client RequestError α :=
  match (perform pairing []).1 with
  | .ok value => pure value
  | .error (.error error) => fail (.pair error)
  | .error .panic => throw .panic

/-- What `pair` ends with once the host has proved itself. -/
def becomePaired (auth : ClientAuth) (success : PairSuccess Client) :
    HostAction Client RequestError PUnit := do
  modify fun host => { host with
    client := success.client
    paired := some ⟨auth.privateKey, auth.certificate, success.serverCertificate, none⟩ }
  let host ← get
  let cached ← expect host.cacheInfo
  set (clearCache { host with
    cacheInfo := some { cached with info := { cached.info with pairStatus := .paired } } })

/-- The answers to the requests of `pair`, in their order. -/
structure PairCallAnswers (RequestError : Type) where
  version : InfoAnswers RequestError
  httpsAddress : InfoAnswers RequestError
  pairing : PairAnswers RequestError

def pair (crypto : Crypto X509 PKey) (requests : RequestClient Client RequestError)
    (draws : Draws) (answers : PairCallAnswers RequestError) (auth : ClientAuth)
    (deviceName : String) (pin : PairPin) : HostAction Client RequestError PUnit := do
  let host ← get
  let serverVersion ← version answers.version
  let httpsAddress ← httpsAddress answers.httpsAddress
  let client ← attempt (.api ∘ .requestClient) requests.withDefaultsLongTimeout
  let success ← runPairing (hostPair crypto requests draws answers.pairing client
    host.httpAddress httpsAddress auth.privateKey auth.certificate deviceName serverVersion pin)
  becomePaired auth success

/-! ## Cached information -/

theorem perform_serve {host : MoonlightHost Client} (held : host.cacheInfo = some cached) :
    perform (serve : HostAction Client RequestError HostInfo) host =
      (.ok cached.info, { host with served := host.served ++ [⟨host.isPaired, cached.fetched⟩] }) := by
  rw [serve, perform_get_bind, held]
  rfl

theorem hostInfo_cached {host : MoonlightHost Client}
    {answers : InfoAnswers RequestError} (held : host.cacheInfo = some cached) :
    perform (hostInfo answers : HostAction Client RequestError HostInfo) host =
      (.ok cached.info, { host with served := host.served ++ [⟨host.isPaired, cached.fetched⟩] }) := by
  have passes : ¬(host.triedConnect = true ∧ host.cacheInfo.isSome = false) := by simp [held]
  have hit : host.cacheInfo.isSome = true := by rw [held]; rfl
  rw [hostInfo, perform_get_bind]
  dsimp only
  rw [check, if_pos passes, pure_bind, if_pos hit]
  exact perform_serve held

end MoonlightHost

end MoonlightWeb.MoonlightCommon

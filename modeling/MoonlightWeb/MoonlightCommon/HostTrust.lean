import MoonlightWeb.MoonlightCommon.Host
import MoonlightWeb.MoonlightCommon.PairOutcome
import MoonlightWeb.Lib.Machine

/-! What a host may be trusted for. Pairing changes who the host is taken to be
only when it proved itself. What it says of itself, once paired, should come from
the endpoint that it authenticates on, but a request that fails there leaves the
answer of the other one in the cache. -/
namespace MoonlightWeb.MoonlightCommon.MoonlightHost
open Throwing

variable {X509 PKey Client RequestError : Type} {host : MoonlightHost Client}
  {answers : InfoAnswers RequestError}

/-! ## Identity -/

/-- The request client and the keys stay; the cache may move. -/
structure SameIdentity (before after : MoonlightHost Client) : Prop where
  client : after.client = before.client
  paired : after.paired = before.paired

instance : Std.Refl (@SameIdentity Client) := ⟨fun _ => ⟨rfl, rfl⟩⟩

instance : IsTrans (MoonlightHost Client) SameIdentity :=
  ⟨fun _ _ _ first second =>
    ⟨second.client.trans first.client, second.paired.trans first.paired⟩⟩

section Identity
variable {R : MoonlightHost Client → MoonlightHost Client → Prop}

/-- A relation that does not look at what a host caches and hands out. -/
def IgnoresCache (R : MoonlightHost Client → MoonlightHost Client → Prop) : Prop :=
  ∀ host triedConnect cacheInfo served, R host { host with
    triedConnect := triedConnect
    cacheInfo := cacheInfo
    served := served }

theorem sameIdentity_ignores : IgnoresCache (@SameIdentity Client) := fun _ _ _ _ => ⟨rfl, rfl⟩

private theorem contact_within (ignores : IgnoresCache R)
    (answer : Except (ApiError RequestError) HostInfo) :
    Within R (contact answer : HostAction Client RequestError PUnit) := by
  intro host
  cases answer with
  | ok info => exact ignores host host.triedConnect (some ⟨.http, info⟩) host.served
  | error error => exact ignores host true host.cacheInfo host.served

private theorem serve_within (ignores : IgnoresCache R) :
    Within R (serve : HostAction Client RequestError HostInfo) := by
  intro host
  rw [serve, perform_get_bind]
  cases held : host.cacheInfo with
  | none => exact ignores host host.triedConnect host.cacheInfo host.served
  | some cached =>
    have related := ignores host host.triedConnect host.cacheInfo
      (host.served ++ [⟨host.isPaired, cached.fetched⟩])
    rw [held] at related
    exact related

variable [Std.Refl R] [IsTrans _ R]

private theorem authenticate_within (ignores : IgnoresCache R)
    (answer : Except (ApiError RequestError) HostInfo) :
    Within R (authenticate answer : HostAction Client RequestError PUnit) :=
  within_bind (within_attempt _ _) fun info host =>
    ignores host host.triedConnect (some ⟨.https, info⟩) host.served

theorem hostInfo_within (ignores : IgnoresCache R) (answers : InfoAnswers RequestError) :
    Within R (hostInfo answers : HostAction Client RequestError HostInfo) := by
  refine within_get_bind fun host => ?_
  refine within_bind (within_check _ _) fun _ => ?_
  split
  · exact serve_within ignores
  · refine within_bind (contact_within ignores _) fun _ => ?_
    split
    · exact within_bind (authenticate_within ignores _) fun _ => serve_within ignores
    · exact serve_within ignores

private theorem httpsAddress_within (ignores : IgnoresCache R)
    (answers : InfoAnswers RequestError) :
    Within R (httpsAddress answers : HostAction Client RequestError String) :=
  within_bind (hostInfo_within ignores answers) fun _ => within_get_bind fun _ => within_pure _

omit [IsTrans _ R] in
private theorem runPairing_within (pairing : Pairing Client RequestError α) :
    Within R (runPairing pairing : HostAction Client RequestError α) := by
  intro host
  unfold runPairing
  split <;> exact Std.Refl.refl host

/-- A host whose information was handed out has it cached. -/
private theorem hostInfo_caches
    (ran : perform (hostInfo answers : HostAction Client RequestError HostInfo) host =
      (.ok info, after)) : ∃ cached, after.cacheInfo = some cached := by
  have served {host after : MoonlightHost Client} {info : HostInfo}
      (ran : perform (serve : HostAction Client RequestError HostInfo) host = (.ok info, after)) :
      ∃ cached, after.cacheInfo = some cached := by
    rw [serve, perform_get_bind] at ran
    cases held : host.cacheInfo with
    | none =>
      rw [held] at ran
      cases ran
    | some cached =>
      rw [held] at ran
      cases ran
      exact ⟨cached, rfl⟩
  rw [hostInfo, perform_get_bind] at ran
  obtain ⟨-, middle, -, ran⟩ := perform_bind_eq_ok.mp ran
  split at ran
  · exact served ran
  · obtain ⟨-, contacted, -, ran⟩ := perform_bind_eq_ok.mp ran
    split at ran
    · obtain ⟨-, authenticated, -, ran⟩ := perform_bind_eq_ok.mp ran
      exact served ran
    · exact served ran

/-- A pairing that does not come to its end, even one that panics, has changed
nothing but the cache. -/
theorem pair_stops (ignores : IgnoresCache R) {crypto : Crypto X509 PKey}
    {requests : RequestClient Client RequestError} {draws : Draws}
    {answers : PairCallAnswers RequestError} {auth : ClientAuth} {deviceName : String}
    {pin : PairPin} (host : MoonlightHost Client) :
    StopsWithin R (pair crypto requests draws answers auth deviceName pin) host := by
  unfold pair
  refine stops_bind (fun _ => Std.Refl.refl _) fun host middle isHost => ?_
  have versionWithin : Within R (version answers.version : HostAction Client RequestError _) :=
    within_bind (hostInfo_within ignores _) fun _ => within_pure _
  refine stops_bind versionWithin fun version asked _ => ?_
  refine stops_bind (httpsAddress_within ignores _) fun httpsAddress addressed isAddress => ?_
  -- The cache has been filled by then, and what lies between leaves it.
  obtain ⟨info, informed, given, rest⟩ := perform_bind_eq_ok.mp isAddress
  obtain ⟨cached, held⟩ := hostInfo_caches given
  cases rest
  refine stops_bind (within_attempt _ _) fun client attempted isClient => ?_
  obtain ⟨-, same⟩ := perform_attempt_eq_ok.mp isClient
  subst same
  refine stops_bind (runPairing_within _) fun success paired isPairing => ?_
  have unchanged : paired = addressed := by
    unfold runPairing at isPairing
    split at isPairing <;> cases isPairing
    rfl
  subst unchanged
  -- Past the pairing itself nothing stops.
  intro stop after ran
  rw [becomePaired, perform_bind_ok (perform_modify _ _), perform_get_bind, held] at ran
  cases ran

theorem pair_onError {crypto : Crypto X509 PKey} {requests : RequestClient Client RequestError}
    {draws : Draws} {answers : PairCallAnswers RequestError} {auth : ClientAuth}
    {deviceName : String} {pin : PairPin} :
    OnError SameIdentity (pair crypto requests draws answers auth deviceName pin) :=
  onError_of_stops fun host => pair_stops sameIdentity_ignores host

end Identity

/-- Who a host is taken to be changes only by a pairing in which it proved that
it holds the certificate and was told the pin. -/
theorem pairing_sound (crypto : Crypto X509 PKey) (requests : RequestClient Client RequestError)
    (draws : Draws) (auth : ClientAuth) (deviceName : String) (pin : PairPin) :
    (∀ answers client httpAddress httpsAddress serverVersion sent success after,
      perform (hostPair crypto requests draws answers client httpAddress httpsAddress
        auth.privateKey auth.certificate deviceName serverVersion pin) sent = (.ok success, after) →
      Authenticated crypto draws answers pin success.serverCertificate ∧
        requests.withCertificates auth.privateKey auth.certificate success.serverCertificate =
          .ok success.client) ∧
    (∀ answers host error after,
      perform (pair crypto requests draws answers auth deviceName pin) host =
        (.error (.error error), after) →
      after.client = host.client ∧ after.paired = host.paired) := by
  constructor
  · intro answers client httpAddress httpsAddress serverVersion sent success after ran
    exact host_pair_authenticates ran
  · intro answers host error after ran
    have same := pair_onError host error after ran
    exact ⟨same.client, same.paired⟩

private def clearAuth : ClientAuth := ⟨⟨"PRIVATE KEY", [66]⟩, ⟨"CERTIFICATE", [67]⟩⟩

private def unanswered : PairCallAnswers Empty :=
  ⟨⟨.error .xmlRootNotFound, .error .xmlRootNotFound⟩,
    ⟨.error .xmlRootNotFound, .error .xmlRootNotFound⟩, honestAnswers⟩

/-- The honest host is authenticated, and one that does not answer leaves the
client as it was. -/
theorem honest_host_authenticates :
    Authenticated clearCrypto zeroDraws honestAnswers zeroPin ⟨"CERTIFICATE", [65]⟩ ∧
      (perform (pair clearCrypto clearRequests zeroDraws unanswered clearAuth "browser" zeroPin)
        (new 0 "host" 47989)).2.client = 0 := by
  have sound := pairing_sound clearCrypto clearRequests zeroDraws clearAuth "browser" zeroPin
  constructor
  · exact (sound.1 honestAnswers 1 "host:47989" "host:47984" ⟨7, 0, 0, 0⟩ [] ⟨2, "CERTIFICATE", [65]⟩
      _ rfl).1
  · exact (sound.2 unanswered (new 0 "host" 47989) (.api .xmlRootNotFound) _ rfl).1

/-! ## Information -/

/-- While the host was paired, all that was handed out came from the endpoint it
authenticates on. -/
def Trusted (host : MoonlightHost Client) : Prop :=
  ∀ served ∈ host.served, served.paired = .paired → served.fetched = .https

/-- The host is paired, but its cache holds what the plain endpoint said. -/
def Unverified (host : MoonlightHost Client) : Prop :=
  host.isPaired = .paired ∧ ∃ cached, host.cacheInfo = some cached ∧ cached.fetched = .http

theorem isPaired_of_same (same : SameIdentity before after) :
    after.isPaired = before.isPaired := by
  rw [isPaired, same.paired, isPaired]

section Info

/-- The host is paired, and only its plain endpoint answers. -/
def PlainOnly (host : MoonlightHost Client) (answers : InfoAnswers RequestError) : Prop :=
  host.isPaired = .paired ∧ (∃ info, answers.http = .ok info) ∧ ∃ error, answers.https = .error error

/-- With nothing cached: a failure hands out nothing, and what is handed out has
just been cached, from the right endpoint. -/
theorem hostInfo_fetches (empty : host.cacheInfo = none)
    (ran : perform (hostInfo answers : HostAction Client RequestError HostInfo) host =
      (result, after)) :
    (∃ error, result = .error (.error error)) ∧ after.served = host.served ∧
        (after.cacheInfo = none ∨ PlainOnly host answers) ∨
      ∃ cached, result = .ok cached.info ∧ after.cacheInfo = some cached ∧
        after.served = host.served ++ [⟨host.isPaired, cached.fetched⟩] ∧
        (host.isPaired = .paired → cached.fetched = .https) := by
  have miss : ¬host.cacheInfo.isSome = true := by simp [empty]
  rw [hostInfo, perform_get_bind] at ran
  dsimp only at ran
  by_cases passes : ¬(host.triedConnect = true ∧ host.cacheInfo.isSome = false)
  · rw [check, if_pos passes, pure_bind, if_neg miss] at ran
    cases answered : answers.http with
    | error error =>
      rw [answered, contact] at ran
      cases ran
      exact .inl ⟨⟨_, rfl⟩, rfl, .inl empty⟩
    | ok plain =>
      rw [answered, contact, perform_bind_ok (perform_modify _ _)] at ran
      by_cases paired : host.isPaired = .paired
      · rw [if_pos paired] at ran
        cases authenticated : answers.https with
        | error error =>
          rw [authenticated, authenticate] at ran
          cases ran
          exact .inl ⟨⟨_, rfl⟩, rfl, .inr ⟨paired, ⟨plain, answered⟩, error, authenticated⟩⟩
        | ok info =>
          rw [authenticated, authenticate] at ran
          cases ran
          exact .inr ⟨⟨.https, info⟩, rfl, rfl, rfl, fun _ => rfl⟩
      · rw [if_neg paired] at ran
        cases ran
        exact .inr ⟨⟨.http, plain⟩, rfl, rfl, rfl, fun is => absurd is paired⟩
  · rw [check, if_neg passes] at ran
    cases ran
    exact .inl ⟨⟨_, rfl⟩, rfl, .inl empty⟩

theorem trusted_append {served : Served} (appended : after.served = host.served ++ [served])
    (trusted : Trusted host) :
    Trusted after ↔ (served.paired = .paired → served.fetched = .https) := by
  unfold Trusted
  rw [appended]
  constructor
  · intro all
    exact all served (by simp)
  · intro last earlier member
    rcases List.mem_append.mp member with before | new
    · exact trusted earlier before
    · rw [List.mem_singleton.mp new]
      exact last

/-- A call of `host_info` is trustworthy exactly when the cache it finds is. -/
theorem hostInfo_trusted_iff (trusted : Trusted host)
    (ran : perform (hostInfo answers : HostAction Client RequestError HostInfo) host =
      (result, after)) : Trusted after ↔ ¬Unverified host := by
  cases held : host.cacheInfo with
  | none =>
    have verified : ¬Unverified host := by simp [Unverified, held]
    simp only [verified, not_false_eq_true, iff_true]
    obtain ⟨-, same, -⟩ | ⟨cached, -, -, appended, right⟩ := hostInfo_fetches held ran
    · rw [Trusted, same]
      exact trusted
    · exact (trusted_append appended trusted).mpr right
  | some cached =>
    rw [hostInfo_cached held] at ran
    cases ran
    rw [trusted_append rfl trusted, Unverified, held]
    cases fetched : cached.fetched <;> simp [fetched]

/-- The plain answer is left in the cache of a paired host only by a call that
found nothing there and could not reach the authenticated endpoint. -/
theorem hostInfo_verified (verified : ¬Unverified host)
    (ran : perform (hostInfo answers : HostAction Client RequestError HostInfo) host =
      (result, after)) (left : Unverified after) :
    (∃ error, result = .error (.error error)) ∧ PlainOnly host answers := by
  have same := hostInfo_within sameIdentity_ignores answers host
  rw [ran] at same
  obtain ⟨paired, found, isFound, plain⟩ := left
  rw [isPaired_of_same same] at paired
  cases held : host.cacheInfo with
  | none =>
    obtain ⟨failed, -, empty | only⟩ | ⟨cached, -, holds, -, right⟩ := hostInfo_fetches held ran
    · rw [empty] at isFound
      cases isFound
    · exact ⟨failed, only⟩
    · rw [holds] at isFound
      cases isFound
      rw [right paired] at plain
      cases plain
  | some cached =>
    rw [hostInfo_cached held] at ran
    cases ran
    exact absurd ⟨paired, found, isFound, plain⟩ verified

end Info

/-! ## Runs -/

/-- A call of the host's, with the answers to the requests it may make. -/
inductive HostCall (RequestError : Type) where
  | hostInfo (answers : InfoAnswers RequestError)
  | clearCache
  | setPairingInfo (clientAuth : ClientAuth) (serverCertificate : Pem)
  | pair (draws : Draws) (answers : PairCallAnswers RequestError) (auth : ClientAuth)
    (deviceName : String) (pin : PairPin)
  | verifyPaired (answers : InfoAnswers RequestError)
    (answer : Except (ApiError RequestError) HostInfo)
  | clearPairingInfo
  | unpair (answer : Except (ApiError RequestError) PUnit)

section Calls
variable (crypto : Crypto X509 PKey) (requests : RequestClient Client RequestError)

def HostCall.act : HostCall RequestError → HostAction Client RequestError PUnit
  | .hostInfo answers => do
    let _ ← MoonlightHost.hostInfo answers
    pure ⟨⟩
  | .clearCache => modify MoonlightHost.clearCache
  | .setPairingInfo clientAuth serverCertificate =>
    MoonlightHost.setPairingInfo requests clientAuth serverCertificate
  | .pair draws answers auth deviceName pin =>
    MoonlightHost.pair crypto requests draws answers auth deviceName pin
  | .verifyPaired answers answer => do
    let _ ← MoonlightHost.verifyPaired answers answer
    pure ⟨⟩
  | .clearPairingInfo => MoonlightHost.clearPairingInfo requests
  | .unpair answer => MoonlightHost.unpair requests answer

def step (host : MoonlightHost Client) (call : HostCall RequestError) :
    Option (MoonlightHost Client) :=
  some (perform (call.act crypto requests) host).2

/-- The call asks `host_info` before anything else. -/
def HostCall.Asks : HostCall RequestError → Prop
  | .hostInfo _ | .pair .. | .verifyPaired .. => True
  | .clearCache | .setPairingInfo .. | .clearPairingInfo | .unpair _ => False

end Calls

/-- What was handed out stays on record. -/
def Records (before after : MoonlightHost Client) : Prop := before.served <+: after.served

instance : Std.Refl (@Records Client) := ⟨fun _ => List.prefix_refl _⟩

instance : IsTrans (MoonlightHost Client) Records := ⟨fun _ _ _ first second => first.trans second⟩

theorem trusted_of_records (records : Records before after) (trusted : Trusted after) :
    Trusted before :=
  fun served member => trusted served (records.subset member)

/-- Nothing was handed out. -/
def Silent (before after : MoonlightHost Client) : Prop := after.served = before.served

instance : Std.Refl (@Silent Client) := ⟨fun _ => rfl⟩

instance : IsTrans (MoonlightHost Client) Silent :=
  ⟨fun _ _ _ first second => Eq.trans second first⟩

theorem Silent.records (silent : Silent before after) : Records before after :=
  ⟨[], (List.append_nil _).trans silent.symm⟩

theorem records_of_silent {action : HostAction Client RequestError α}
    (silent : Within Silent action) : Within Records action :=
  silent.mono fun _ _ => Silent.records

theorem trusted_of_silent (silent : Silent before after) (trusted : Trusted before) :
    Trusted after := by
  rw [Trusted, silent]
  exact trusted

section Steps
variable {crypto : Crypto X509 PKey} {requests : RequestClient Client RequestError}

private theorem setPairingInfo_silent (clientAuth : ClientAuth) (serverCertificate : Pem) :
    Within Silent (setPairingInfo requests clientAuth serverCertificate) :=
  within_bind (within_attempt _ _) fun _ _ => rfl

private theorem clearPairingInfo_silent : Within Silent (clearPairingInfo requests) :=
  within_bind (within_attempt _ _) fun _ _ => rfl

private theorem unpair_silent (answer : Except (ApiError RequestError) PUnit) :
    Within Silent (unpair requests answer) := by
  refine within_get_bind fun host => ?_
  refine within_bind (within_check _ _) fun _ => ?_
  exact within_bind (within_attempt _ _) fun _ => clearPairingInfo_silent

private theorem runPairing_silent (pairing : Pairing Client RequestError α) :
    Within Silent (runPairing pairing : HostAction Client RequestError α) := by
  intro host
  unfold runPairing
  split <;> rfl

private theorem becomePaired_silent (auth : ClientAuth) (success : PairSuccess Client) :
    Within Silent (becomePaired auth success : HostAction Client RequestError PUnit) := by
  intro host
  rw [becomePaired, perform_bind_ok (perform_modify _ _), perform_get_bind]
  cases host.cacheInfo <;> rfl

private theorem hostInfo_records (answers : InfoAnswers RequestError) :
    Within Records (hostInfo answers : HostAction Client RequestError HostInfo) := by
  intro host
  cases held : host.cacheInfo with
  | none =>
    rcases ran : perform (hostInfo answers : HostAction Client RequestError HostInfo) host
      with ⟨result, after⟩
    obtain ⟨-, same, -⟩ | ⟨cached, -, -, appended, -⟩ := hostInfo_fetches held ran
    · exact Silent.records same
    · rw [Records, appended]
      exact List.prefix_append _ _
  | some cached =>
    rw [hostInfo_cached held]
    exact List.prefix_append _ _

/-- A call that asks first is trustworthy exactly when the cache it finds is. -/
private theorem asks_trusted_iff {next : HostInfo → HostAction Client RequestError α}
    (trusted : Trusted host) (records : ∀ info, Within Records (next info))
    (rest : ∀ info middle, Trusted middle → ¬Unverified middle →
      Trusted (perform (next info) middle).2) :
    Trusted (perform (hostInfo answers >>= next) host).2 ↔ ¬Unverified host := by
  rcases ran : perform (hostInfo answers : HostAction Client RequestError HostInfo) host
    with ⟨error | info, middle⟩
  · rw [perform_bind_error ran]
    exact hostInfo_trusted_iff trusted ran
  · rw [perform_bind_ok ran]
    constructor
    · intro after
      have before := trusted_of_records (records info middle) after
      exact (hostInfo_trusted_iff trusted ran).mp before
    · intro verified
      refine rest info middle ((hostInfo_trusted_iff trusted ran).mpr verified) fun left => ?_
      obtain ⟨⟨error, failed⟩, -⟩ := hostInfo_verified verified ran left
      cases failed

private theorem asks_once_trusted_iff {next : HostInfo → HostAction Client RequestError α}
    (trusted : Trusted host) (silent : ∀ info, Within Silent (next info)) :
    Trusted (perform (hostInfo answers >>= next) host).2 ↔ ¬Unverified host :=
  asks_trusted_iff trusted (fun info => records_of_silent (silent info))
    fun info middle kept _ => trusted_of_silent (silent info middle) kept

theorem act_trusted_iff (trusted : Trusted host) (call : HostCall RequestError) :
    Trusted (perform (call.act crypto requests) host).2 ↔ (call.Asks → ¬Unverified host) := by
  have quiet {action : HostAction Client RequestError PUnit} (silent : Within Silent action) :
      Trusted (perform action host).2 := trusted_of_silent (silent host) trusted
  cases call with
  | clearCache =>
    have kept : Trusted host.clearCache := trusted
    simp [HostCall.Asks, HostCall.act, kept]
  | setPairingInfo clientAuth serverCertificate =>
    simp [HostCall.Asks, HostCall.act, quiet (setPairingInfo_silent clientAuth serverCertificate)]
  | clearPairingInfo => simp [HostCall.Asks, HostCall.act, quiet clearPairingInfo_silent]
  | unpair answer => simp [HostCall.Asks, HostCall.act, quiet (unpair_silent answer)]
  | hostInfo answers =>
    rw [HostCall.act, asks_once_trusted_iff trusted fun _ => within_pure _]
    simp [HostCall.Asks]
  | verifyPaired answers answer =>
    rw [HostCall.act, verifyPaired, httpsAddress]
    simp only [bind_assoc, pure_bind]
    rw [asks_once_trusted_iff trusted]
    · simp [HostCall.Asks]
    · intro info
      refine within_get_bind fun _ => within_bind (within_attempt _ _) fun verified => ?_
      exact within_bind (fun _ => rfl) fun _ => within_pure _
  | pair draws answers auth deviceName pin =>
    rw [HostCall.act, pair, perform_get_bind, version, httpsAddress]
    simp only [bind_assoc, pure_bind]
    have rest (serverVersion : ServerVersion) (info : HostInfo) : Within Silent (do
        let current ← get
        let client ← attempt (.api ∘ .requestClient) requests.withDefaultsLongTimeout
        let success ← runPairing (hostPair crypto requests draws answers.pairing client
          host.httpAddress (buildHttpsAddress current.address info.httpsPort) auth.privateKey
          auth.certificate deviceName serverVersion pin)
        becomePaired auth success : HostAction Client RequestError PUnit) := by
      refine within_get_bind fun _ => within_bind (within_attempt _ _) fun client => ?_
      exact within_bind (runPairing_silent _) fun success => becomePaired_silent auth success
    rw [asks_trusted_iff trusted]
    · simp [HostCall.Asks]
    · intro first
      exact within_bind (hostInfo_records _) fun second =>
        records_of_silent (rest first.appVersion second)
    · intro first middle kept verified
      exact (asks_once_trusted_iff kept (rest first.appVersion)).mpr verified

end Steps

/-- In every run the host hands out, while paired, only what came from the
endpoint it authenticates on, exactly when no call asks for information while the
cache of the paired host holds the answer of the plain one. A `host_info` leaves it there
only where the plain endpoint answered and the other one failed. -/
theorem host_info_trusted_iff (crypto : Crypto X509 PKey)
    (requests : RequestClient Client RequestError) (client : Client) (address : String)
    (httpPort : UInt16) (calls : List (HostCall RequestError)) :
    (Machine.Along (step crypto requests) (fun _ _ after => Trusted after)
        (new client address httpPort) calls ↔
      Machine.Along (step crypto requests) (fun host call _ => call.Asks → ¬Unverified host)
        (new client address httpPort) calls) ∧
    ∀ (host : MoonlightHost Client) (answers : InfoAnswers RequestError), ¬Unverified host →
      Unverified (perform (hostInfo answers) host).2 →
        (∃ error, (perform (hostInfo answers) host).1 = .error (.error error)) ∧
          PlainOnly host answers := by
  refine ⟨?_, fun host answers verified left => hostInfo_verified verified rfl left⟩
  apply Machine.along_iff Trusted
  · intro host call after trusted taken
    cases taken
    exact act_trusted_iff trusted call
  · intro host call after trusted taken calm
    cases taken
    exact (act_trusted_iff trusted call).mpr calm
  · intro served member
    cases member

private def hostSays : HostInfo where
  hostName := "host"
  appVersion := ⟨7, 1, 431, 0⟩
  gfeVersion := "3.23.0.74"
  uniqueId := 1
  httpsPort := 47984
  externalPort := 47989
  maxLumaPixelsHevc := 0
  mac := none
  localIp := "10.0.0.2"
  serverCodecModeSupport := 3
  pairStatus := .paired
  currentGame := 0
  stateString := "SUNSHINE_SERVER_FREE"
  state := .free

/-- A paired host is asked twice, and the first time its authenticated endpoint
does not answer: the second caller gets what the plain one said. -/
theorem plain_info_served :
    ∃ final, Machine.run (step clearCrypto clearRequests) (new 0 "host" 47989)
      [.setPairingInfo clearAuth ⟨"CERTIFICATE", [65]⟩,
        .hostInfo ⟨.ok hostSays, .error .xmlRootNotFound⟩,
        .hostInfo ⟨.ok hostSays, .error .xmlRootNotFound⟩] = some final ∧ ¬Trusted final := by
  refine ⟨_, rfl, ?_⟩
  intro trusted
  have wrong := trusted ⟨.paired, .http⟩ (List.mem_singleton.mpr rfl) rfl
  cases wrong

end MoonlightWeb.MoonlightCommon.MoonlightHost

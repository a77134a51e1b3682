import MoonlightWeb.Lib.Slab
import MoonlightWeb.MoonlightCommon.HostTrust
import Mathlib.Data.List.ReduceOption

/-! The data file. Requests change the hosts and ask for a save; one task writes them
all out, however many asked in the meantime. It locks host after host, so what it
writes need not be the hosts of any one moment. -/
namespace MoonlightWeb.WebServer.DataFile
open Machine Throwing MoonlightCommon

structure HostCache where
  name : Option String
  mac : Option MacAddress
  deriving DecidableEq, Repr

structure PairedHost where
  clientPrivateKey : String
  clientCertificate : String
  serverCertificate : String
  deriving DecidableEq, Repr

structure Host where
  address : String
  httpPort : UInt16
  cache : HostCache
  paired : Option PairedHost
  deriving DecidableEq, Repr

structure ApiData where
  hosts : List Host
  deriving DecidableEq, Repr

structure RuntimeApiHost (Client : Type) where
  cache : HostCache
  moonlight : MoonlightHost Client

variable {X509 PKey Client RequestError : Type}

/-- `encode` is the text of a PEM. -/
def extractPaired (encode : Pem → String) (host : MoonlightHost Client) : Option PairedHost := do
  let clientPrivateKey ← host.paired.map Paired.clientPrivateKey
  let clientCertificate ← host.paired.map Paired.clientCertificate
  let serverCertificate ← host.paired.map Paired.serverCertificate
  some ⟨encode clientPrivateKey, encode clientCertificate, encode serverCertificate⟩

def saveHost (encode : Pem → String) (host : RuntimeApiHost Client) : Host where
  address := host.moonlight.address
  httpPort := host.moonlight.httpPort
  cache := host.cache
  paired := extractPaired encode host.moonlight

/-- `save`, were nothing to happen in between. -/
def save (encode : Pem → String) (hosts : Slab (RuntimeApiHost Client)) : ApiData :=
  ⟨(hosts.view (saveHost encode)).reduceOption⟩

/-- The first half of `try_recache`, and whether it changed the cache. -/
def recacheName (answers : InfoAnswers RequestError) (host : RuntimeApiHost Client) :
    RuntimeApiHost Client × Bool :=
  let asked := perform (MoonlightHost.hostName answers) host.moonlight
  match asked.1 with
  | .ok name => (⟨{ host.cache with name := some name }, asked.2⟩, true)
  | .error _ => (⟨host.cache, asked.2⟩, false)

/-- Its second half. -/
def recacheMac (answers : InfoAnswers RequestError) (host : RuntimeApiHost Client) :
    RuntimeApiHost Client × Bool :=
  let asked := perform (MoonlightHost.mac answers) host.moonlight
  match asked.1 with
  | .ok (some mac) => (⟨{ host.cache with mac := some mac }, asked.2⟩, true)
  | .ok none | .error _ => (⟨host.cache, asked.2⟩, false)

inductive ApiRequest (Client : Type) where
  | getHost (hostId : Nat) (forceRefresh : Bool)
  | putHost (client : Client) (address : String) (httpPort : UInt16)
  | deleteHost (hostId : Nat)
  | pairHost (hostId : Nat)

/-- Where a request stands: before it reads the hosts, before it has the lock of one,
at what it does there, and before it answers. -/
inductive Handler (Client : Type) where
  | getHost (hostId : Nat) (forceRefresh : Bool)
  | getLock (hostId : Nat) (forceRefresh : Bool)
  | recacheName (hostId : Nat)
  | recacheMac (hostId : Nat) (changed : Bool)
  | recached (hostId : Nat) (changed : Bool)
  | putMac (host : MoonlightHost Client)
  | putName (host : MoonlightHost Client) (mac : Option MacAddress)
  | putInsert (host : MoonlightHost Client) (cache : HostCache)
  | putRead (hostId : Nat)
  | putLock (hostId : Nat)
  | putSave (hostId : Nat)
  | deleteHost (hostId : Nat)
  | deleted
  | pairHost (hostId : Nat)
  | pairCheck (hostId : Nat)
  | pairStream (hostId : Nat)
  | pairLock (hostId : Nat)
  | pairing (hostId : Nat)
  | paired (hostId : Nat)
  | respond (hostId : Nat)
  | finished

namespace Handler

def ofRequest : ApiRequest Client → Handler Client
  | .getHost hostId forceRefresh => .getHost hostId forceRefresh
  | .putHost client address httpPort => .putMac (.new client address httpPort)
  | .deleteHost hostId => .deleteHost hostId
  | .pairHost hostId => .pairHost hostId

/-- The host whose lock it holds. -/
def holds : Handler Client → Option Nat
  | .recacheName hostId | .recacheMac hostId _ | .recached hostId _ | .putSave hostId
  | .pairing hostId | .paired hostId | .respond hostId => some hostId
  | _ => none

/-- It reads the hosts, so that none may come or go. -/
def reads : Handler Client → Bool
  | .getLock _ _ | .putLock _ | .pairCheck _ | .pairLock _ => true
  | handler => handler.holds.isSome

/-- It has changed a host and is yet to ask for a save. -/
def pending : Handler Client → Bool
  | .recacheMac _ changed | .recached _ changed => changed
  | .putRead _ | .putLock _ | .putSave _ | .deleted | .paired _ => true
  | _ => false

end Handler

/-- Where the file writer stands: before the next request, before it reads the hosts,
at the slot that comes next with the hosts so far, and at the file. -/
inductive FileWriter where
  | receiving
  | reading
  | saving (next : Nat) (output : List Host)
  | writing (data : ApiData)

/-- It reads the hosts while it saves them. -/
def FileWriter.reads : FileWriter → Bool
  | .saving _ _ => true
  | _ => false

/-- What the writer has made of the file since the start. -/
inductive File where
  | loaded
  | holds (data : ApiData)
  | torn

/-- `requested` is the channel to the writer, which has room for one request. -/
structure RuntimeApiData (Client : Type) where
  hosts : Slab (RuntimeApiHost Client)
  handlers : List (Handler Client)
  requested : Bool
  writer : FileWriter
  file : File

namespace RuntimeApiData

/-- Hosts that fail to load are left out. -/
def load (loadedHosts : List (Option (RuntimeApiHost Client))) : RuntimeApiData Client where
  hosts := loadedHosts.reduceOption.foldl Slab.insert .empty
  handlers := []
  requested := false
  writer := .receiving
  file := .loaded

def trySend (data : RuntimeApiData Client) : Option (RuntimeApiData Client) :=
  if data.requested then none else some { data with requested := true }

def requestSave (data : RuntimeApiData Client) : RuntimeApiData Client := data.trySend.getD data

def modifyHost (data : RuntimeApiData Client) (hostId : Nat)
    (change : RuntimeApiHost Client → RuntimeApiHost Client) : RuntimeApiData Client :=
  { data with hosts := data.hosts.modify hostId change }

def LockFree (data : RuntimeApiData Client) (hostId : Nat) : Prop :=
  ∀ handler ∈ data.handlers, handler.holds ≠ some hostId

/-- The lock of the hosts is free for a writer. -/
def Unread (data : RuntimeApiData Client) : Prop :=
  (∀ handler ∈ data.handlers, handler.reads = false) ∧ data.writer.reads = false

instance (data : RuntimeApiData Client) (hostId : Nat) : Decidable (data.LockFree hostId) :=
  inferInstanceAs (Decidable (∀ handler ∈ data.handlers, handler.holds ≠ some hostId))

instance (data : RuntimeApiData Client) : Decidable data.Unread :=
  inferInstanceAs (Decidable (_ ∧ _))

/-- A handler reads the hosts and looks for the one it was asked about. -/
def find (data : RuntimeApiData Client) (hostId : Nat) (found : Handler Client) :
    RuntimeApiData Client × Handler Client :=
  (data, if (data.hosts.get hostId).isSome then found else .finished)

/-- A handler goes on to its next await. -/
def runHandler (data : RuntimeApiData Client) :
    Handler Client → Option (RuntimeApiData Client × Handler Client)
  | .getHost hostId forceRefresh => some (data.find hostId (.getLock hostId forceRefresh))
  | .getLock hostId forceRefresh =>
    if data.LockFree hostId then
      some (if forceRefresh then data.modifyHost hostId fun host =>
        { host with moonlight := host.moonlight.clearCache } else data, .recacheName hostId)
    else none
  | .recached hostId changed =>
    some (if changed then data.requestSave else data, .respond hostId)
  | .putInsert host cache =>
    if data.Unread then
      some ({ data with hosts := data.hosts.insert ⟨cache, host⟩ }, .putRead data.hosts.vacantKey)
    else none
  | .putRead hostId => some (data.find hostId (.putLock hostId))
  | .putLock hostId => if data.LockFree hostId then some (data, .putSave hostId) else none
  | .putSave hostId => some (data.requestSave, .respond hostId)
  | .deleteHost hostId =>
    if data.Unread then
      match data.hosts.tryRemove hostId with
      | none => some (data, .finished)
      | some removed => some ({ data with hosts := removed.2 }, .deleted)
    else none
  | .deleted => some (data.requestSave, .finished)
  | .pairHost hostId => some (data.find hostId (.pairCheck hostId))
  | .pairCheck hostId =>
    if data.LockFree hostId then
      some (data, match data.hosts.get hostId with
        | some host => if host.moonlight.isPaired = .paired then .finished else .pairStream hostId
        | none => .finished)
    else none
  | .pairStream hostId => some (data.find hostId (.pairLock hostId))
  | .pairLock hostId => if data.LockFree hostId then some (data, .pairing hostId) else none
  | .paired hostId => some (data.requestSave, .respond hostId)
  | .respond _ => some (data, .finished)
  | .recacheName _ | .recacheMac _ _ | .putMac _ | .putName _ _ | .pairing _ | .finished => none

/-- A host is asked about itself. -/
def answerHandler (data : RuntimeApiData Client) (answers : InfoAnswers RequestError) :
    Handler Client → Option (RuntimeApiData Client × Handler Client)
  | .recacheName hostId => (data.hosts.get hostId).map fun host =>
    let recached := recacheName answers host
    (data.modifyHost hostId fun _ => recached.1, .recacheMac hostId recached.2)
  | .recacheMac hostId changed => (data.hosts.get hostId).map fun host =>
    let recached := recacheMac answers host
    (data.modifyHost hostId fun _ => recached.1, .recached hostId (changed || recached.2))
  | .putMac host =>
    let asked := perform (MoonlightHost.mac answers) host
    match asked.1 with
    | .ok mac => some (data, .putName asked.2 mac)
    | .error _ => some (data, .finished)
  | .putName host mac =>
    let asked := perform (MoonlightHost.hostName answers) host
    match asked.1 with
    | .ok name => some (data, .putInsert asked.2 ⟨some name, mac⟩)
    | .error _ => some (data, .finished)
  | _ => none

/-- What a pairing draws and is answered. -/
structure PairCall (RequestError : Type) where
  draws : Draws
  answers : MoonlightHost.PairCallAnswers RequestError
  auth : ClientAuth
  deviceName : String
  pin : PairPin

def pairHandler (crypto : MoonlightCommon.Crypto X509 PKey) (requests : RequestClient Client RequestError)
    (data : RuntimeApiData Client) (call : PairCall RequestError) :
    Handler Client → Option (RuntimeApiData Client × Handler Client)
  | .pairing hostId => (data.hosts.get hostId).map fun host =>
    let ran := perform (MoonlightHost.pair crypto requests call.draws call.answers
      call.auth call.deviceName call.pin) host.moonlight
    (data.modifyHost hostId fun _ => { host with moonlight := ran.2 },
      match ran.1 with
      | .ok _ => .paired hostId
      | .error _ => .finished)
  | _ => none

/-- The file writer up to the file. -/
def runWriter (encode : Pem → String) (data : RuntimeApiData Client) :
    Option (RuntimeApiData Client) :=
  match data.writer with
  | .receiving =>
    if data.requested then some { data with requested := false, writer := .reading } else none
  | .reading => some { data with writer := .saving 0 [] }
  | .saving next output =>
    match data.hosts.slots[next]? with
    | none => some { data with writer := .writing ⟨output⟩ }
    | some none => some { data with writer := .saving (next + 1) output }
    | some (some host) =>
      if data.LockFree next then
        some { data with writer := .saving (next + 1) (output ++ [saveHost encode host]) }
      else none
  | .writing _ => none

/-- What became of a write: the data is not serialised, or not written whole. -/
inductive WriteResult where
  | written
  | notSerialized
  | notWritten

def write (data : RuntimeApiData Client) (result : WriteResult) :
    Option (RuntimeApiData Client) :=
  match data.writer with
  | .writing saved =>
    match result with
    | .written => some { data with writer := .receiving, file := .holds saved }
    | .notSerialized => some { data with writer := .receiving }
    | .notWritten => some { data with writer := .receiving, file := .torn }
  | _ => none

/-- `dropped` is a request that is given up, as when its browser is gone. -/
inductive Event (Client RequestError : Type) where
  | request (request : ApiRequest Client)
  | run (handler : Nat)
  | answered (handler : Nat) (answers : InfoAnswers RequestError)
  | pair (handler : Nat) (call : PairCall RequestError)
  | dropped (handler : Nat)
  | writer
  | write (result : WriteResult)

def advance (data : RuntimeApiData Client) (index : Nat)
    (go : Handler Client → Option (RuntimeApiData Client × Handler Client)) :
    Option (RuntimeApiData Client) :=
  data.handlers[index]?.bind fun handler => (go handler).map fun ran =>
    { ran.1 with handlers := ran.1.handlers.set index ran.2 }

def step (crypto : MoonlightCommon.Crypto X509 PKey) (requests : RequestClient Client RequestError)
    (encode : Pem → String) (data : RuntimeApiData Client) :
    Event Client RequestError → Option (RuntimeApiData Client)
  | .request request => some { data with handlers := data.handlers ++ [.ofRequest request] }
  | .run index => data.advance index data.runHandler
  | .answered index answers => data.advance index (data.answerHandler answers)
  | .pair index call => data.advance index (pairHandler crypto requests data call)
  | .dropped index => data.advance index fun _ => some (data, .finished)
  | .writer => data.runWriter encode
  | .write result => data.write result

end RuntimeApiData

/-! ## What a handler does to what is saved -/

/-- Of a host's client, the same is saved. -/
structure SameSaved (encode : Pem → String) (before after : MoonlightHost Client) : Prop where
  address : after.address = before.address
  httpPort : after.httpPort = before.httpPort
  paired : extractPaired encode after = extractPaired encode before

variable {encode : Pem → String}

instance : Std.Refl (@SameSaved Client encode) := ⟨fun _ => ⟨rfl, rfl, rfl⟩⟩

instance : IsTrans (MoonlightHost Client) (SameSaved encode) :=
  ⟨fun _ _ _ first second => ⟨second.address.trans first.address,
    second.httpPort.trans first.httpPort, second.paired.trans first.paired⟩⟩

theorem sameSaved_ignores : MoonlightHost.IgnoresCache (@SameSaved Client encode) :=
  fun _ _ _ _ => ⟨rfl, rfl, rfl⟩

theorem sameSaved_clearCache (host : MoonlightHost Client) :
    SameSaved encode host host.clearCache := by
  refine ⟨rfl, rfl, ?_⟩
  unfold extractPaired MoonlightHost.clearCache
  cases host.paired <;> rfl

theorem saveHost_of_same {moonlight : MoonlightHost Client} (host : RuntimeApiHost Client)
    (same : SameSaved encode host.moonlight moonlight) :
    saveHost encode { host with moonlight := moonlight } = saveHost encode host := by
  unfold saveHost
  rw [same.address, same.httpPort, same.paired]

/-- A host that is not told to have changed is saved as before. -/
theorem recacheName_same (answers : InfoAnswers RequestError) (host : RuntimeApiHost Client)
    (unchanged : (recacheName answers host).2 = false) :
    saveHost encode (recacheName answers host).1 = saveHost encode host := by
  have asked : Within (@SameSaved Client encode) (MoonlightHost.hostName answers) :=
    within_bind (MoonlightHost.hostInfo_within sameSaved_ignores answers) fun _ => within_pure _
  unfold recacheName at unchanged ⊢
  dsimp only at unchanged ⊢
  split at unchanged
  · cases unchanged
  · exact saveHost_of_same host (asked host.moonlight)

theorem recacheMac_same (answers : InfoAnswers RequestError) (host : RuntimeApiHost Client)
    (unchanged : (recacheMac answers host).2 = false) :
    saveHost encode (recacheMac answers host).1 = saveHost encode host := by
  have asked : Within (@SameSaved Client encode) (MoonlightHost.mac answers) :=
    within_bind (MoonlightHost.hostInfo_within sameSaved_ignores answers) fun _ => within_pure _
  unfold recacheMac at unchanged ⊢
  dsimp only at unchanged ⊢
  split at unchanged
  · cases unchanged
  · exact saveHost_of_same host (asked host.moonlight)
  · exact saveHost_of_same host (asked host.moonlight)

namespace Handler

/-- It is sure to ask for a save: the host it has added is still there. -/
def WillSave (hosts : Slab (RuntimeApiHost Client)) : Handler Client → Prop
  | .putRead hostId => (hosts.get hostId).isSome = true
  | handler => handler.pending = true

theorem pending_of_willSave {hosts : Slab (RuntimeApiHost Client)} {handler : Handler Client}
    (will : handler.WillSave hosts) : handler.pending = true := by
  cases handler with
  | putRead hostId => rfl
  | _ => exact will

/-- Where the same is saved, the same hosts are there. -/
theorem WillSave.of_view {before after : Slab (RuntimeApiHost Client)} {handler : Handler Client}
    (will : handler.WillSave before)
    (same : after.view (saveHost encode) = before.view (saveHost encode)) :
    handler.WillSave after := by
  cases handler with
  | putRead hostId =>
    have found := Slab.view_get (saveHost encode) after hostId
    rw [same, Slab.view_get] at found
    have present := congrArg Option.isSome found
    rw [Option.isSome_map, Option.isSome_map] at present
    exact present.symm.trans will
  | _ => exact will

end Handler

namespace RuntimeApiData

variable {data : RuntimeApiData Client}

@[simp] theorem requestSave_requested (data : RuntimeApiData Client) :
    data.requestSave.requested = true := by
  unfold requestSave trySend
  split
  · assumption
  · rfl

/-- A request for a save changes nothing but the channel. -/
theorem requestSave_eq (data : RuntimeApiData Client) :
    data.requestSave = { data with requested := true } := by
  unfold requestSave trySend
  split
  · rename_i requested
    rw [← requested]
    rfl
  · rfl

/-- What a step of a handler may do: either it has changed a host and will ask for a
save, or the same is saved and the save it would have asked for is requested. -/
structure HandlerStep (encode : Pem → String) (data : RuntimeApiData Client)
    (handler : Handler Client) (ran : RuntimeApiData Client × Handler Client) : Prop where
  handlers : ran.1.handlers = data.handlers
  writer : ran.1.writer = data.writer
  file : ran.1.file = data.file
  requested : data.requested = true → ran.1.requested = true
  saves : ran.2.WillSave ran.1.hosts ∨
    ran.1.hosts.view (saveHost encode) = data.hosts.view (saveHost encode) ∧
      (handler.WillSave data.hosts → ran.1.requested = true)

namespace HandlerStep

/-- A handler that does nothing it would have to save. -/
theorem idle {after : Handler Client} (harmless : ¬ handler.WillSave data.hosts) :
    HandlerStep encode data handler (data, after) :=
  ⟨rfl, rfl, rfl, id, .inr ⟨rfl, fun will => absurd will harmless⟩⟩

theorem goesOn {after : Handler Client} (will : after.WillSave data.hosts) :
    HandlerStep encode data handler (data, after) := ⟨rfl, rfl, rfl, id, .inl will⟩

theorem requests (handler after : Handler Client) :
    HandlerStep encode data handler (data.requestSave, after) := by
  rw [requestSave_eq]
  exact ⟨rfl, rfl, rfl, fun _ => rfl, .inr ⟨rfl, fun _ => rfl⟩⟩

theorem found (hostId : Nat) {after : Handler Client} (harmless : ¬ handler.WillSave data.hosts) :
    HandlerStep encode data handler (data.find hostId after) := idle harmless

/-- A handler that changes the host it holds, and tells what changed. -/
theorem modifies {after : Handler Client} (hostId : Nat)
    {change : RuntimeApiHost Client → RuntimeApiHost Client}
    (will : handler.WillSave data.hosts → after.pending = true)
    (tells : after.pending = false → ∀ host, data.hosts.get hostId = some host →
      saveHost encode (change host) = saveHost encode host)
    (settled : after.pending = true → ∀ hosts, after.WillSave hosts) :
    HandlerStep encode data handler (data.modifyHost hostId change, after) := by
  refine ⟨rfl, rfl, rfl, id, ?_⟩
  cases pending : after.pending with
  | true => exact .inl (settled pending _)
  | false =>
    right
    refine ⟨Slab.view_modify _ _ _ (tells pending), fun earlier => ?_⟩
    rw [will earlier] at pending
    cases pending

end HandlerStep

theorem runHandler_step {handler : Handler Client} (taken : data.runHandler handler = some ran) :
    HandlerStep encode data handler ran := by
  cases handler with
  | getHost hostId forceRefresh =>
    cases taken
    exact .found hostId nofun
  | getLock hostId forceRefresh =>
    obtain ⟨-, same⟩ := Option.ite_none_right_eq_some.mp taken
    cases same
    cases forceRefresh with
    | false => exact .idle nofun
    | true =>
      refine .modifies hostId nofun ?_ ?_
      · intro _ host _
        exact saveHost_of_same host (sameSaved_clearCache host.moonlight)
      · exact nofun
  | recached hostId changed =>
    cases taken
    cases changed with
    | false => exact .idle nofun
    | true => exact .requests _ _
  | putInsert host cache =>
    obtain ⟨-, same⟩ := Option.ite_none_right_eq_some.mp taken
    cases same
    refine ⟨rfl, rfl, rfl, id, .inl ?_⟩
    change ((data.hosts.insert _).get data.hosts.vacantKey).isSome = true
    rw [Slab.get_insert]
    rfl
  | putRead hostId =>
    -- Should the host be gone, then whoever removed it asks for a save.
    cases taken
    by_cases present : (data.hosts.get hostId).isSome = true
    · unfold find
      rw [if_pos present]
      exact .goesOn rfl
    · exact .found hostId present
  | putLock hostId =>
    obtain ⟨-, same⟩ := Option.ite_none_right_eq_some.mp taken
    cases same
    exact .goesOn rfl
  | putSave hostId | deleted | paired hostId =>
    cases taken
    exact .requests _ _
  | deleteHost hostId =>
    obtain ⟨-, taken⟩ := Option.ite_none_right_eq_some.mp taken
    split at taken
    · cases taken
      exact .idle nofun
    · cases taken
      exact ⟨rfl, rfl, rfl, id, .inl rfl⟩
  | pairHost hostId | pairStream hostId =>
    cases taken
    exact .found hostId nofun
  | pairCheck hostId | pairLock hostId =>
    obtain ⟨-, same⟩ := Option.ite_none_right_eq_some.mp taken
    cases same
    exact .idle nofun
  | respond hostId =>
    cases taken
    exact .idle nofun
  | recacheName _ | recacheMac _ _ | putMac _ | putName _ _ | pairing _ | finished => cases taken

theorem answerHandler_step {handler : Handler Client} {answers : InfoAnswers RequestError}
    (taken : data.answerHandler answers handler = some ran) :
    HandlerStep encode data handler ran := by
  cases handler with
  | recacheName hostId =>
    obtain ⟨host, isHost, same⟩ := Option.map_eq_some_iff.mp taken
    cases same
    refine .modifies hostId nofun ?_ ?_
    · intro unchanged other isOther
      rw [isHost] at isOther
      cases isOther
      exact recacheName_same answers host unchanged
    · exact fun will _ => will
  | recacheMac hostId changed =>
    obtain ⟨host, isHost, same⟩ := Option.map_eq_some_iff.mp taken
    cases same
    apply HandlerStep.modifies hostId
    · intro will
      change (changed || _) = true
      rw [show changed = true from will, Bool.true_or]
    · intro unchanged other isOther
      rw [isHost] at isOther
      cases isOther
      exact recacheMac_same answers host (Bool.or_eq_false_iff.mp unchanged).2
    · exact fun will _ => will
  | putMac host | putName host mac =>
    unfold answerHandler at taken
    dsimp only at taken
    split at taken <;>
    · cases taken
      exact .idle nofun
  | _ => cases taken

theorem pairHandler_step {crypto : MoonlightCommon.Crypto X509 PKey}
    {requests : RequestClient Client RequestError} {call : PairCall RequestError}
    {handler : Handler Client} (taken : pairHandler crypto requests data call handler = some ran) :
    HandlerStep encode data handler ran := by
  cases handler with
  | pairing hostId =>
    obtain ⟨host, isHost, same⟩ := Option.map_eq_some_iff.mp taken
    cases same
    refine .modifies hostId nofun ?_ ?_
    · intro unpaired other isOther
      rw [isHost] at isOther
      cases isOther
      apply saveHost_of_same
      split at unpaired
      · cases unpaired
      · rename_i stop stopped
        exact MoonlightHost.pair_stops sameSaved_ignores host.moonlight stop _
          (Prod.ext stopped rfl)
    · intro paired hosts
      split at paired
      · rfl
      · cases paired
  | _ => cases taken

/-! ## Nothing is lost -/

/-- What the writer has so far is how the hosts are now. -/
def Fresh (encode : Pem → String) (loaded : ApiData) (data : RuntimeApiData Client) : Prop :=
  match data.writer with
  | .receiving =>
    data.file = .holds (save encode data.hosts) ∨
      data.file = .loaded ∧ save encode data.hosts = loaded
  | .reading => True
  | .saving next output => output = ((data.hosts.view (saveHost encode)).take next).reduceOption
  | .writing saved => saved = save encode data.hosts

/-- Should the writer have missed a change, then it is asked to save again, or will be. -/
def Covered (encode : Pem → String) (loaded : ApiData) (data : RuntimeApiData Client) : Prop :=
  data.requested = true ∨ (∃ handler ∈ data.handlers, handler.WillSave data.hosts) ∨
    data.Fresh encode loaded

/-- With nothing left to do, the file holds what is saved of the hosts; one that has
never been written holds what was loaded. -/
def Saved (encode : Pem → String) (loaded : ApiData) (data : RuntimeApiData Client) : Prop :=
  data.writer = .receiving → data.requested = false →
    (∀ handler ∈ data.handlers, handler.pending = false) →
      data.file = .holds (save encode data.hosts) ∨
        data.file = .loaded ∧ save encode data.hosts = loaded

/-- A request is not given up between its change and its save, and writes succeed. -/
def Undisturbed (data : RuntimeApiData Client) : Event Client RequestError → Prop
  | .dropped index => ∀ handler, data.handlers[index]? = some handler → handler.pending = false
  | .write result => result = .written
  | _ => True

theorem Covered.saved (covered : data.Covered encode loaded) : data.Saved encode loaded := by
  intro idle unrequested settled
  obtain requested | ⟨handler, member, will⟩ | fresh := covered
  · rw [unrequested] at requested
    cases requested
  · have pending := Handler.pending_of_willSave will
    rw [settled handler member] at pending
    cases pending
  · rw [Fresh, idle] at fresh
    exact fresh

theorem Fresh.of_same {before after : RuntimeApiData Client} (fresh : before.Fresh encode loaded)
    (writer : after.writer = before.writer) (file : after.file = before.file)
    (view : after.hosts.view (saveHost encode) = before.hosts.view (saveHost encode)) :
    after.Fresh encode loaded := by
  unfold Fresh save at fresh ⊢
  rw [writer, file, view]
  exact fresh

theorem advance_covered {go : Handler Client → Option (RuntimeApiData Client × Handler Client)}
    (steps : ∀ handler ran, data.handlers[index]? = some handler → go handler = some ran →
      HandlerStep encode data handler ran)
    (covered : data.Covered encode loaded) (taken : data.advance index go = some next) :
    next.Covered encode loaded := by
  obtain ⟨handler, isHandler, taken⟩ := Option.bind_eq_some_iff.mp taken
  obtain ⟨ran, went, same⟩ := Option.map_eq_some_iff.mp taken
  cases same
  have did := steps handler ran isHandler went
  have bound := (List.getElem?_eq_some_iff.mp isHandler).1
  rw [did.handlers]
  obtain will | ⟨view, requests⟩ := did.saves
  · exact .inr (.inl ⟨ran.2, List.mem_set bound _, will⟩)
  · obtain requested | ⟨other, member, will⟩ | fresh := covered
    · exact .inl (did.requested requested)
    · obtain itself | stays := mem_set_of_mem member isHandler ran.2
      · left
        apply requests
        rw [← itself]
        exact will
      · exact .inr (.inl ⟨other, stays, will.of_view view⟩)
    · exact .inr (.inr (fresh.of_same did.writer did.file view))

/-- The writer takes a request before it reads any host, and adds each as it is. -/
theorem runWriter_covered (covered : data.Covered encode loaded)
    (taken : data.runWriter encode = some next) : next.Covered encode loaded := by
  unfold runWriter at taken
  cases place : data.writer with
  | receiving =>
    rw [place] at taken
    obtain ⟨-, same⟩ := Option.ite_none_right_eq_some.mp taken
    cases same
    exact .inr (.inr trivial)
  | reading =>
    rw [place] at taken
    cases taken
    exact .inr (.inr rfl)
  | saving position output =>
    rw [place] at taken
    have goesOn (writer : FileWriter)
        (fresh : output = ((data.hosts.view (saveHost encode)).take position).reduceOption →
          { data with writer := writer }.Fresh encode loaded) :
        { data with writer := writer }.Covered encode loaded := by
      obtain requested | willSave | before := covered
      · exact .inl requested
      · exact .inr (.inl willSave)
      · rw [Fresh, place] at before
        exact .inr (.inr (fresh before))
    have slot : (data.hosts.view (saveHost encode))[position]? =
        (data.hosts.slots[position]?).map (Option.map (saveHost encode)) := List.getElem?_map
    dsimp only at taken
    split at taken
    · rename_i atEnd
      cases taken
      apply goesOn
      intro before
      rw [atEnd, Option.map_none, List.getElem?_eq_none_iff] at slot
      rw [List.take_of_length_le slot] at before
      exact congrArg ApiData.mk before
    · rename_i isVacant
      cases taken
      apply goesOn
      intro before
      change output = _
      rw [List.take_add_one, slot, isVacant, List.reduceOption_append, ← before]
      exact (List.append_nil output).symm
    · rename_i host isHost
      obtain ⟨-, same⟩ := Option.ite_none_right_eq_some.mp taken
      cases same
      apply goesOn
      intro before
      change output ++ [_] = _
      rw [List.take_add_one, slot, isHost, List.reduceOption_append, ← before]
      rfl
  | writing saved =>
    rw [place] at taken
    cases taken

theorem write_covered (covered : data.Covered encode loaded)
    (taken : data.write .written = some next) : next.Covered encode loaded := by
  unfold write at taken
  split at taken
  · rename_i saved place
    cases taken
    obtain requested | willSave | fresh := covered
    · exact .inl requested
    · exact .inr (.inl willSave)
    · rw [Fresh, place] at fresh
      exact .inr (.inr (.inl (congrArg File.holds fresh)))
  · cases taken

theorem step_covered {crypto : MoonlightCommon.Crypto X509 PKey} {requests : RequestClient Client RequestError}
    (covered : data.Covered encode loaded) (taken : step crypto requests encode data event = some next)
    (undisturbed : data.Undisturbed event) : next.Covered encode loaded := by
  cases event with
  | request request =>
    cases taken
    obtain requested | ⟨handler, member, will⟩ | fresh := covered
    · exact .inl requested
    · exact .inr (.inl ⟨handler, List.mem_append_left _ member, will⟩)
    · exact .inr (.inr fresh)
  | run index =>
    exact advance_covered (fun _ _ _ went => runHandler_step went) covered taken
  | answered index answers =>
    exact advance_covered (fun _ _ _ went => answerHandler_step went) covered taken
  | pair index call =>
    exact advance_covered (fun _ _ _ went => pairHandler_step went) covered taken
  | dropped index =>
    apply advance_covered ?_ covered taken
    intro handler ran isHandler went
    cases went
    apply HandlerStep.idle
    intro will
    have pending := Handler.pending_of_willSave will
    rw [undisturbed handler isHandler] at pending
    cases pending
  | writer => exact runWriter_covered covered taken
  | write result =>
    cases undisturbed
    exact write_covered covered taken

/-- However requests, their changes and the writer interleave: once every change has
had its save requested and the writer waits for another, the file is up to date. -/
theorem saves_lose_nothing (crypto : MoonlightCommon.Crypto X509 PKey)
    (requests : RequestClient Client RequestError) (encode : Pem → String)
    (loadedHosts : List (Option (RuntimeApiHost Client))) (events : List (Event Client RequestError))
    (undisturbed : Along (step crypto requests encode) (fun data event _ => data.Undisturbed event)
      (load loadedHosts) events) :
    Along (step crypto requests encode)
      (fun _ _ next => next.Saved encode (save encode (load loadedHosts).hosts))
      (load loadedHosts) events := by
  apply along_imp (fun data => data.Covered encode (save encode (load loadedHosts).hosts))
    ?_ ?_ ?_ undisturbed
  · exact fun data event next covered taken obeyed => (step_covered covered taken obeyed).saved
  · exact fun data event next covered taken obeyed => step_covered covered taken obeyed
  · exact .inr (.inr (.inr ⟨rfl, rfl⟩))

private def desktopSays : HostInfo where
  hostName := "desktop"
  appVersion := ⟨7, 1, 431, 0⟩
  gfeVersion := "3.23.0.74"
  uniqueId := 1
  httpsPort := 47984
  externalPort := 47989
  maxLumaPixelsHevc := 0
  mac := none
  localIp := "10.0.0.2"
  serverCodecModeSupport := 3
  pairStatus := .notPaired
  currentGame := 0
  stateString := "SUNSHINE_SERVER_FREE"
  state := .free

/-- A host is added, and removed while the writer is at the file. -/
private def addAndRemove : List (Event Nat Empty) :=
  [.request (.putHost 0 "desktop.local" 47989), .answered 0 ⟨.ok desktopSays, .ok desktopSays⟩,
    .answered 0 ⟨.ok desktopSays, .ok desktopSays⟩, .run 0, .run 0, .run 0, .run 0, .run 0,
    .writer, .writer, .writer, .writer, .request (.deleteHost 0), .run 1, .write .written,
    .run 1, .writer, .writer, .writer, .writer, .write .written]

/-- The first write comes too late to be of use, and the second puts it right. -/
theorem removal_saved :
    Along (step clearCrypto clearRequests Pem.tag)
      (fun _ _ next => next.Saved Pem.tag ⟨[]⟩) (load []) addAndRemove ∧
    (∃ between, run (step clearCrypto clearRequests Pem.tag) (load []) (addAndRemove.take 15) =
      some between ∧ between.file = .holds ⟨[⟨"desktop.local", 47989, ⟨some "desktop", none⟩, none⟩]⟩ ∧
      save Pem.tag between.hosts = ⟨[]⟩) ∧
    ∃ final, run (step clearCrypto clearRequests Pem.tag) (load []) addAndRemove = some final ∧
      final.file = .holds ⟨[]⟩ := by
  refine ⟨?_, ⟨_, rfl, rfl, rfl⟩, _, rfl, rfl⟩
  apply saves_lose_nothing clearCrypto clearRequests Pem.tag [] addAndRemove
  apply along_of_events
  simp [addAndRemove, Undisturbed]

end RuntimeApiData

end MoonlightWeb.WebServer.DataFile

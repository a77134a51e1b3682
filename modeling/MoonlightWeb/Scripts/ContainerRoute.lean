import MoonlightWeb.Lib.OrderedMap
import MoonlightWeb.Lib.Throwing

/-! The route from a public hostname to the local server, set up through the Cloudflare
API. The tunnel's configuration may have routes of other hosts, and the hostname a
record of another kind, which the run must leave alone. -/
namespace MoonlightWeb.Scripts.ContainerRoute
open Throwing

abbrev Text := List Char

/-- A JSON value. All but the texts are only passed on. -/
inductive Value (Other : Type) where
  | text (text : Text)
  | other (value : Other)
  deriving DecidableEq

/-- An item of the ingress list. -/
abbrev Item (Other : Type) := OrderedMap Text (Value Other)

/-- The configuration of a tunnel, with the ingress apart from its other keys. -/
structure Config (Other : Type) where
  ingress : Option (List (Item Other))
  rest : OrderedMap Text (Value Other)
  deriving DecidableEq

structure DnsRecord where
  id : Text
  type : Option Text
  content : Option Text
  proxied : Bool
  deriving DecidableEq

/-- What a new record is made from. -/
structure NewRecord where
  type : Text
  name : Text
  content : Text
  proxied : Bool
  ttl : Nat
  deriving DecidableEq

/-- What the run needs to know of the settings. -/
structure Rights where
  hostname : Text
  account : Text
  tunnel : Text
  zone : Text

inductive Write (Other : Type) where
  | put (config : Config Other)
  | post (record : NewRecord)
  | patch (id : Text)

/-- The service behind the API: the records of the hostname, the configuration of the
tunnel, and what a write makes of them. -/
structure Cloudflare (Other Cloud : Type) where
  records : Cloud → List DnsRecord
  config : Cloud → Option (Config Other)
  apply : Cloud → Write Other → Cloud

/-- What comes of a request. A failure raises, whether a write got through or not. -/
inductive Outcome where
  | succeeds
  | fails (applied : Bool)
  deriving DecidableEq

inductive RouteError where
  | request
  | differentRecord
  | connectorToken
  | zoneId
  deriving DecidableEq

/-- `requests` counts those made so far. -/
structure Session (Other Cloud : Type) where
  cloud : Cloud
  requests : Nat
  writes : List (Write Other)

variable {Other Cloud : Type}

abbrev Run (Other Cloud : Type) := Action RouteError (Session Other Cloud)

/-! ## Settings -/

structure Settings where
  publicHostname : Option Text
  cloudflareApiToken : Option Text
  cloudflareTunnelToken : Option Text
  cloudflareZoneId : Option Text

def isHex (char : Char) : Bool := char ∈ "0123456789abcdefABCDEF".toList

/-- The rights to manage the route, where the settings have them. `decode` reads the
account and the tunnel out of a connector token. -/
def rightsOf (decode : Text → Option (Text × Text)) (settings : Settings) :
    Except RouteError (Option Rights) :=
  match settings.publicHostname, settings.cloudflareApiToken with
  | some hostname, some apiToken =>
    if hostname = [] ∨ apiToken = [] then .ok none
    else match settings.cloudflareTunnelToken.bind decode with
      | none => .error .connectorToken
      | some (account, tunnel) =>
        if account.all (fun char => isHex char || char = '-') ∧
            tunnel.all (fun char => isHex char || char = '-') then
          match settings.cloudflareZoneId with
          | none => .error .zoneId
          | some zone =>
            if zone ≠ [] ∧ zone.all isHex then .ok (some ⟨hostname, account, tunnel, zone⟩)
            else .error .zoneId
        else .error .connectorToken
  | _, _ => .ok none

/-! ## Requests -/

section Requests
variable (service : Cloudflare Other Cloud) (outcome : Nat → Outcome)

/-- A `GET`. -/
def read (view : Cloud → α) : Run Other Cloud α := do
  let session ← get
  modify fun session => { session with requests := session.requests + 1 }
  match outcome session.requests with
  | .succeeds => pure (view session.cloud)
  | .fails _ => throw .request

def send (write : Write Other) : Run Other Cloud PUnit := do
  let session ← get
  modify fun session => { session with
    requests := session.requests + 1
    writes := session.writes ++ [write]
    cloud := if outcome session.requests = .fails false then session.cloud
      else service.apply session.cloud write }
  match outcome session.requests with
  | .succeeds => pure ⟨⟩
  | .fails _ => throw .request

end Requests

section Requests
variable {service : Cloudflare Other Cloud} {outcome : Nat → Outcome}

theorem perform_read_bind {view : Cloud → α} {next : α → Run Other Cloud β}
    (session : Session Other Cloud) :
    perform (read outcome view >>= next) session =
      match outcome session.requests with
      | .succeeds => perform (next (view session.cloud))
          { session with requests := session.requests + 1 }
      | .fails _ => (.error .request, { session with requests := session.requests + 1 }) := by
  unfold read
  rw [bind_assoc, perform_get_bind, bind_assoc, perform_bind_ok (perform_modify _ _)]
  cases outcome session.requests with
  | succeeds => exact perform_bind_ok (perform_pure _ _)
  | fails applied => exact perform_bind_error (perform_throw _ _)

/-- The session after a write, whatever comes of it. -/
def sent (service : Cloudflare Other Cloud) (outcome : Nat → Outcome) (write : Write Other)
    (session : Session Other Cloud) : Session Other Cloud where
  cloud := if outcome session.requests = .fails false then session.cloud
    else service.apply session.cloud write
  requests := session.requests + 1
  writes := session.writes ++ [write]

theorem perform_send (write : Write Other) (session : Session Other Cloud) :
    perform (send service outcome write) session =
      (if outcome session.requests = .succeeds then .ok ⟨⟩ else .error .request,
        sent service outcome write session) := by
  unfold send
  rw [perform_get_bind, perform_bind_ok (perform_modify _ _)]
  cases answered : outcome session.requests with
  | succeeds => simp only [perform_pure, sent, answered, if_true]
  | fails applied => simp [sent, answered]

theorem sent_cloud_of_succeeds (write : Write Other) (session : Session Other Cloud)
    (succeeds : outcome session.requests = .succeeds) :
    (sent service outcome write session).cloud = service.apply session.cloud write := by
  rw [sent, succeeds, if_neg (by decide)]

/-- A write that fails has got through or has not. -/
theorem sent_cloud (service : Cloudflare Other Cloud) (outcome : Nat → Outcome)
    (write : Write Other) (session : Session Other Cloud) :
    (sent service outcome write session).cloud = service.apply session.cloud write ∨
      outcome session.requests ≠ .succeeds ∧
        (sent service outcome write session).cloud = session.cloud := by
  by_cases lost : outcome session.requests = .fails false
  · exact .inr ⟨by rw [lost]; decide, by rw [sent, if_pos lost]⟩
  · exact .inl (by rw [sent, if_neg lost])

end Requests

/-! ## The run -/

def hostnameKey : Text := "hostname".toList

def serviceKey : Text := "service".toList

def localService : Text := "http://localhost:8080".toList

def pair (key value : Text) : Item Other := OrderedMap.empty.set key (.text value)

/-- What an empty ingress stands for. -/
def catchAll : Item Other := pair serviceKey "http_status:404".toList

def route (hostname : Text) : Item Other :=
  (pair hostnameKey hostname).set serviceKey (.text localService)

def IsFor (hostname : Text) (item : Item Other) : Prop :=
  item.get hostnameKey = some (.text hostname)

def IsLocal (item : Item Other) : Prop := item.get serviceKey = some (.text localService)

section Equality
variable [DecidableEq Other]

instance (hostname : Text) (item : Item Other) : Decidable (IsFor hostname item) :=
  inferInstanceAs (Decidable (_ = _))

/-- `current.get('ingress') or [..]` -/
def ingressOf (config : Option (Config Other)) : List (Item Other) :=
  match config.bind Config.ingress with
  | some (item :: rest) => item :: rest
  | _ => [catchAll]

def restOf (config : Option (Config Other)) : OrderedMap Text (Value Other) :=
  match config with
  | some config => config.rest
  | none => .empty

/-- The items with the local server behind the hostname. -/
def updateIngress (hostname : Text) (ingress : List (Item Other)) : List (Item Other) :=
  let updated := ingress.map fun item =>
    if IsFor hostname item then item.set serviceKey (.text localService) else item
  if ∃ item ∈ ingress, IsFor hostname item then updated else route hostname :: updated

def destination (rights : Rights) : Text := rights.tunnel ++ ".cfargotunnel.com".toList

def rstripDots (text : Text) : Text := (text.reverse.dropWhile (· = '.')).reverse

theorem rstripDots_destination (rights : Rights) :
    rstripDots (destination rights) = destination rights := by
  have ends : destination rights = (rights.tunnel ++ ".cfargotunnel.co".toList) ++ ['m'] := by
    rw [List.append_assoc]
    rfl
  rw [ends, rstripDots, List.reverse_append, List.reverse_singleton, List.singleton_append,
    List.dropWhile_cons_of_neg (by decide), List.reverse_cons, List.reverse_reverse]

/-- A record that is not a `CNAME` of the tunnel. -/
def Different (rights : Rights) (record : DnsRecord) : Prop :=
  record.type ≠ some "CNAME".toList ∨
    rstripDots (record.content.getD []) ≠ destination rights

instance (rights : Rights) (record : DnsRecord) : Decidable (Different rights record) :=
  inferInstanceAs (Decidable (_ ∨ _))

/-- More than one record, or a different one. -/
def Conflicting (rights : Rights) (records : List DnsRecord) : Prop :=
  1 < records.length ∨ ∃ record ∈ records, Different rights record

instance (rights : Rights) (records : List DnsRecord) : Decidable (Conflicting rights records) :=
  inferInstanceAs (Decidable (_ ∨ _))

def newRecord (rights : Rights) : NewRecord where
  type := "CNAME".toList
  name := rights.hostname
  content := destination rights
  proxied := true
  ttl := 1

/-- Equal lists have equal dictionaries, as a key that is set keeps its place. -/
def putIngress (service : Cloudflare Other Cloud) (outcome : Nat → Outcome) (rights : Rights)
    (current : Option (Config Other)) : Run Other Cloud PUnit :=
  let updated := updateIngress rights.hostname (ingressOf current)
  if updated ≠ ingressOf current then
    send service outcome (.put ⟨some updated, restOf current⟩)
  else pure ⟨⟩

def publishRecord (service : Cloudflare Other Cloud) (outcome : Nat → Outcome) (rights : Rights)
    (existing : List DnsRecord) : Run Other Cloud PUnit :=
  match existing with
  | [] => send service outcome (.post (newRecord rights))
  | record :: _ => if record.proxied then pure ⟨⟩ else send service outcome (.patch record.id)

def configureRoute (service : Cloudflare Other Cloud) (outcome : Nat → Outcome)
    (rights : Rights) : Run Other Cloud PUnit := do
  let existing ← read outcome service.records
  if Conflicting rights existing then throw .differentRecord
  else
    let current ← read outcome service.config
    putIngress service outcome rights current
    publishRecord service outcome rights existing

/-- Without the rights nothing is changed. -/
def configure (decode : Text → Option (Text × Text)) (service : Cloudflare Other Cloud)
    (outcome : Nat → Outcome) (settings : Settings) : Run Other Cloud PUnit :=
  match rightsOf decode settings with
  | .ok (some rights) => configureRoute service outcome rights
  | .ok none => pure ⟨⟩
  | .error error => throw error

/-! ## The ingress -/

section Ingress
variable {hostname : Text} {ingress : List (Item Other)}

/-- The items of other hosts, and the catch-all. -/
def others (hostname : Text) (ingress : List (Item Other)) : List (Item Other) :=
  ingress.filter fun item => ¬ IsFor hostname item

theorem serviceKey_ne : hostnameKey ≠ serviceKey := by decide

omit [DecidableEq Other] in
theorem isFor_set_service (item : Item Other) (value : Value Other) :
    IsFor hostname (item.set serviceKey value) ↔ IsFor hostname item := by
  rw [IsFor, OrderedMap.get_set, if_neg serviceKey_ne, IsFor]

omit [DecidableEq Other] in
theorem isLocal_set_service (item : Item Other) :
    IsLocal (item.set serviceKey (.text localService)) := by
  rw [IsLocal, OrderedMap.get_set, if_pos rfl]

omit [DecidableEq Other] in
theorem route_isFor : IsFor hostname (route hostname : Item Other) := by
  rw [route, isFor_set_service, IsFor, pair, OrderedMap.get_set, if_pos rfl]

/-- An item as the update leaves it. -/
def updateItem (hostname : Text) (item : Item Other) : Item Other :=
  if IsFor hostname item then item.set serviceKey (.text localService) else item

theorem isFor_updateItem (item : Item Other) :
    IsFor hostname (updateItem hostname item) ↔ IsFor hostname item := by
  unfold updateItem
  split_ifs with isFor
  · exact isFor_set_service item _
  · exact Iff.rfl

theorem isLocal_updateItem {item : Item Other} (isFor : IsFor hostname item) :
    IsLocal (updateItem hostname item) := by
  rw [updateItem, if_pos isFor]
  exact isLocal_set_service item

theorem updateItem_of_settled {item : Item Other}
    (settled : IsFor hostname item → IsLocal item) : updateItem hostname item = item := by
  unfold updateItem
  split_ifs with isFor
  · exact OrderedMap.set_of_get (settled isFor)
  · rfl

theorem others_map_updateItem (hostname : Text) (ingress : List (Item Other)) :
    others hostname (ingress.map (updateItem hostname)) = others hostname ingress := by
  induction ingress with
  | nil => rfl
  | cons item rest ih =>
    by_cases isFor : IsFor hostname item
    · have skipped : ∀ items : List (Item Other), ∀ first, IsFor hostname first →
          others hostname (first :: items) = others hostname items := fun items first isFor =>
        List.filter_cons_of_neg (by simpa using isFor)
      rw [List.map_cons, skipped _ _ ((isFor_updateItem item).mpr isFor), skipped _ _ isFor, ih]
    · have kept : ∀ items : List (Item Other),
          others hostname (item :: items) = item :: others hostname items := fun items =>
        List.filter_cons_of_pos (by simpa using isFor)
      rw [List.map_cons, updateItem, if_neg isFor, kept, kept, ih]

/-- The other hosts keep their items and the order of these. -/
theorem others_updateIngress (hostname : Text) (ingress : List (Item Other)) :
    others hostname (updateIngress hostname ingress) = others hostname ingress := by
  have updated := others_map_updateItem hostname ingress
  unfold updateIngress
  split_ifs with found
  · exact updated
  · rw [others, List.filter_cons_of_neg (by simpa using route_isFor)]
    exact updated

/-- The hostname has an item, and all its items lead to the local server. -/
def Routed (hostname : Text) (ingress : List (Item Other)) : Prop :=
  (∃ item ∈ ingress, IsFor hostname item) ∧ ∀ item ∈ ingress, IsFor hostname item → IsLocal item

theorem updateIngress_routed (hostname : Text) (ingress : List (Item Other)) :
    Routed hostname (updateIngress hostname ingress) := by
  have updated : ∀ item ∈ ingress.map (updateItem hostname),
      IsFor hostname item → IsLocal item := by
    intro item member isFor
    obtain ⟨before, _, rfl⟩ := List.mem_map.mp member
    exact isLocal_updateItem ((isFor_updateItem before).mp isFor)
  unfold updateIngress
  split_ifs with found
  · obtain ⟨item, member, isFor⟩ := found
    exact ⟨⟨_, List.mem_map_of_mem member, (isFor_updateItem item).mpr isFor⟩, updated⟩
  · refine ⟨⟨_, List.mem_cons_self, route_isFor⟩, ?_⟩
    intro item member isFor
    rcases List.mem_cons.mp member with rfl | older
    · exact isLocal_set_service _
    · exact updated item older isFor

/-- A list that has the route already is left as it is. -/
theorem Routed.updateIngress (routed : Routed hostname ingress) :
    updateIngress hostname ingress = ingress := by
  unfold ContainerRoute.updateIngress
  rw [if_pos routed.1]
  refine (List.map_congr_left fun item member => ?_).trans (List.map_id ingress)
  exact updateItem_of_settled (routed.2 item member)

omit [DecidableEq Other] in
theorem Routed.entry (routed : Routed hostname ingress) :
    ∃ item ∈ ingress, IsFor hostname item ∧ IsLocal item := by
  obtain ⟨⟨item, member, isFor⟩, isLocal⟩ := routed
  exact ⟨item, member, isFor, isLocal item member isFor⟩

theorem ingressOf_updated (hostname : Text) (ingress : List (Item Other))
    (rest : OrderedMap Text (Value Other)) :
    ingressOf (some ⟨some (updateIngress hostname ingress), rest⟩) =
      updateIngress hostname ingress := by
  obtain ⟨⟨item, member, _⟩, _⟩ := updateIngress_routed hostname ingress
  cases updated : updateIngress hostname ingress with
  | nil => rw [updated] at member; cases member
  | cons first later => rfl

end Ingress

/-! ## The service -/

/-- What the API documents of its writes. -/
structure Documented (service : Cloudflare Other Cloud) : Prop where
  put_config : ∀ cloud config, service.config (service.apply cloud (.put config)) = some config
  put_records : ∀ cloud config,
    service.records (service.apply cloud (.put config)) = service.records cloud
  post_config : ∀ cloud record,
    service.config (service.apply cloud (.post record)) = service.config cloud
  post_records : ∀ cloud record, service.records cloud = [] →
    ∃ id, service.records (service.apply cloud (.post record)) =
      [⟨id, some record.type, some record.content, record.proxied⟩]
  patch_config : ∀ cloud id,
    service.config (service.apply cloud (.patch id)) = service.config cloud
  patch_records : ∀ cloud id, service.records (service.apply cloud (.patch id)) =
    (service.records cloud).map fun record =>
      if record.id = id then { record with proxied := true } else record

section Runs
variable {service : Cloudflare Other Cloud} {outcome : Nat → Outcome} {rights : Rights}

/-- Where the run has nothing left to do. -/
def Settled (service : Cloudflare Other Cloud) (rights : Rights) (cloud : Cloud) : Prop :=
  Routed rights.hostname (ingressOf (service.config cloud)) ∧
    ∃ record, service.records cloud = [record] ∧ ¬ Different rights record ∧
      record.proxied = true

/-- What the update of the tunnel keeps. -/
def Kept (service : Cloudflare Other Cloud) (hostname : Text) (before after : Cloud) : Prop :=
  others hostname (ingressOf (service.config after)) =
      others hostname (ingressOf (service.config before)) ∧
    restOf (service.config after) = restOf (service.config before)

theorem Kept.refl (hostname : Text) (cloud : Cloud) : Kept service hostname cloud cloud :=
  ⟨rfl, rfl⟩

/-- A request of the run failed before there was anything new. -/
def CutShort (outcome : Nat → Outcome) (before : Cloud) (result : Except RouteError PUnit)
    (after : Session Other Cloud) : Prop :=
  result = .error .request ∧ after.cloud = before ∧
    ∃ request < after.requests, outcome request ≠ .succeeds

omit [DecidableEq Other] in
theorem not_cutShort (succeeds : ∀ request, outcome request = .succeeds) {before : Cloud}
    {after : Session Other Cloud} : ¬ CutShort outcome before result after :=
  fun ⟨_, _, request, _, failed⟩ => failed (succeeds request)

theorem putIngress_ok (succeeds : ∀ request, outcome request = .succeeds)
    (current : Option (Config Other)) (session : Session Other Cloud) :
    (perform (putIngress service outcome rights current) session).1 = .ok ⟨⟩ := by
  rw [putIngress]
  split_ifs
  · rw [perform_send, if_pos (succeeds _)]
  · rw [perform_pure]

/-- The update keeps the other hosts, and leaves the route or nothing new. -/
theorem putIngress_run (documented : Documented service) (session : Session Other Cloud)
    (ran : perform (putIngress service outcome rights (service.config session.cloud)) session =
      (result, after)) :
    Kept service rights.hostname session.cloud after.cloud ∧
      service.records after.cloud = service.records session.cloud ∧
      (Routed rights.hostname (ingressOf (service.config after.cloud)) ∨
        CutShort outcome session.cloud result after) := by
  have routed := updateIngress_routed rights.hostname (ingressOf (service.config session.cloud))
  unfold putIngress at ran
  dsimp only at ran
  split_ifs at ran with changed
  · rw [perform_send, Prod.mk.injEq] at ran
    obtain ⟨rfl, rfl⟩ := ran
    obtain through | ⟨failed, lost⟩ := sent_cloud service outcome
      (.put ⟨some (updateIngress rights.hostname (ingressOf (service.config session.cloud))),
        restOf (service.config session.cloud)⟩) session
    · rw [through, Kept, documented.put_config, documented.put_records, ingressOf_updated]
      exact ⟨⟨others_updateIngress _ _, rfl⟩, rfl, .inl routed⟩
    · rw [CutShort, lost]
      exact ⟨Kept.refl _ _, rfl, .inr ⟨if_neg failed, rfl, _, Nat.lt_succ_self _, failed⟩⟩
  · rw [perform_pure, Prod.mk.injEq] at ran
    obtain ⟨rfl, rfl⟩ := ran
    rw [not_ne_iff] at changed
    rw [changed] at routed
    exact ⟨Kept.refl _ _, rfl, .inl routed⟩

omit [DecidableEq Other] in
/-- The record is none of the tunnel's matters. -/
theorem publishRecord_config (documented : Documented service) (outcome : Nat → Outcome)
    (rights : Rights) (existing : List DnsRecord) (session : Session Other Cloud) :
    service.config (perform (publishRecord service outcome rights existing) session).2.cloud =
      service.config session.cloud := by
  have kept : ∀ write, (∀ cloud, service.config (service.apply cloud write) =
      service.config cloud) →
      service.config (perform (send service outcome write) session).2.cloud =
        service.config session.cloud := by
    intro write keeps
    rw [perform_send]
    obtain through | ⟨_, lost⟩ := sent_cloud service outcome write session
    · rw [through, keeps]
    · rw [lost]
  unfold publishRecord
  split
  · exact kept _ fun cloud => documented.post_config cloud _
  · split_ifs
    · rw [perform_pure]
    · exact kept _ fun cloud => documented.patch_config cloud _

omit [DecidableEq Other] in
/-- Without a conflict and with no failure, the record ends up the tunnel's and proxied. -/
theorem publishRecord_settles (documented : Documented service)
    (succeeds : ∀ request, outcome request = .succeeds) (session : Session Other Cloud)
    (agreeing : ¬ Conflicting rights (service.records session.cloud)) :
    ∃ record, service.records (perform (publishRecord service outcome rights
        (service.records session.cloud)) session).2.cloud = [record] ∧
      ¬ Different rights record ∧ record.proxied = true := by
  obtain ⟨short, same⟩ := not_or.mp agreeing
  unfold publishRecord
  split
  · rename_i none_yet
    obtain ⟨id, posted⟩ := documented.post_records session.cloud (newRecord rights) none_yet
    rw [perform_send]
    dsimp only
    rw [sent_cloud_of_succeeds _ _ (succeeds _), posted]
    refine ⟨_, rfl, not_or.mpr ⟨not_not.mpr rfl, not_not.mpr ?_⟩, rfl⟩
    exact rstripDots_destination rights
  · rename_i record rest existing
    have only : service.records session.cloud = [record] := by
      rw [existing] at short ⊢
      rw [List.length_cons] at short
      rw [List.eq_nil_of_length_eq_zero (by omega : rest.length = 0)]
    have alike : ¬ Different rights record := fun different =>
      same ⟨record, by rw [only]; exact List.mem_singleton_self record, different⟩
    split_ifs with proxied
    · rw [perform_pure]
      exact ⟨record, only, alike, proxied⟩
    · rw [perform_send]
      dsimp only
      rw [sent_cloud_of_succeeds _ _ (succeeds _), documented.patch_records, only]
      refine ⟨{ record with proxied := true }, ?_, alike, rfl⟩
      rw [List.map_singleton, if_pos rfl]

theorem configureRoute_refuses (outcome : Nat → Outcome) (session : Session Other Cloud)
    (conflicting : Conflicting rights (service.records session.cloud)) :
    (perform (configureRoute service outcome rights) session).2.cloud = session.cloud ∧
      (perform (configureRoute service outcome rights) session).2.writes = session.writes := by
  unfold configureRoute
  rw [perform_read_bind]
  split
  · rw [if_pos conflicting, perform_throw]
    exact ⟨rfl, rfl⟩
  · exact ⟨rfl, rfl⟩

/-- A run that is not refused keeps the other hosts. It leaves the route, unless a request
fails before there is anything new. -/
theorem configureRoute_keeps (documented : Documented service) (session : Session Other Cloud)
    (agreeing : ¬ Conflicting rights (service.records session.cloud))
    (ran : perform (configureRoute service outcome rights) session = (result, after)) :
    Kept service rights.hostname session.cloud after.cloud ∧
      (Routed rights.hostname (ingressOf (service.config after.cloud)) ∨
        CutShort outcome session.cloud result after) := by
  unfold configureRoute at ran
  rw [perform_read_bind] at ran
  split at ran
  · rw [if_neg agreeing, perform_read_bind] at ran
    split at ran
    · cases updating : perform (putIngress service outcome rights (service.config session.cloud))
        { session with requests := session.requests + 1 + 1 } with
      | mk updated middle =>
        obtain ⟨kept, _, routed⟩ := putIngress_run documented
          ⟨session.cloud, session.requests + 1 + 1, session.writes⟩ updating
        cases updated with
        | error error =>
          rw [perform_bind_error updating, Prod.mk.injEq] at ran
          obtain ⟨rfl, rfl⟩ := ran
          exact ⟨kept, routed⟩
        | ok =>
          rw [perform_bind_ok updating] at ran
          have config := publishRecord_config documented outcome rights
            (service.records session.cloud) middle
          rw [ran] at config
          have there := routed.resolve_right fun failed => by cases failed.1
          rw [Kept, config]
          exact ⟨kept, .inl there⟩
    · rename_i failed
      obtain ⟨rfl, rfl⟩ := Prod.mk.inj ran
      exact ⟨Kept.refl _ _, .inr ⟨rfl, rfl, _, Nat.lt_succ_self _, by simp [failed]⟩⟩
  · rename_i failed
    obtain ⟨rfl, rfl⟩ := Prod.mk.inj ran
    exact ⟨Kept.refl _ _, .inr ⟨rfl, rfl, _, Nat.lt_succ_self _, by simp [failed]⟩⟩

/-- Where every request succeeds the run leaves nothing to do. -/
theorem configureRoute_settles (documented : Documented service)
    (succeeds : ∀ request, outcome request = .succeeds) (session : Session Other Cloud)
    (agreeing : ¬ Conflicting rights (service.records session.cloud)) :
    Settled service rights (perform (configureRoute service outcome rights) session).2.cloud := by
  unfold configureRoute
  simp only [perform_read_bind, succeeds, if_neg agreeing]
  cases updating : perform (putIngress service outcome rights (service.config session.cloud))
    { session with requests := session.requests + 1 + 1 } with
  | mk updated middle =>
    obtain ⟨_, records, routed⟩ := putIngress_run documented
      ⟨session.cloud, session.requests + 1 + 1, session.writes⟩ updating
    obtain rfl : .ok ⟨⟩ = updated :=
      (putIngress_ok succeeds _ _).symm.trans (congrArg Prod.fst updating)
    have there := routed.resolve_right fun failed => by cases failed.1
    rw [perform_bind_ok updating]
    rw [← records] at agreeing ⊢
    exact ⟨by rwa [publishRecord_config documented],
      publishRecord_settles documented succeeds middle agreeing⟩

/-- A run from a settled state only reads. -/
theorem configureRoute_quiet (session : Session Other Cloud)
    (settled : Settled service rights session.cloud) :
    (perform (configureRoute service outcome rights) session).2.writes = session.writes := by
  obtain ⟨routed, record, records, same, proxied⟩ := settled
  unfold configureRoute
  rw [perform_read_bind]
  split
  · split_ifs
    · rw [perform_throw]
    · rw [perform_read_bind]
      split
      · dsimp only
        have unchanged : putIngress service outcome rights (service.config session.cloud) =
            pure ⟨⟩ := if_neg (not_not.mpr routed.updateIngress)
        rw [unchanged, perform_bind_ok (perform_pure _ _), records, publishRecord, if_pos proxied,
          perform_pure]
      · rfl
  · rfl

/-- The run of `configure` with the rights to manage the route. -/
theorem configure_eq {decode : Text → Option (Text × Text)} {settings : Settings}
    (manages : rightsOf decode settings = .ok (some rights)) :
    configure decode service outcome settings = configureRoute service outcome rights := by
  rw [configure, manages]

/-- Conflicting records stop the run before any write. Otherwise it keeps the items of the
other hosts and the other keys of the configuration, and leaves the hostname an item that
leads to the local server, unless a request fails before there is anything new. When every
request succeeds the hostname has the route and the record, and another run writes nothing. -/
theorem configure_keeps_other_routes {decode : Text → Option (Text × Text)} {settings : Settings}
    (manages : rightsOf decode settings = .ok (some rights)) (documented : Documented service)
    (outcome : Nat → Outcome) (cloud : Cloud) :
    let ran := perform (configure decode service outcome settings) ⟨cloud, 0, []⟩
    let after := ran.2.cloud
    (Conflicting rights (service.records cloud) → ran.2.writes = [] ∧ after = cloud) ∧
    (¬ Conflicting rights (service.records cloud) →
      others rights.hostname (ingressOf (service.config after)) =
        others rights.hostname (ingressOf (service.config cloud)) ∧
      restOf (service.config after) = restOf (service.config cloud) ∧
      ((∃ item ∈ ingressOf (service.config after), IsFor rights.hostname item ∧ IsLocal item) ∨
        CutShort outcome cloud ran.1 ran.2)) ∧
    ((∀ request, outcome request = .succeeds) →
      (¬ Conflicting rights (service.records cloud) → Settled service rights after) ∧
      ∀ later,
        (perform (configure decode service later settings) ⟨after, 0, []⟩).2.writes = []) := by
  intro ran after
  have refuses : Conflicting rights (service.records cloud) → _ :=
    configureRoute_refuses outcome ⟨cloud, 0, []⟩
  rw [← configure_eq manages] at refuses
  have settles (succeeds : ∀ request, outcome request = .succeeds)
      (agreeing : ¬ Conflicting rights (service.records cloud)) : Settled service rights after := by
    have settled := configureRoute_settles documented succeeds ⟨cloud, 0, []⟩ agreeing
    rwa [← configure_eq manages] at settled
  refine ⟨fun conflicting => (refuses conflicting).symm, fun agreeing => ?_,
    fun succeeds => ⟨settles succeeds, fun later => ?_⟩⟩
  · have keeps := configureRoute_keeps documented ⟨cloud, 0, []⟩ agreeing
      (Prod.eta (perform (configureRoute service outcome rights) ⟨cloud, 0, []⟩)).symm
    rw [← configure_eq manages] at keeps
    obtain ⟨⟨kept, rest⟩, routed⟩ := keeps
    exact ⟨kept, rest, routed.imp_left Routed.entry⟩
  · rw [configure_eq manages]
    by_cases conflicting : Conflicting rights (service.records cloud)
    · have same : after = cloud := (refuses conflicting).1
      rw [same]
      exact (configureRoute_refuses later ⟨cloud, 0, []⟩ conflicting).2
    · exact configureRoute_quiet ⟨after, 0, []⟩ (settles succeeds conflicting)

/-- A service that keeps its records and its configuration, one of each kind. -/
def plainCloudflare : Cloudflare Unit (List DnsRecord × Option (Config Unit)) where
  records := Prod.fst
  config := Prod.snd
  apply cloud
    | .put config => (cloud.1, some config)
    | .post record => (cloud.1 ++
        [⟨['1'], some record.type, some record.content, record.proxied⟩], cloud.2)
    | .patch id => (cloud.1.map fun record =>
        if record.id = id then { record with proxied := true } else record, cloud.2)

theorem plainCloudflare_documented : Documented plainCloudflare where
  put_config _ _ := rfl
  put_records _ _ := rfl
  post_config _ _ := rfl
  post_records cloud record none_yet := ⟨['1'], by
    dsimp only [plainCloudflare] at none_yet ⊢
    rw [none_yet, List.nil_append]⟩
  patch_config _ _ := rfl
  patch_records _ _ := rfl

def exampleToken : Text :=
  ("eyJhIjogImFhYWFhYWFhYWFhYWFhYWFhYWFhYWFhYWFhYWFhYWFhIiwg" ++
    "InQiOiAiYmJiYmJiYmJiYmJiYmJiYmJiYmJiYmJiYmJiYmJiYmIifQ==").toList

def exampleDecode (token : Text) : Option (Text × Text) :=
  if token = exampleToken then some (List.replicate 32 'a', List.replicate 32 'b') else none

def exampleSettings : Settings where
  publicHostname := some "screen.example.com".toList
  cloudflareApiToken := some "management-secret".toList
  cloudflareTunnelToken := some exampleToken
  cloudflareZoneId := some (List.replicate 32 'c')

/-- The tunnel of the tests, which serves another host. -/
def otherTunnel : Config Unit where
  ingress := some [(pair hostnameKey "other.example.com".toList).set serviceKey
    (.text "http://localhost:9000".toList), catchAll]
  rest := OrderedMap.empty.set "originRequest".toList (.other ())

theorem exampleSettings_manage : rightsOf exampleDecode exampleSettings =
    .ok (some ⟨"screen.example.com".toList, List.replicate 32 'a', List.replicate 32 'b',
      List.replicate 32 'c'⟩) := by
  have token : exampleSettings.cloudflareTunnelToken.bind exampleDecode =
      some (List.replicate 32 'a', List.replicate 32 'b') := by
    rw [exampleSettings, Option.bind_some, exampleDecode, if_pos rfl]
  unfold rightsOf
  rw [token]
  simp [exampleSettings, isHex]

/-- A run that succeeds keeps the other host and adds the route. -/
theorem configure_keeps_other_routes_otherTunnel :
    let after := (perform (configure exampleDecode plainCloudflare (fun _ => .succeeds)
      exampleSettings) ⟨([], some otherTunnel), 0, []⟩).2
    others "screen.example.com".toList (ingressOf (plainCloudflare.config after.cloud)) =
        ingressOf (some otherTunnel) ∧
      restOf (plainCloudflare.config after.cloud) = otherTunnel.rest ∧
      ∃ item ∈ ingressOf (plainCloudflare.config after.cloud),
        IsFor "screen.example.com".toList item ∧ IsLocal item := by
  obtain ⟨_, kept, _⟩ := configure_keeps_other_routes exampleSettings_manage
    plainCloudflare_documented (fun _ => .succeeds) ([], some otherTunnel)
  have agreeing : ∀ rights, ¬ Conflicting rights [] := fun rights conflicting => by
    rcases conflicting with more | ⟨record, member, _⟩
    · cases more
    · cases member
  have foreign : others "screen.example.com".toList (ingressOf (some otherTunnel)) =
      ingressOf (some otherTunnel) := by decide +kernel
  obtain ⟨unchanged, rest, routed⟩ := kept (agreeing _)
  exact ⟨unchanged.trans foreign, rest, routed.resolve_right (not_cutShort fun _ => rfl)⟩

end Runs

end Equality

end MoonlightWeb.Scripts.ContainerRoute

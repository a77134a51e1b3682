import Mathlib.Data.List.Nodup
import MoonlightWeb.Lib.Machine

/-! The control helper's debugger sockets. Every call of `getClient` goes on from await
to await, and in between other calls, the browser and the network have their turn. -/
namespace MoonlightWeb.YouTubeRemote
open MoonlightWeb.Machine

inductive ReadyState where
  | connecting
  | opened
  | closing
  | closed
  deriving DecidableEq, Repr

/-- `Page.addScriptToEvaluateOnNewDocument` as it was sent on a socket; the browser may
carry it out. -/
structure Script where
  socket : Nat
  registered : Bool
  deriving DecidableEq, Repr

/-- The sockets that were made, and the one of `activeClient`. -/
structure Page where
  sockets : List ReadyState
  scripts : List Script
  activeClient : Option Nat
  deriving DecidableEq, Repr

/-- What a call of `getClient` awaits, or what came of it. -/
inductive ClientCall where
  | listing
  | connecting (socket : Nat)
  | enabling (socket : Nat)
  | registering (socket script : Nat)
  | evaluating (socket : Nat)
  | returned (client : Option Nat)
  | failed
  deriving DecidableEq, Repr

/-- What `runControl` awaits. -/
inductive Control where
  | client (call : Nat)
  | command (socket : Nat)
  deriving DecidableEq, Repr

/-- The helper as the owner of the page. Of the controls only one runs. -/
structure PageOwner where
  page : Page
  calls : List ClientCall
  controlQueue : Nat
  control : Option Control
  deriving DecidableEq, Repr

inductive PageEvent where
  | attach
  | control
  | controlStarts
  | listed (call : Nat) (found : Bool)
  | opens (socket : Nat) (layout : Bool)
  /-- The timeout or the error event of a socket that does not open. -/
  | connectFails (call : Nat)
  /-- A command is answered, or it is refused or timed out. -/
  | answers (call : Nat) (result : Bool)
  | registers (script : Nat)
  | closing (socket : Nat)
  | closed (socket : Nat)
  | controlGoesOn
  | commandSettles
  deriving DecidableEq, Repr

namespace Page

def IsOpen (page : Page) (socket : Nat) : Prop := page.sockets[socket]? = some .opened

instance (page : Page) (socket : Nat) : Decidable (page.IsOpen socket) :=
  inferInstanceAs (Decidable (_ = _))

def openClient (page : Page) : Option Nat := page.activeClient.filter fun socket => page.IsOpen socket

def setReadyState (page : Page) (socket : Nat) (state : ReadyState) : Page :=
  { page with sockets := page.sockets.set socket state }

def registrations (page : Page) (socket : Nat) : Nat :=
  page.scripts.countP fun script => script.socket = socket && script.registered

end Page

/-- The awaited command was sent on the socket. -/
def ClientCall.pendingOn (socket : Nat) : ClientCall → Bool
  | .enabling used | .registering used _ | .evaluating used => used = socket
  | _ => false

namespace PageOwner

def start : PageOwner := ⟨⟨[], [], none⟩, [], 0, none⟩

/-- `getClient` up to its first await. -/
def getClient (owner : PageOwner) : PageOwner :=
  match owner.page.openClient with
  | some socket => { owner with calls := owner.calls ++ [.returned (some socket)] }
  | none => { owner with calls := owner.calls ++ [.listing] }

def setCall (owner : PageOwner) (index : Nat) (call : ClientCall) : PageOwner :=
  { owner with calls := owner.calls.set index call }

/-- A socket opens, and the call that still awaits it makes it the active one. -/
def onOpen (owner : PageOwner) (socket : Nat) (layout : Bool) : PageOwner :=
  let page := owner.page.setReadyState socket .opened
  match owner.calls.findIdx? (· = .connecting socket) with
  | none => { owner with page }
  | some index =>
    { owner with page := { page with activeClient := some socket } }.setCall index
      (if layout then .enabling socket else .failed)

/-- The next command goes to the client that is active by now. -/
def onAnswer (owner : PageOwner) (index : Nat) : ClientCall → Option PageOwner
  | .enabling socket =>
    if owner.page.IsOpen socket then
      match owner.page.activeClient with
      | none => some (owner.setCall index .failed)
      | some active =>
        let page := { owner.page with scripts := owner.page.scripts ++ [⟨active, false⟩] }
        some ({ owner with page }.setCall index (.registering active owner.page.scripts.length))
    else none
  | .registering socket script =>
    if owner.page.IsOpen socket ∧ (owner.page.scripts[script]?).any Script.registered then
      match owner.page.activeClient with
      | none => some (owner.setCall index .failed)
      | some active => some (owner.setCall index (.evaluating active))
    else none
  | .evaluating socket =>
    if owner.page.IsOpen socket then
      some (owner.setCall index (.returned owner.page.activeClient))
    else none
  | _ => none

def onClosed (owner : PageOwner) (socket : Nat) : PageOwner :=
  { owner with
    page := { owner.page.setReadyState socket .closed with
      activeClient := owner.page.activeClient.filter (· ≠ socket) }
    calls := owner.calls.map fun call => if call.pendingOn socket then .failed else call
    control := owner.control.filter (· ≠ .command socket) }

def step (owner : PageOwner) : PageEvent → Option PageOwner
  | .attach => some owner.getClient
  | .control => some { owner with controlQueue := owner.controlQueue + 1 }
  | .controlStarts =>
    if owner.control = none ∧ 0 < owner.controlQueue then
      some { owner.getClient with
        controlQueue := owner.controlQueue - 1
        control := some (.client owner.calls.length) }
    else none
  | .listed index found =>
    if owner.calls[index]? = some .listing then
      if found then
        let page := { owner.page with sockets := owner.page.sockets ++ [.connecting] }
        some ({ owner with page }.setCall index (.connecting owner.page.sockets.length))
      else some (owner.setCall index .failed)
    else none
  | .opens socket layout =>
    if owner.page.sockets[socket]? = some .connecting then some (owner.onOpen socket layout)
    else none
  | .connectFails index =>
    match owner.calls[index]? with
    | some (.connecting _) => some (owner.setCall index .failed)
    | _ => none
  | .answers index result =>
    owner.calls[index]?.bind fun call =>
      if result then owner.onAnswer index call
      else
        match call with
        | .enabling _ | .registering _ _ | .evaluating _ => some (owner.setCall index .failed)
        | _ => none
  | .registers index =>
    match owner.page.scripts[index]? with
    | some ⟨socket, false⟩ =>
      if owner.page.IsOpen socket then
        some { owner with page := { owner.page with
          scripts := owner.page.scripts.set index ⟨socket, true⟩ } }
      else none
    | _ => none
  | .closing socket =>
    if owner.page.IsOpen socket then
      some { owner with page := owner.page.setReadyState socket .closing }
    else none
  | .closed socket =>
    match owner.page.sockets[socket]? with
    | none | some .closed => none
    | some _ => some (owner.onClosed socket)
  | .controlGoesOn =>
    match owner.control with
    | some (.client index) =>
      match owner.calls[index]? with
      | some (.returned (some socket)) => some { owner with control := some (.command socket) }
      | some (.returned none) | some .failed => some { owner with control := none }
      | _ => none
    | _ => none
  | .commandSettles =>
    match owner.control with
    | some (.command _) => some { owner with control := none }
    | _ => none

/-! ## One owner -/

/-- Each client that was returned has its script, once, and no two open sockets have
one. -/
structure SoleOwner (owner : PageOwner) : Prop where
  prepared : ∀ socket, .returned (some socket) ∈ owner.calls → owner.page.registrations socket = 1
  single : ∀ first second, owner.page.IsOpen first → owner.page.IsOpen second →
    0 < owner.page.registrations first → 0 < owner.page.registrations second → first = second

end PageOwner

namespace Page

/-- The call is still to make a client, on a socket that is open if it has one that was. -/
def Preparing (page : Page) : ClientCall → Prop
  | .listing | .connecting _ => True
  | .enabling socket | .registering socket _ => page.IsOpen socket
  | _ => False

/-- The socket has been open. -/
def Begun (page : Page) (socket : Nat) : Prop :=
  ∃ state, page.sockets[socket]? = some state ∧ state ≠ .connecting

def Registered (page : Page) (socket : Nat) : Prop :=
  ∃ script ∈ page.scripts, script.socket = socket ∧ script.registered = true

/-- No script was sent on the socket. -/
def Unscripted (page : Page) (socket : Nat) : Prop := ∀ script ∈ page.scripts, script.socket ≠ socket

/-- What a call knows of the page. -/
def Fits (page : Page) : ClientCall → Prop
  | .listing => page.openClient = none
  | .connecting socket =>
    page.openClient = none ∧ socket < page.sockets.length ∧ page.Unscripted socket
  | .enabling socket =>
    page.Begun socket ∧ (page.IsOpen socket → page.activeClient = some socket ∧
      page.Unscripted socket)
  | .registering socket script =>
    page.Begun socket ∧ (page.IsOpen socket → page.activeClient = some socket ∧
      (page.scripts[script]?).map Script.socket = some socket)
  | .evaluating socket =>
    page.Begun socket ∧ (page.IsOpen socket → page.activeClient = some socket ∧
      page.Registered socket)
  | .returned (some socket) => page.Registered socket
  | .returned none | .failed => True

/-- Scripts were sent to the active client only, one on each socket. -/
structure Sound (page : Page) : Prop where
  scripts : ∀ script ∈ page.scripts, page.Begun script.socket ∧
    (page.IsOpen script.socket → page.activeClient = some script.socket)
  once : (page.scripts.map Script.socket).Nodup
  active : ∀ socket, page.activeClient = some socket → page.Begun socket

theorem open_client_eq_none {page : Page} :
    page.openClient = none ↔ ∀ socket, page.activeClient = some socket → ¬page.IsOpen socket := by
  unfold openClient
  simp [Option.filter_eq_none_iff]

theorem not_begun_of_connecting {page : Page} (connecting : page.sockets[socket]? = some .connecting) :
    ¬page.Begun socket := by
  rintro ⟨state, isState, begun⟩
  cases connecting.symm.trans isState
  exact begun rfl

theorem IsOpen.begun {page : Page} (isOpen : page.IsOpen socket) : page.Begun socket :=
  ⟨.opened, isOpen, nofun⟩

/-- What a change of the page leaves to a call that has no part in it. -/
structure Keeps (before after : Page) (call : ClientCall) : Prop where
  fits : before.Fits call → after.Fits call
  preparing : before.Fits call → after.Preparing call → before.Preparing call

/-- A change of the page that opens no socket again and loses no script. -/
structure Frame (before after : Page) : Prop where
  begun : ∀ socket, before.Begun socket → after.Begun socket
  opens : ∀ socket, after.IsOpen socket → before.Begun socket → before.IsOpen socket
  active : ∀ socket, after.IsOpen socket → before.IsOpen socket →
    before.activeClient = some socket → after.activeClient = some socket
  registered : ∀ socket, before.Registered socket → after.Registered socket
  scripts : ∀ (script : Nat) socket, (before.scripts[script]?).map Script.socket = some socket →
    (after.scripts[script]?).map Script.socket = some socket

theorem Frame.keeps_rest {before after : Page} (frame : Frame before after)
    (rests : ¬before.Preparing call) : Keeps before after call := by
  cases call with
  | listing | connecting socket => exact absurd trivial rests
  | enabling socket | registering socket script =>
    constructor
    · exact fun fits => ⟨frame.begun socket fits.1, fun isOpen =>
        absurd (frame.opens socket isOpen fits.1) rests⟩
    · exact fun fits isOpen => frame.opens socket isOpen fits.1
  | evaluating socket =>
    refine ⟨fun fits => ⟨frame.begun socket fits.1, fun isOpen => ?_⟩, nofun⟩
    have wasOpen := frame.opens socket isOpen fits.1
    obtain ⟨active, registered⟩ := fits.2 wasOpen
    exact ⟨frame.active socket isOpen wasOpen active, frame.registered socket registered⟩
  | returned client =>
    cases client with
    | none => exact ⟨fun _ => trivial, nofun⟩
    | some socket => exact ⟨frame.registered socket, nofun⟩
  | failed => exact ⟨fun _ => trivial, nofun⟩

/-! ### Sockets -/

theorem get_set_ready_state {page : Page} (was : page.sockets[socket]? = some old)
    (state : ReadyState) (other : Nat) : (page.setReadyState socket state).sockets[other]? =
      if other = socket then some state else page.sockets[other]? := by
  have inside := (List.getElem?_eq_some_iff.mp was).1
  unfold setReadyState
  rw [List.getElem?_set]
  by_cases same : socket = other
  · simp [same ▸ inside, same]
  · simp [same, Ne.symm same]

theorem frame_set_ready_state {page : Page} (was : page.sockets[socket]? = some old)
    (begun : state ≠ .connecting) (opens : state = .opened → old = .connecting) :
    Frame page (page.setReadyState socket state) where
  begun other := by
    rintro ⟨found, isFound, goesOn⟩
    by_cases same : other = socket
    · exact ⟨state, by rw [get_set_ready_state was, if_pos same], begun⟩
    · exact ⟨found, by rw [get_set_ready_state was, if_neg same, isFound], goesOn⟩
  opens other isOpen wasBegun := by
    unfold IsOpen at isOpen
    rw [get_set_ready_state was] at isOpen
    split at isOpen
    · rename_i same
      subst same
      rw [opens (Option.some.inj isOpen)] at was
      exact absurd wasBegun (not_begun_of_connecting was)
    · exact isOpen
  active _ _ _ := id
  registered _ := id
  scripts _ _ := id

theorem frame_add_socket (page : Page) :
    Frame page { page with sockets := page.sockets ++ [.connecting] } where
  begun socket := by
    rintro ⟨state, isState, begun⟩
    have inside := (List.getElem?_eq_some_iff.mp isState).1
    exact ⟨state, (List.getElem?_append_left inside).trans isState, begun⟩
  opens socket isOpen wasBegun := by
    obtain ⟨state, isState, _⟩ := wasBegun
    have inside := (List.getElem?_eq_some_iff.mp isState).1
    exact (List.getElem?_append_left inside).symm.trans isOpen
  active _ _ _ := id
  registered _ := id
  scripts _ _ := id

theorem frame_publish {page : Page} (was : page.sockets[socket]? = some .connecting)
    (openClient : page.openClient = none) :
    Frame page { page.setReadyState socket .opened with activeClient := some socket } :=
  have opened : Frame page (page.setReadyState socket .opened) :=
    frame_set_ready_state was nofun fun _ => rfl
  { begun := opened.begun
    opens := opened.opens
    active := fun other _ wasOpen active =>
      absurd wasOpen (open_client_eq_none.mp openClient other active)
    registered := opened.registered
    scripts := opened.scripts }

theorem frame_closed {page : Page} (was : page.sockets[socket]? = some old) :
    Frame page { page.setReadyState socket .closed with
      activeClient := page.activeClient.filter (· ≠ socket) } :=
  have closed : Frame page (page.setReadyState socket .closed) :=
    frame_set_ready_state was nofun nofun
  { begun := closed.begun
    opens := closed.opens
    active := fun other isOpen _ active => by
      rw [active, Option.filter_some, if_pos]
      rw [decide_eq_true_iff]
      rintro rfl
      unfold IsOpen at isOpen
      rw [get_set_ready_state was, if_pos rfl] at isOpen
      cases isOpen
    registered := closed.registered
    scripts := closed.scripts }

theorem frame_send (page : Page) (script : Script) :
    Frame page { page with scripts := page.scripts ++ [script] } where
  begun _ := id
  opens _ isOpen _ := isOpen
  active _ _ _ := id
  registered _ := fun ⟨sent, member, done⟩ => ⟨sent, List.mem_append_left _ member, done⟩
  scripts index socket isSent := by
    obtain ⟨sent, isAt, isSocket⟩ := Option.map_eq_some_iff.mp isSent
    have inside := (List.getElem?_eq_some_iff.mp isAt).1
    rw [List.getElem?_append_left inside, isAt, Option.map_some, isSocket]

theorem map_set_registered {page : Page} (sent : page.scripts[index]? = some ⟨socket, false⟩) :
    (page.scripts.set index ⟨socket, true⟩).map Script.socket =
      page.scripts.map Script.socket := by
  apply List.ext_getElem?
  intro other
  rw [List.getElem?_map, List.getElem?_map, List.getElem?_set]
  by_cases same : index = other
  · subst same
    have inside := (List.getElem?_eq_some_iff.mp sent).1
    rw [if_pos rfl, if_pos inside, sent]
    rfl
  · rw [if_neg same]

theorem frame_register {page : Page} (sent : page.scripts[index]? = some ⟨socket, false⟩) :
    Frame page { page with scripts := page.scripts.set index ⟨socket, true⟩ } where
  begun _ := id
  opens _ isOpen _ := isOpen
  active _ _ _ := id
  registered other := by
    rintro ⟨script, member, isSocket, registered⟩
    refine ⟨script, ?_, isSocket, registered⟩
    obtain rfl | still := mem_set_of_mem member sent ⟨socket, true⟩
    · cases registered
    · exact still
  scripts other used isSent := by
    rw [← List.getElem?_map] at isSent ⊢
    rw [map_set_registered sent]
    exact isSent

theorem Sound.frame {before after : Page} (sound : Sound before) (frame : Frame before after)
    (scripts : after.scripts.map Script.socket = before.scripts.map Script.socket)
    (active : ∀ socket, after.activeClient = some socket → after.Begun socket) : Sound after where
  scripts script member := by
    have isSocket : script.socket ∈ before.scripts.map Script.socket :=
      scripts ▸ List.mem_map_of_mem member
    obtain ⟨sent, wasMember, same⟩ := List.mem_map.mp isSocket
    obtain ⟨begun, isActive⟩ := sound.scripts sent wasMember
    rw [same] at begun isActive
    refine ⟨frame.begun _ begun, fun isOpen => ?_⟩
    have wasOpen := frame.opens _ isOpen begun
    exact frame.active _ isOpen wasOpen (isActive wasOpen)
  once := scripts ▸ sound.once
  active := active

theorem Sound.send {page : Page} (sound : Sound page) (isOpen : page.IsOpen socket)
    (active : page.activeClient = some socket) (unscripted : page.Unscripted socket) :
    Sound { page with scripts := page.scripts ++ [⟨socket, false⟩] } where
  scripts script member := by
    obtain old | new := List.mem_append.mp member
    · exact sound.scripts script old
    · cases List.mem_singleton.mp new
      exact ⟨isOpen.begun, fun _ => active⟩
  once := by
    rw [List.map_append, List.map_singleton, ← List.concat_eq_append, List.nodup_concat]
    refine ⟨fun member => ?_, sound.once⟩
    obtain ⟨script, isMember, isSocket⟩ := List.mem_map.mp member
    exact unscripted script isMember isSocket
  active := sound.active

/-- Where no client is made active and no script is sent, every call is left as it is. -/
theorem Frame.keeps {before after : Page} (frame : Frame before after) (sound : Sound before)
    (scripts : after.scripts.map Script.socket = before.scripts.map Script.socket)
    (active : ∀ socket, after.activeClient = some socket → before.activeClient = some socket)
    (sockets : before.sockets.length ≤ after.sockets.length) (call : ClientCall) :
    Keeps before after call := by
  have openClient : before.openClient = none → after.openClient = none := by
    intro none
    rw [open_client_eq_none] at none ⊢
    intro socket isActive isOpen
    have wasActive := active socket isActive
    exact none socket wasActive (frame.opens socket isOpen (sound.active socket wasActive))
  have unscripted : ∀ socket, before.Unscripted socket → after.Unscripted socket := by
    intro socket none script member isSocket
    have sent : socket ∈ before.scripts.map Script.socket :=
      scripts ▸ isSocket ▸ List.mem_map_of_mem member
    obtain ⟨earlier, wasMember, same⟩ := List.mem_map.mp sent
    exact none earlier wasMember same
  by_cases rests : before.Preparing call
  · cases call with
    | listing => exact ⟨openClient, fun _ _ => trivial⟩
    | connecting socket =>
      exact ⟨fun fits => ⟨openClient fits.1, Nat.lt_of_lt_of_le fits.2.1 sockets,
        unscripted socket fits.2.2⟩, fun _ _ => trivial⟩
    | enabling socket =>
      refine ⟨fun fits => ⟨frame.begun socket fits.1, fun isOpen => ?_⟩, fun _ _ => rests⟩
      obtain ⟨active, none⟩ := fits.2 rests
      exact ⟨frame.active socket isOpen rests active, unscripted socket none⟩
    | registering socket script =>
      refine ⟨fun fits => ⟨frame.begun socket fits.1, fun isOpen => ?_⟩, fun _ _ => rests⟩
      obtain ⟨active, sent⟩ := fits.2 rests
      exact ⟨frame.active socket isOpen rests active, frame.scripts script socket sent⟩
    | evaluating | returned | failed => cases rests
  · exact frame.keeps_rest rests

end Page

namespace PageOwner
open Page (Keeps Frame)

/-- A call that finds an open client finds it with its script registered, and one that
finds none is the only one that prepares a client. -/
def EntersAlone (before : PageOwner) (event : PageEvent) (_ : PageOwner) : Prop :=
  event = .attach ∨ event = .controlStarts →
    match before.page.openClient with
    | some socket => before.page.Registered socket
    | none => ∀ call ∈ before.calls, ¬before.page.Preparing call

structure Sound (owner : PageOwner) : Prop where
  page : owner.page.Sound
  calls : ∀ call ∈ owner.calls, owner.page.Fits call
  alone : ∀ (first second : Nat) callFirst callSecond, owner.calls[first]? = some callFirst →
    owner.calls[second]? = some callSecond → owner.page.Preparing callFirst →
      owner.page.Preparing callSecond → first = second

theorem sound_start : Sound start := ⟨⟨nofun, List.nodup_nil, nofun⟩, nofun, nofun⟩

theorem Sound.enters {before after : PageOwner} (sound : Sound before)
    (page : after.page = before.page) (calls : after.calls = before.calls ++ [call])
    (fits : before.page.Fits call)
    (alone : before.page.Preparing call → ∀ other ∈ before.calls, ¬before.page.Preparing other) :
    Sound after := by
  have cases : ∀ (index : Nat) found, after.calls[index]? = some found →
      before.calls[index]? = some found ∨ index = before.calls.length ∧ found = call := by
    intro index found isFound
    rw [calls, List.getElem?_append] at isFound
    split at isFound
    · exact .inl isFound
    · have inside := (List.getElem?_eq_some_iff.mp isFound).1
      rw [List.length_singleton] at inside
      exact .inr ⟨by omega, List.mem_singleton.mp (List.mem_of_getElem? isFound)⟩
  refine ⟨page ▸ sound.page, fun found member => ?_, ?_⟩
  · rw [page]
    rw [calls] at member
    obtain old | new := List.mem_append.mp member
    · exact sound.calls found old
    · exact List.mem_singleton.mp new ▸ fits
  · rw [page]
    intro first second callFirst callSecond isFirst isSecond firstPrepares secondPrepares
    obtain oldFirst | ⟨lastFirst, rfl⟩ := cases first callFirst isFirst
    · obtain oldSecond | ⟨_, rfl⟩ := cases second callSecond isSecond
      · exact sound.alone first second _ _ oldFirst oldSecond firstPrepares secondPrepares
      · exact absurd firstPrepares (alone secondPrepares _ (List.mem_of_getElem? oldFirst))
    · obtain oldSecond | ⟨lastSecond, _⟩ := cases second callSecond isSecond
      · exact absurd secondPrepares (alone firstPrepares _ (List.mem_of_getElem? oldSecond))
      · exact lastFirst.trans lastSecond.symm

/-- One call goes on while the page changes. -/
theorem Sound.proceeds {before after : PageOwner} (sound : Sound before)
    (isAt : before.calls[index]? = some old) (calls : after.calls = before.calls.set index call)
    (page : after.page.Sound) (fits : after.page.Fits call)
    (preparing : after.page.Preparing call → before.page.Preparing old)
    (keeps : ∀ (other : Nat) kept, other ≠ index → before.calls[other]? = some kept →
      Keeps before.page after.page kept) : Sound after := by
  have inside := (List.getElem?_eq_some_iff.mp isAt).1
  have cases : ∀ (other : Nat) found, after.calls[other]? = some found →
      (other ≠ index ∧ before.calls[other]? = some found) ∨ other = index ∧ found = call := by
    intro other found isFound
    rw [calls] at isFound
    by_cases same : other = index
    · subst same
      rw [List.getElem?_set_self inside] at isFound
      exact .inr ⟨rfl, (Option.some.inj isFound).symm⟩
    · rw [List.getElem?_set_ne (Ne.symm same)] at isFound
      exact .inl ⟨same, isFound⟩
  have prepared : ∀ (other : Nat) found, after.calls[other]? = some found →
      after.page.Preparing found →
        ∃ earlier, before.calls[other]? = some earlier ∧ before.page.Preparing earlier := by
    intro other found isFound prepares
    obtain ⟨differs, isOld⟩ | ⟨rfl, rfl⟩ := cases other found isFound
    · have known := sound.calls found (List.mem_of_getElem? isOld)
      exact ⟨found, isOld, (keeps other found differs isOld).preparing known prepares⟩
    · exact ⟨old, isAt, preparing prepares⟩
  refine ⟨page, fun found member => ?_, ?_⟩
  · obtain ⟨other, isFound⟩ := List.mem_iff_getElem?.mp member
    obtain ⟨differs, isOld⟩ | ⟨rfl, rfl⟩ := cases other found isFound
    · exact (keeps other found differs isOld).fits
        (sound.calls found (List.mem_of_getElem? isOld))
    · exact fits
  · intro first second callFirst callSecond isFirst isSecond firstPrepares secondPrepares
    obtain ⟨_, wasFirst, firstPrepared⟩ := prepared first callFirst isFirst firstPrepares
    obtain ⟨_, wasSecond, secondPrepared⟩ := prepared second callSecond isSecond secondPrepares
    exact sound.alone first second _ _ wasFirst wasSecond firstPrepared secondPrepared

/-- The page changes, and some calls fail. -/
theorem Sound.carries {before after : PageOwner} {failing : ClientCall → Bool}
    (sound : Sound before)
    (calls : after.calls = before.calls.map fun call => if failing call then .failed else call)
    (page : after.page.Sound)
    (keeps : ∀ call ∈ before.calls, failing call = false → Keeps before.page after.page call) :
    Sound after := by
  have cases : ∀ (index : Nat) found, after.calls[index]? = some found →
      found = .failed ∨ before.calls[index]? = some found ∧ Keeps before.page after.page found := by
    intro index found isFound
    rw [calls, List.getElem?_map] at isFound
    obtain ⟨old, isOld, isFound⟩ := Option.map_eq_some_iff.mp isFound
    split at isFound
    · exact .inl isFound.symm
    · rename_i goesOn
      subst isFound
      exact .inr ⟨isOld, keeps old (List.mem_of_getElem? isOld) (by simpa using goesOn)⟩
  refine ⟨page, fun found member => ?_, ?_⟩
  · obtain ⟨index, isFound⟩ := List.mem_iff_getElem?.mp member
    obtain rfl | ⟨isOld, keeps⟩ := cases index found isFound
    · trivial
    · exact keeps.fits (sound.calls found (List.mem_of_getElem? isOld))
  · intro first second callFirst callSecond isFirst isSecond firstPrepares secondPrepares
    obtain rfl | ⟨wasFirst, keepsFirst⟩ := cases first callFirst isFirst
    · cases firstPrepares
    obtain rfl | ⟨wasSecond, keepsSecond⟩ := cases second callSecond isSecond
    · cases secondPrepares
    exact sound.alone first second _ _ wasFirst wasSecond
      (keepsFirst.preparing (sound.calls _ (List.mem_of_getElem? wasFirst)) firstPrepares)
      (keepsSecond.preparing (sound.calls _ (List.mem_of_getElem? wasSecond)) secondPrepares)

theorem Sound.others_rest {owner : PageOwner} (sound : Sound owner)
    (isAt : owner.calls[index]? = some call) (prepares : owner.page.Preparing call)
    (other : Nat) (kept : ClientCall) (differs : other ≠ index)
    (isOther : owner.calls[other]? = some kept) : ¬owner.page.Preparing kept :=
  fun keptPrepares => differs (sound.alone other index kept call isOther isAt keptPrepares prepares)

theorem Sound.fails {owner : PageOwner} (sound : Sound owner)
    (isAt : owner.calls[index]? = some call) : Sound (owner.setCall index .failed) :=
  sound.proceeds isAt rfl sound.page trivial nofun fun _ _ _ _ => ⟨id, fun _ => id⟩

theorem Sound.get_client {owner : PageOwner} (sound : Sound owner)
    (alone : match owner.page.openClient with
      | some socket => owner.page.Registered socket
      | none => ∀ call ∈ owner.calls, ¬owner.page.Preparing call) : Sound owner.getClient := by
  unfold getClient
  split
  · rename_i socket isOpen
    rw [isOpen] at alone
    exact sound.enters rfl rfl alone nofun
  · rename_i notOpen
    rw [notOpen] at alone
    exact sound.enters rfl rfl notOpen fun _ => alone

/-- Where no client is made active and no script is sent, some calls may fail. -/
theorem Sound.quiet {before after : PageOwner} {failing : ClientCall → Bool} (sound : Sound before)
    (calls : after.calls = before.calls.map fun call => if failing call then .failed else call)
    (frame : Frame before.page after.page)
    (scripts : after.page.scripts.map Script.socket = before.page.scripts.map Script.socket)
    (active : ∀ socket, after.page.activeClient = some socket →
      before.page.activeClient = some socket)
    (sockets : before.page.sockets.length ≤ after.page.sockets.length) : Sound after :=
  sound.carries calls
    (sound.page.frame frame scripts fun socket isActive =>
      frame.begun socket (sound.page.active socket (active socket isActive)))
    fun call _ _ => frame.keeps sound.page scripts active sockets call

theorem calls_unchanged (calls : List ClientCall) :
    calls = calls.map fun call => if (fun _ => false) call = true then .failed else call := by
  simp

/-- A new socket has no script. -/
theorem Sound.connects {owner : PageOwner} (sound : Sound owner)
    (isAt : owner.calls[index]? = some ClientCall.listing) :
    Sound ({ owner with page := { owner.page with
      sockets := owner.page.sockets ++ [ReadyState.connecting] } }.setCall index
        (ClientCall.connecting owner.page.sockets.length)) := by
  have frame := Page.frame_add_socket owner.page
  have longer : owner.page.sockets.length ≤
      (owner.page.sockets ++ [ReadyState.connecting]).length := by
    rw [List.length_append]
    exact Nat.le_add_right _ _
  have keeps := frame.keeps sound.page rfl (fun _ => id) longer
  have openClient := (keeps ClientCall.listing).fits (sound.calls _ (List.mem_of_getElem? isAt))
  refine sound.proceeds isAt rfl ?_ ⟨openClient, ?_, ?_⟩ (fun _ => trivial) fun _ kept _ _ =>
    keeps kept
  · exact sound.page.frame frame rfl fun _ isActive => frame.begun _ (sound.page.active _ isActive)
  · change _ < (owner.page.sockets ++ [ReadyState.connecting]).length
    rw [List.length_append]
    exact Nat.lt_succ_self _
  · intro script member isNew
    obtain ⟨⟨state, isState, _⟩, _⟩ := sound.page.scripts script member
    rw [isNew, List.getElem?_eq_none (Nat.le_refl _)] at isState
    cases isState

/-- A client is made active where none is. -/
theorem Sound.opens {owner : PageOwner} (sound : Sound owner)
    (was : owner.page.sockets[socket]? = some ReadyState.connecting) (layout : Bool) :
    Sound (owner.onOpen socket layout) := by
  unfold onOpen
  dsimp only
  split
  · exact sound.quiet (calls_unchanged _) (Page.frame_set_ready_state was nofun fun _ => rfl) rfl
      (fun _ => id) (Nat.le_of_eq List.length_set.symm)
  · rename_i index isIndex
    have isAt : owner.calls[index]? = some (.connecting socket) := by
      obtain ⟨inside, isCall, _⟩ := List.findIdx?_eq_some_iff_getElem.mp isIndex
      rw [List.getElem?_eq_getElem inside, of_decide_eq_true isCall]
    obtain ⟨openClient, _, unscripted⟩ := sound.calls _ (List.mem_of_getElem? isAt)
    have frame := Page.frame_publish was openClient
    have isOpen : (owner.page.setReadyState socket .opened).IsOpen socket := by
      unfold Page.IsOpen
      rw [Page.get_set_ready_state was, if_pos rfl]
    have page : Page.Sound { owner.page.setReadyState socket .opened with
        activeClient := some socket } := by
      refine sound.page.frame frame rfl fun other isActive => ?_
      cases isActive
      exact isOpen.begun
    have keeps := fun other kept differs isOther =>
      frame.keeps_rest (sound.others_rest isAt trivial other kept differs isOther)
    cases layout with
    | true =>
      have fits : Page.Fits { owner.page.setReadyState socket .opened with
          activeClient := some socket } (.enabling socket) :=
        ⟨isOpen.begun, fun _ => ⟨rfl, unscripted⟩⟩
      exact sound.proceeds isAt rfl page fits (fun _ => trivial) keeps
    | false => exact sound.proceeds isAt rfl page trivial nofun keeps

theorem Sound.answers {before after : PageOwner} (sound : Sound before)
    (isAt : before.calls[index]? = some call) (answered : before.onAnswer index call = some after) :
    Sound after := by
  have fits := sound.calls call (List.mem_of_getElem? isAt)
  cases call with
  | enabling socket =>
    simp only [onAnswer, Option.ite_none_right_eq_some] at answered
    obtain ⟨isOpen, answered⟩ := answered
    obtain ⟨active, unscripted⟩ := fits.2 isOpen
    split at answered
    · rename_i none
      cases none.symm.trans active
    rename_i current isCurrent
    cases isCurrent.symm.trans active
    cases answered
    have frame := Page.frame_send before.page ⟨socket, false⟩
    have fits : Page.Fits { before.page with scripts := before.page.scripts ++ [⟨socket, false⟩] }
        (.registering socket before.page.scripts.length) := by
      refine ⟨isOpen.begun, fun _ => ⟨active, ?_⟩⟩
      change ((before.page.scripts ++ [(⟨socket, false⟩ : Script)])[_]?).map _ = _
      rw [List.getElem?_concat_length]
      rfl
    exact sound.proceeds isAt rfl (sound.page.send isOpen active unscripted) fits (fun _ => isOpen)
      fun other kept differs isOther =>
        frame.keeps_rest (sound.others_rest isAt isOpen other kept differs isOther)
  | registering socket script =>
    simp only [onAnswer, Option.ite_none_right_eq_some] at answered
    obtain ⟨⟨isOpen, registered⟩, answered⟩ := answered
    obtain ⟨active, isSent⟩ := fits.2 isOpen
    rw [active] at answered
    cases answered
    obtain ⟨sent, isScript, isSocket⟩ := Option.map_eq_some_iff.mp isSent
    rw [isScript, Option.any_some] at registered
    have fits : before.page.Fits (.evaluating socket) :=
      ⟨isOpen.begun, fun _ => ⟨active, sent, List.mem_of_getElem? isScript, isSocket, registered⟩⟩
    exact sound.proceeds isAt rfl sound.page fits nofun fun _ _ _ _ => ⟨id, fun _ => id⟩
  | evaluating socket =>
    simp only [onAnswer, Option.ite_none_right_eq_some] at answered
    obtain ⟨isOpen, answered⟩ := answered
    obtain ⟨active, registered⟩ := fits.2 isOpen
    cases answered
    have fits : before.page.Fits (.returned before.page.activeClient) := by
      rw [active]
      exact registered
    exact sound.proceeds isAt rfl sound.page fits nofun fun _ _ _ _ => ⟨id, fun _ => id⟩
  | listing | connecting | returned | failed => cases answered

/-- What one step keeps. -/
theorem step_sound {before after : PageOwner} (sound : Sound before)
    (stepped : before.step event = some after) (alone : EntersAlone before event after) :
    Sound after := by
  cases event with
  | attach =>
    cases stepped
    exact sound.get_client (alone (.inl rfl))
  | control =>
    cases stepped
    exact ⟨sound.page, sound.calls, sound.alone⟩
  | controlStarts =>
    simp only [step, Option.ite_none_right_eq_some] at stepped
    cases stepped.2
    have entered := sound.get_client (alone (.inr rfl))
    exact ⟨entered.page, entered.calls, entered.alone⟩
  | listed index found =>
    simp only [step, Option.ite_none_right_eq_some] at stepped
    obtain ⟨isAt, stepped⟩ := stepped
    split at stepped
    · cases stepped
      exact sound.connects isAt
    · cases stepped
      exact sound.fails isAt
  | opens socket layout =>
    simp only [step, Option.ite_none_right_eq_some] at stepped
    obtain ⟨was, stepped⟩ := stepped
    cases stepped
    exact sound.opens was layout
  | connectFails index =>
    simp only [step] at stepped
    split at stepped
    · rename_i isAt
      cases stepped
      exact sound.fails isAt
    · cases stepped
  | answers index result =>
    obtain ⟨call, isAt, stepped⟩ := Option.bind_eq_some_iff.mp stepped
    split at stepped
    · exact sound.answers isAt stepped
    · split at stepped
      all_goals first | cases stepped; exact sound.fails isAt | cases stepped
  | registers index =>
    simp only [step] at stepped
    split at stepped
    · rename_i socket sent
      simp only [Option.ite_none_right_eq_some] at stepped
      cases stepped.2
      exact sound.quiet (calls_unchanged _) (Page.frame_register sent)
        (Page.map_set_registered sent) (fun _ => id) (Nat.le_refl _)
    · cases stepped
  | closing socket =>
    simp only [step, Option.ite_none_right_eq_some] at stepped
    obtain ⟨isOpen, stepped⟩ := stepped
    cases stepped
    exact sound.quiet (calls_unchanged _) (Page.frame_set_ready_state isOpen nofun nofun) rfl
      (fun _ => id) (Nat.le_of_eq List.length_set.symm)
  | closed socket =>
    simp only [step] at stepped
    split at stepped
    · cases stepped
    · cases stepped
    · rename_i was
      cases stepped
      refine sound.quiet rfl (Page.frame_closed was) rfl (fun other isActive => ?_)
        (Nat.le_of_eq List.length_set.symm)
      exact (Option.filter_eq_some_iff.mp isActive).1
  | controlGoesOn =>
    simp only [step] at stepped
    split at stepped
    · split at stepped
      all_goals first | cases stepped; exact ⟨sound.page, sound.calls, sound.alone⟩ | cases stepped
    · cases stepped
  | commandSettles =>
    simp only [step] at stepped
    split at stepped
    · cases stepped
      exact ⟨sound.page, sound.calls, sound.alone⟩
    · cases stepped

theorem Sound.registrations_eq_one {owner : PageOwner} (sound : Sound owner)
    (registered : owner.page.Registered socket) : owner.page.registrations socket = 1 := by
  obtain ⟨script, member, isSocket, done⟩ := registered
  unfold Page.registrations
  apply Nat.le_antisymm
  · have once : (owner.page.scripts.map Script.socket).count socket = 1 :=
      List.count_eq_one_of_mem sound.page.once (isSocket ▸ List.mem_map_of_mem member)
    rw [List.count_eq_countP, List.countP_map] at once
    rw [← once]
    refine List.countP_mono_left fun other _ counted => ?_
    rw [Bool.and_eq_true, decide_eq_true_iff] at counted
    simpa using counted.1
  · refine List.countP_pos_iff.mpr ⟨script, member, ?_⟩
    rw [isSocket, done]
    simp

theorem Sound.active_of_registrations {owner : PageOwner} (sound : Sound owner)
    (isOpen : owner.page.IsOpen socket) (some : 0 < owner.page.registrations socket) :
    owner.page.activeClient = .some socket := by
  obtain ⟨script, member, counted⟩ := List.countP_pos_iff.mp some
  rw [Bool.and_eq_true, decide_eq_true_iff] at counted
  have active := (sound.page.scripts script member).2
  rw [counted.1] at active
  exact active isOpen

theorem Sound.sole_owner {owner : PageOwner} (sound : Sound owner) : SoleOwner owner where
  prepared _ member := sound.registrations_eq_one (sound.calls _ member)
  single first second firstOpen secondOpen firstSome secondSome := by
    have isFirst := sound.active_of_registrations firstOpen firstSome
    have isSecond := sound.active_of_registrations secondOpen secondSome
    exact Option.some.inj (isFirst.symm.trans isSecond)

/-- In every run in which calls of `getClient` enter alone or find a registered client,
the page has one owner throughout. -/
theorem single_owner (events : List PageEvent) (alone : Along step EntersAlone start events) :
    Along step (fun _ _ after => after.SoleOwner) start events :=
  along_imp Sound
    (fun _ _ _ sound stepped entersAlone => (step_sound sound stepped entersAlone).sole_owner)
    (fun _ _ _ sound stepped entersAlone => step_sound sound stepped entersAlone) sound_start alone

theorem enters_alone_of_ne (notAttach : event ≠ .attach) (notStart : event ≠ .controlStarts) :
    EntersAlone before event after :=
  fun enters => (enters.elim notAttach notStart).elim

/-- An attached page is controlled, its socket closes, and it is attached again. -/
def reattached : List PageEvent :=
  [.attach, .listed 0 true, .opens 0 true, .answers 0 true, .registers 0, .answers 0 true,
    .answers 0 true, .control, .controlStarts, .controlGoesOn, .commandSettles, .closing 0,
    .closed 0, .attach, .listed 2 true, .opens 1 true, .answers 2 true, .registers 1,
    .answers 2 true, .answers 2 true]

theorem reattached_has_one_owner :
    (Machine.run step start reattached).map PageOwner.calls =
      some [.returned (some 0), .returned (some 0), .returned (some 1)] ∧
    Along step (fun _ _ after => after.SoleOwner) start reattached := by
  refine ⟨by decide, single_owner reattached (along_cons rfl ?_ ?_)⟩
  · exact fun _ _ member => absurd member List.not_mem_nil
  iterate 7 refine along_cons rfl (enters_alone_of_ne nofun nofun) ?_
  refine along_cons rfl ?_ ?_
  · exact fun _ => ⟨⟨0, true⟩, List.mem_cons_self, rfl, rfl⟩
  iterate 4 refine along_cons rfl (enters_alone_of_ne nofun nofun) ?_
  refine along_cons rfl ?_ ?_
  · intro _ call member
    have isReturned : call ∈ List.replicate 2 (ClientCall.returned (some 0)) := member
    cases List.eq_of_mem_replicate isReturned
    exact id
  iterate 6 refine along_cons rfl (enters_alone_of_ne nofun nofun) ?_
  trivial

/-- While the first call enables the page, the second one finds its socket open. -/
theorem unprepared_client_returned :
    ¬Along step (fun _ _ after => after.SoleOwner) start
      ([.attach, .listed 0 true, .opens 0 true] ++ [.attach]) := by
  intro along
  have sole := along_last along rfl rfl
  cases sole.prepared 0 (by decide)

end PageOwner

end MoonlightWeb.YouTubeRemote

import Mathlib.Data.List.Sort
import MoonlightWeb.Client.Gamepad
import MoonlightWeb.Lib.Machine
import MoonlightWeb.Lib.OrderedMap

/-! The gamepads of a `StreamInput`: pads wait until their state tells them apart
from a mirrored one, get a controller id, and from then on every poll sends the
states that changed. A message for a channel that is not open is dropped without
notice, and every peer brings new channels. -/
namespace MoonlightWeb.Client

inductive ReadyState where
  | connecting | opened | closed
  deriving DecidableEq, Repr

/-- A data channel with what was sent on it, the newest message first. -/
structure RTCDataChannel (μ : Type) where
  readyState : ReadyState
  sent : List μ
  deriving DecidableEq

namespace RTCDataChannel

def create : RTCDataChannel μ := ⟨.connecting, []⟩

def trySend (channel : RTCDataChannel μ) (message : μ) : RTCDataChannel μ :=
  if channel.readyState = .opened then { channel with sent := message :: channel.sent } else channel

end RTCDataChannel

def trySendChannel (channel : Option (RTCDataChannel μ)) (message : μ) :
    Option (RTCDataChannel μ) :=
  channel.map fun channel => channel.trySend message

inductive ControllersMessage where
  | add (id : Nat) (supportedButtons : BitVec 32) (capabilities : Nat)
  | remove (id : Nat)
  deriving DecidableEq, Repr

inductive ControllerDeviceMode where
  | auto | physical | virtual
  deriving DecidableEq, Repr

structure StreamInputConfig where
  controllerConfig : ControllerConfig
  controllerDeviceMode : Option ControllerDeviceMode
  deriving DecidableEq, Repr

structure RegisteredGamepad where
  internalId : Nat
  gamepadId : String
  vendorId : Option String
  isVirtual : Bool
  deriving DecidableEq, Repr

structure PendingGamepad where
  gamepadId : String
  vendorId : Option String
  isVirtual : Bool
  connectedAt : ℤ
  deriving DecidableEq, Repr

structure StreamInput where
  connected : Bool
  peer : Bool
  controllers : Option (RTCDataChannel ControllersMessage)
  controllerInputs : OrderedMap Nat (RTCDataChannel GamepadState)
  previousStates : OrderedMap Nat GamepadState
  bufferedControllers : List Nat
  /-- By the index of the pad in the browser. -/
  gamepads : OrderedMap Nat RegisteredGamepad
  pendingGamepads : OrderedMap Nat PendingGamepad
  pendingGamepadTimer : Bool
  config : StreamInputConfig
  teslaSwapOverride : Option Bool
  deriving DecidableEq

/-- What `navigator.getGamepads()` returns. -/
abbrev Browser := List (Option Gamepad)

def VIRTUAL_SUPPRESSION_MS : ℤ := 200

namespace StreamInput

def new : StreamInput where
  connected := false
  peer := false
  controllers := none
  controllerInputs := .empty
  previousStates := .empty
  bufferedControllers := []
  gamepads := .empty
  pendingGamepads := .empty
  pendingGamepadTimer := false
  config := ⟨⟨false, false⟩, none⟩
  teslaSwapOverride := none

def setPeer (input : StreamInput) : StreamInput :=
  { input with
    controllerInputs := if input.peer then .empty else input.controllerInputs
    peer := true
    controllers := some .create }

def sendControllerAdd (input : StreamInput) (id : Nat) (supportedButtons : BitVec 32)
    (capabilities : Nat) : StreamInput :=
  { input with
    controllers := trySendChannel input.controllers (.add id supportedButtons capabilities) }

def sendControllerRemove (input : StreamInput) (id : Nat) : StreamInput :=
  { input with controllers := trySendChannel input.controllers (.remove id) }

/-- Without a peer there is no channel to make. -/
def tryOpenControllerChannel (input : StreamInput) (id : Nat) : StreamInput :=
  match input.controllerInputs.get id with
  | some _ => input
  | none =>
    if input.peer then { input with controllerInputs := input.controllerInputs.set id .create }
    else input

def sendController (input : StreamInput) (id : Nat) (state : GamepadState) : StreamInput :=
  let input := input.tryOpenControllerChannel id
  match input.controllerInputs.get id with
  | some channel =>
    { input with controllerInputs := input.controllerInputs.set id (channel.trySend state) }
  | none => input

def removeRegisteredGamepad (input : StreamInput) (index : Nat) : StreamInput :=
  match input.gamepads.get index with
  | none => input
  | some entry =>
    let input := input.sendControllerRemove entry.internalId
    { input with
      gamepads := input.gamepads.delete index
      previousStates := input.previousStates.delete entry.internalId
      controllerInputs := input.controllerInputs.delete entry.internalId }

/-- The internal ids in use. -/
def internalIds (input : StreamInput) : List Nat :=
  input.gamepads.entries.map fun entry => entry.2.internalId

/-- The lowest id from `id` on that is not in use, looking at `fuel` of them. -/
def lowestFreeId (inUse : List Nat) : Nat → Nat → Nat
  | 0, id => id
  | fuel + 1, id => if id ∈ inUse then lowestFreeId inUse fuel (id + 1) else id

def registerGamepad (input : StreamInput) (index : Nat) (gamepadId : String)
    (vendorId : Option String) (isVirtual : Bool) : StreamInput :=
  let id := lowestFreeId input.internalIds (input.internalIds.length + 1) 0
  let input := { input with
    gamepads := input.gamepads.set index ⟨id, gamepadId, vendorId, isVirtual⟩
    pendingGamepads := input.pendingGamepads.delete index }
  input.sendControllerAdd id SUPPORTED_BUTTONS 0

def extract (input : StreamInput) (gamepad : Gamepad) : GamepadState :=
  extractGamepadState input.teslaSwapOverride input.config.controllerConfig gamepad

/-- The browser's pad at an index, if it has one there. -/
def gamepadAt (browser : Browser) (index : Nat) : Option Gamepad := (browser[index]?).join

structure Candidate where
  index : Nat
  gamepadId : String
  vendorId : Option String
  isVirtual : Bool
  state : GamepadState
  connectedAt : ℤ
  deriving DecidableEq

def registeredSignatures (input : StreamInput) (browser : Browser) : List (BitVec 32 × List ℤ) :=
  input.gamepads.entries.filterMap fun entry =>
    (gamepadAt browser entry.1).bind fun gamepad =>
      let state := input.extract gamepad
      if state.isNeutralGamepadState then none else some state.buildGamepadStateSignature

/-- The waiting pads that are in use and mirror no registered one. -/
def activePending (input : StreamInput) (browser : Browser) : List Candidate :=
  input.pendingGamepads.entries.filterMap fun (index, pending) =>
    (gamepadAt browser index).bind fun gamepad =>
      let state := input.extract gamepad
      if gamepad.id ≠ pending.gamepadId then none
      else if state.isNeutralGamepadState then none
      else if state.buildGamepadStateSignature ∈ input.registeredSignatures browser then none
      else some ⟨index, gamepad.id, pending.vendorId, pending.isVirtual, state, pending.connectedAt⟩

def groupBySignature (candidates : List Candidate) :
    OrderedMap (BitVec 32 × List ℤ) (List Candidate) :=
  candidates.foldl (fun groups candidate =>
    let signature := candidate.state.buildGamepadStateSignature
    groups.set signature ((groups.get signature).getD [] ++ [candidate])) .empty

def lowestIndex (first : Candidate) (rest : List Candidate) : Candidate :=
  rest.foldl (fun a b => if a.index < b.index then a else b) first

def earliest (first : Candidate) (rest : List Candidate) : Candidate :=
  rest.foldl (fun a b => if a.connectedAt < b.connectedAt then a else b) first

/-- Which of the pads with one state gets registered. -/
def choose (mode : ControllerDeviceMode) : List Candidate → Option Candidate
  | [] => none
  | first :: rest =>
    let list := first :: rest
    match mode with
    | .physical => some ((list.find? fun c => !c.isVirtual).getD (lowestIndex first rest))
    | .virtual => some ((list.find? fun c => c.isVirtual).getD (lowestIndex first rest))
    | .auto =>
      match list.filter (fun c => !c.isVirtual), list.filter (fun c => c.isVirtual) with
      | physical :: physicals, virtual :: virtuals =>
        let earliestPhysical := earliest physical physicals
        let earliestVirtual := earliest virtual virtuals
        if |earliestPhysical.connectedAt - earliestVirtual.connectedAt| ≤ VIRTUAL_SUPPRESSION_MS then
          some earliestPhysical
        else some (earliest first rest)
      | _, _ => some (earliest first rest)

/-- One pad of a group is registered; the others wait no longer. -/
def promoteGroup (input : StreamInput) (list : List Candidate) : StreamInput :=
  match choose (input.config.controllerDeviceMode.getD .auto) list with
  | none => input
  | some chosen =>
    let input := { input with
      pendingGamepads := list.foldl (fun pending candidate =>
        if candidate = chosen then pending else pending.delete candidate.index)
          input.pendingGamepads }
    input.registerGamepad chosen.index chosen.gamepadId chosen.vendorId chosen.isVirtual

def processPendingGamepads (input : StreamInput) (browser : Browser) : StreamInput :=
  (groupBySignature (input.activePending browser)).entries.foldl
    (fun input group => input.promoteGroup group.2) input

/-- In auto mode a physical pad drives out the virtual one of the same vendor
that connected just before it. -/
def evictVirtual (pendingGamepads : OrderedMap Nat PendingGamepad) (vendorId : Option String)
    (now : ℤ) : OrderedMap Nat PendingGamepad :=
  pendingGamepads.retain fun _ pending =>
    !(pending.isVirtual && pending.vendorId.isSome && pending.vendorId = vendorId &&
      now - pending.connectedAt ≤ VIRTUAL_SUPPRESSION_MS)

/-- Whether a pad that connects is left out: the mode wants the other kind, or in
auto mode a virtual pad comes with its physical one. -/
def rejects (input : StreamInput) (vendorId : Option String) (isVirtual : Bool) (now : ℤ) : Bool :=
  match input.config.controllerDeviceMode.getD .auto with
  | .physical => isVirtual
  | .virtual => !isVirtual
  | .auto => isVirtual &&
      (input.pendingGamepads.entries.any (fun (_, p) => !p.isVirtual && p.vendorId.isSome &&
          p.vendorId = vendorId && now - p.connectedAt ≤ VIRTUAL_SUPPRESSION_MS) ||
        input.gamepads.entries.any fun (_, e) => !e.isVirtual && e.vendorId.isSome &&
          e.vendorId = vendorId)

def controllersOpen (input : StreamInput) : Bool :=
  match input.controllers with
  | some channel => channel.readyState = .opened
  | none => false

def onGamepadConnect (input : StreamInput) (index : Nat) (gamepad : Gamepad) (now : ℤ) :
    StreamInput :=
  if !input.connected || !input.controllersOpen then
    { input with bufferedControllers := input.bufferedControllers ++ [index] }
  else if (input.gamepads.get index).isSome then input
  else if (input.pendingGamepads.get index).isSome then input
  else
    let vendorId := getGamepadVendorId gamepad.id
    let isVirtual := isVirtualGamepad gamepad.id
    if input.rejects vendorId isVirtual now then input
    else
      let pending :=
        if input.config.controllerDeviceMode.getD .auto = .auto ∧ !isVirtual then
          evictVirtual input.pendingGamepads vendorId now
        else input.pendingGamepads
      { input with
        pendingGamepads := pending.set index ⟨gamepad.id, vendorId, isVirtual, now⟩
        pendingGamepadTimer := true }

def registerBufferedControllers (input : StreamInput) (browser : Browser) (now : ℤ) :
    StreamInput :=
  let buffered := input.bufferedControllers
  let input := buffered.foldl (fun input index =>
    match gamepadAt browser index with
    | some gamepad => input.onGamepadConnect index gamepad now
    | none => input) { input with bufferedControllers := [] }
  input.gamepads.entries.foldl (fun input entry =>
    input.sendControllerAdd entry.2.internalId SUPPORTED_BUTTONS 0) input

def onStreamStart (input : StreamInput) (browser : Browser) (now : ℤ) : StreamInput :=
  { input with connected := true }.registerBufferedControllers browser now

def onPendingTimer (input : StreamInput) (browser : Browser) : StreamInput :=
  if input.pendingGamepads.entries = [] then { input with pendingGamepadTimer := false }
  else
    let input := input.processPendingGamepads browser
    if input.pendingGamepads.entries = [] then { input with pendingGamepadTimer := false }
    else input

def onGamepadDisconnect (input : StreamInput) (index : Nat) : StreamInput :=
  if (input.pendingGamepads.get index).isSome then
    { input with pendingGamepads := input.pendingGamepads.delete index }
  else input.removeRegisteredGamepad index

def setConfig (input : StreamInput) (controllerConfig : ControllerConfig)
    (controllerDeviceMode : Option (Option ControllerDeviceMode)) : StreamInput :=
  { input with config := ⟨controllerConfig,
    controllerDeviceMode.getD input.config.controllerDeviceMode⟩ }

structure Update where
  internalId : Nat
  gamepadId : String
  timestamp : ℚ
  state : GamepadState
  deriving DecidableEq

/-- Whether a state is the recorded one of a controller. -/
def isRecorded (input : StreamInput) (internalId : Nat) (state : GamepadState) : Bool :=
  match input.previousStates.get internalId with
  | some previous => previous.areGamepadStatesEqual state
  | none => false

/-- The state of one registered pad is recorded if it changed, and then is to be
sent. -/
def detect (input : StreamInput) (entry : RegisteredGamepad) (gamepad : Gamepad) :
    StreamInput × List Update :=
  let state := input.extract gamepad
  if input.isRecorded entry.internalId state then (input, [])
  else
    ({ input with previousStates := input.previousStates.set entry.internalId state },
      [⟨entry.internalId, entry.gamepadId, gamepad.timestamp, state⟩])

/-- The browser's pad at an index, if it is the one of an entry. -/
def padAt (browser : Browser) (index : Nat) (entry : RegisteredGamepad) : Option Gamepad :=
  (gamepadAt browser index).filter fun gamepad => gamepad.id = entry.gamepadId

/-- Where the browser has a pad with an id string, if not at the expected index. -/
def findIndex (browser : Browser) (gamepadId : String) : Option Nat :=
  browser.findIdx? fun slot => slot.any fun gamepad => gamepad.id = gamepadId

/-- The registry is walked while it is changed: a pad that has moved gets a new
key, which comes last and is visited too, unless the key was there already. -/
def visit (browser : Browser) (input : StreamInput) (index : Nat) :
    StreamInput × List Update × List Nat :=
  match input.gamepads.get index with
  | none => (input, [], [])
  | some entry =>
    match padAt browser index entry with
    | some gamepad =>
      let (input, updates) := input.detect entry gamepad
      (input, updates, [])
    | none =>
      match findIndex browser entry.gamepadId with
      | none => (input, [], [])
      | some foundAt =>
        let gamepads := input.gamepads.delete index
        let appended := if foundAt ∈ gamepads.keys then [] else [foundAt]
        let input := { input with gamepads := gamepads.set foundAt entry }
        match gamepadAt browser foundAt with
        | none => (input, [], appended)
        | some gamepad =>
          let (input, updates) := input.detect entry gamepad
          (input, updates, appended)

def walk (browser : Browser) : Nat → StreamInput → List Nat → StreamInput × List Update
  | 0, input, _ => (input, [])
  | _, input, [] => (input, [])
  | fuel + 1, input, index :: rest =>
    let (input, updates, appended) := visit browser input index
    let (input, more) := walk browser fuel input (rest ++ appended)
    (input, updates ++ more)

def isTeslaVirtualGamepadId (gamepadId : String) : Bool := isVirtualGamepad gamepadId

/-- The virtual pads come last. -/
def sortUpdates (updates : List Update) : List Update :=
  updates.mergeSort fun a b =>
    !isTeslaVirtualGamepadId a.gamepadId || isTeslaVirtualGamepadId b.gamepadId

abbrev Sent := OrderedMap (BitVec 32 × List ℤ) (String × ℚ)

def suppressed (sentBySignature : Sent) (update : Update) : Bool :=
  !update.state.isNeutralGamepadState &&
    match sentBySignature.get update.state.buildGamepadStateSignature with
    | some (gamepadId, timestamp) =>
      |timestamp - update.timestamp| ≤ 4 && isTeslaVirtualGamepadId update.gamepadId &&
        !isTeslaVirtualGamepadId gamepadId
    | none => false

/-- The updates that mirror one that was sent before them. -/
def mirrored (sentBySignature : Sent) : List Update → List Update
  | [] => []
  | update :: rest =>
    if suppressed sentBySignature update then update :: mirrored sentBySignature rest
    else if update.state.isNeutralGamepadState then mirrored sentBySignature rest
    else mirrored (sentBySignature.set update.state.buildGamepadStateSignature
      (update.gamepadId, update.timestamp)) rest

def sendUpdates (input : StreamInput) (sentBySignature : Sent) : List Update → StreamInput
  | [] => input
  | update :: rest =>
    if suppressed sentBySignature update then input.sendUpdates sentBySignature rest
    else
      let sentBySignature :=
        if update.state.isNeutralGamepadState then sentBySignature
        else sentBySignature.set update.state.buildGamepadStateSignature
          (update.gamepadId, update.timestamp)
      (input.sendController update.internalId update.state).sendUpdates sentBySignature rest

/-- The registered pads as a poll finds them, and the updates it collects. -/
def collectUpdates (input : StreamInput) (browser : Browser) : StreamInput × List Update :=
  walk browser (2 * input.gamepads.keys.length) input input.gamepads.keys

def onGamepadUpdate (input : StreamInput) (browser : Browser) : StreamInput :=
  match input.gamepads.entries with
  | [] => input
  | [(index, entry)] =>
    match padAt browser index entry with
    | none => input
    | some gamepad =>
      let (input, updates) := input.detect entry gamepad
      updates.foldl (fun input update => input.sendController update.internalId update.state) input
  | _ =>
    let (input, updates) := input.collectUpdates browser
    input.sendUpdates .empty (sortUpdates updates)

end StreamInput

/-- The page: its input, the browser's pads, and whether `onStreamStart` has run
since the last `setPeer`. -/
structure Page where
  input : StreamInput
  browser : Browser
  streamStarted : Bool
  deriving DecidableEq

inductive PageEvent where
  | setPeer
  | controllersOpen
  | controllersClose
  | controllerInputOpen (id : Nat)
  | controllerInputClose (id : Nat)
  | streamStart (now : ℤ)
  /-- The browser's array changes; the events that tell the page come later. -/
  | gamepadsChange (browser : Browser)
  | gamepadConnected (index : Nat) (gamepad : Gamepad) (now : ℤ)
  | gamepadDisconnected (index : Nat)
  | pendingTimer
  | poll
  | setConfig (controllerConfig : ControllerConfig)
      (controllerDeviceMode : Option (Option ControllerDeviceMode))
  | setTeslaSwapOverride (value : Option Bool)
  deriving DecidableEq

namespace Page

def start : Page := ⟨.new, [], false⟩

def step (page : Page) : PageEvent → Option Page
  | .setPeer => some { page with input := page.input.setPeer, streamStarted := false }
  | .controllersOpen =>
    match page.input.controllers with
    | some ⟨.connecting, sent⟩ =>
      some { page with input := { page.input with controllers := some ⟨.opened, sent⟩ } }
    | _ => none
  | .controllersClose =>
    page.input.controllers.map fun channel =>
      { page with input := { page.input with
        controllers := some { channel with readyState := .closed } } }
  | .controllerInputOpen id =>
    match page.input.controllerInputs.get id with
    | some ⟨.connecting, sent⟩ =>
      some { page with input := { page.input with
        controllerInputs := page.input.controllerInputs.set id ⟨.opened, sent⟩ } }
    | _ => none
  | .controllerInputClose id =>
    (page.input.controllerInputs.get id).map fun channel =>
      { page with input := { page.input with
        controllerInputs :=
          page.input.controllerInputs.set id { channel with readyState := .closed } } }
  | .streamStart now =>
    some { page with
      input := page.input.onStreamStart page.browser now
      streamStarted := page.input.peer }
  | .gamepadsChange browser => some { page with browser }
  | .gamepadConnected index gamepad now =>
    some { page with input := page.input.onGamepadConnect index gamepad now }
  | .gamepadDisconnected index =>
    some { page with input := page.input.onGamepadDisconnect index }
  | .pendingTimer =>
    if page.input.pendingGamepadTimer then
      some { page with input := page.input.onPendingTimer page.browser }
    else none
  | .poll => some { page with input := page.input.onGamepadUpdate page.browser }
  | .setConfig controllerConfig controllerDeviceMode =>
    some { page with input := page.input.setConfig controllerConfig controllerDeviceMode }
  | .setTeslaSwapOverride value =>
    some { page with input := { page.input with teslaSwapOverride := value } }

end Page

end MoonlightWeb.Client

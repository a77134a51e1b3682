import Mathlib.Data.List.Perm.Subperm
import MoonlightWeb.Client.StreamInput

/-! Which pads the host knows of. A pad that is registered while the controllers
channel is open is announced there; a pad that connects before that, or that was
announced to an earlier peer, is announced when the stream starts, and only
then. -/
namespace MoonlightWeb.Client
open MoonlightWeb.Machine

/-- Whether the newest message about a controller announces it. -/
def announced (id : Nat) : List ControllersMessage → Bool
  | [] => false
  | .add other _ _ :: older => other = id || announced id older
  | .remove other :: older => other ≠ id && announced id older

namespace StreamInput

/-- No two registered pads have one internal id. -/
def Distinct (input : StreamInput) : Prop :=
  ∀ index entry other otherEntry, (index, entry) ∈ input.gamepads.entries →
    (other, otherEntry) ∈ input.gamepads.entries →
      entry.internalId = otherEntry.internalId → index = other

/-- Nothing was sent on a channel that is not open yet. -/
def Silent (input : StreamInput) : Prop :=
  ∀ channel, input.controllers = some channel → channel.readyState = .connecting →
    channel.sent = []

/-- Every registered pad is announced on the channel, if that is open. -/
def AllAnnounced (input : StreamInput) : Prop :=
  ∀ channel, input.controllers = some channel → channel.readyState = .opened →
    ∀ index entry, (index, entry) ∈ input.gamepads.entries →
      announced entry.internalId channel.sent = true

theorem controllersOpen_iff {input : StreamInput} : input.controllersOpen = true ↔
    ∃ channel, input.controllers = some channel ∧ channel.readyState = .opened := by
  unfold controllersOpen
  cases input.controllers <;> simp

/-- What the operations on the registry keep: while the page is connected and
the channel open they buffer nothing, and they announce what they register. -/
structure Keeps (before after : StreamInput) : Prop where
  connected : after.connected = before.connected
  opened : after.controllersOpen = before.controllersOpen
  buffered : before.connected = true → before.controllersOpen = true →
    after.bufferedControllers = before.bufferedControllers
  distinct : before.Distinct → after.Distinct
  silent : before.Silent → after.Silent
  announced : before.Distinct → before.AllAnnounced → after.AllAnnounced

theorem Keeps.trans (first : Keeps input middle) (second : Keeps middle after) :
    Keeps input after where
  connected := second.connected.trans first.connected
  opened := second.opened.trans first.opened
  buffered connected opened := (second.buffered (first.connected.trans connected)
    (first.opened.trans opened)).trans (first.buffered connected opened)
  distinct held := second.distinct (first.distinct held)
  silent held := second.silent (first.silent held)
  announced held known := second.announced (first.distinct held) (first.announced held known)

/-- A change of anything but the registry, the buffer and the channel. -/
theorem keeps_of_same {before after : StreamInput} (gamepads : after.gamepads = before.gamepads)
    (controllers : after.controllers = before.controllers)
    (buffered : after.bufferedControllers = before.bufferedControllers)
    (connected : after.connected = before.connected) : Keeps before after where
  connected := connected
  opened := by rw [controllersOpen, controllersOpen, controllers]
  buffered _ _ := buffered
  distinct held := by rwa [Distinct, gamepads]
  silent held := by rwa [Silent, controllers]
  announced _ held := by rwa [AllAnnounced, controllers, gamepads]

theorem keeps_refl (input : StreamInput) : Keeps input input := keeps_of_same rfl rfl rfl rfl

theorem keeps_foldl (change : StreamInput → α → StreamInput)
    (kept : ∀ input item, Keeps input (change input item)) (list : List α) (input : StreamInput) :
    Keeps input (list.foldl change input) := by
  induction list generalizing input with
  | nil => exact keeps_refl input
  | cons item rest ih => exact (kept input item).trans (ih _)

theorem trySend_opened {message : μ}
    (sent : trySendChannel channel message = some after) (opened : after.readyState = .opened) :
    ∃ before, channel = some before ∧ before.readyState = .opened ∧
      after.sent = message :: before.sent := by
  obtain ⟨before, rfl, rfl⟩ := Option.map_eq_some_iff.mp sent
  unfold RTCDataChannel.trySend at opened ⊢
  split
  · rename_i isOpen
    exact ⟨before, rfl, isOpen, rfl⟩
  · rename_i isClosed
    rw [if_neg isClosed] at opened
    exact (isClosed opened).elim

theorem trySend_unopened {message : μ}
    (sent : trySendChannel channel message = some after) (unopened : after.readyState ≠ .opened) :
    channel = some after := by
  obtain ⟨before, rfl, rfl⟩ := Option.map_eq_some_iff.mp sent
  unfold RTCDataChannel.trySend at unopened ⊢
  split
  · rename_i isOpen
    rw [if_pos isOpen] at unopened
    exact (unopened isOpen).elim
  · rfl

theorem trySend_readyState (channel : RTCDataChannel μ) (message : μ) :
    (channel.trySend message).readyState = channel.readyState := by
  unfold RTCDataChannel.trySend
  split <;> rfl

theorem controllersOpen_trySend (input : StreamInput) (message : ControllersMessage) :
    { input with controllers := trySendChannel input.controllers message }.controllersOpen =
      input.controllersOpen := by
  unfold controllersOpen trySendChannel
  cases input.controllers <;> simp [trySend_readyState]

/-- A message with a change of the registry whose pads it accounts for. -/
theorem keeps_send (before : StreamInput) (gamepads : OrderedMap Nat RegisteredGamepad)
    (message : ControllersMessage)
    (distinct : before.Distinct → { before with gamepads }.Distinct)
    (accounts : ∀ sent index entry, before.Distinct →
      (∀ index entry, (index, entry) ∈ before.gamepads.entries →
        announced entry.internalId sent = true) →
      (index, entry) ∈ gamepads.entries → announced entry.internalId (message :: sent) = true) :
    Keeps before { before with
      gamepads, controllers := trySendChannel before.controllers message } where
  connected := rfl
  opened := controllersOpen_trySend before message
  buffered _ _ := rfl
  distinct := distinct
  silent held channel isChannel connecting :=
    held channel (trySend_unopened isChannel (by simp [connecting])) connecting
  announced held known channel isChannel opened index entry member := by
    obtain ⟨earlier, wasChannel, wasOpened, sent⟩ := trySend_opened isChannel opened
    rw [sent]
    exact accounts earlier.sent index entry held (known earlier wasChannel wasOpened) member

/-- The search for an id finds one that is not in use, if there is one in its
reach. -/
private theorem lowestFreeId_free {inUse : List Nat} {fuel id : Nat}
    (free : ∃ offset < fuel, id + offset ∉ inUse) : lowestFreeId inUse fuel id ∉ inUse := by
  induction fuel generalizing id with
  | zero =>
    obtain ⟨_, none, _⟩ := free
    cases none
  | succ fuel ih =>
    unfold lowestFreeId
    split
    · rename_i used
      obtain ⟨offset, within, unused⟩ := free
      cases offset with
      | zero => exact (unused used).elim
      | succ offset =>
        exact ih ⟨offset, Nat.lt_of_succ_lt_succ within, by
          rwa [Nat.add_assoc, Nat.add_comm 1 offset]⟩
    · assumption

theorem lowestFreeId_not_mem (inUse : List Nat) :
    lowestFreeId inUse (inUse.length + 1) 0 ∉ inUse := by
  refine lowestFreeId_free ?_
  by_contra all
  push Not at all
  -- Otherwise one id more than there are would be in use.
  have included : List.range (inUse.length + 1) ⊆ inUse := fun id member => by
    simpa using all id (List.mem_range.mp member)
  have := (List.nodup_range.subperm included).length_le
  rw [List.length_range] at this
  omega

/-- A pad with an id that no other pad has. -/
theorem distinct_set {gamepads : OrderedMap Nat RegisteredGamepad} {index : Nat}
    {added : RegisteredGamepad}
    (held : ∀ index entry other otherEntry, (index, entry) ∈ gamepads.entries →
      (other, otherEntry) ∈ gamepads.entries → entry.internalId = otherEntry.internalId →
        index = other)
    (fresh : ∀ other otherEntry, (other, otherEntry) ∈ gamepads.entries →
      otherEntry.internalId ≠ added.internalId) :
    ∀ first entry other otherEntry, (first, entry) ∈ (gamepads.set index added).entries →
      (other, otherEntry) ∈ (gamepads.set index added).entries →
        entry.internalId = otherEntry.internalId → first = other := by
  intro first entry other otherEntry member otherMember same
  rw [OrderedMap.mem_entries_set] at member otherMember
  rcases member with ⟨rfl, rfl⟩ | ⟨_, member⟩ <;>
    rcases otherMember with ⟨rfl, rfl⟩ | ⟨_, otherMember⟩
  · rfl
  · exact (fresh other otherEntry otherMember same.symm).elim
  · exact (fresh first entry member same).elim
  · exact held first entry other otherEntry member otherMember same

theorem registerGamepad_keeps (input : StreamInput) (index : Nat) (gamepadId : String)
    (vendorId : Option String) (isVirtual : Bool) :
    Keeps input (input.registerGamepad index gamepadId vendorId isVirtual) := by
  let id := lowestFreeId input.internalIds (input.internalIds.length + 1) 0
  have fresh (other : Nat) (entry : RegisteredGamepad)
      (member : (other, entry) ∈ input.gamepads.entries) : entry.internalId ≠ id := fun same =>
    lowestFreeId_not_mem input.internalIds (List.mem_map.mpr ⟨_, member, same⟩)
  have kept := keeps_send input
    (input.gamepads.set index ⟨id, gamepadId, vendorId, isVirtual⟩) (.add id SUPPORTED_BUTTONS 0)
    (fun held => distinct_set held fresh) (fun sent other entry _ known member => by
      rw [OrderedMap.mem_entries_set] at member
      rcases member with ⟨_, rfl⟩ | ⟨_, member⟩
      · simp [announced]
      · simp [announced, known other entry member])
  exact kept.trans (keeps_of_same rfl rfl rfl rfl)

theorem promoteGroup_keeps (input : StreamInput) (list : List Candidate) :
    Keeps input (input.promoteGroup list) := by
  unfold promoteGroup
  split
  · exact keeps_refl input
  · have fewer (pendingGamepads : OrderedMap Nat PendingGamepad) :
        Keeps input { input with pendingGamepads } := keeps_of_same rfl rfl rfl rfl
    exact (fewer _).trans (registerGamepad_keeps _ _ _ _ _)

theorem processPendingGamepads_keeps (input : StreamInput) (browser : Browser) :
    Keeps input (input.processPendingGamepads browser) :=
  keeps_foldl (fun input (group : (BitVec 32 × List ℤ) × List Candidate) =>
    input.promoteGroup group.2) (fun input group => promoteGroup_keeps input group.2) _ input

theorem onPendingTimer_keeps (input : StreamInput) (browser : Browser) :
    Keeps input (input.onPendingTimer browser) := by
  unfold onPendingTimer
  split
  · exact keeps_of_same rfl rfl rfl rfl
  · have processed := processPendingGamepads_keeps input browser
    dsimp only
    split
    · exact processed.trans (keeps_of_same rfl rfl rfl rfl)
    · exact processed

theorem removeRegisteredGamepad_keeps (input : StreamInput) (index : Nat) :
    Keeps input (input.removeRegisteredGamepad index) := by
  unfold removeRegisteredGamepad
  split
  · exact keeps_refl input
  · rename_i entry found
    have here := input.gamepads.mem_entries_iff.mpr found
    have kept := keeps_send input (input.gamepads.delete index)
      (.remove entry.internalId)
      (fun held first entry other otherEntry member otherMember =>
        held first entry other otherEntry (OrderedMap.mem_entries_delete _ |>.mp member).2
          (OrderedMap.mem_entries_delete _ |>.mp otherMember).2)
      (fun sent other otherEntry distinct known member => by
        rw [OrderedMap.mem_entries_delete] at member
        have differs : entry.internalId ≠ otherEntry.internalId := fun same =>
          member.1 (distinct index entry other otherEntry here member.2 same).symm
        simp [announced, differs, known other otherEntry member.2])
    exact kept.trans (keeps_of_same rfl rfl rfl rfl)

theorem onGamepadDisconnect_keeps (input : StreamInput) (index : Nat) :
    Keeps input (input.onGamepadDisconnect index) := by
  unfold onGamepadDisconnect
  split
  · exact keeps_of_same rfl rfl rfl rfl
  · exact removeRegisteredGamepad_keeps input index

theorem detect_keeps (input : StreamInput) (entry : RegisteredGamepad) (gamepad : Gamepad) :
    Keeps input (input.detect entry gamepad).1 := by
  unfold detect
  dsimp only
  split
  · exact keeps_refl input
  · exact keeps_of_same rfl rfl rfl rfl

/-- A pad that gets a new key keeps its id, and may drive out the one there. -/
private theorem keeps_rekey {input : StreamInput} {index : Nat}
    (found : input.gamepads.get index = some entry) (foundAt : Nat) :
    Keeps input { input with gamepads := (input.gamepads.delete index).set foundAt entry } := by
  have here := input.gamepads.mem_entries_iff.mpr found
  have older {other : Nat} {otherEntry : RegisteredGamepad}
      (member : (other, otherEntry) ∈ (input.gamepads.delete index).entries) :=
    (OrderedMap.mem_entries_delete _).mp member
  exact {
    connected := rfl
    opened := rfl
    buffered := fun _ _ => rfl
    silent := id
    distinct := fun held => distinct_set
      (fun first entry other otherEntry member otherMember =>
        held first entry other otherEntry (older member).2 (older otherMember).2)
      (fun other otherEntry member same => (older member).1
        (held other otherEntry index entry (older member).2 here same))
    announced := fun _ known channel isChannel opened other otherEntry member => by
      rcases (OrderedMap.mem_entries_set _).mp member with ⟨_, rfl⟩ | ⟨_, member⟩
      · exact known channel isChannel opened index otherEntry here
      · exact known channel isChannel opened other otherEntry (older member).2 }

theorem visit_keeps (browser : Browser) (input : StreamInput) (index : Nat) :
    Keeps input (visit browser input index).1 := by
  unfold visit
  split
  · exact keeps_refl input
  · rename_i entry found
    split
    · exact detect_keeps input entry _
    · split
      · exact keeps_refl input
      · rename_i foundAt _
        dsimp only
        split
        · exact keeps_rekey found foundAt
        · exact (keeps_rekey found foundAt).trans (detect_keeps _ _ _)

theorem walk_keeps (browser : Browser) (fuel : Nat) (input : StreamInput) (keys : List Nat) :
    Keeps input (walk browser fuel input keys).1 := by
  induction fuel generalizing input keys with
  | zero => exact keeps_refl input
  | succ fuel ih =>
    cases keys with
    | nil => exact keeps_refl input
    | cons index rest => exact (visit_keeps browser input index).trans (ih _ _)

theorem sendController_keeps (input : StreamInput) (id : Nat) (state : GamepadState) :
    Keeps input (input.sendController id state) := by
  have opened : Keeps input (input.tryOpenControllerChannel id) := by
    unfold tryOpenControllerChannel
    split
    · exact keeps_refl input
    · split <;> exact keeps_of_same rfl rfl rfl rfl
  unfold sendController
  dsimp only
  split
  · exact opened.trans (keeps_of_same rfl rfl rfl rfl)
  · exact opened

theorem sendUpdates_keeps (input : StreamInput) (sent : Sent) (updates : List Update) :
    Keeps input (input.sendUpdates sent updates) := by
  induction updates generalizing input sent with
  | nil => exact keeps_refl input
  | cons update rest ih =>
    unfold sendUpdates
    split
    · exact ih input sent
    · exact (sendController_keeps input update.internalId update.state).trans (ih _ _)

theorem onGamepadUpdate_keeps (input : StreamInput) (browser : Browser) :
    Keeps input (input.onGamepadUpdate browser) := by
  unfold onGamepadUpdate
  split
  · exact keeps_refl input
  · split
    · exact keeps_refl input
    · exact (detect_keeps input _ _).trans
        (keeps_foldl _ (fun input update => sendController_keeps input _ _) _ _)
  · exact (walk_keeps browser _ input _).trans (sendUpdates_keeps _ _ _)

theorem onGamepadConnect_keeps (input : StreamInput) (index : Nat) (gamepad : Gamepad) (now : ℤ) :
    Keeps input (input.onGamepadConnect index gamepad now) := by
  unfold onGamepadConnect
  split
  · rename_i closed
    exact {
      connected := rfl
      opened := rfl
      buffered := fun connected opened => by simp [connected, opened] at closed
      distinct := id
      silent := id
      announced := fun _ known => known }
  split
  · exact keeps_refl input
  split
  · exact keeps_refl input
  dsimp only
  split
  · exact keeps_refl input
  · exact keeps_of_same rfl rfl rfl rfl

/-- When the stream starts, the pads that were announced to an earlier peer are
announced again, one after the other. -/
private theorem announce_all (entries : List (Nat × RegisteredGamepad)) (input : StreamInput) :
    let after := entries.foldl (fun input entry =>
      input.sendControllerAdd entry.2.internalId SUPPORTED_BUTTONS 0) input
    Keeps input after ∧ after.gamepads = input.gamepads ∧
      ∀ channel, after.controllers = some channel → channel.readyState = .opened →
        ∃ before, input.controllers = some before ∧ before.readyState = .opened ∧
          ∀ id, announced id before.sent = true ∨ (∃ entry ∈ entries, entry.2.internalId = id) →
            announced id channel.sent = true := by
  induction entries generalizing input with
  | nil => exact ⟨keeps_refl input, rfl, fun channel isChannel opened =>
      ⟨channel, isChannel, opened, by simp⟩⟩
  | cons entry rest ih =>
    have first : Keeps input (input.sendControllerAdd entry.2.internalId SUPPORTED_BUTTONS 0) :=
      keeps_send input input.gamepads _ id fun sent index other _ known member => by
        simp [announced, known index other member]
    obtain ⟨kept, gamepads, all⟩ := ih (input.sendControllerAdd entry.2.internalId SUPPORTED_BUTTONS 0)
    refine ⟨first.trans kept, gamepads, fun channel isChannel opened => ?_⟩
    obtain ⟨middle, wasMiddle, middleOpened, known⟩ := all channel isChannel opened
    obtain ⟨before, wasChannel, wasOpened, sent⟩ := trySend_opened wasMiddle middleOpened
    refine ⟨before, wasChannel, wasOpened, fun id cause => known id ?_⟩
    rw [sent]
    rcases cause with earlier | ⟨other, member, same⟩
    · exact .inl (by simp [announced, earlier])
    · cases member with
      | head => exact .inl (by simp [announced, same])
      | tail _ later => exact .inr ⟨other, later, same⟩

/-- The buffered pads come first, and then the announcements. -/
private theorem registerBufferedControllers_eq (input : StreamInput) (browser : Browser) (now : ℤ) :
    ∃ middle, Keeps { input with bufferedControllers := [] } middle ∧
      input.registerBufferedControllers browser now = middle.gamepads.entries.foldl
        (fun input entry => input.sendControllerAdd entry.2.internalId SUPPORTED_BUTTONS 0)
        middle := by
  refine ⟨_, ?_, rfl⟩
  refine keeps_foldl _ (fun input index => ?_) _ _
  split
  · exact onGamepadConnect_keeps input index _ now
  · exact keeps_refl input

/-- Once the stream has started on an open channel, nothing waits in the buffer
and every registered pad is announced. -/
theorem onStreamStart_announces (input : StreamInput) (browser : Browser) (now : ℤ) :
    let after := input.onStreamStart browser now
    after.connected = true ∧ after.controllersOpen = input.controllersOpen ∧
      (input.Distinct → after.Distinct) ∧ (input.Silent → after.Silent) ∧
      (input.controllersOpen = true → after.bufferedControllers = [] ∧ after.AllAnnounced) := by
  obtain ⟨middle, drained, isAfter⟩ :=
    registerBufferedControllers_eq { input with connected := true } browser now
  obtain ⟨announcing, gamepads, all⟩ := announce_all middle.gamepads.entries middle
  have kept := drained.trans announcing
  unfold onStreamStart
  rw [isAfter]
  refine ⟨kept.connected, kept.opened, kept.distinct, kept.silent, fun opened => ?_⟩
  refine ⟨kept.buffered rfl opened, fun channel isChannel isOpened index entry member => ?_⟩
  obtain ⟨before, _, _, known⟩ := all channel isChannel isOpened
  rw [gamepads] at member
  exact known entry.internalId (.inr ⟨_, member, rfl⟩)

end StreamInput

open StreamInput

/-- Once `onStreamStart` has run for a peer and its controllers channel is open,
no connected pad waits in the buffer and every registered one is announced. -/
def NoneStranded (page : Page) : Prop :=
  page.streamStarted = true → page.input.controllersOpen = true →
    (∀ index ∈ page.input.bufferedControllers, gamepadAt page.browser index = none) ∧
      page.input.AllAnnounced

/-- The channel opens before the stream starts, or it finds no pad registered
and none that is connected in the buffer; and no pad connects later at an index
that the buffer still has. -/
def NothingLate (page : Page) (event : PageEvent) (_ : Page) : Prop :=
  page.streamStarted = true →
    (event = .controllersOpen → page.input.gamepads.entries = [] ∧
      ∀ index ∈ page.input.bufferedControllers, gamepadAt page.browser index = none) ∧
    ∀ browser, event = .gamepadsChange browser → page.input.controllersOpen = true →
      ∀ index ∈ page.input.bufferedControllers, gamepadAt browser index = none

structure Registrable (page : Page) : Prop where
  connected : page.streamStarted = true → page.input.connected = true
  distinct : page.input.Distinct
  silent : page.input.Silent
  noneStranded : NoneStranded page

/-- Steps that change nothing but the page's input, and keep its registry. -/
private theorem registrable_of_keeps {page : Page} (held : Registrable page)
    (kept : Keeps page.input after) : Registrable { page with input := after } where
  connected started := kept.connected.trans (held.connected started)
  distinct := kept.distinct held.distinct
  silent := kept.silent held.silent
  noneStranded started opened := by
    have wasOpened := kept.opened.symm.trans opened
    obtain ⟨drained, announced⟩ := held.noneStranded started wasOpened
    refine ⟨fun index member => drained index ?_, kept.announced held.distinct announced⟩
    rwa [← kept.buffered (held.connected started) wasOpened]

theorem step_keeps_registrable (page : Page) (event : PageEvent) (next : Page)
    (held : Registrable page) (taken : page.step event = some next)
    (nothingLate : NothingLate page event next) : Registrable next := by
  cases event with
  | setPeer =>
    cases taken
    exact {
      connected := nofun
      distinct := held.distinct
      silent := fun channel isChannel _ => by
        cases isChannel
        rfl
      noneStranded := nofun }
  | controllersOpen =>
    simp only [Page.step] at taken
    split at taken
    · rename_i sent isChannel
      cases taken
      refine ⟨held.connected, held.distinct, fun channel isOther connecting => ?_,
        fun started _ => ?_⟩
      · cases isOther
        cases connecting
      · obtain ⟨noneRegistered, drained⟩ := (nothingLate started).1 rfl
        refine ⟨drained, fun _ _ _ index entry member => ?_⟩
        rw [noneRegistered] at member
        cases member
    · cases taken
  | controllersClose =>
    obtain ⟨channel, isChannel, rfl⟩ := Option.map_eq_some_iff.mp taken
    refine ⟨held.connected, held.distinct, fun other isOther connecting => ?_, fun _ opened => ?_⟩
    · cases isOther
      cases connecting
    · simp [controllersOpen] at opened
  | controllerInputOpen id =>
    simp only [Page.step] at taken
    split at taken
    · cases taken
      exact registrable_of_keeps held (keeps_of_same rfl rfl rfl rfl)
    · cases taken
  | controllerInputClose id =>
    obtain ⟨channel, isChannel, rfl⟩ := Option.map_eq_some_iff.mp taken
    exact registrable_of_keeps held (keeps_of_same rfl rfl rfl rfl)
  | streamStart now =>
    cases taken
    obtain ⟨connected, opened, distinct, silent, announces⟩ :=
      onStreamStart_announces page.input page.browser now
    refine ⟨fun _ => connected, distinct held.distinct, silent held.silent, fun _ isOpen => ?_⟩
    obtain ⟨drained, announced⟩ := announces (opened.symm.trans isOpen)
    exact ⟨by simp [drained], announced⟩
  | gamepadsChange browser =>
    cases taken
    exact ⟨held.connected, held.distinct, held.silent, fun started opened =>
      ⟨(nothingLate started).2 browser rfl opened, (held.noneStranded started opened).2⟩⟩
  | gamepadConnected index gamepad now =>
    cases taken
    exact registrable_of_keeps held (onGamepadConnect_keeps _ _ _ _)
  | gamepadDisconnected index =>
    cases taken
    exact registrable_of_keeps held (onGamepadDisconnect_keeps _ _)
  | pendingTimer =>
    simp only [Page.step, Option.ite_none_right_eq_some, Option.some.injEq] at taken
    obtain ⟨_, rfl⟩ := taken
    exact registrable_of_keeps held (onPendingTimer_keeps _ _)
  | poll =>
    cases taken
    exact registrable_of_keeps held (onGamepadUpdate_keeps _ _)
  | setConfig controllerConfig controllerDeviceMode =>
    cases taken
    exact registrable_of_keeps held (keeps_of_same rfl rfl rfl rfl)
  | setTeslaSwapOverride value =>
    cases taken
    exact registrable_of_keeps held (keeps_of_same rfl rfl rfl rfl)

/-- A channel that opens has nothing on it, so a pad that is registered already
is stranded. -/
private theorem nothing_late_of_none_stranded {page next : Page} (held : Registrable page)
    (taken : page.step event = some next) (noneStranded : NoneStranded next) :
    NothingLate page event next := by
  refine fun started => ⟨?_, ?_⟩
  · rintro rfl
    simp only [Page.step] at taken
    split at taken
    · rename_i sent isChannel
      cases taken
      obtain ⟨drained, announced⟩ := noneStranded started (by simp [controllersOpen])
      refine ⟨List.eq_nil_iff_forall_not_mem.mpr fun (index, entry) member => ?_, drained⟩
      have isAnnounced := announced ⟨.opened, sent⟩ rfl rfl index entry member
      cases held.silent _ isChannel rfl
      cases isAnnounced
    · cases taken
  · rintro browser rfl opened
    cases taken
    exact (noneStranded started opened).1

theorem start_registrable : Registrable Page.start where
  connected := nofun
  distinct := nofun
  silent := nofun
  noneStranded := nofun

/-- In every run, no pad is stranded exactly when nothing comes late: a channel
that opens after the stream has started registers and announces nobody. -/
theorem none_stranded_iff (events : List PageEvent) :
    Along Page.step (fun _ _ after => NoneStranded after) Page.start events ↔
      Along Page.step NothingLate Page.start events :=
  along_iff Registrable
    (fun page event next held taken =>
      ⟨nothing_late_of_none_stranded held taken, fun nothingLate =>
        (step_keeps_registrable page event next held taken nothingLate).noneStranded⟩)
    step_keeps_registrable start_registrable

private def somePad : Gamepad := ⟨"Xbox Wireless Controller", 0, [], []⟩

/-- A pad connects, and the stream starts before the channel is open. -/
theorem pad_stranded_in_buffer :
    ¬ ∀ events, Along Page.step (fun _ _ after => NoneStranded after) Page.start events := by
  intro claimed
  have noneStranded := along_last (claimed ([.setPeer, .gamepadsChange [some somePad],
    .gamepadConnected 0 somePad 0, .streamStart 0] ++ [.controllersOpen])) rfl rfl
  have gone := (noneStranded rfl rfl).1 0 (.head _)
  cases gone

end MoonlightWeb.Client

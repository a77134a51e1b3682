import MoonlightWeb.Client.Registration
import MoonlightWeb.Client.RegistryWalk

/-! The registry against what the host was told. While the channel is open, only
the poll can lose a controller: it moves an entry to the index of its pad, and
takes no notice of what is registered or waiting there. -/
namespace MoonlightWeb.Client
open MoonlightWeb.Machine

namespace StreamInput

abbrev Registry := OrderedMap Nat RegisteredGamepad

/-- Some entry of the registry has the id. -/
def Holds (registry : Registry) (id : Nat) : Prop :=
  ∃ index entry, registry.get index = some entry ∧ entry.internalId = id

def DistinctIds (registry : Registry) : Prop :=
  ∀ index entry other otherEntry, registry.get index = some entry →
    registry.get other = some otherEntry → entry.internalId = otherEntry.internalId → index = other

/-- No id and no index twice, and the host knows of exactly the registered ids. -/
structure RegistryExact (input : StreamInput) : Prop where
  distinct : DistinctIds input.gamepads
  apart : ∀ index entry, input.gamepads.get index = some entry →
    input.pendingGamepads.get index = none
  announced : ∀ channel, input.controllers = some channel → ∀ id,
    announced id channel.sent = true ↔ Holds input.gamepads id

/-- A change of nothing that matters here; fewer pads may wait. -/
theorem RegistryExact.of_same (exact : RegistryExact before)
    (gamepads : after.gamepads = before.gamepads)
    (controllers : after.controllers = before.controllers)
    (pending : ∀ index, before.pendingGamepads.get index = none →
      after.pendingGamepads.get index = none) : RegistryExact after where
  distinct := gamepads ▸ exact.distinct
  apart index entry held := pending index (exact.apart index entry (gamepads ▸ held))
  announced channel isChannel id := by
    rw [gamepads]
    exact exact.announced channel (controllers.symm.trans isChannel) id

/-- A change of the registry with the message that tells the host of it. -/
theorem exact_send (before : StreamInput) (exact : RegistryExact before)
    (opened : before.controllersOpen = true) (gamepads : Registry)
    (pendingGamepads : OrderedMap Nat PendingGamepad) (message : ControllersMessage)
    (distinct : DistinctIds gamepads)
    (apart : ∀ index entry, gamepads.get index = some entry → pendingGamepads.get index = none)
    (accounts : ∀ sent id, (∀ id, announced id sent = true ↔ Holds before.gamepads id) →
      (announced id (message :: sent) = true ↔ Holds gamepads id)) :
    RegistryExact { before with
      gamepads, pendingGamepads
      controllers := trySendChannel before.controllers message } where
  distinct := distinct
  apart := apart
  announced channel isChannel id := by
    obtain ⟨earlier, wasChannel, isOpen⟩ := controllersOpen_iff.mp opened
    have sent : channel = { earlier with sent := message :: earlier.sent } := by
      rw [wasChannel] at isChannel
      cases isChannel
      simp [RTCDataChannel.trySend, isOpen]
    rw [sent]
    exact accounts earlier.sent id (exact.announced earlier wasChannel)

theorem removeRegisteredGamepad_exact (exact : RegistryExact input)
    (opened : input.controllersOpen = true) (index : Nat) :
    RegistryExact (input.removeRegisteredGamepad index) := by
  unfold removeRegisteredGamepad
  cases found : input.gamepads.get index with
  | none => exact exact
  | some entry =>
    have older (other : Nat) (otherEntry : RegisteredGamepad)
        (held : (input.gamepads.delete index).get other = some otherEntry) :
        other ≠ index ∧ input.gamepads.get other = some otherEntry := by
      rw [OrderedMap.get_delete] at held
      split at held
      · cases held
      · rename_i differs
        exact ⟨differs, held⟩
    have sent := exact_send input exact opened (input.gamepads.delete index)
      input.pendingGamepads (.remove entry.internalId) ?_ ?_ ?_
    · exact sent.of_same rfl rfl fun _ free => free
    · intro first firstEntry other otherEntry held otherHeld same
      exact exact.distinct first firstEntry other otherEntry (older _ _ held).2
        (older _ _ otherHeld).2 same
    · intro other otherEntry held
      exact exact.apart other otherEntry (older _ _ held).2
    · intro sent id known
      rw [announced, Bool.and_eq_true, decide_eq_true_eq, known]
      constructor
      · rintro ⟨differs, other, otherEntry, held, same⟩
        refine ⟨other, otherEntry, ?_, same⟩
        have elsewhere : other ≠ index := by
          rintro rfl
          rw [found] at held
          cases held
          exact differs same
        rw [OrderedMap.get_delete, if_neg elsewhere, held]
      · rintro ⟨other, otherEntry, held, same⟩
        obtain ⟨elsewhere, held⟩ := older _ _ held
        refine ⟨fun equal => elsewhere ?_, other, otherEntry, held, same⟩
        exact exact.distinct other otherEntry index entry held found (same.trans equal.symm)

/-- A pad is registered at an index that is not taken. -/
theorem registerGamepad_exact (exact : RegistryExact input)
    (opened : input.controllersOpen = true) (free : input.gamepads.get index = none)
    (gamepadId : String) (vendorId : Option String) (isVirtual : Bool) :
    RegistryExact (input.registerGamepad index gamepadId vendorId isVirtual) := by
  let id := lowestFreeId input.internalIds (input.internalIds.length + 1) 0
  let added : RegisteredGamepad := ⟨id, gamepadId, vendorId, isVirtual⟩
  have fresh (other : Nat) (entry : RegisteredGamepad)
      (held : input.gamepads.get other = some entry) : entry.internalId ≠ id := fun same =>
    lowestFreeId_not_mem input.internalIds
      (List.mem_map.mpr ⟨(other, entry), input.gamepads.mem_entries_iff.mpr held, same⟩)
  have cases_set (other : Nat) (entry : RegisteredGamepad)
      (held : (input.gamepads.set index added).get other = some entry) :
      other = index ∧ entry = added ∨ other ≠ index ∧ input.gamepads.get other = some entry := by
    rw [OrderedMap.get_set] at held
    split at held
    · rename_i same
      exact .inl ⟨same, (Option.some.inj held).symm⟩
    · rename_i differs
      exact .inr ⟨differs, held⟩
  refine exact_send input exact opened (input.gamepads.set index added)
    (input.pendingGamepads.delete index) (.add id SUPPORTED_BUTTONS 0) ?_ ?_ ?_
  · intro first entry other otherEntry held otherHeld same
    rcases cases_set first entry held with ⟨rfl, rfl⟩ | ⟨-, older⟩ <;>
      rcases cases_set other otherEntry otherHeld with ⟨rfl, rfl⟩ | ⟨-, otherOlder⟩
    · rfl
    · exact absurd same.symm (fresh other otherEntry otherOlder)
    · exact absurd same (fresh first entry older)
    · exact exact.distinct first entry other otherEntry older otherOlder same
  · intro other entry held
    rw [OrderedMap.get_delete]
    rcases cases_set other entry held with ⟨rfl, -⟩ | ⟨differs, older⟩
    · rw [if_pos rfl]
    · rw [if_neg differs]
      exact exact.apart other entry older
  · intro sent other known
    rw [announced, Bool.or_eq_true, decide_eq_true_eq, known]
    constructor
    · rintro (rfl | ⟨probe, entry, held, same⟩)
      · exact ⟨index, added, by rw [OrderedMap.get_set, if_pos rfl], rfl⟩
      · have elsewhere : probe ≠ index := by
          rintro rfl
          rw [free] at held
          cases held
        exact ⟨probe, entry, by rw [OrderedMap.get_set, if_neg elsewhere, held], same⟩
    · rintro ⟨probe, entry, held, same⟩
      rcases cases_set probe entry held with ⟨-, rfl⟩ | ⟨-, older⟩
      · exact .inl same
      · exact .inr ⟨probe, entry, older, same⟩

private theorem pick_mem {pick : Candidate → Candidate → Candidate}
    (picks : ∀ a b, pick a b = a ∨ pick a b = b) (first : Candidate) (rest : List Candidate) :
    rest.foldl pick first ∈ first :: rest := by
  induction rest generalizing first with
  | nil => simp
  | cons next rest ih =>
    rw [List.foldl_cons]
    rcases picks first next with same | same
    · rw [same]
      rcases List.mem_cons.mp (ih first) with isFirst | later
      · rw [isFirst]
        simp
      · simp [later]
    · rw [same]
      exact List.mem_cons_of_mem _ (ih next)

theorem lowestIndex_mem (first : Candidate) (rest : List Candidate) :
    lowestIndex first rest ∈ first :: rest :=
  pick_mem (fun a b => by by_cases lower : a.index < b.index <;> simp [lower]) first rest

theorem earliest_mem (first : Candidate) (rest : List Candidate) :
    earliest first rest ∈ first :: rest :=
  pick_mem (fun a b => by by_cases earlier : a.connectedAt < b.connectedAt <;> simp [earlier])
    first rest

theorem choose_mem (chosen : choose mode list = some candidate) : candidate ∈ list := by
  cases list with
  | nil => cases chosen
  | cons first rest =>
    have getD_mem (test : Candidate → Bool) :
        ((first :: rest).find? test).getD (lowestIndex first rest) ∈ first :: rest := by
      cases found : (first :: rest).find? test with
      | none => exact lowestIndex_mem first rest
      | some other => exact List.mem_of_find?_eq_some found
    simp only [choose] at chosen
    cases mode with
    | physical =>
      cases chosen
      exact getD_mem _
    | virtual =>
      cases chosen
      exact getD_mem _
    | auto =>
      dsimp only at chosen
      split at chosen
      · rename_i physical physicals virtual virtuals physicalList virtualList
        split at chosen
        · cases chosen
          have member := earliest_mem physical physicals
          rw [← physicalList] at member
          exact (List.mem_filter.mp member).1
        · cases chosen
          exact earliest_mem first rest
      · cases chosen
        exact earliest_mem first rest

/-- Each group holds candidates of its signature. -/
def Grouped (candidates : List Candidate)
    (groups : OrderedMap (BitVec 32 × List ℤ) (List Candidate)) : Prop :=
  ∀ signature list, groups.get signature = some list → ∀ candidate ∈ list,
    candidate ∈ candidates ∧ candidate.state.buildGamepadStateSignature = signature

theorem grouped_add (held : Grouped candidates groups) (member : candidate ∈ candidates) :
    Grouped candidates (groups.set candidate.state.buildGamepadStateSignature
      ((groups.get candidate.state.buildGamepadStateSignature).getD [] ++ [candidate])) := by
  intro signature list found other inList
  rw [OrderedMap.get_set] at found
  split at found
  · rename_i same
    cases found
    rcases List.mem_append.mp inList with older | new
    · cases before : groups.get candidate.state.buildGamepadStateSignature with
      | none =>
        rw [before] at older
        cases older
      | some earlier =>
        rw [before] at older
        rw [same]
        exact held _ earlier before other older
    · cases List.mem_singleton.mp new
      exact ⟨member, same.symm⟩
  · exact held signature list found other inList

theorem groupBySignature_grouped (candidates : List Candidate) :
    Grouped candidates (groupBySignature candidates) := by
  unfold groupBySignature
  have added (rest : List Candidate) (within : ∀ candidate ∈ rest, candidate ∈ candidates)
      (groups : OrderedMap (BitVec 32 × List ℤ) (List Candidate)) (held : Grouped candidates groups) :
      Grouped candidates (rest.foldl (fun groups candidate =>
        groups.set candidate.state.buildGamepadStateSignature
          ((groups.get candidate.state.buildGamepadStateSignature).getD [] ++ [candidate]))
            groups) := by
    induction rest generalizing groups with
    | nil => exact held
    | cons next rest ih =>
      exact ih (fun candidate later => within candidate (by simp [later])) _
        (grouped_add held (within next (by simp)))
  refine added candidates (fun _ member => member) .empty ?_
  intro signature list none
  cases none

/-- A candidate is made of the pad that waits at its index. -/
theorem activePending_mem {input : StreamInput}
    (member : candidate ∈ input.activePending browser) :
    ∃ pending gamepad, input.pendingGamepads.get candidate.index = some pending ∧
      gamepadAt browser candidate.index = some gamepad ∧
      candidate = ⟨candidate.index, gamepad.id, pending.vendorId, pending.isVirtual,
        input.extract gamepad, pending.connectedAt⟩ := by
  obtain ⟨⟨index, pending⟩, entry, isCandidate⟩ := List.mem_filterMap.mp member
  obtain ⟨gamepad, there, chosen⟩ := Option.bind_eq_some_iff.mp isCandidate
  dsimp only at chosen
  split at chosen
  · cases chosen
  split at chosen
  · cases chosen
  split at chosen
  · cases chosen
  · cases chosen
    exact ⟨pending, gamepad, input.pendingGamepads.mem_entries_iff.mp entry, there, rfl⟩

theorem activePending_index {input : StreamInput} (member : candidate ∈ input.activePending browser)
    (otherMember : other ∈ input.activePending browser) (same : candidate.index = other.index) :
    candidate = other := by
  obtain ⟨pending, gamepad, waits, there, made⟩ := activePending_mem member
  obtain ⟨otherPending, otherGamepad, otherWaits, otherThere, otherMade⟩ :=
    activePending_mem otherMember
  rw [← same] at otherWaits otherThere otherMade
  rw [waits] at otherWaits
  rw [there] at otherThere
  cases otherWaits
  cases otherThere
  rw [made, otherMade]

/-- What a promotion leaves: the registry has at most one index more, which was a
candidate's, and the host still knows of what is registered. -/
theorem promoteGroup_exact (exact : RegistryExact input) (opened : input.controllersOpen = true)
    (free : ∀ candidate ∈ list, input.gamepads.get candidate.index = none) :
    RegistryExact (input.promoteGroup list) ∧ (input.promoteGroup list).controllersOpen = true ∧
      ∀ index, input.gamepads.get index = none →
        (input.promoteGroup list).gamepads.get index = none ∨
          ∃ candidate ∈ list, candidate.index = index := by
  have kept := (promoteGroup_keeps input list).opened
  refine ⟨?_, kept.trans opened, ?_⟩
  · unfold promoteGroup
    split
    · exact exact
    · rename_i chosen isChosen
      have fewer (others : List Candidate) (pending : OrderedMap Nat PendingGamepad) (index : Nat)
          (absent : pending.get index = none) :
          (others.foldl (fun pending candidate => if candidate = chosen then pending
            else pending.delete candidate.index) pending).get index = none := by
        induction others generalizing pending with
        | nil => exact absent
        | cons next rest ih =>
          refine ih _ ?_
          dsimp only
          split
          · exact absent
          · rw [OrderedMap.get_delete]
            split
            · rfl
            · exact absent
      have discarded : RegistryExact { input with
          pendingGamepads := list.foldl (fun pending candidate => if candidate = chosen then pending
            else pending.delete candidate.index) input.pendingGamepads } :=
        exact.of_same rfl rfl fun index absent => fewer list input.pendingGamepads index absent
      exact registerGamepad_exact discarded opened (free chosen (choose_mem isChosen)) _ _ _
  · intro index absent
    unfold promoteGroup
    split
    · exact .inl absent
    · rename_i chosen isChosen
      by_cases same : chosen.index = index
      · exact .inr ⟨chosen, choose_mem isChosen, same⟩
      · refine .inl ?_
        unfold registerGamepad
        exact (OrderedMap.get_set _ _ _ _).trans ((if_neg (Ne.symm same)).trans absent)

theorem processPendingGamepads_exact (exact : RegistryExact input)
    (opened : input.controllersOpen = true) (browser : Browser) :
    RegistryExact (input.processPendingGamepads browser) := by
  have groups := groupBySignature_grouped (input.activePending browser)
  unfold processPendingGamepads
  have all (entries : List ((BitVec 32 × List ℤ) × List Candidate))
      (distinct : (entries.map Prod.fst).Nodup)
      (within : ∀ group ∈ entries, ∀ candidate ∈ group.2, candidate ∈ input.activePending browser ∧
        candidate.state.buildGamepadStateSignature = group.1)
      (middle : StreamInput) (exact : RegistryExact middle) (opened : middle.controllersOpen = true)
      (free : ∀ group ∈ entries, ∀ candidate ∈ group.2,
        middle.gamepads.get candidate.index = none) :
      RegistryExact (entries.foldl (fun input group => input.promoteGroup group.2) middle) := by
    induction entries generalizing middle with
    | nil => exact exact
    | cons group rest ih =>
      rw [List.map_cons, List.nodup_cons] at distinct
      obtain ⟨promoted, stillOpen, registered⟩ :=
        promoteGroup_exact exact opened (free group (by simp))
      refine ih distinct.2 (fun other later => within other (by simp [later])) _ promoted stillOpen ?_
      intro other later candidate member
      refine (registered candidate.index (free other (by simp [later]) candidate member)).resolve_right ?_
      rintro ⟨taken, inGroup, same⟩
      -- a candidate of two groups would have both their signatures
      obtain ⟨takenActive, takenSignature⟩ := within group (by simp) taken inGroup
      obtain ⟨active, signature⟩ := within other (by simp [later]) candidate member
      have equal := activePending_index takenActive active same
      rw [equal, signature] at takenSignature
      exact distinct.1 (takenSignature ▸ List.mem_map_of_mem later)
  refine all _ (groupBySignature (input.activePending browser)).distinct ?_ input exact opened ?_
  · rintro ⟨signature, list⟩ member candidate inList
    exact groups signature list ((OrderedMap.mem_entries_iff _).mp member) candidate inList
  · rintro ⟨signature, list⟩ member candidate inList
    obtain ⟨active, -⟩ :=
      groups signature list ((OrderedMap.mem_entries_iff _).mp member) candidate inList
    obtain ⟨pending, -, waits, -⟩ := activePending_mem active
    cases held : input.gamepads.get candidate.index with
    | none => rfl
    | some entry =>
      have none := exact.apart candidate.index entry held
      rw [waits] at none
      cases none

theorem onPendingTimer_exact (exact : RegistryExact input) (opened : input.controllersOpen = true)
    (browser : Browser) : RegistryExact (input.onPendingTimer browser) := by
  have processed := processPendingGamepads_exact exact opened browser
  unfold onPendingTimer
  split
  · exact exact.of_same rfl rfl fun _ absent => absent
  · dsimp only
    split
    · exact processed.of_same rfl rfl fun _ absent => absent
    · exact processed

theorem onGamepadDisconnect_exact (exact : RegistryExact input)
    (opened : input.controllersOpen = true) (index : Nat) :
    RegistryExact (input.onGamepadDisconnect index) := by
  unfold onGamepadDisconnect
  split
  · refine exact.of_same rfl rfl fun other absent => ?_
    rw [OrderedMap.get_delete]
    split
    · rfl
    · exact absent
  · exact removeRegisteredGamepad_exact exact opened index

theorem onGamepadConnect_exact (exact : RegistryExact input) (index : Nat) (gamepad : Gamepad)
    (now : ℤ) : RegistryExact (input.onGamepadConnect index gamepad now) := by
  unfold onGamepadConnect
  split
  · exact exact.of_same rfl rfl fun _ absent => absent
  split
  · exact exact
  rename_i unregistered
  split
  · exact exact
  dsimp only
  split
  · exact exact
  refine ⟨exact.distinct, fun other entry held => ?_, exact.announced⟩
  have elsewhere : other ≠ index := by
    rintro rfl
    exact unregistered (by rw [held]; rfl)
  have absent := exact.apart other entry held
  rw [OrderedMap.get_set, if_neg elsewhere]
  split
  · rw [evictVirtual, OrderedMap.get_retain, absent]
    rfl
  · exact absent

/-- Where a visit moves the entry of an index, if it does. -/
def movesTo (browser : Browser) (registry : Registry) (index : Nat) : Option Nat :=
  match registry.get index with
  | none => none
  | some entry =>
    match padAt browser index entry with
    | some _ => none
    | none => findIndex browser entry.gamepadId

/-- The walk moves entries only to indices where, at that time, no other entry is
registered and no pad waits. -/
def LandsFree (browser : Browser) (pending : OrderedMap Nat PendingGamepad) :
    Nat → Registry → List Nat → Prop
  | 0, _, _ => True
  | _, _, [] => True
  | fuel + 1, registry, index :: rest =>
    (∀ foundAt, movesTo browser registry index = some foundAt →
      (registry.delete index).get foundAt = none ∧ pending.get foundAt = none) ∧
    LandsFree browser pending fuel (relocate browser registry index).1
      (rest ++ (relocate browser registry index).2.2)

theorem relocate_stays (stays : movesTo browser registry index = none) :
    (relocate browser registry index).1 = registry := by
  unfold movesTo at stays
  unfold relocate
  cases held : registry.get index with
  | none => rfl
  | some entry =>
    rw [held] at stays
    dsimp only at stays ⊢
    cases here : padAt browser index entry with
    | some gamepad => rfl
    | none =>
      rw [here] at stays
      dsimp only at stays ⊢
      rw [stays]

theorem relocate_moves (moves : movesTo browser registry index = some foundAt) :
    ∃ entry, registry.get index = some entry ∧
      (relocate browser registry index).1 = (registry.delete index).set foundAt entry ∧
      ∃ gamepad, padAt browser foundAt entry = some gamepad := by
  unfold movesTo at moves
  unfold relocate
  cases held : registry.get index with
  | none =>
    rw [held] at moves
    cases moves
  | some entry =>
    rw [held] at moves
    dsimp only at moves ⊢
    cases here : padAt browser index entry with
    | some gamepad =>
      rw [here] at moves
      cases moves
    | none =>
      rw [here] at moves
      dsimp only at moves ⊢
      obtain ⟨gamepad, -, isPad⟩ := padAt_findIndex moves
      rw [moves]
      exact ⟨entry, rfl, rfl, gamepad, isPad⟩

/-- An entry after a move is the moved one or an older one elsewhere. -/
theorem moved_cases {registry : Registry}
    (held : ((registry.delete index).set foundAt entry).get other = some otherEntry) :
    other = foundAt ∧ otherEntry = entry ∨
      other ≠ foundAt ∧ other ≠ index ∧ registry.get other = some otherEntry := by
  rw [OrderedMap.get_set] at held
  split at held
  · rename_i same
    exact .inl ⟨same, (Option.some.inj held).symm⟩
  · rename_i differs
    rw [OrderedMap.get_delete] at held
    split at held
    · cases held
    · rename_i elsewhere
      exact .inr ⟨differs, elsewhere, held⟩

theorem relocate_distinct (browser : Browser) (index : Nat) (distinct : DistinctIds registry) :
    DistinctIds (relocate browser registry index).1 := by
  cases moves : movesTo browser registry index with
  | none => rwa [relocate_stays moves]
  | some foundAt =>
    obtain ⟨entry, found, moved, -⟩ := relocate_moves moves
    rw [moved]
    intro first firstEntry other otherEntry held otherHeld same
    rcases moved_cases held with ⟨rfl, rfl⟩ | ⟨-, elsewhere, older⟩ <;>
      rcases moved_cases otherHeld with ⟨rfl, rfl⟩ | ⟨-, otherElsewhere, otherOlder⟩
    · rfl
    · exact absurd (distinct _ _ _ _ otherOlder found same.symm) otherElsewhere
    · exact absurd (distinct _ _ _ _ older found same) elsewhere
    · exact distinct _ _ _ _ older otherOlder same

/-- Moving loses ids at most. -/
theorem relocate_holds {id : Nat} (browser : Browser) (index : Nat)
    (holds : Holds (relocate browser registry index).1 id) : Holds registry id := by
  cases moves : movesTo browser registry index with
  | none => rwa [relocate_stays moves] at holds
  | some foundAt =>
    obtain ⟨entry, found, moved, -⟩ := relocate_moves moves
    rw [moved] at holds
    obtain ⟨other, otherEntry, held, same⟩ := holds
    rcases moved_cases held with ⟨-, rfl⟩ | ⟨-, -, older⟩
    · exact ⟨index, otherEntry, found, same⟩
    · exact ⟨other, otherEntry, older, same⟩

theorem relocateAll_holds {id : Nat} (browser : Browser) (fuel : Nat) (registry : Registry) (keys : List Nat)
    (holds : Holds (relocateAll browser fuel registry keys).1 id) : Holds registry id := by
  induction fuel generalizing registry keys with
  | zero => exact holds
  | succ fuel ih =>
    cases keys with
    | nil => exact holds
    | cons index rest => exact relocate_holds browser index (ih _ _ holds)

theorem relocateAll_distinct (browser : Browser) (fuel : Nat) (keys : List Nat)
    (distinct : DistinctIds registry) : DistinctIds (relocateAll browser fuel registry keys).1 := by
  induction fuel generalizing registry keys with
  | zero => exact distinct
  | succ fuel ih =>
    cases keys with
    | nil => exact distinct
    | cons index rest => exact ih _ (relocate_distinct browser index distinct)

/-- An entry that has its pad at its index stays there, or another such entry does. -/
def Pinned (browser : Browser) (registry : Registry) (index : Nat) : Prop :=
  ∃ entry gamepad, registry.get index = some entry ∧ padAt browser index entry = some gamepad

theorem relocate_pinned (index : Nat) (pinned : Pinned browser registry other) :
    Pinned browser (relocate browser registry index).1 other := by
  cases moves : movesTo browser registry index with
  | none => rwa [relocate_stays moves]
  | some foundAt =>
    obtain ⟨entry, found, moved, gamepad, isPad⟩ := relocate_moves moves
    obtain ⟨otherEntry, otherPad, held, here⟩ := pinned
    have elsewhere : other ≠ index := by
      rintro rfl
      rw [movesTo, held] at moves
      dsimp only at moves
      rw [here] at moves
      cases moves
    rw [moved]
    by_cases same : other = foundAt
    · subst same
      exact ⟨entry, gamepad, by rw [OrderedMap.get_set, if_pos rfl], isPad⟩
    · refine ⟨otherEntry, otherPad, ?_, here⟩
      rw [OrderedMap.get_set, if_neg same, OrderedMap.get_delete, if_neg elsewhere, held]

theorem relocateAll_pinned (fuel : Nat) (keys : List Nat) (pinned : Pinned browser registry other) :
    Pinned browser (relocateAll browser fuel registry keys).1 other := by
  induction fuel generalizing registry keys with
  | zero => exact pinned
  | succ fuel ih =>
    cases keys with
    | nil => exact pinned
    | cons index rest => exact ih _ (relocate_pinned index pinned)

section Walk
variable {browser : Browser} {pending : OrderedMap Nat PendingGamepad}

/-- Entries that only move to free indices are all kept, apart from the waiting pads. -/
theorem relocateAll_free (apart : ∀ index entry, registry.get index = some entry →
      pending.get index = none)
    (free : LandsFree browser pending fuel registry keys) :
    (∀ id, Holds registry id → Holds (relocateAll browser fuel registry keys).1 id) ∧
      ∀ index entry, (relocateAll browser fuel registry keys).1.get index = some entry →
        pending.get index = none := by
  induction fuel generalizing registry keys with
  | zero => exact ⟨fun _ holds => holds, apart⟩
  | succ fuel ih =>
    cases keys with
    | nil => exact ⟨fun _ holds => holds, apart⟩
    | cons index rest =>
      obtain ⟨lands, later⟩ := free
      have step : (∀ id, Holds registry id → Holds (relocate browser registry index).1 id) ∧
          ∀ other entry, (relocate browser registry index).1.get other = some entry →
            pending.get other = none := by
        cases moves : movesTo browser registry index with
        | none =>
          rw [relocate_stays moves]
          exact ⟨fun _ holds => holds, apart⟩
        | some foundAt =>
          obtain ⟨entry, found, moved, -⟩ := relocate_moves moves
          obtain ⟨unregistered, notPending⟩ := lands foundAt moves
          rw [moved]
          constructor
          · rintro id ⟨other, otherEntry, held, same⟩
            by_cases atIndex : other = index
            · subst atIndex
              rw [found] at held
              cases held
              exact ⟨foundAt, _, by rw [OrderedMap.get_set, if_pos rfl], same⟩
            · have remains : (registry.delete index).get other = some otherEntry := by
                rw [OrderedMap.get_delete, if_neg atIndex, held]
              have elsewhere : other ≠ foundAt := by
                rintro rfl
                rw [unregistered] at remains
                cases remains
              exact ⟨other, otherEntry, by rw [OrderedMap.get_set, if_neg elsewhere, remains], same⟩
          · intro other otherEntry held
            rcases moved_cases held with ⟨rfl, -⟩ | ⟨-, -, older⟩
            · exact notPending
            · exact apart other otherEntry older
      obtain ⟨kept, stillApart⟩ := ih step.2 later
      exact ⟨fun id holds => kept id (step.1 id holds), stillApart⟩

/-- A move onto another entry loses that one's id for good, and one onto a waiting
pad leaves its index registered and waiting. -/
theorem relocateAll_blocked (distinct : DistinctIds registry)
    (blocked : ¬ LandsFree browser pending fuel registry keys) :
    (∃ id, Holds registry id ∧ ¬ Holds (relocateAll browser fuel registry keys).1 id) ∨
      ∃ index entry, (relocateAll browser fuel registry keys).1.get index = some entry ∧
        pending.get index ≠ none := by
  induction fuel generalizing registry keys with
  | zero => exact absurd trivial blocked
  | succ fuel ih =>
    cases keys with
    | nil => exact absurd trivial blocked
    | cons index rest =>
      by_cases lands : ∀ foundAt, movesTo browser registry index = some foundAt →
          (registry.delete index).get foundAt = none ∧ pending.get foundAt = none
      · have later : ¬ LandsFree browser pending fuel (relocate browser registry index).1
            (rest ++ (relocate browser registry index).2.2) := fun free => blocked ⟨lands, free⟩
        rcases ih (relocate_distinct browser index distinct) later with ⟨id, held, lost⟩ | both
        · exact .inl ⟨id, relocate_holds browser index held, lost⟩
        · exact .inr both
      · push Not at lands
        obtain ⟨foundAt, moves, taken⟩ := lands
        obtain ⟨entry, found, moved, gamepad, isPad⟩ := relocate_moves moves
        cases occupied : (registry.delete index).get foundAt with
        | some other =>
          rw [OrderedMap.get_delete] at occupied
          split at occupied
          · cases occupied
          rename_i elsewhere
          refine .inl ⟨other.internalId, ⟨foundAt, other, occupied, rfl⟩, fun holds => ?_⟩
          obtain ⟨probe, probeEntry, held, same⟩ := relocateAll_holds browser fuel
            (relocate browser registry index).1 (rest ++ (relocate browser registry index).2.2) holds
          rw [moved] at held
          rcases moved_cases held with ⟨-, rfl⟩ | ⟨differs, -, older⟩
          · exact elsewhere (distinct index probeEntry foundAt other found occupied same).symm
          · exact differs (distinct probe probeEntry foundAt other older occupied same)
        | none =>
          have pinned : Pinned browser (relocate browser registry index).1 foundAt := by
            rw [moved]
            exact ⟨entry, gamepad, by rw [OrderedMap.get_set, if_pos rfl], isPad⟩
          obtain ⟨last, _, held, -⟩ := relocateAll_pinned fuel
            (rest ++ (relocate browser registry index).2.2) pinned
          exact .inr ⟨foundAt, last, held, taken occupied⟩

end Walk

/-- The registry a poll leaves. -/
def polledRegistry (input : StreamInput) (browser : Browser) : Registry :=
  match input.gamepads.entries with
  | [] | [_] => input.gamepads
  | _ => (relocateAll browser (2 * input.gamepads.keys.length) input.gamepads
      input.gamepads.keys).1

/-- A poll moves entries only to free indices; one that finds a single pad
registered moves none. -/
def PollLandsFree (input : StreamInput) (browser : Browser) : Prop :=
  match input.gamepads.entries with
  | [] | [_] => True
  | _ => LandsFree browser input.pendingGamepads (2 * input.gamepads.keys.length) input.gamepads
      input.gamepads.keys

/-- Beside the registry, a poll leaves the waiting pads and the channel alone. -/
structure SameHost (before after : StreamInput) : Prop where
  gamepads : after.gamepads = before.gamepads
  pending : after.pendingGamepads = before.pendingGamepads
  controllers : after.controllers = before.controllers

theorem SameHost.refl (input : StreamInput) : SameHost input input := ⟨rfl, rfl, rfl⟩

theorem SameHost.trans (first : SameHost before middle) (second : SameHost middle after) :
    SameHost before after :=
  ⟨second.gamepads.trans first.gamepads, second.pending.trans first.pending,
    second.controllers.trans first.controllers⟩

theorem detect_same (input : StreamInput) (entry : RegisteredGamepad) (gamepad : Gamepad) :
    SameHost input (input.detect entry gamepad).1 := by
  unfold detect
  dsimp only
  split
  · exact .refl input
  · exact ⟨rfl, rfl, rfl⟩

theorem detectAll_same (input : StreamInput) (pads : List (RegisteredGamepad × Gamepad)) :
    SameHost input (input.detectAll pads).1 := by
  induction pads generalizing input with
  | nil => exact .refl input
  | cons pad rest ih => exact (detect_same input pad.1 pad.2).trans (ih _)

theorem sendController_same (input : StreamInput) (id : Nat) (state : GamepadState) :
    SameHost input (input.sendController id state) := by
  have opened : SameHost input (input.tryOpenControllerChannel id) := by
    unfold tryOpenControllerChannel
    split
    · exact .refl input
    · split
      · exact ⟨rfl, rfl, rfl⟩
      · exact .refl input
  unfold sendController
  dsimp only
  split
  · exact opened.trans ⟨rfl, rfl, rfl⟩
  · exact opened

theorem sendUpdates_same (input : StreamInput) (sent : Sent) (updates : List Update) :
    SameHost input (input.sendUpdates sent updates) := by
  induction updates generalizing input sent with
  | nil => exact .refl input
  | cons update rest ih =>
    unfold sendUpdates
    split
    · exact ih input sent
    · exact (sendController_same input update.internalId update.state).trans (ih _ _)

theorem onGamepadUpdate_same (input : StreamInput) (browser : Browser) :
    SameHost { input with gamepads := input.polledRegistry browser }
      (input.onGamepadUpdate browser) := by
  have sends (updates : List Update) (middle : StreamInput) :
      SameHost middle (updates.foldl (fun input update =>
        input.sendController update.internalId update.state) middle) := by
    induction updates generalizing middle with
    | nil => exact .refl middle
    | cons update rest ih => exact (sendController_same middle _ _).trans (ih _)
  unfold onGamepadUpdate polledRegistry
  cases shape : input.gamepads.entries with
  | nil => exact .refl input
  | cons first rest =>
    cases rest with
    | nil =>
      obtain ⟨index, entry⟩ := first
      dsimp only
      cases padAt browser index entry with
      | none => exact .refl input
      | some gamepad => exact (detect_same input entry gamepad).trans (sends _ _)
    | cons second rest =>
      dsimp only
      refine .trans ?_ (sendUpdates_same _ _ _)
      rw [collectUpdates, walk_eq]
      exact detectAll_same _ _

theorem exact_iff_of_same (same : SameHost before after) :
    RegistryExact after ↔ RegistryExact before := by
  constructor
  · intro exact
    exact exact.of_same same.gamepads.symm same.controllers.symm fun _ absent => same.pending ▸ absent
  · intro exact
    exact exact.of_same same.gamepads same.controllers fun _ absent => same.pending ▸ absent

/-- After a poll the registry is exact just if it moved entries to free indices only. -/
theorem onGamepadUpdate_exact_iff (exact : RegistryExact input)
    (opened : input.controllersOpen = true) (browser : Browser) :
    RegistryExact (input.onGamepadUpdate browser) ↔ input.PollLandsFree browser := by
  rw [exact_iff_of_same (onGamepadUpdate_same input browser)]
  unfold polledRegistry PollLandsFree
  cases shape : input.gamepads.entries with
  | nil => exact iff_of_true exact trivial
  | cons first rest =>
    cases rest with
    | nil => exact iff_of_true exact trivial
    | cons second rest =>
      dsimp only
      obtain ⟨channel, isChannel, -⟩ := controllersOpen_iff.mp opened
      constructor
      · intro after
        by_contra blocked
        rcases relocateAll_blocked exact.distinct blocked with
          ⟨id, held, lost⟩ | ⟨index, entry, held, waits⟩
        · have known := (exact.announced channel isChannel id).mpr held
          exact lost ((after.announced channel isChannel id).mp known)
        · exact waits (after.apart index entry held)
      · intro free
        obtain ⟨kept, apart⟩ := relocateAll_free exact.apart free
        refine ⟨relocateAll_distinct browser _ _ exact.distinct, apart, fun other isOther id => ?_⟩
        rw [exact.announced other isOther id]
        exact ⟨kept id, relocateAll_holds browser _ _ _⟩

end StreamInput

open StreamInput

namespace Page

/-- The page once the stream runs: connected, with its controllers channel open. -/
def running : Page :=
  ⟨{ StreamInput.new with connected := true, peer := true, controllers := some ⟨.opened, []⟩ }, [],
    true⟩

example : run step start [.setPeer, .controllersOpen, .streamStart 0] = some running := rfl

/-- The steps of a page whose controllers channel stays open. -/
def gamepadStep (page : Page) (event : PageEvent) : Option Page :=
  match event with
  | .setPeer | .controllersOpen | .controllersClose | .streamStart _ => none
  | _ => page.step event

/-- A poll finds no entry registered and no pad waiting where it moves an entry. -/
def MovesFree (page : Page) (event : PageEvent) (_ : Page) : Prop :=
  event = .poll → page.input.PollLandsFree page.browser

structure Exact (page : Page) : Prop where
  opened : page.input.controllersOpen = true
  registry : page.input.RegistryExact

theorem exact_iff_moves_free {page : Page} (exact : page.Exact)
    (taken : page.gamepadStep event = some after) :
    after.input.RegistryExact ↔ page.MovesFree event after := by
  obtain ⟨opened, registry⟩ := exact
  have unmoved (kept : after.input.RegistryExact) (other : event ≠ .poll) :
      after.input.RegistryExact ↔ page.MovesFree event after :=
    iff_of_true kept fun same => absurd same other
  cases event with
  | setPeer | controllersOpen | controllersClose | streamStart => cases taken
  | controllerInputOpen id =>
    simp only [gamepadStep, step] at taken
    split at taken
    · cases taken
      exact unmoved (registry.of_same rfl rfl fun _ absent => absent) (by simp)
    · cases taken
  | controllerInputClose id =>
    obtain ⟨channel, -, rfl⟩ := Option.map_eq_some_iff.mp taken
    exact unmoved (registry.of_same rfl rfl fun _ absent => absent) (by simp)
  | gamepadsChange browser =>
    cases taken
    exact unmoved registry (by simp)
  | gamepadConnected index gamepad now =>
    cases taken
    exact unmoved (onGamepadConnect_exact registry index gamepad now) (by simp)
  | gamepadDisconnected index =>
    cases taken
    exact unmoved (onGamepadDisconnect_exact registry opened index) (by simp)
  | pendingTimer =>
    simp only [gamepadStep, step, Option.ite_none_right_eq_some, Option.some.injEq] at taken
    obtain ⟨-, rfl⟩ := taken
    exact unmoved (onPendingTimer_exact registry opened page.browser) (by simp)
  | poll =>
    cases taken
    rw [MovesFree, onGamepadUpdate_exact_iff registry opened]
    exact ⟨fun free _ => free, fun free => free rfl⟩
  | setConfig controllerConfig controllerDeviceMode =>
    cases taken
    exact unmoved (registry.of_same rfl rfl fun _ absent => absent) (by simp)
  | setTeslaSwapOverride value =>
    cases taken
    exact unmoved (registry.of_same rfl rfl fun _ absent => absent) (by simp)

theorem gamepadStep_opened {page : Page} (opened : page.input.controllersOpen = true)
    (taken : page.gamepadStep event = some after) : after.input.controllersOpen = true := by
  have kept : Keeps page.input after.input := by
    cases event with
    | setPeer | controllersOpen | controllersClose | streamStart => cases taken
    | controllerInputOpen id =>
      simp only [gamepadStep, step] at taken
      split at taken
      · cases taken
        exact keeps_of_same rfl rfl rfl rfl
      · cases taken
    | controllerInputClose id =>
      obtain ⟨channel, -, rfl⟩ := Option.map_eq_some_iff.mp taken
      exact keeps_of_same rfl rfl rfl rfl
    | gamepadsChange browser =>
      cases taken
      exact keeps_refl _
    | gamepadConnected index gamepad now =>
      cases taken
      exact onGamepadConnect_keeps _ _ _ _
    | gamepadDisconnected index =>
      cases taken
      exact onGamepadDisconnect_keeps _ _
    | pendingTimer =>
      simp only [gamepadStep, step, Option.ite_none_right_eq_some, Option.some.injEq] at taken
      obtain ⟨-, rfl⟩ := taken
      exact onPendingTimer_keeps _ _
    | poll =>
      cases taken
      exact onGamepadUpdate_keeps _ _
    | setConfig controllerConfig controllerDeviceMode =>
      cases taken
      exact keeps_of_same rfl rfl rfl rfl
    | setTeslaSwapOverride value =>
      cases taken
      exact keeps_of_same rfl rfl rfl rfl
  exact kept.opened.trans opened

theorem running_exact : running.Exact where
  opened := rfl
  registry := by
    refine ⟨nofun, nofun, fun channel isChannel id => ?_⟩
    cases isChannel
    refine iff_of_false (by simp [announced]) ?_
    rintro ⟨index, entry, held, -⟩
    cases held

/-- The registry and the host agree in every run exactly if no poll moves an entry to
an index that is registered or waiting. -/
theorem registry_exact_iff (events : List PageEvent) :
    Along gamepadStep (fun _ _ after => after.input.RegistryExact) running events ↔
      Along gamepadStep MovesFree running events := by
  refine along_iff Exact ?_ ?_ running_exact
  · intro page event after exact taken
    exact exact_iff_moves_free exact taken
  · intro page event after exact taken free
    exact ⟨gamepadStep_opened exact.opened taken, (exact_iff_moves_free exact taken).mpr free⟩

private def pressing (id : String) (buttons : List Bool) : Gamepad where
  id := id
  timestamp := 0
  buttons := buttons.map fun pressed => ⟨pressed, if pressed then 1 else 0⟩
  axes := []

private def pressingFirst : Gamepad := pressing "A" [true, false]

private def pressingSecond : Gamepad := pressing "B" [false, true]

private def swapping : List PageEvent :=
  [.gamepadsChange [some pressingFirst, some pressingSecond],
    .gamepadConnected 0 pressingFirst 0, .gamepadConnected 1 pressingSecond 300, .pendingTimer,
    .gamepadsChange [some pressingSecond, some pressingFirst]]

/-- Two different pads change places: the one that is looked at first drives the other
out of the registry, and the host never hears of it. -/
theorem swapped_pad_lost : ¬ Along gamepadStep (fun _ _ after => after.input.RegistryExact) running
    (swapping ++ [.poll]) := by
  intro exact
  obtain ⟨before, ran⟩ : ∃ before, run gamepadStep running swapping = some before := ⟨_, rfl⟩
  obtain ⟨after, taken⟩ : ∃ after, gamepadStep before .poll = some after := ⟨_, rfl⟩
  have final : run gamepadStep running (swapping ++ [.poll]) = some after := by
    rw [run_append, ran]
    simp [run_cons, taken]
  have facts : (run gamepadStep running (swapping ++ [.poll])).map (fun page =>
      (page.input.controllers.any fun channel => announced 1 channel.sent,
        decide (1 ∈ page.input.internalIds))) = some (true, false) := by decide +kernel
  rw [final, Option.map_some, Option.some.injEq, Prod.mk.injEq, Option.any_eq_true] at facts
  obtain ⟨⟨channel, isChannel, known⟩, unregistered⟩ := facts
  obtain ⟨index, entry, held, same⟩ :=
    ((along_last exact ran taken).announced channel isChannel 1).mp known
  have member := List.mem_map_of_mem (f := fun entry => entry.2.internalId)
    ((OrderedMap.mem_entries_iff _).mpr held)
  rw [same] at member
  exact of_decide_eq_false unregistered member

end Page

end MoonlightWeb.Client

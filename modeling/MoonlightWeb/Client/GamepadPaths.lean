import MoonlightWeb.Client.GamepadRegistry

/-! The two ways of a poll. With a single pad registered it does without the walk over
the registry, and so without the search for a pad that has moved in the browser's array. -/
namespace MoonlightWeb.Client
namespace StreamInput

/-- A poll the way it goes with several pads registered. -/
def generalPath (input : StreamInput) (browser : Browser) : StreamInput :=
  let (input, updates) := input.collectUpdates browser
  input.sendUpdates .empty (sortUpdates updates)

theorem onGamepadUpdate_of_several {input : StreamInput}
    (several : 1 < input.gamepads.entries.length) (browser : Browser) :
    input.onGamepadUpdate browser = input.generalPath browser := by
  unfold onGamepadUpdate
  cases shape : input.gamepads.entries with
  | nil =>
    rw [shape] at several
    cases several
  | cons first rest =>
    cases rest with
    | nil =>
      rw [shape] at several
      exact absurd several (lt_irrefl 1)
    | cons second rest => rfl

/-- The same messages, registry and recorded states. -/
structure SameEffect (first second : StreamInput) : Prop where
  messages : first.controllerInputs = second.controllerInputs
  registry : first.gamepads = second.gamepads
  recorded : first.previousStates = second.previousStates

theorem SameEffect.refl (input : StreamInput) : SameEffect input input := ⟨rfl, rfl, rfl⟩

/-- The pad of an entry is at the index it is registered for, or at none. -/
def InPlace (browser : Browser) (index : Nat) (entry : RegisteredGamepad) : Prop :=
  (∃ gamepad, browser[index]? = some (some gamepad) ∧ gamepad.id = entry.gamepadId) ∨
    ∀ gamepad, some gamepad ∈ browser → gamepad.id ≠ entry.gamepadId

theorem padAt_eq_some_iff : padAt browser index entry = some gamepad ↔
    browser[index]? = some (some gamepad) ∧ gamepad.id = entry.gamepadId := by
  rw [padAt_eq_some, gamepadAt, Option.join_eq_some_iff]

theorem findIndex_eq_none_iff {browser : Browser} {gamepadId : String} :
    findIndex browser gamepadId = none ↔
      ∀ gamepad, some gamepad ∈ browser → gamepad.id ≠ gamepadId := by
  rw [findIndex, List.findIdx?_eq_none_iff]
  constructor
  · intro absent gamepad member same
    have fails := absent (some gamepad) member
    rw [Option.any_some, decide_eq_false_iff_not] at fails
    exact fails same
  · intro absent slot member
    cases slot with
    | none => rfl
    | some gamepad =>
      rw [Option.any_some, decide_eq_false_iff_not]
      exact absent gamepad member

theorem inPlace_iff {browser : Browser} {index : Nat} {entry : RegisteredGamepad} :
    InPlace browser index entry ↔
      (∃ gamepad, padAt browser index entry = some gamepad) ∨
        findIndex browser entry.gamepadId = none := by
  simp only [InPlace, padAt_eq_some_iff, findIndex_eq_none_iff]

/-! ## A single entry -/

section Single
variable {input : StreamInput} {browser : Browser} {index : Nat} {entry : RegisteredGamepad}

theorem keys_of_single (single : input.gamepads.entries = [(index, entry)]) :
    input.gamepads.keys = [index] := by
  rw [OrderedMap.keys, single]
  rfl

theorem get_of_single (single : input.gamepads.entries = [(index, entry)]) :
    input.gamepads.get index = some entry :=
  input.gamepads.mem_entries_iff.mp (by rw [single]; exact List.mem_singleton_self _)

/-- A walk over a single key is one visit, where that moves nothing. -/
theorem collectUpdates_of_visit (single : input.gamepads.entries = [(index, entry)])
    (visited : visit browser input index = (after, updates, [])) :
    input.collectUpdates browser = (after, updates) := by
  rw [collectUpdates, keys_of_single single]
  simp only [List.length_singleton, Nat.mul_one, walk, visited, List.append_nil]

theorem collectUpdates_here (single : input.gamepads.entries = [(index, entry)])
    (here : padAt browser index entry = some gamepad) :
    input.collectUpdates browser = input.detect entry gamepad := by
  have visited : visit browser input index =
      ((input.detect entry gamepad).1, (input.detect entry gamepad).2, []) := by
    unfold visit
    rw [get_of_single single]
    dsimp only
    rw [here]
  exact collectUpdates_of_visit single visited

theorem collectUpdates_absent (single : input.gamepads.entries = [(index, entry)])
    (elsewhere : padAt browser index entry = none)
    (absent : findIndex browser entry.gamepadId = none) :
    input.collectUpdates browser = (input, []) := by
  refine collectUpdates_of_visit single ?_
  unfold visit
  rw [get_of_single single]
  dsimp only
  rw [elsewhere, absent]

/-- The walk takes an entry along to where its pad has moved. -/
theorem relocateAll_moved (single : input.gamepads.entries = [(index, entry)])
    (elsewhere : padAt browser index entry = none)
    (found : findIndex browser entry.gamepadId = some foundAt) :
    (relocateAll browser 2 input.gamepads [index]).1 =
      (input.gamepads.delete index).set foundAt entry := by
  have moves : movesTo browser input.gamepads index = some foundAt := by
    unfold movesTo
    rw [get_of_single single]
    dsimp only
    rw [elsewhere]
    exact found
  obtain ⟨moved, held, relocated, gamepad, isPad⟩ := relocate_moves moves
  obtain rfl : moved = entry := Option.some.inj (held.symm.trans (get_of_single single))
  have stays : ∀ key ∈ (relocate browser input.gamepads index).2.2,
      movesTo browser ((input.gamepads.delete index).set foundAt moved) key = none := by
    intro key appended
    have isFound : key = foundAt := by
      unfold relocate at appended
      rw [held] at appended
      dsimp only at appended
      rw [elsewhere] at appended
      dsimp only at appended
      rw [found] at appended
      dsimp only at appended
      split_ifs at appended
      · cases appended
      · exact List.mem_singleton.mp appended
    rw [isFound, movesTo, OrderedMap.get_set, if_pos rfl]
    dsimp only
    rw [isPad]
  simp only [relocateAll, relocated, List.nil_append]
  cases appended : (relocate browser input.gamepads index).2.2 with
  | nil => rfl
  | cons key rest =>
    simp only [relocateAll]
    exact relocate_stays (stays key (by rw [appended]; exact List.mem_cons_self))

theorem generalPath_moved (single : input.gamepads.entries = [(index, entry)])
    (elsewhere : padAt browser index entry = none)
    (found : findIndex browser entry.gamepadId = some foundAt) :
    (input.generalPath browser).gamepads = (input.gamepads.delete index).set foundAt entry := by
  unfold generalPath
  rw [collectUpdates, walk_eq, keys_of_single single]
  refine (sendUpdates_same _ _ _).gamepads.trans ((detectAll_same _ _).gamepads.trans ?_)
  exact relocateAll_moved single elsewhere found

/-- One update is never held back as a mirrored one. -/
theorem sendUpdates_detected (input : StreamInput) (entry : RegisteredGamepad)
    (gamepad : Gamepad) (sender : StreamInput) :
    sender.sendUpdates .empty (sortUpdates (input.detect entry gamepad).2) =
      (input.detect entry gamepad).2.foldl
        (fun input update => input.sendController update.internalId update.state) sender := by
  have alone : ∀ update, suppressed .empty update = false := by
    intro update
    rw [suppressed, OrderedMap.get_empty, Bool.and_false]
  unfold detect
  dsimp only
  split_ifs
  · rw [sortUpdates, List.mergeSort_nil]
    rfl
  · rw [sortUpdates, List.mergeSort_singleton, sendUpdates, alone]
    rfl

theorem onGamepadUpdate_here (single : input.gamepads.entries = [(index, entry)])
    (here : padAt browser index entry = some gamepad) :
    input.onGamepadUpdate browser = (input.detect entry gamepad).2.foldl
      (fun input update => input.sendController update.internalId update.state)
      (input.detect entry gamepad).1 := by
  simp only [onGamepadUpdate, single, here]

theorem onGamepadUpdate_elsewhere (single : input.gamepads.entries = [(index, entry)])
    (elsewhere : padAt browser index entry = none) : input.onGamepadUpdate browser = input := by
  simp only [onGamepadUpdate, single, elsewhere]

/-- With a single pad registered both ways of a poll have the same effect exactly when the
pad is at its index or at none: one that has moved is only found by the walk. -/
theorem fast_path_agrees_iff (single : input.gamepads.entries = [(index, entry)])
    (browser : Browser) :
    SameEffect (input.onGamepadUpdate browser) (input.generalPath browser) ↔
      InPlace browser index entry := by
  rw [inPlace_iff]
  cases here : padAt browser index entry with
  | some gamepad =>
    have general : input.generalPath browser = input.onGamepadUpdate browser := by
      rw [generalPath, collectUpdates_here single here, onGamepadUpdate_here single here]
      exact sendUpdates_detected input entry gamepad _
    rw [general]
    exact iff_of_true (.refl _) (.inl ⟨gamepad, rfl⟩)
  | none =>
    rw [onGamepadUpdate_elsewhere single here]
    cases found : findIndex browser entry.gamepadId with
    | none =>
      have general : input.generalPath browser = input := by
        simp only [generalPath, collectUpdates_absent single here found, sortUpdates,
          List.mergeSort_nil, sendUpdates]
      rw [general]
      exact iff_of_true (.refl _) (.inr rfl)
    | some foundAt =>
      refine iff_of_false (fun same => ?_) (by simp)
      obtain ⟨gamepad, _, isPad⟩ := padAt_findIndex found
      have moved : foundAt ≠ index := by
        rintro rfl
        cases here.symm.trans isPad
      have registry := same.registry
      rw [generalPath_moved single here found] at registry
      have gone := congrArg (fun registry => registry.get index) registry
      rw [get_of_single single, OrderedMap.get_set, if_neg moved.symm, OrderedMap.get_delete,
        if_pos rfl] at gone
      cases gone

end Single

/-- A page with one pad registered, at index 0. -/
def onePad : StreamInput where
  connected := true
  peer := true
  controllers := some ⟨.opened, []⟩
  controllerInputs := .empty
  previousStates := .empty
  bufferedControllers := []
  gamepads := OrderedMap.empty.set 0 ⟨0, "pad", none, false⟩
  pendingGamepads := .empty
  pendingGamepadTimer := false
  config := ⟨⟨false, false⟩, none⟩
  teslaSwapOverride := none

theorem fast_path_agrees_in_place :
    SameEffect (onePad.onGamepadUpdate [some ⟨"pad", 0, [], []⟩])
      (onePad.generalPath [some ⟨"pad", 0, [], []⟩]) :=
  (fast_path_agrees_iff (by rfl) _).mpr (.inl ⟨_, rfl, rfl⟩)

/-- The browser has the pad at index 1 now, and nothing at index 0. -/
theorem moved_pad_left_behind :
    ¬ ∀ (input : StreamInput) (index : Nat) (entry : RegisteredGamepad) (browser : Browser),
      input.gamepads.entries = [(index, entry)] →
      SameEffect (input.onGamepadUpdate browser) (input.generalPath browser) := by
  intro always
  have same := always onePad 0 ⟨0, "pad", none, false⟩ [none, some ⟨"pad", 0, [], []⟩] rfl
  have registry := same.registry
  rw [generalPath_moved rfl (by decide) (by decide : _ = some 1)] at registry
  have gone := congrArg (fun registry => registry.get 0) registry
  exact absurd gone (by decide)

end StreamInput
end MoonlightWeb.Client

import Mathlib.Algebra.Order.BigOperators.Group.List
import MoonlightWeb.Client.StreamInput

/-! Which pads a poll reads. The walk over the registry moves an entry whose pad
sits at another index, while the registry is walked; what it finds does not
depend on the states it compares. -/
namespace MoonlightWeb.Client
namespace StreamInput

/-- The pad of an entry: at its index, or else at the first with its id string. -/
def padOf (browser : Browser) (index : Nat) (entry : RegisteredGamepad) : Option Gamepad :=
  (padAt browser index entry).or
    ((findIndex browser entry.gamepadId).bind fun foundAt => padAt browser foundAt entry)

/-- The part of a visit that concerns the registry, with the pad it reads. -/
def relocate (browser : Browser) (gamepads : OrderedMap Nat RegisteredGamepad) (index : Nat) :
    OrderedMap Nat RegisteredGamepad × List (RegisteredGamepad × Gamepad) × List Nat :=
  match gamepads.get index with
  | none => (gamepads, [], [])
  | some entry =>
    match padAt browser index entry with
    | some gamepad => (gamepads, [(entry, gamepad)], [])
    | none =>
      match findIndex browser entry.gamepadId with
      | none => (gamepads, [], [])
      | some foundAt =>
        let remaining := gamepads.delete index
        (remaining.set foundAt entry,
          ((gamepadAt browser foundAt).map fun gamepad => (entry, gamepad)).toList,
          if foundAt ∈ remaining.keys then [] else [foundAt])

def relocateAll (browser : Browser) : Nat → OrderedMap Nat RegisteredGamepad → List Nat →
    OrderedMap Nat RegisteredGamepad × List (RegisteredGamepad × Gamepad)
  | 0, gamepads, _ => (gamepads, [])
  | _, gamepads, [] => (gamepads, [])
  | fuel + 1, gamepads, index :: rest =>
    let (gamepads, found, appended) := relocate browser gamepads index
    let (gamepads, more) := relocateAll browser fuel gamepads (rest ++ appended)
    (gamepads, found ++ more)

/-- The detector over a list of pads. -/
def detectAll (input : StreamInput) : List (RegisteredGamepad × Gamepad) →
    StreamInput × List Update
  | [] => (input, [])
  | (entry, gamepad) :: rest =>
    let (input, updates) := input.detect entry gamepad
    let (input, more) := input.detectAll rest
    (input, updates ++ more)

/-- The pads a poll reads, each with its entry. -/
def polled (input : StreamInput) (browser : Browser) : List (RegisteredGamepad × Gamepad) :=
  match input.gamepads.entries with
  | [] => []
  | [(index, entry)] => ((padAt browser index entry).map fun gamepad => (entry, gamepad)).toList
  | _ => (relocateAll browser (2 * input.gamepads.keys.length) input.gamepads
      input.gamepads.keys).2

theorem padAt_eq_some : padAt browser index entry = some gamepad ↔
    gamepadAt browser index = some gamepad ∧ gamepad.id = entry.gamepadId := by
  simp [padAt, Option.filter_eq_some_iff]

/-- The first index with an id string has a pad of that id. -/
theorem padAt_findIndex {entry : RegisteredGamepad}
    (found : findIndex browser entry.gamepadId = some foundAt) :
    ∃ gamepad, gamepadAt browser foundAt = some gamepad ∧
      padAt browser foundAt entry = some gamepad := by
  obtain ⟨within, holds, _⟩ := List.findIdx?_eq_some_iff_getElem.mp found
  obtain ⟨gamepad, isPad, same⟩ : ∃ gamepad, browser[foundAt] = some gamepad ∧
      gamepad.id = entry.gamepadId := by simpa [Option.any_eq_true] using holds
  have here : gamepadAt browser foundAt = some gamepad := by
    simp [gamepadAt, List.getElem?_eq_getElem within, isPad]
  exact ⟨gamepad, here, padAt_eq_some.mpr ⟨here, same⟩⟩

theorem padOf_eq_of_padAt (here : padAt browser index entry = some gamepad) :
    padOf browser index entry = some gamepad := by
  simp [padOf, here]

/-- A visit either leaves the registry as it is, or moves an entry to the index
of its pad. -/
theorem relocate_cases (browser : Browser) (registry : OrderedMap Nat RegisteredGamepad)
    (index : Nat) :
    (∃ found, relocate browser registry index = (registry, found, []) ∧
      ∀ entry gamepad, (entry, gamepad) ∈ found ↔
        registry.get index = some entry ∧ padAt browser index entry = some gamepad) ∨
    ∃ entry foundAt gamepad, registry.get index = some entry ∧
      padAt browser index entry = none ∧ padAt browser foundAt entry = some gamepad ∧
      padOf browser index entry = some gamepad ∧
      relocate browser registry index = ((registry.delete index).set foundAt entry,
        [(entry, gamepad)], if foundAt ∈ (registry.delete index).keys then [] else [foundAt]) := by
  cases held : registry.get index with
  | none => exact .inl ⟨[], by simp [relocate, held], by simp⟩
  | some entry =>
    cases here : padAt browser index entry with
    | some gamepad =>
      refine .inl ⟨[(entry, gamepad)], by simp [relocate, held, here], fun other otherPad => ?_⟩
      simp only [List.mem_singleton, Prod.mk.injEq, Option.some.injEq]
      constructor
      · rintro ⟨rfl, rfl⟩
        exact ⟨rfl, here⟩
      · rintro ⟨rfl, isPad⟩
        exact ⟨rfl, Option.some.inj (isPad.symm.trans here)⟩
    | none =>
      cases found : findIndex browser entry.gamepadId with
      | none =>
        refine .inl ⟨[], by simp [relocate, held, here, found], fun other otherPad => ?_⟩
        simp only [List.not_mem_nil, false_iff]
        rintro ⟨same, isPad⟩
        cases same
        cases here.symm.trans isPad
      | some foundAt =>
        obtain ⟨gamepad, there, isPad⟩ := padAt_findIndex found
        refine .inr ⟨entry, foundAt, gamepad, rfl, here, isPad, ?_, ?_⟩
        · simp [padOf, here, found, isPad]
        · simp [relocate, held, here, found, there]

/-- Each pad that is read is the pad of the entry that was there first. -/
theorem relocateAll_reads (member : (entry, gamepad) ∈ (relocateAll browser fuel registry keys).2) :
    ∃ index, (index, entry) ∈ registry.entries ∧ padOf browser index entry = some gamepad := by
  induction fuel generalizing registry keys with
  | zero => cases member
  | succ fuel ih =>
    cases keys with
    | nil => cases member
    | cons index rest =>
      simp only [relocateAll] at member
      obtain ⟨found, unmoved, reads⟩ |
        ⟨moved, foundAt, pad, held, absent, isPad, isOf, relocated⟩ :=
          relocate_cases browser registry index
      · rw [unmoved] at member
        rcases List.mem_append.mp member with now | later
        · obtain ⟨held, here⟩ := (reads entry gamepad).mp now
          exact ⟨index, registry.mem_entries_iff.mpr held, padOf_eq_of_padAt here⟩
        · exact ih later
      · have here := registry.mem_entries_iff.mpr held
        rw [relocated] at member
        rcases List.mem_append.mp member with now | later
        · cases List.mem_singleton.mp now
          exact ⟨index, here, isOf⟩
        · obtain ⟨other, entered, otherOf⟩ := ih later
          rcases (OrderedMap.mem_entries_set _).mp entered with ⟨rfl, rfl⟩ | ⟨_, earlier⟩
          · rw [padOf_eq_of_padAt isPad] at otherOf
            exact ⟨index, here, isOf.trans otherOf⟩
          · exact ⟨other, ((OrderedMap.mem_entries_delete _).mp earlier).2, otherOf⟩

theorem polled_reads {input : StreamInput} (member : (entry, gamepad) ∈ input.polled browser) :
    ∃ index, (index, entry) ∈ input.gamepads.entries ∧
      padOf browser index entry = some gamepad := by
  unfold polled at member
  split at member
  · cases member
  · rename_i index only isRegistry
    obtain ⟨found, here, isPair⟩ : ∃ found, padAt browser index only = some found ∧
        (only, found) = (entry, gamepad) := by simpa using member
    cases isPair
    exact ⟨index, by simp [isRegistry], padOf_eq_of_padAt here⟩
  · exact relocateAll_reads member

/-- How many more visits an index can cost: two when its entry may be moved, to
an index that comes last. -/
def visits (browser : Browser) (registry : OrderedMap Nat RegisteredGamepad) (index : Nat) : Nat :=
  if (registry.get index).all fun entry => (padAt browser index entry).isSome then 1 else 2

theorem visits_le (browser : Browser) (registry : OrderedMap Nat RegisteredGamepad) (index : Nat) :
    1 ≤ visits browser registry index ∧ visits browser registry index ≤ 2 := by
  unfold visits
  split <;> decide

/-- Moving an entry to its pad makes no index cost more. -/
theorem visits_moved (registry : OrderedMap Nat RegisteredGamepad) (index : Nat)
    (isPad : padAt browser foundAt entry = some gamepad) (other : Nat) :
    visits browser ((registry.delete index).set foundAt entry) other ≤
      visits browser registry other := by
  have atLeast := (visits_le browser registry other).1
  by_cases same : other = foundAt
  · subst same
    simpa [visits, OrderedMap.get_set, isPad] using atLeast
  · by_cases deleted : other = index
    · subst deleted
      simpa [visits, OrderedMap.get_set, same] using atLeast
    · simp [visits, OrderedMap.get_set, same, deleted]

/-- With enough fuel the walk ends by itself: an entry it leaves at the index of
its pad was read there, or was not among the keys. -/
theorem relocateAll_complete
    (enough : (keys.map (visits browser registry)).sum ≤ fuel)
    (member : (index, entry) ∈ (relocateAll browser fuel registry keys).1.entries)
    (here : padAt browser index entry = some gamepad) :
    (entry, gamepad) ∈ (relocateAll browser fuel registry keys).2 ∨
      (index, entry) ∈ registry.entries ∧ index ∉ keys := by
  induction fuel generalizing registry keys with
  | zero =>
    cases keys with
    | nil => exact .inr ⟨member, List.not_mem_nil⟩
    | cons first rest =>
      have := (visits_le browser registry first).1
      simp only [List.map_cons, List.sum_cons] at enough
      omega
  | succ fuel ih =>
    cases keys with
    | nil => exact .inr ⟨member, List.not_mem_nil⟩
    | cons first rest =>
      have atLeast := (visits_le browser registry first).1
      simp only [List.map_cons, List.sum_cons] at enough
      simp only [relocateAll] at member ⊢
      obtain ⟨found, unmoved, reads⟩ |
        ⟨moved, foundAt, pad, held, absent, isPad, _, relocated⟩ :=
          relocate_cases browser registry first
      · rw [unmoved] at member ⊢
        simp only [List.append_nil] at member ⊢
        rcases ih (by omega) member with read | ⟨entered, notLater⟩
        · exact .inl (List.mem_append_right _ read)
        · by_cases same : index = first
          · subst same
            exact .inl (List.mem_append_left _
              ((reads entry gamepad).mpr ⟨registry.mem_entries_iff.mp entered, here⟩))
          · exact .inr ⟨entered, by simp [same, notLater]⟩
      · rw [relocated] at member ⊢
        have twice : visits browser registry first = 2 := by simp [visits, held, absent]
        have rest_le := List.sum_le_sum fun other (_ : other ∈ rest) =>
          visits_moved registry first isPad other
        have once : visits browser ((registry.delete first).set foundAt moved) foundAt = 1 := by
          simp [visits, OrderedMap.get_set, isPad]
        have fewer : ((rest ++ if foundAt ∈ (registry.delete first).keys then [] else [foundAt]).map
            (visits browser ((registry.delete first).set foundAt moved))).sum ≤ fuel := by
          split <;> simp [once] <;> omega
        rcases ih fewer member with read | ⟨entered, notLater⟩
        · exact .inl (List.mem_append_right _ read)
        · rcases (OrderedMap.mem_entries_set _).mp entered with ⟨rfl, rfl⟩ | ⟨_, earlier⟩
          · rw [isPad] at here
            cases here
            exact .inl (.head _)
          · obtain ⟨other, older⟩ := (OrderedMap.mem_entries_delete _).mp earlier
            refine .inr ⟨older, ?_⟩
            simp only [List.mem_append, not_or] at notLater
            simp [other, notLater.1]

/-- Two visits for each key are enough fuel for the whole registry. -/
theorem relocateAll_registered {registry : OrderedMap Nat RegisteredGamepad}
    (member : (index, entry) ∈
      (relocateAll browser (2 * registry.keys.length) registry registry.keys).1.entries)
    (here : padAt browser index entry = some gamepad) :
    (entry, gamepad) ∈ (relocateAll browser (2 * registry.keys.length) registry registry.keys).2 := by
  have enough : (registry.keys.map (visits browser registry)).sum ≤ 2 * registry.keys.length := by
    have bounded := List.sum_le_card_nsmul (registry.keys.map (visits browser registry)) 2
      fun cost isCost => by
        obtain ⟨index, _, rfl⟩ := List.mem_map.mp isCost
        exact (visits_le browser registry index).2
    simpa [Nat.mul_comm] using bounded
  rcases relocateAll_complete enough member here with read | ⟨entered, absent⟩
  · exact read
  · exact (absent (List.mem_map.mpr ⟨_, entered, rfl⟩)).elim

theorem detectAll_append (input : StreamInput) (first second : List (RegisteredGamepad × Gamepad)) :
    input.detectAll (first ++ second) =
      ((((input.detectAll first).1).detectAll second).1,
        (input.detectAll first).2 ++ (((input.detectAll first).1).detectAll second).2) := by
  induction first generalizing input with
  | nil => rfl
  | cons pad rest ih => simp [detectAll, ih]

/-- The detector neither reads nor changes the registry. -/
theorem detect_registry (input : StreamInput) (registry : OrderedMap Nat RegisteredGamepad)
    (entry : RegisteredGamepad) (gamepad : Gamepad) :
    { input with gamepads := registry }.detect entry gamepad =
      ({ (input.detect entry gamepad).1 with gamepads := registry },
        (input.detect entry gamepad).2) := by
  unfold detect
  change (if input.isRecorded entry.internalId (input.extract gamepad) = true then _ else _) = _
  dsimp only
  split <;> rfl

theorem detectAll_registry (input : StreamInput) (registry : OrderedMap Nat RegisteredGamepad)
    (pads : List (RegisteredGamepad × Gamepad)) :
    { input with gamepads := registry }.detectAll pads =
      ({ (input.detectAll pads).1 with gamepads := registry }, (input.detectAll pads).2) := by
  induction pads generalizing input with
  | nil => rfl
  | cons pad rest ih => simp only [detectAll, detect_registry, ih]

theorem visit_eq (browser : Browser) (input : StreamInput) (index : Nat) :
    visit browser input index =
      let (registry, found, appended) := relocate browser input.gamepads index
      let (after, updates) := { input with gamepads := registry }.detectAll found
      (after, updates, appended) := by
  unfold visit relocate
  cases input.gamepads.get index with
  | none => rfl
  | some entry =>
    dsimp only
    cases padAt browser index entry with
    | some gamepad => simp [detectAll]
    | none =>
      cases findIndex browser entry.gamepadId with
      | none => rfl
      | some foundAt =>
        cases there : gamepadAt browser foundAt <;> simp [there, detectAll]

/-- The walk is the detector over the pads that the registry leads to. -/
theorem walk_eq (browser : Browser) (fuel : Nat) (input : StreamInput) (keys : List Nat) :
    walk browser fuel input keys =
      let (registry, pads) := relocateAll browser fuel input.gamepads keys
      { input with gamepads := registry }.detectAll pads := by
  induction fuel generalizing input keys with
  | zero => rfl
  | succ fuel ih =>
    cases keys with
    | nil => rfl
    | cons index rest =>
      simp only [walk, relocateAll, visit_eq, ih, detectAll_registry, detectAll_append]

end StreamInput
end MoonlightWeb.Client

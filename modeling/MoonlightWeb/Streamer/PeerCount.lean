import MoonlightWeb.Streamer.InputPeers

/-! How many input devices the primary client is told of. An operation reads the
number of peers in one step and tells it in a later one, so the number that is
told last is not always the one that was read last. -/
namespace MoonlightWeb.Streamer
open MoonlightWeb.Machine

/-- A call of `attach_input_peer` or `detach_input_peer` that has not returned. -/
def PeerTask.inFlight : PeerTask → Bool
  | .attach _ _ | .detach _ _ => true
  | _ => false

/-- The operation adds a peer or has taken one away, and still has to tell a
count. -/
def PeerTask.tells : PeerTask → Bool
  | .attach _ _ => true
  | .detach _ (.close _) | .detach _ .count => true
  | .detach _ (.collect count) | .detach _ (.releasing count _)
  | .detach _ (.disconnecting _ _ count _) | .detach _ (.broadcast count) => count.isSome
  | _ => false

/-- The count that an operation tells in its next step. -/
def PeerTask.announces : PeerTask → Option Nat
  | .attach _ (.broadcast count) => some count
  | .detach _ (.broadcast count) => count
  | _ => none

/-- The count that an operation has read and has still to tell. -/
def PeerTask.count : PeerTask → Option Nat
  | .attach _ (.config count) | .attach _ (.broadcast count) => some count
  | .detach _ (.collect count) | .detach _ (.releasing count _)
  | .detach _ (.disconnecting _ _ count _) | .detach _ (.broadcast count) => count
  | _ => none

/-- The operation reads the number of peers in its next step. -/
def PeerTask.reads : PeerTask → Bool
  | .attach _ .insert | .detach _ .count => true
  | _ => false

namespace InputPeers

/-- The task inserts a peer or takes one away in its next step. -/
def changes (state : InputPeers) : PeerTask → Bool
  | .attach _ .insert => true
  | .detach removal .removePeer => (state.secondaryPeers.get removal.clientId).isSome
  | _ => false

/-- The count that was told last, none being no client, is the number of
peers. -/
def CountTold (state : InputPeers) : Prop :=
  state.told.getLast?.getD 0 = state.secondaryPeers.entries.length

/-- Whenever no operation is in flight, the count is right. -/
def CountConverged (state : InputPeers) : Prop :=
  (∀ task ∈ state.tasks, task.inFlight = false) → state.CountTold

/-- Attach requests come over IPC, one after the other. -/
def AttachesInTurn (before : InputPeers) (event : PeerEvent) (_ : InputPeers) : Prop :=
  ∀ clientId, event = .attach clientId → ∀ other place, .attach other place ∉ before.tasks

/-- An observer marks the tasks since whose reading no peer has been inserted or
taken away. -/
def noteReadings (marks : List Bool) (before : InputPeers) (event : PeerEvent) (_ : InputPeers) :
    List Bool :=
  match event with
  | .stream _ => marks
  | .attach _ | .message .. | .detach _ => marks ++ [false]
  | .run index _ =>
    let kept := if before.tasks[index]?.any before.changes then marks.map fun _ => false else marks
    if before.tasks[index]?.any PeerTask.reads then kept.set index true else kept

/-- The peers under an observer of the readings. -/
abbrev watchedStep : InputPeers × List Bool → PeerEvent → Option (InputPeers × List Bool) :=
  watching step noteReadings

/-- When an operation tells its count while no other one still has to tell one, no
peer has been inserted or taken away since it read the count. -/
def LastWordFresh (before : InputPeers × List Bool) : PeerEvent → Prop
  | .run index _ =>
    before.1.tasks[index]?.any (fun task => task.announces.isSome) →
      (∀ task ∈ before.1.tasks.eraseIdx index, task.tells = false) → before.2[index]? = some true
  | .stream _ | .attach _ | .message .. | .detach _ => True

instance (before : InputPeers × List Bool) : DecidablePred (LastWordFresh before)
  | .run index _ => inferInstanceAs (Decidable (
      before.1.tasks[index]?.any (fun task => task.announces.isSome) →
        (∀ task ∈ before.1.tasks.eraseIdx index, task.tells = false) →
          before.2[index]? = some true))
  | .stream _ | .attach _ | .message .. | .detach _ => isTrue trivial

/-- An operation that tells its count while no other one still has to tell one
tells the number that there are. -/
def LastWordCurrent (before : InputPeers) (event : PeerEvent) : Prop :=
  ∀ index order task count, event = .run index order → before.tasks[index]? = some task →
    task.announces = some count → (∀ task ∈ before.tasks.eraseIdx index, task.tells = false) →
      count = before.secondaryPeers.entries.length

/-- Everything a task can do to the count: carry on with what it has read, change the
peers and tell it later, read it, or tell what it has read. -/
inductive CountChange (state : InputPeers) (task : PeerTask) (next : InputPeers) (after : PeerTask) : Prop
  | rests (told : next.told = state.told) (peers : next.secondaryPeers = state.secondaryPeers)
      (goesOn : task.tells = true → after.tells = true)
      (carries : ∀ count, after.count = some count → task.reads = false ∧ task.count = some count)
  | changes (isChange : state.changes task = true) (tells : after.tells = true)
      (reads : ∀ count, after.count = some count →
        task.reads = true ∧ count = next.secondaryPeers.entries.length)
  | reads (peers : next.secondaryPeers = state.secondaryPeers) (tells : after.tells = true)
      (isReading : task.reads = true)
      (reads : ∀ count, after.count = some count → count = next.secondaryPeers.entries.length)
  | tells (announces : task.announces = some count) (told : next.told = state.told ++ [count])
      (peers : next.secondaryPeers = state.secondaryPeers) (ends : after.count = none)

theorem runTask_changes {state next : InputPeers}
    (ran : state.runTask order task = some (next, after)) : CountChange state task next after := by
  have called (event : HostEvent) : (state.call event).told = state.told ∧
      (state.call event).secondaryPeers = state.secondaryPeers := by
    unfold call
    split <;> exact ⟨rfl, rfl⟩
  have quiet {task : PeerTask} (rests : task.tells = false) :
      task.tells = true → after.tells = true :=
    fun tells => absurd (rests.symm.trans tells) Bool.false_ne_true
  cases task with
  | attach clientId place =>
    cases place with
    | insert =>
      cases ran
      exact .changes rfl rfl fun _ held => ⟨rfl, (Option.some.inj held).symm⟩
    | config count =>
      cases ran
      exact .rests rfl rfl (fun _ => rfl) fun _ held => ⟨rfl, held⟩
    | broadcast count =>
      cases ran
      exact .tells rfl rfl rfl rfl
  | allocate clientId localId supportedButtons capabilities =>
    simp only [runTask] at ran
    split at ran <;> cases ran <;> exact .rests rfl rfl (quiet rfl) fun _ none => by cases none
  | release clientId localId =>
    simp only [runTask] at ran
    split at ran <;> cases ran <;> exact .rests rfl rfl (quiet rfl) fun _ none => by cases none
  | arrive clientId slot active supportedButtons capabilities | disconnect clientId slot active =>
    cases ran
    exact .rests (called _).1 (called _).2 (quiet rfl) fun _ none => by cases none
  | detach removal place =>
    cases place with
    | removePeer =>
      simp only [runTask, runDetach] at ran
      split at ran <;> cases ran
      · rename_i found
        exact .changes (by simp [changes, found]) rfl fun _ none => by cases none
      · exact .rests rfl rfl (quiet rfl) fun _ none => by cases none
    | close peer =>
      cases ran
      exact .rests rfl rfl (fun _ => rfl) fun _ none => by cases none
    | count =>
      cases ran
      exact .reads rfl rfl rfl fun _ held => (Option.some.inj held).symm
    | collect count =>
      simp only [runTask, runDetach, Option.ite_none_right_eq_some] at ran
      cases ran.2
      exact .rests rfl rfl id fun _ held => ⟨rfl, held⟩
    | releasing count localIds =>
      cases localIds with
      | nil =>
        cases ran
        exact .rests rfl rfl id fun _ held => ⟨rfl, held⟩
      | cons localId rest =>
        simp only [runTask, runDetach] at ran
        split at ran <;> cases ran <;> exact .rests rfl rfl id fun _ held => ⟨rfl, held⟩
    | disconnecting slot active count rest =>
      cases ran
      exact .rests (called _).1 (called _).2 id fun _ held => ⟨rfl, held⟩
    | broadcast count =>
      cases ran
      cases count with
      | none => exact .rests (List.append_nil _) rfl (quiet rfl) fun _ none => by cases none
      | some count => exact .tells rfl rfl rfl rfl
  | finished => cases ran

/-- What this means for a count that is to be told. -/
theorem CountChange.told {state next : InputPeers} (change : CountChange state task next after) :
    (next.told = state.told ∧ next.secondaryPeers = state.secondaryPeers ∧
      (task.tells = true → after.tells = true)) ∨
    after.tells = true ∨
    ∃ count, task.announces = some count ∧ next.told = state.told ++ [count] ∧
      next.secondaryPeers = state.secondaryPeers := by
  cases change with
  | rests told peers goesOn _ => exact .inl ⟨told, peers, goesOn⟩
  | changes _ tells _ => exact .inr (.inl tells)
  | reads _ tells _ _ => exact .inr (.inl tells)
  | tells announces told peers _ => exact .inr (.inr ⟨_, announces, told, peers⟩)

/-- A task changes the peers only where it is to. -/
theorem CountChange.peers {state next : InputPeers} (change : CountChange state task next after)
    (unchanged : state.changes task = false) : next.secondaryPeers = state.secondaryPeers := by
  cases change with
  | rests _ peers _ _ => exact peers
  | changes isChange _ _ => exact absurd (unchanged.symm.trans isChange) Bool.false_ne_true
  | reads peers _ _ _ => exact peers
  | tells _ _ peers _ => exact peers

/-- The count a task has is the one that it has just read or had before. -/
theorem CountChange.counted {state next : InputPeers} (change : CountChange state task next after)
    (held : after.count = some count) :
    (task.reads = true → count = next.secondaryPeers.entries.length) ∧
      (task.reads = false → task.count = some count) := by
  have reading {task : PeerTask} (isReading : task.reads = true) {goal : Prop} :
      task.reads = false → goal := fun idle => absurd (idle.symm.trans isReading) Bool.false_ne_true
  cases change with
  | rests _ _ _ carries =>
    obtain ⟨idle, same⟩ := carries count held
    exact ⟨fun isReading => reading isReading idle, fun _ => same⟩
  | changes _ _ reads =>
    obtain ⟨isReading, isLength⟩ := reads count held
    exact ⟨fun _ => isLength, reading isReading⟩
  | reads _ _ isReading reads => exact ⟨fun _ => reads count held, reading isReading⟩
  | tells _ _ _ ends => cases ends.symm.trans held

/-- The observer has one mark for each task, and a marked task has read the number
of peers that there are. -/
structure Marked (state : InputPeers) (marks : List Bool) : Prop where
  length : marks.length = state.tasks.length
  current : ∀ (index : Nat) (task : PeerTask) count, state.tasks[index]? = some task →
    task.count = some count → marks[index]? = some true →
      count = state.secondaryPeers.entries.length

theorem Marked.last_word_current (marked : Marked state marks)
    (fresh : LastWordFresh (state, marks) event) : LastWordCurrent state event := by
  rintro index order task count rfl atIndex announces alone
  have told : task.count = some count := by
    cases task with
    | attach clientId place | detach removal place =>
      cases place <;> first | exact announces | cases announces
    | allocate | arrive | release | disconnect | finished => cases announces
  refine marked.current index task count atIndex told (fresh ?_ alone)
  rw [atIndex, Option.any_some, announces]
  rfl

/-- A task that begins has read nothing. -/
theorem Marked.begin (marked : Marked state marks) (task : PeerTask) :
    Marked { state with tasks := state.tasks ++ [task] } (marks ++ [false]) := by
  refine ⟨by simp [marked.length], fun index other count atIndex told isMarked => ?_⟩
  by_cases old : index < state.tasks.length
  · rw [List.getElem?_append_left (marked.length ▸ old)] at isMarked
    refine marked.current index other count ?_ told isMarked
    rw [← atIndex]
    exact (List.getElem?_append_left old).symm
  · rw [List.getElem?_append_right (marked.length ▸ Nat.le_of_not_lt old)] at isMarked
    cases List.mem_singleton.mp (List.mem_of_getElem? isMarked)

theorem step_keeps_marked (state : InputPeers) (marks : List Bool) (event : PeerEvent)
    (next : InputPeers) (marked : Marked state marks) (taken : step state event = some next) :
    Marked next (noteReadings marks state event next) := by
  cases event with
  | stream up =>
    cases taken
    exact ⟨marked.length, marked.current⟩
  | attach clientId | detach clientId =>
    cases taken
    exact marked.begin _
  | message peer message =>
    obtain ⟨task, _, rfl⟩ := Option.map_eq_some_iff.mp taken
    exact marked.begin task
  | run index order =>
    obtain ⟨task, atIndex, taken⟩ := Option.bind_eq_some_iff.mp taken
    obtain ⟨⟨ran, after⟩, runs, rfl⟩ := Option.map_eq_some_iff.mp taken
    have change := runTask_changes runs
    have inside := (List.getElem?_eq_some_iff.mp atIndex).1
    simp only [noteReadings, atIndex, Option.any_some]
    -- A mark that is left means that the peers are as they were.
    have kept (place : Nat) (isMarked : (if state.changes task then marks.map fun _ => false
        else marks)[place]? = some true) :
        marks[place]? = some true ∧ ran.secondaryPeers = state.secondaryPeers := by
      split at isMarked
      · simp [List.getElem?_replicate] at isMarked
      · exact ⟨isMarked, change.peers (Bool.eq_false_of_not_eq_true ‹_›)⟩
    refine ⟨by split <;> split <;> simp [marked.length], fun place other count atPlace told isMarked => ?_⟩
    by_cases here : place = index
    · subst here
      have isAfter : other = after := by
        rw [List.getElem?_set_self inside] at atPlace
        exact (Option.some.inj atPlace).symm
      subst isAfter
      obtain ⟨now, before⟩ := change.counted told
      split at isMarked
      · exact now ‹_›
      · obtain ⟨isMarked, same⟩ := kept place isMarked
        change count = ran.secondaryPeers.entries.length
        rw [same]
        exact marked.current place task count atIndex
          (before (Bool.eq_false_of_not_eq_true ‹_›)) isMarked
    · rw [List.getElem?_set_ne (Ne.symm here)] at atPlace
      obtain ⟨isMarked, same⟩ := kept place (by
        split at isMarked
        · rwa [List.getElem?_set_ne (Ne.symm here)] at isMarked
        · exact isMarked)
      change count = ran.secondaryPeers.entries.length
      rw [same]
      exact marked.current place other count atPlace told isMarked

/-- The count is right, or some operation is still going to tell one. -/
def CountComing (state : InputPeers) : Prop :=
  state.CountTold ∨ ∃ task ∈ state.tasks, task.tells = true

theorem CountComing.converged (coming : CountComing state) : CountConverged state := by
  intro idle
  rcases coming with told | ⟨task, member, tells⟩
  · exact told
  · have rests := idle task member
    cases task with
    | attach | detach => cases rests
    | allocate | arrive | release | disconnect | finished => cases tells

theorem step_keeps_count_coming (state : InputPeers) (event : PeerEvent) (next : InputPeers)
    (coming : CountComing state) (taken : step state event = some next)
    (current : LastWordCurrent state event) : CountComing next := by
  have appended (task : PeerTask) : CountComing { state with tasks := state.tasks ++ [task] } :=
    coming.imp_right fun ⟨other, member, tells⟩ => ⟨other, List.mem_append_left _ member, tells⟩
  cases event with
  | stream up =>
    cases taken
    exact coming
  | attach clientId | detach clientId =>
    cases taken
    exact appended _
  | message peer message =>
    obtain ⟨task, _, rfl⟩ := Option.map_eq_some_iff.mp taken
    exact appended task
  | run index order =>
    obtain ⟨task, atIndex, taken⟩ := Option.bind_eq_some_iff.mp taken
    obtain ⟨⟨ran, after⟩, runs, rfl⟩ := Option.map_eq_some_iff.mp taken
    have inside := (List.getElem?_eq_some_iff.mp atIndex).1
    have isAfter : after ∈ state.tasks.set index after := List.mem_set inside after
    obtain ⟨told, peers, stays⟩ | later | ⟨count, announces, told, peers⟩ := (runTask_changes runs).told
    · rcases coming with right | ⟨other, member, tells⟩
      · refine .inl ?_
        change ran.told.getLast?.getD 0 = ran.secondaryPeers.entries.length
        rw [told, peers]
        exact right
      · rcases mem_set_of_mem member atIndex after with rfl | kept
        · exact .inr ⟨after, isAfter, stays tells⟩
        · exact .inr ⟨other, kept, tells⟩
    · exact .inr ⟨after, isAfter, later⟩
    · -- The word that was told is the last one, or another one is to come.
      by_cases others : ∀ task ∈ state.tasks.eraseIdx index, task.tells = false
      · refine .inl ?_
        change ran.told.getLast?.getD 0 = ran.secondaryPeers.entries.length
        rw [told, peers, List.getLast?_concat]
        exact current index order task count rfl atIndex announces others
      · simp only [not_forall, Bool.not_eq_false] at others
        obtain ⟨other, member, tells⟩ := others
        obtain ⟨place, different, isOther⟩ := List.mem_eraseIdx_iff_getElem?.mp member
        refine .inr ⟨other, List.mem_of_getElem? (i := place) ?_, tells⟩
        change (state.tasks.set index after)[place]? = some other
        rw [List.getElem?_set_ne (Ne.symm different), isOther]

/-- A second client's attach has read its count when the first client's connection
fails. It tells an old count, but the detach reads and tells the next one. -/
def overlappingCount : List PeerEvent :=
  [.attach 1, .run 0 [], .run 0 [], .run 0 [], .attach 2, .run 1 [], .detach 1, .run 2 [],
    .run 1 [], .run 1 [], .run 2 [], .run 2 [], .run 2 [], .run 2 [], .run 2 []]

/-- The first client's connection fails; the detach has read its count when the
second client attaches, and tells it after the attach has told its own. -/
def staleCount : List PeerEvent :=
  [.attach 1, .run 0 [], .run 0 [], .run 0 [], .detach 1, .run 1 [], .run 1 [], .run 1 [],
    .attach 2, .run 2 [], .run 2 [], .run 2 [], .run 1 [], .run 1 []]

end InputPeers

end MoonlightWeb.Streamer

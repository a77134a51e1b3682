import MoonlightWeb.Lib.BlockingQueue
import MoonlightWeb.Lib.LinkedList

/-! The queue between the threads: entries that their owners embed in what they queue,
linked both ways. Every function holds the queue's mutex, but for the fields of an entry
that is offered, which are still its owner's. -/
namespace MoonlightWeb.MoonlightCommonC
open LinkedList Machine

abbrev Status := BlockingQueue.Status

abbrev LBQ_SUCCESS : Status := .success
abbrev LBQ_INTERRUPTED : Status := .interrupted
abbrev LBQ_BOUND_EXCEEDED : Status := .boundExceeded
abbrev LBQ_NO_ELEMENT : Status := .noElement
abbrev LBQ_USER_WAKE : Status := .userWake

structure LinkedBlockingQueue where
  head : Option Nat
  tail : Option Nat
  sizeBound : Nat
  currentSize : Nat
  lifetimeSize : Nat
  shutdown : Bool
  draining : Bool
  pendingUserWake : Bool

namespace LinkedBlockingQueue

variable {α : Type}

def lbqInitializeLinkedBlockingQueue (sizeBound : Nat) : LinkedBlockingQueue where
  head := none
  tail := none
  sizeBound := sizeBound
  currentSize := 0
  lifetimeSize := 0
  shutdown := false
  draining := false
  pendingUserWake := false

def lbqSignalQueueShutdown (queue : LinkedBlockingQueue) : LinkedBlockingQueue :=
  { queue with shutdown := true }

def lbqSignalQueueDrain (queue : LinkedBlockingQueue) : LinkedBlockingQueue :=
  { queue with draining := true }

def lbqSignalQueueUserWake (queue : LinkedBlockingQueue) : LinkedBlockingQueue :=
  { queue with pendingUserWake := true }

def lbqGetItemCount (queue : LinkedBlockingQueue) : Nat := queue.currentSize

/-- The old head. Nothing comes back where an assertion fails, here and below. -/
def lbqFlushQueueItems (queue : LinkedBlockingQueue) : Option (Option Nat × LinkedBlockingQueue) :=
  match queue.head with
  | some head => some (some head, { queue with head := none, tail := none, currentSize := 0 })
  | none => if queue.tail = none ∧ queue.currentSize = 0 then some (none, queue) else none

/-- Also whether the condition variable is signalled. -/
def lbqOfferQueueItem (queue : LinkedBlockingQueue) (memory : Memory α) (data : α) (entry : Nat) :
    Option ((Status × Bool) × LinkedBlockingQueue × Memory α) :=
  let memory := memory.modify entry fun node => { node with flink := none, data := data }
  if queue.shutdown || queue.draining then some ((LBQ_INTERRUPTED, false), queue, memory)
  else if queue.currentSize = queue.sizeBound then some ((LBQ_BOUND_EXCEEDED, false), queue, memory)
  else
    let counted := { queue with
      currentSize := queue.currentSize + 1
      lifetimeSize := queue.lifetimeSize + 1 }
    match queue.head with
    | none =>
      if queue.currentSize = 0 ∧ queue.tail = none then
        some ((LBQ_SUCCESS, true), { counted with head := some entry, tail := some entry },
          memory.modify entry fun node => { node with blink := none })
      else none
    | some _ =>
      match queue.tail with
      | none => none
      | some tail =>
        if 1 ≤ queue.currentSize then
          some ((LBQ_SUCCESS, false), { counted with tail := some entry },
            (memory.modify tail fun node => { node with flink := some entry }).modify entry
              fun node => { node with blink := some tail })
        else none

def lbqPeekQueueElement (queue : LinkedBlockingQueue) (memory : Memory α) : Status × Option α :=
  if queue.shutdown then (LBQ_INTERRUPTED, none)
  else
    match queue.head with
    | none => (if queue.draining then LBQ_INTERRUPTED else LBQ_NO_ELEMENT, none)
    | some head => (LBQ_SUCCESS, some (memory head).data)

/-- The entry at the head is unlinked. -/
def takeHead (queue : LinkedBlockingQueue) (memory : Memory α) (entry : Nat) :
    Option (α × LinkedBlockingQueue × Memory α) :=
  let taken := { queue with head := (memory entry).flink, currentSize := queue.currentSize - 1 }
  match (memory entry).flink with
  | none =>
    if taken.currentSize = 0 then some ((memory entry).data, { taken with tail := none }, memory) else none
  | some head =>
    if taken.currentSize ≠ 0 then
      some ((memory entry).data, taken, memory.modify head fun node => { node with blink := none })
    else none

def lbqPollQueueElement (queue : LinkedBlockingQueue) (memory : Memory α) :
    Option ((Status × Option α) × LinkedBlockingQueue × Memory α) :=
  if queue.shutdown then some ((LBQ_INTERRUPTED, none), queue, memory)
  else
    match queue.head with
    | none => some ((if queue.draining then LBQ_INTERRUPTED else LBQ_NO_ELEMENT, none), queue, memory)
    | some entry => (takeHead queue memory entry).map fun taken => ((LBQ_SUCCESS, some taken.1), taken.2)

/-- The condition of the loop that waits. -/
def mustWait (queue : LinkedBlockingQueue) : Bool :=
  queue.head.isNone && !queue.draining && !queue.shutdown && !queue.pendingUserWake

/-- What happens once the loop has ended. -/
def lbqWaitForQueueElement (queue : LinkedBlockingQueue) (memory : Memory α) :
    Option ((Status × Option α) × LinkedBlockingQueue × Memory α) :=
  if queue.shutdown then some ((LBQ_INTERRUPTED, none), queue, memory)
  else if queue.pendingUserWake then
    some ((LBQ_USER_WAKE, none), { queue with pendingUserWake := false }, memory)
  else
    match queue.head with
    | none => if queue.draining then some ((LBQ_INTERRUPTED, none), queue, memory) else none
    | some entry => (takeHead queue memory entry).map fun taken => ((LBQ_SUCCESS, some taken.1), taken.2)

/-- The entries that are queued. -/
def entries (queue : LinkedBlockingQueue) (memory : Memory α) : List Nat :=
  walk memory queue.currentSize queue.head

/-! ## The queue as a list -/

/-- The entries at these addresses hold the items of the queue. -/
structure Holds (queue : LinkedBlockingQueue) (memory : Memory α) (addresses : List Nat)
    (spec : BlockingQueue (Nat × α)) : Prop where
  linked : Linked memory none queue.head addresses
  distinct : addresses.Nodup
  tail : queue.tail = addresses.getLast?
  size : queue.currentSize = addresses.length
  items : spec.items = addresses.map fun address => (address, (memory address).data)
  bound : spec.bound = queue.sizeBound
  shutdown : spec.shutdown = queue.shutdown
  draining : spec.draining = queue.draining
  pendingUserWake : spec.pendingUserWake = queue.pendingUserWake

variable {queue : LinkedBlockingQueue} {memory : Memory α} {spec : BlockingQueue (Nat × α)}

theorem initialize_holds (memory : Memory α) (sizeBound : Nat) :
    Holds (lbqInitializeLinkedBlockingQueue sizeBound) memory [] (.empty sizeBound) where
  linked := rfl
  distinct := List.nodup_nil
  tail := rfl
  size := rfl
  items := rfl
  bound := rfl
  shutdown := rfl
  draining := rfl
  pendingUserWake := rfl

theorem Holds.length (holds : Holds queue memory addresses spec) : spec.items.length = queue.currentSize := by
  rw [holds.items, List.length_map, holds.size]

/-- What the owner of an entry does to it while it is not queued. -/
theorem Holds.frame (holds : Holds queue memory addresses spec) (apart : entry ∉ addresses)
    (change : Node α → Node α) : Holds queue (memory.modify entry change) addresses spec :=
  { holds with
    linked := holds.linked.frame apart change
    items := by
      rw [holds.items]
      refine List.map_congr_left fun address among => ?_
      rw [modify_apart apart change among] }

/-- The queue with one more entry. -/
theorem Holds.push (holds : Holds queue memory addresses spec) (fresh : entry ∉ addresses)
    (flink : (memory entry).flink = none)
    (more : (spec.items ++ [(entry, (memory entry).data)]).length ≤ spec.bound) :
    (queue.head = none → queue.currentSize = 0 ∧ queue.tail = none ∧
      Holds { queue with
          head := some entry, tail := some entry, currentSize := queue.currentSize + 1
          lifetimeSize := queue.lifetimeSize + 1 }
        (memory.modify entry fun node => { node with blink := none }) (addresses ++ [entry])
        { spec with items := spec.items ++ [(entry, (memory entry).data)], bounded := more }) ∧
    (queue.head ≠ none → ∃ tail, queue.tail = some tail ∧ 1 ≤ queue.currentSize ∧
      Holds { queue with
          tail := some entry, currentSize := queue.currentSize + 1, lifetimeSize := queue.lifetimeSize + 1 }
        ((memory.modify tail fun node => { node with flink := some entry }).modify entry
          fun node => { node with blink := some tail }) (addresses ++ [entry])
        { spec with items := spec.items ++ [(entry, (memory entry).data)], bounded := more }) := by
  have distinct : (addresses ++ [entry]).Nodup :=
    List.nodup_append.mpr ⟨holds.distinct, List.nodup_singleton entry, fun address among other isEntry same =>
      fresh ((same.trans (List.mem_singleton.mp isEntry)) ▸ among)⟩
  have size : queue.currentSize + 1 = (addresses ++ [entry]).length := by
    rw [holds.size, List.length_append]
    rfl
  have last : some entry = (addresses ++ [entry]).getLast? := by rw [List.getLast?_concat]
  constructor
  · intro empty
    obtain rfl : addresses = [] := by
      have head := holds.linked.eq_head
      rw [empty] at head
      exact List.head?_eq_none_iff.mp head.symm
    refine ⟨holds.size, holds.tail, { holds with
      linked := linked_singleton flink
      distinct := distinct
      tail := last
      size := size
      items := ?_ }⟩
    simp only [modify_blink_data]
    rw [List.map_append, ← holds.items]
    rfl
  · intro filled
    obtain rfl | ⟨front, tail, rfl⟩ := List.eq_nil_or_concat' addresses
    · exact absurd holds.linked.eq_head filled
    refine ⟨tail, holds.tail.trans (List.getLast?_concat ..), ?_, { holds with
      linked := holds.linked.push holds.distinct fresh flink
      distinct := distinct
      tail := last
      size := size
      items := ?_ }⟩
    · rw [holds.size, List.length_append]
      exact Nat.le_add_left _ _
    · simp only [modify_flink_data, modify_blink_data]
      rw [List.map_append, ← holds.items]
      rfl

theorem lbqOfferQueueItem_spec (holds : Holds queue memory addresses spec) (fresh : entry ∉ addresses) (data : α) :
    ∃ queue' memory' addresses',
      lbqOfferQueueItem queue memory data entry = some (((spec.offer (entry, data)).1,
        decide ((spec.offer (entry, data)).1 = .success ∧ spec.items = [])), queue', memory') ∧
      Holds queue' memory' addresses' (spec.offer (entry, data)).2 := by
  have own := holds.frame fresh fun node => { node with flink := none, data := data }
  have flags : (queue.shutdown || queue.draining) = (spec.shutdown || spec.draining) := by
    rw [holds.shutdown, holds.draining]
  unfold lbqOfferQueueItem BlockingQueue.offer
  rw [flags]
  by_cases closed : (spec.shutdown || spec.draining) = true
  · rw [if_pos closed, if_pos closed]
    exact ⟨queue, _, addresses, rfl, own⟩
  rw [if_neg closed, if_neg closed]
  by_cases room : spec.items.length < spec.bound
  · have notFull : ¬queue.currentSize = queue.sizeBound := by
      rw [← holds.length, ← holds.bound]
      exact Nat.ne_of_lt room
    have flink := congrArg Node.flink
      (modify_self memory entry fun node => { node with flink := none, data := data })
    have written := congrArg Node.data
      (modify_self memory entry fun node => { node with flink := none, data := data })
    rw [dif_pos room, if_neg notFull]
    dsimp only
    obtain ⟨first, later⟩ := own.push fresh flink (by rw [List.length_append]; exact room)
    cases head : queue.head with
    | none =>
      obtain ⟨size, tail, held⟩ := first head
      have none : spec.items = [] := List.length_eq_zero_iff.mp (holds.length.trans size)
      rw [if_pos ⟨size, tail⟩, decide_eq_true ⟨rfl, none⟩]
      simp only [written] at held
      exact ⟨_, _, _, rfl, held⟩
    | some here =>
      obtain ⟨tail, isTail, size, held⟩ := later (by rw [head]; exact Option.some_ne_none here)
      have filled : ¬spec.items = [] := fun none => by
        rw [← holds.length, none] at size
        cases size
      rw [isTail]
      dsimp only
      rw [if_pos size, decide_eq_false fun both => filled both.2]
      simp only [written, head] at held
      exact ⟨_, _, _, rfl, held⟩
  · have full : queue.currentSize = queue.sizeBound := by
      rw [← holds.length, ← holds.bound]
      exact Nat.le_antisymm spec.bounded (Nat.le_of_not_lt room)
    rw [dif_neg room, if_pos full]
    exact ⟨queue, _, addresses, rfl, own⟩

theorem Holds.isNone_head (holds : Holds queue memory addresses spec) : queue.head = none ↔ spec.items = [] := by
  rw [holds.linked.eq_head, holds.items, List.head?_eq_none_iff, List.map_eq_nil_iff]

/-- The first of the items, and what is left of the addresses. -/
theorem Holds.cons (holds : Holds queue memory addresses spec) (first : spec.items = item :: rest) :
    ∃ address later, addresses = address :: later ∧ queue.head = some address ∧
      item = (address, (memory address).data) ∧
      rest = later.map fun address => (address, (memory address).data) := by
  obtain ⟨address, later, rfl, isItem, isRest⟩ := List.map_eq_cons_iff.mp (holds.items.symm.trans first)
  exact ⟨address, later, rfl, holds.linked.1, isItem.symm, isRest.symm⟩

theorem takeHead_spec (holds : Holds queue memory (address :: later) spec)
    (rest : spec.items = item :: items) (bounded : items.length ≤ spec.bound) :
    ∃ queue' memory', takeHead queue memory address = some (item.2, queue', memory') ∧
      Holds queue' memory' later { spec with items := items, bounded := bounded } := by
  obtain ⟨_, _, same, _, rfl, rfl⟩ := holds.cons rest
  obtain ⟨rfl, rfl⟩ := List.cons.inj same
  obtain ⟨_, _, behind⟩ := holds.linked
  have next := behind.eq_head
  have size : queue.currentSize - 1 = later.length := by
    rw [holds.size]
    rfl
  unfold takeHead
  dsimp only
  rw [next]
  cases later with
  | nil =>
    rw [List.length_nil] at size
    rw [List.head?_nil]
    dsimp only
    rw [if_pos size]
    exact ⟨_, _, rfl, { holds with
      linked := rfl
      distinct := List.nodup_nil
      tail := rfl
      size := size
      items := rfl }⟩
  | cons second later =>
    have linked := holds.linked.pop holds.distinct
    rw [next] at linked
    rw [List.head?_cons]
    dsimp only
    rw [if_pos (by rw [size]; exact Nat.succ_ne_zero _)]
    exact ⟨_, _, rfl, { holds with
      linked := linked
      distinct := (List.nodup_cons.mp holds.distinct).2
      tail := holds.tail.trans (List.getLast?_cons_cons ..)
      size := size
      items := by simp only [modify_blink_data] }⟩

/-- What a function takes from the queue, without the address it was at. -/
def taken (result : Status × Option (Nat × α)) : Status × Option α := (result.1, result.2.map Prod.snd)

theorem lbqPeekQueueElement_spec (holds : Holds queue memory addresses spec) :
    lbqPeekQueueElement queue memory = taken spec.peek := by
  unfold lbqPeekQueueElement BlockingQueue.peek
  rw [← holds.shutdown, ← holds.draining]
  by_cases stopped : spec.shutdown = true
  · rw [if_pos stopped, if_pos stopped]
    rfl
  rw [if_neg stopped, if_neg stopped]
  cases first : spec.items with
  | nil =>
    rw [holds.isNone_head.mpr first]
    rfl
  | cons item rest =>
    obtain ⟨address, _, _, head, rfl, _⟩ := holds.cons first
    rw [head]
    rfl

theorem lbqPollQueueElement_spec (holds : Holds queue memory addresses spec) :
    ∃ queue' memory' addresses',
      lbqPollQueueElement queue memory = some (taken (spec.poll.1, spec.poll.2.1), queue', memory') ∧
      Holds queue' memory' addresses' spec.poll.2.2 := by
  unfold lbqPollQueueElement
  rw [← holds.shutdown, ← holds.draining]
  by_cases stopped : spec.shutdown = true
  · have same : spec.poll = (.interrupted, none, spec) := by
      rw [BlockingQueue.poll, if_pos stopped]
    rw [if_pos stopped, same]
    exact ⟨queue, memory, addresses, rfl, holds⟩
  rw [if_neg stopped]
  have running := Bool.eq_false_iff.mpr stopped
  cases first : spec.items with
  | nil =>
    rw [holds.isNone_head.mpr first, BlockingQueue.poll_nil running first]
    exact ⟨queue, memory, addresses, rfl, holds⟩
  | cons item rest =>
    have bounded := spec.bounded_of_cons first
    obtain ⟨address, later, rfl, head, _⟩ := holds.cons first
    obtain ⟨queue', memory', took, held⟩ := takeHead_spec holds first bounded
    rw [head, BlockingQueue.poll_cons running first bounded]
    dsimp only
    rw [took]
    exact ⟨queue', memory', later, rfl, held⟩

theorem mustWait_spec (holds : Holds queue memory addresses spec) : queue.mustWait = true ↔ spec.wait = none := by
  rw [BlockingQueue.wait_eq_none, BlockingQueue.Idle, ← holds.isNone_head, holds.shutdown, holds.draining,
    holds.pendingUserWake, mustWait]
  simp only [Bool.and_eq_true, Option.isNone_iff_eq_none, Bool.not_eq_true', and_assoc]

/-- Once the loop has ended, no assertion fails. -/
theorem lbqWaitForQueueElement_spec (holds : Holds queue memory addresses spec)
    (waited : spec.wait = some (status, item, spec')) :
    ∃ queue' memory' addresses',
      lbqWaitForQueueElement queue memory = some (taken (status, item), queue', memory') ∧
      Holds queue' memory' addresses' spec' := by
  have busy : ¬spec.Idle := fun idle => by
    rw [BlockingQueue.wait_eq_none.mpr idle] at waited
    cases waited
  unfold BlockingQueue.wait at waited
  rw [if_neg busy] at waited
  unfold lbqWaitForQueueElement
  rw [← holds.shutdown, ← holds.pendingUserWake, ← holds.draining]
  by_cases stopped : spec.shutdown = true
  · rw [if_pos stopped] at waited ⊢
    cases waited
    exact ⟨queue, memory, addresses, rfl, holds⟩
  rw [if_neg stopped] at waited ⊢
  by_cases woken : spec.pendingUserWake = true
  · rw [if_pos woken] at waited ⊢
    cases waited
    exact ⟨_, memory, addresses, rfl, { holds with
      shutdown := rfl
      draining := rfl
      pendingUserWake := rfl }⟩
  rw [if_neg woken] at waited ⊢
  obtain ⟨queue', memory', addresses', polled, held⟩ := lbqPollQueueElement_spec holds
  have same := Option.some.inj waited
  rw [same] at polled held
  refine ⟨queue', memory', addresses', ?_, held⟩
  rw [← polled, lbqPollQueueElement, ← holds.shutdown, if_neg stopped, ← holds.draining]
  cases head : queue.head with
  | some _ => rfl
  | none =>
    -- With nothing to take, it is the drain that ended the loop.
    have draining : spec.draining = true := by
      by_contra notDraining
      exact busy ⟨holds.isNone_head.mp head, Bool.eq_false_iff.mpr notDraining, Bool.eq_false_iff.mpr stopped,
        Bool.eq_false_iff.mpr woken⟩
    dsimp only
    rw [if_pos draining, if_pos draining]

theorem Holds.entries (holds : Holds queue memory addresses spec) : queue.entries memory = addresses :=
  holds.linked.walk (Nat.le_of_eq holds.size.symm)

theorem lbqFlushQueueItems_spec (holds : Holds queue memory addresses spec) :
    ∃ queue', lbqFlushQueueItems queue = some (queue.head, queue') ∧ Holds queue' memory [] spec.flush.2 := by
  have empty : Holds { queue with head := none, tail := none, currentSize := 0 } memory [] spec.flush.2 :=
    { holds with
      linked := rfl
      distinct := List.nodup_nil
      tail := rfl
      size := rfl
      items := rfl }
  unfold lbqFlushQueueItems
  cases head : queue.head with
  | some _ => exact ⟨_, rfl, empty⟩
  | none =>
    have none := holds.isNone_head.mp head
    have size : queue.currentSize = 0 := by rw [← holds.length, none]; rfl
    obtain rfl : addresses = [] := List.length_eq_zero_iff.mp (holds.size.symm.trans size)
    dsimp only
    rw [if_pos ⟨holds.tail, size⟩]
    exact ⟨queue, rfl, { holds with items := rfl }⟩

/-! ## Sequences of calls -/

inductive Call (α : Type)
  | offer (data : α) (entry : Nat)
  | peek
  | poll
  | wait
  | flush
  | count
  | shutdown
  | drain
  | userWake

/-- What a call returns: its status, the data it hands out, and a number or whether it signals. A
thread that still has to wait gets nothing. -/
inductive Return (α : Type)
  | offered (status : Status) (signals : Bool)
  | got (result : Status × Option α)
  | waits
  | flushed (items : List α)
  | items (count : Nat)
  | signalled
  deriving DecidableEq

/-- Whoever flushes the queue walks along the entries from the old head. -/
def call (state : LinkedBlockingQueue × Memory α) : Call α → Option (Return α × LinkedBlockingQueue × Memory α)
  | .offer data entry => (lbqOfferQueueItem state.1 state.2 data entry).map fun done =>
    (.offered done.1.1 done.1.2, done.2)
  | .peek => some (.got (lbqPeekQueueElement state.1 state.2), state)
  | .poll => (lbqPollQueueElement state.1 state.2).map fun done => (.got done.1, done.2)
  | .wait =>
    if state.1.mustWait then some (.waits, state)
    else (lbqWaitForQueueElement state.1 state.2).map fun done => (.got done.1, done.2)
  | .flush => (lbqFlushQueueItems state.1).map fun done =>
    (.flushed ((walk state.2 state.1.currentSize done.1).map fun entry => (state.2 entry).data), done.2, state.2)
  | .count => some (.items state.1.lbqGetItemCount, state)
  | .shutdown => some (.signalled, state.1.lbqSignalQueueShutdown, state.2)
  | .drain => some (.signalled, state.1.lbqSignalQueueDrain, state.2)
  | .userWake => some (.signalled, state.1.lbqSignalQueueUserWake, state.2)

/-- The same on a list. An entry may not be offered while it is in the queue. -/
def specCall (spec : BlockingQueue (Nat × α)) : Call α → Option (Return α × BlockingQueue (Nat × α))
  | .offer data entry =>
    if entry ∈ spec.items.map Prod.fst then none
    else
      let offered := spec.offer (entry, data)
      some (.offered offered.1 (offered.1 = .success ∧ spec.items = []), offered.2)
  | .peek => some (.got (taken spec.peek), spec)
  | .poll =>
    let polled := spec.poll
    some (.got (taken (polled.1, polled.2.1)), polled.2.2)
  | .wait =>
    match spec.wait with
    | none => some (.waits, spec)
    | some (status, item, after) => some (.got (taken (status, item)), after)
  | .flush =>
    let flushed := spec.flush
    some (.flushed (flushed.1.map Prod.snd), flushed.2)
  | .count => some (.items spec.items.length, spec)
  | .shutdown => some (.signalled, spec.signalShutdown)
  | .drain => some (.signalled, spec.signalDrain)
  | .userWake => some (.signalled, spec.signalUserWake)

theorem call_spec (holds : Holds queue memory addresses spec)
    (called : specCall spec request = some (returned, spec')) :
    ∃ queue' memory' addresses', call (queue, memory) request = some (returned, queue', memory') ∧
      Holds queue' memory' addresses' spec' := by
  cases request with
  | offer data entry =>
    obtain ⟨free, same⟩ := Option.ite_none_left_eq_some.mp called
    obtain ⟨rfl, rfl⟩ := Prod.mk.inj (Option.some.inj same)
    have fresh : entry ∉ addresses := by
      rw [holds.items, List.map_map] at free
      rwa [show (Prod.fst ∘ fun address => (address, (memory address).data)) = id from rfl, List.map_id] at free
    obtain ⟨queue', memory', addresses', offered, held⟩ := lbqOfferQueueItem_spec holds fresh data
    refine ⟨queue', memory', addresses', ?_, held⟩
    rw [call, offered]
    rfl
  | peek =>
    cases called
    refine ⟨queue, memory, addresses, ?_, holds⟩
    rw [call, lbqPeekQueueElement_spec holds]
  | poll =>
    obtain ⟨rfl, rfl⟩ := Prod.mk.inj (Option.some.inj called)
    obtain ⟨queue', memory', addresses', polled, held⟩ := lbqPollQueueElement_spec holds
    refine ⟨queue', memory', addresses', ?_, held⟩
    rw [call, polled]
    rfl
  | wait =>
    rw [specCall] at called
    cases waited : spec.wait with
    | none =>
      rw [waited] at called
      cases called
      refine ⟨queue, memory, addresses, ?_, holds⟩
      rw [call, if_pos ((mustWait_spec holds).mpr waited)]
    | some result =>
      rw [waited] at called
      cases called
      obtain ⟨queue', memory', addresses', got, held⟩ := lbqWaitForQueueElement_spec holds waited
      refine ⟨queue', memory', addresses', ?_, held⟩
      have ready : ¬queue.mustWait = true := fun waits => by
        rw [(mustWait_spec holds).mp waits] at waited
        cases waited
      rw [call, if_neg ready, got]
      rfl
  | flush =>
    obtain ⟨rfl, rfl⟩ := Prod.mk.inj (Option.some.inj called)
    obtain ⟨queue', flushed, held⟩ := lbqFlushQueueItems_spec holds
    refine ⟨queue', memory, [], ?_, held⟩
    have items := holds.items
    rw [← holds.entries] at items
    rw [call, flushed, BlockingQueue.flush, items, List.map_map]
    rfl
  | count =>
    cases called
    refine ⟨queue, memory, addresses, ?_, holds⟩
    rw [call, holds.length]
    rfl
  | shutdown =>
    cases called
    exact ⟨_, memory, addresses, rfl, { holds with shutdown := rfl }⟩
  | drain =>
    cases called
    exact ⟨_, memory, addresses, rfl, { holds with draining := rfl }⟩
  | userWake =>
    cases called
    exact ⟨_, memory, addresses, rfl, { holds with pendingUserWake := rfl }⟩

/-- In memory the queue is the bounded list that it stands for: whatever sequence of calls is
made, no assertion fails and no null pointer is followed, and they return the same. -/
theorem calls_refine (memory : Memory α) (sizeBound : Nat)
    (ran : outputs specCall (.empty sizeBound) calls = some (returns, spec)) :
    ∃ queue memory', outputs call (lbqInitializeLinkedBlockingQueue sizeBound, memory) calls =
      some (returns, queue, memory') ∧ ∃ addresses, Holds queue memory' addresses spec := by
  have follows (state : LinkedBlockingQueue × Memory α) (spec : BlockingQueue (Nat × α)) (request : Call α)
      (returned : Return α) (spec' : BlockingQueue (Nat × α))
      (held : ∃ addresses, Holds state.1 state.2 addresses spec)
      (called : specCall spec request = some (returned, spec')) :
      ∃ state', call state request = some (returned, state') ∧
        ∃ addresses, Holds state'.1 state'.2 addresses spec' := by
    obtain ⟨addresses, holds⟩ := held
    obtain ⟨queue', memory', addresses', done, held'⟩ := call_spec holds called
    exact ⟨(queue', memory'), done, addresses', held'⟩
  have initially : ∃ addresses, Holds (lbqInitializeLinkedBlockingQueue sizeBound, memory).1
      (lbqInitializeLinkedBlockingQueue sizeBound, memory).2 addresses (.empty sizeBound) :=
    ⟨[], initialize_holds memory sizeBound⟩
  obtain ⟨⟨queue, memory'⟩, ran', held⟩ := outputs_simulate follows initially ran
  exact ⟨queue, memory', ran', held⟩

def blank : Memory Nat := fun _ => ⟨none, none, 0⟩

/-- The queue is full for the third item, and its entry is used again once it is free. -/
theorem calls_refine_reused : ∃ queue memory,
    outputs call (lbqInitializeLinkedBlockingQueue 2, blank)
        [.wait, .offer 10 1, .offer 20 2, .offer 30 3, .poll, .offer 40 1, .drain, .offer 50 3, .wait, .flush] =
      some ([.waits, .offered .success true, .offered .success false, .offered .boundExceeded false,
        .got (.success, some 10), .offered .success false, .signalled, .offered .interrupted false,
        .got (.success, some 20), .flushed [40]], queue, memory) := by
  have listed : (outputs specCall (.empty 2)
        [.wait, .offer 10 1, .offer 20 2, .offer 30 3, .poll, .offer 40 1, .drain, .offer 50 3, .wait, .flush]).map
      Prod.fst =
      some [.waits, .offered .success true, .offered .success false, .offered .boundExceeded false,
        .got (.success, some 10), .offered .success false, .signalled, .offered .interrupted false,
        .got (.success, some 20), .flushed [40]] := by decide
  obtain ⟨⟨returns, spec⟩, ran, rfl⟩ := Option.map_eq_some_iff.mp listed
  obtain ⟨queue, memory, ran', _⟩ := calls_refine blank 2 ran
  exact ⟨queue, memory, ran'⟩

/-! ## The thread that waits -/

/-- The queue, the one thread that waits for its items, and the signals that the others still have
to send: they do so after they have released the mutex. -/
structure Waiter (α : Type) where
  queue : LinkedBlockingQueue
  memory : Memory α
  asleep : Bool
  signals : Nat

namespace Waiter

inductive Event (α : Type)
  | call (request : Call α)
  | signal
  | spurious

def signalled : Return α → Nat
  | .offered _ signals => if signals then 1 else 0
  | .signalled => 1
  | _ => 0

def slept : Return α → Bool
  | .waits => true
  | _ => false

/-- No thread offers an entry that is still queued. -/
def enabled (waiter : Waiter α) : Call α → Bool
  | .offer _ entry => entry ∉ waiter.queue.entries waiter.memory
  | .wait => !waiter.asleep
  | _ => true

def step (waiter : Waiter α) : Event α → Option (Waiter α)
  | .call request =>
    if waiter.enabled request then
      (call (waiter.queue, waiter.memory) request).map fun done =>
        { queue := done.2.1
          memory := done.2.2
          asleep := slept done.1 || waiter.asleep
          signals := waiter.signals + signalled done.1 }
    else none
  | .signal =>
    if waiter.signals = 0 then none
    else some { waiter with signals := waiter.signals - 1, asleep := false }
  | .spurious => some { waiter with asleep := false }

variable {waiter next : Waiter α}

theorem awaited_call {sleeping : Bool} {pending : Nat} (awaited : Sleeper.Awaited ⟨spec, sleeping, pending⟩)
    (called : specCall spec request = some (returned, spec')) (awake : request = .wait → sleeping = false) :
    Sleeper.Awaited ⟨spec', slept returned || sleeping, pending + signalled returned⟩ := by
  cases request with
  | offer data entry =>
    obtain ⟨_, same⟩ := Option.ite_none_left_eq_some.mp called
    obtain ⟨rfl, rfl⟩ := Prod.mk.inj (Option.some.inj same)
    have kept := awaited.step (show Sleeper.step _ (.offer (entry, data)) = some _ from rfl)
    rw [signalled]
    simp only [decide_eq_true_eq]
    exact kept
  | poll =>
    obtain ⟨rfl, rfl⟩ := Prod.mk.inj (Option.some.inj called)
    exact awaited.step (show Sleeper.step _ .poll = some _ from rfl)
  | flush =>
    obtain ⟨rfl, rfl⟩ := Prod.mk.inj (Option.some.inj called)
    exact awaited.step (show Sleeper.step _ .flush = some _ from rfl)
  | peek =>
    cases called
    exact awaited
  | count =>
    cases called
    exact awaited
  | shutdown =>
    cases called
    exact fun _ _ => Nat.succ_pos _
  | drain =>
    cases called
    exact fun _ _ => Nat.succ_pos _
  | userWake =>
    cases called
    exact fun _ _ => Nat.succ_pos _
  | wait =>
    obtain rfl := awake rfl
    rw [specCall] at called
    cases waited : spec.wait with
    | none =>
      rw [waited] at called
      cases called
      exact fun _ busy => absurd (BlockingQueue.wait_eq_none.mp waited) busy
    | some result =>
      rw [waited] at called
      cases called
      exact nofun

/-- The queue in memory is a list, whose consumer is not left asleep. -/
def Sound (waiter : Waiter α) : Prop :=
  ∃ addresses spec, Holds waiter.queue waiter.memory addresses spec ∧
    Sleeper.Awaited ⟨spec, waiter.asleep, waiter.signals⟩

theorem enabled_called (holds : Holds waiter.queue waiter.memory addresses spec)
    (enabled : waiter.enabled request = true) : ∃ returned spec', specCall spec request = some (returned, spec') := by
  cases request with
  | offer data entry =>
    rw [Waiter.enabled, holds.entries] at enabled
    have fresh : entry ∉ spec.items.map Prod.fst := by
      rw [holds.items, List.map_map]
      rwa [show (Prod.fst ∘ fun address => (address, (waiter.memory address).data)) = id from rfl, List.map_id,
        ← decide_eq_true_eq (p := entry ∉ addresses)]
    exact ⟨_, _, if_neg fresh⟩
  | wait =>
    cases waited : spec.wait with
    | none => exact ⟨.waits, spec, by rw [specCall, waited]⟩
    | some result => exact ⟨_, _, by rw [specCall, waited]⟩
  | peek => exact ⟨_, _, rfl⟩
  | poll => exact ⟨_, _, rfl⟩
  | flush => exact ⟨_, _, rfl⟩
  | count => exact ⟨_, _, rfl⟩
  | shutdown => exact ⟨_, _, rfl⟩
  | drain => exact ⟨_, _, rfl⟩
  | userWake => exact ⟨_, _, rfl⟩

theorem Sound.step (sound : waiter.Sound) (stepped : waiter.step event = some next) : next.Sound := by
  obtain ⟨addresses, spec, holds, awaited⟩ := sound
  cases event with
  | call request =>
    obtain ⟨enabled, same⟩ := Option.ite_none_right_eq_some.mp stepped
    obtain ⟨returned, spec', called⟩ := enabled_called holds enabled
    obtain ⟨queue', memory', addresses', done, held⟩ := call_spec holds called
    rw [done] at same
    cases same
    refine ⟨addresses', spec', held, awaited_call awaited called ?_⟩
    rintro rfl
    exact Bool.not_eq_true' _ ▸ enabled
  | signal =>
    obtain ⟨_, same⟩ := Option.ite_none_left_eq_some.mp stepped
    cases same
    exact ⟨addresses, spec, holds, nofun⟩
  | spurious =>
    cases stepped
    exact ⟨addresses, spec, holds, nofun⟩

/-- Under every interleaving of the threads no call runs into a failing assertion, and the thread
that waits never sleeps on beside an item, a drain or a shutdown without a signal on its way. -/
theorem waiter_wakes (sizeBound : Nat) (memory : Memory α)
    (reached : Reachable step ⟨lbqInitializeLinkedBlockingQueue sizeBound, memory, false, 0⟩ waiter) :
    (∀ request, waiter.enabled request = true → (waiter.step (.call request)).isSome = true) ∧
      (waiter.asleep = true → waiter.queue.mustWait = false → 0 < waiter.signals) := by
  have sound : waiter.Sound := by
    apply reachable_invariant Sound ?_ ?_ reached
    · exact ⟨[], .empty sizeBound, initialize_holds memory sizeBound, nofun⟩
    · intro state event next sound stepped
      exact sound.step stepped
  obtain ⟨addresses, spec, holds, awaited⟩ := sound
  constructor
  · intro request enabled
    obtain ⟨returned, spec', called⟩ := enabled_called holds enabled
    obtain ⟨queue', memory', _, done, _⟩ := call_spec holds called
    rw [step, if_pos enabled, done]
    rfl
  · intro asleep ready
    apply awaited asleep
    intro idle
    rw [(mustWait_spec holds).mpr (BlockingQueue.wait_eq_none.mpr idle)] at ready
    cases ready

/-- An item comes while the thread sleeps. -/
theorem waiter_wakes_offered : ∃ waiter, run step ⟨lbqInitializeLinkedBlockingQueue 2, blank, false, 0⟩
    [.call .wait, .call (.offer 10 1)] = some waiter ∧ 0 < waiter.signals := by
  have seen : (run step ⟨lbqInitializeLinkedBlockingQueue 2, blank, false, 0⟩
      [.call .wait, .call (.offer 10 1)]).map (fun waiter => (waiter.asleep, waiter.queue.mustWait)) =
      some (true, false) := by decide
  obtain ⟨waiter, ran, same⟩ := Option.map_eq_some_iff.mp seen
  obtain ⟨asleep, ready⟩ := Prod.mk.inj same
  exact ⟨waiter, ran, (waiter_wakes 2 blank ⟨_, ran⟩).2 asleep ready⟩

end Waiter

end LinkedBlockingQueue

end MoonlightWeb.MoonlightCommonC

import MoonlightWeb.Lib.Machine

/-! Bounded queues between threads. Closed for good or only drained, they hand nothing
out or take nothing in; who waits for an item can also be woken without one. -/
namespace MoonlightWeb
open Machine

structure BlockingQueue (α : Type) where
  items : List α
  bound : Nat
  bounded : items.length ≤ bound
  shutdown : Bool
  draining : Bool
  pendingUserWake : Bool

namespace BlockingQueue

inductive Status
  | success
  | interrupted
  | boundExceeded
  | noElement
  | userWake
  deriving DecidableEq

variable {α : Type} {queue : BlockingQueue α}

def empty (bound : Nat) : BlockingQueue α where
  items := []
  bound := bound
  bounded := Nat.zero_le bound
  shutdown := false
  draining := false
  pendingUserWake := false

def offer (queue : BlockingQueue α) (item : α) : Status × BlockingQueue α :=
  if queue.shutdown || queue.draining then (.interrupted, queue)
  else if room : queue.items.length < queue.bound then
    (.success, { queue with
      items := queue.items ++ [item]
      bounded := by rw [List.length_append]; exact room })
  else (.boundExceeded, queue)

def peek (queue : BlockingQueue α) : Status × Option α :=
  if queue.shutdown then (.interrupted, none)
  else
    match queue.items with
    | [] => (if queue.draining then .interrupted else .noElement, none)
    | item :: _ => (.success, some item)

def poll (queue : BlockingQueue α) : Status × Option α × BlockingQueue α :=
  if queue.shutdown then (.interrupted, none, queue)
  else
    match h : queue.items with
    | [] => (if queue.draining then .interrupted else .noElement, none, queue)
    | item :: rest =>
      (.success, some item, { queue with
        items := rest
        bounded := Nat.le_of_succ_le (Nat.le_trans (Nat.le_of_eq (congrArg List.length h).symm) queue.bounded) })

theorem poll_nil (running : queue.shutdown = false) (none : queue.items = []) :
    queue.poll = (if queue.draining then .interrupted else .noElement, Option.none, queue) := by
  unfold poll
  rw [if_neg (by rw [running]; decide)]
  split
  · rfl
  · next some => exact absurd (none.symm.trans some) nofun

theorem bounded_of_cons (first : queue.items = item :: rest) : rest.length ≤ queue.bound := by
  have within := queue.bounded
  rw [first] at within
  exact Nat.le_of_succ_le within

theorem poll_cons (running : queue.shutdown = false) (first : queue.items = item :: rest)
    (bounded : rest.length ≤ queue.bound) :
    queue.poll = (.success, some item, { queue with items := rest, bounded := bounded }) := by
  unfold poll
  rw [if_neg (by rw [running]; decide)]
  split
  · next none => exact absurd (first.symm.trans none) nofun
  · next first' =>
    obtain ⟨rfl, rfl⟩ := List.cons.inj (first.symm.trans first')
    rfl

/-- There is nothing to wake up for. -/
def Idle (queue : BlockingQueue α) : Prop :=
  queue.items = [] ∧ queue.draining = false ∧ queue.shutdown = false ∧ queue.pendingUserWake = false

instance : Decidable queue.Idle := by
  unfold Idle
  exact decidable_of_iff (queue.items.isEmpty = true ∧ queue.draining = false ∧ queue.shutdown = false ∧
    queue.pendingUserWake = false) (and_congr_left' List.isEmpty_iff)

/-- Nothing comes back as long as the queue has to be waited for. -/
def wait (queue : BlockingQueue α) : Option (Status × Option α × BlockingQueue α) :=
  if queue.Idle then none
  else if queue.shutdown then some (.interrupted, none, queue)
  else if queue.pendingUserWake then some (.userWake, none, { queue with pendingUserWake := false })
  else some queue.poll

def flush (queue : BlockingQueue α) : List α × BlockingQueue α :=
  (queue.items, { queue with items := [], bounded := Nat.zero_le _ })

def signalShutdown (queue : BlockingQueue α) : BlockingQueue α := { queue with shutdown := true }

def signalDrain (queue : BlockingQueue α) : BlockingQueue α := { queue with draining := true }

def signalUserWake (queue : BlockingQueue α) : BlockingQueue α := { queue with pendingUserWake := true }

theorem offer_idle (idle : queue.Idle) (kept : ¬(queue.offer item).2.Idle) :
    (queue.offer item).1 = .success ∧ queue.items = [] := by
  obtain ⟨none, draining, shutdown, userWake⟩ := idle
  unfold offer at kept ⊢
  rw [shutdown, draining] at kept ⊢
  split at kept
  · contradiction
  · split at kept
    · next room =>
      rw [if_neg (by decide), dif_pos room]
      exact ⟨rfl, none⟩
    · exact absurd ⟨none, draining, shutdown, userWake⟩ kept

theorem poll_idle (idle : queue.Idle) : queue.poll.2.2 = queue := by
  obtain ⟨none, _, running, _⟩ := idle
  rw [poll_nil running none]

theorem wait_eq_none : queue.wait = none ↔ queue.Idle := by
  unfold wait
  split
  · next idle => exact iff_of_true rfl idle
  · next busy =>
    refine iff_of_false ?_ busy
    split
    · exact nofun
    split
    · exact nofun
    · exact nofun

end BlockingQueue

/-! ## A consumer that sleeps -/

/-- A queue with the one thread that waits for it, and the signals that have not reached it yet:
they are sent after the queue has been let go of. -/
structure Sleeper (α : Type) where
  queue : BlockingQueue α
  asleep : Bool
  signals : Nat

namespace Sleeper

open BlockingQueue

inductive Event (α : Type)
  | offer (item : α)
  | poll
  | flush
  | shutdown
  | drain
  | userWake
  | wait
  | signal
  | spurious

variable {α : Type} {sleeper next : Sleeper α}

/-- Only the first item of an empty queue is signalled. -/
def step (sleeper : Sleeper α) : Event α → Option (Sleeper α)
  | .offer item =>
    let first := (sleeper.queue.offer item).1 = .success ∧ sleeper.queue.items = []
    some { sleeper with
      queue := (sleeper.queue.offer item).2
      signals := sleeper.signals + if first then 1 else 0 }
  | .poll => some { sleeper with queue := sleeper.queue.poll.2.2 }
  | .flush => some { sleeper with queue := sleeper.queue.flush.2 }
  | .shutdown => some { sleeper with queue := sleeper.queue.signalShutdown, signals := sleeper.signals + 1 }
  | .drain => some { sleeper with queue := sleeper.queue.signalDrain, signals := sleeper.signals + 1 }
  | .userWake => some { sleeper with queue := sleeper.queue.signalUserWake, signals := sleeper.signals + 1 }
  | .wait =>
    if sleeper.asleep then none
    else
      match sleeper.queue.wait with
      | none => some { sleeper with asleep := true }
      | some (_, _, queue) => some { sleeper with queue := queue }
  | .signal =>
    if sleeper.signals = 0 then none
    else some { sleeper with signals := sleeper.signals - 1, asleep := false }
  | .spurious => some { sleeper with asleep := false }

/-- Whoever sleeps beside a queue that is not idle has a signal coming. -/
def Awaited (sleeper : Sleeper α) : Prop :=
  sleeper.asleep = true → ¬sleeper.queue.Idle → 0 < sleeper.signals

theorem Awaited.step (awaited : sleeper.Awaited) (stepped : sleeper.step event = some next) : next.Awaited := by
  cases event with
  | offer item =>
    cases stepped
    intro asleep busy
    by_cases idle : sleeper.queue.Idle
    · dsimp only
      rw [if_pos (offer_idle idle busy)]
      exact Nat.succ_pos _
    · exact Nat.lt_of_lt_of_le (awaited asleep idle) (Nat.le_add_right _ _)
  | poll =>
    cases stepped
    intro asleep busy
    apply awaited asleep
    intro idle
    rw [poll_idle idle] at busy
    exact busy idle
  | flush =>
    cases stepped
    intro asleep busy
    apply awaited asleep
    intro idle
    exact busy ⟨rfl, idle.2⟩
  | shutdown =>
    cases stepped
    exact fun _ _ => Nat.succ_pos _
  | drain =>
    cases stepped
    exact fun _ _ => Nat.succ_pos _
  | userWake =>
    cases stepped
    exact fun _ _ => Nat.succ_pos _
  | wait =>
    obtain ⟨awake, same⟩ := Option.ite_none_left_eq_some.mp stepped
    split at same
    · next none =>
      cases same
      exact fun _ busy => absurd (wait_eq_none.mp none) busy
    · cases same
      exact fun asleep => absurd asleep awake
  | signal =>
    obtain ⟨_, same⟩ := Option.ite_none_left_eq_some.mp stepped
    cases same
    exact nofun
  | spurious =>
    cases stepped
    exact nofun

end Sleeper

end MoonlightWeb

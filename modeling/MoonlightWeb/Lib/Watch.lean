import Mathlib.Order.Basic

/-! A watch channel keeps only its newest value. Each receiver remembers the
version it has seen, so it learns that something changed, but not what the value
was in between. -/
namespace MoonlightWeb

structure Watch (α : Type) where
  value : α
  version : Nat
  deriving DecidableEq, Repr

namespace Watch

variable {α : Type} {watch : Watch α} {seen : Nat} {P : α → Prop}

def channel (value : α) : Watch α := ⟨value, 0⟩

def sendReplace (watch : Watch α) (value : α) : Watch α := ⟨value, watch.version + 1⟩

/-- A new receiver has seen the present value. -/
def subscribe (watch : Watch α) : Nat := watch.version

/-- A receiver is told once of any number of changes. -/
def changed (watch : Watch α) (seen : Nat) : Option Nat :=
  if seen = watch.version then none else some watch.version

/-- What a receiver holds true of the value, as far as it has been told. -/
structure Follows (watch : Watch α) (seen : Nat) (P : α → Prop) : Prop where
  past : seen ≤ watch.version
  current : seen = watch.version → P watch.value

theorem Follows.sendReplace (follows : Follows watch seen P) (value : α) :
    Follows (watch.sendReplace value) seen P where
  past := Nat.le_succ_of_le follows.past
  current same := absurd follows.past (by simp [same, Watch.sendReplace])

theorem follows_of_value (past : seen ≤ watch.version) (held : P watch.value) :
    Follows watch seen P := ⟨past, fun _ => held⟩

/-- Being told makes the receiver hold nothing but what it reads next. -/
theorem changed_version (told : watch.changed seen = some now) : now = watch.version := by
  unfold changed at told
  split at told <;> cases told
  rfl

end Watch

end MoonlightWeb

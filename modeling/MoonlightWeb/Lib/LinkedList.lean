import Mathlib.Data.List.Nodup
import Mathlib.Logic.Function.Basic

/-! Doubly linked lists in a memory that is read and written one node at a time.
A null pointer is `none`. -/
namespace MoonlightWeb.LinkedList

structure Node (α : Type) where
  flink : Option Nat
  blink : Option Nat
  data : α

abbrev Memory (α : Type) := Nat → Node α

variable {α : Type} {memory : Memory α} {before link : Option Nat} {addresses front : List Nat}

def Memory.modify (memory : Memory α) (address : Nat) (change : Node α → Node α) : Memory α :=
  Function.update memory address (change (memory address))

@[simp] theorem modify_self (memory : Memory α) (address : Nat) (change : Node α → Node α) :
    memory.modify address change address = change (memory address) := Function.update_self ..

theorem modify_other (memory : Memory α) (change : Node α → Node α) (other : probe ≠ address) :
    memory.modify address change probe = memory probe := Function.update_of_ne other ..

theorem modify_data (kept : ∀ node, (change node).data = node.data) (address probe : Nat) :
    (memory.modify address change probe).data = (memory probe).data := by
  by_cases same : probe = address
  · rw [same, modify_self, kept]
  · rw [modify_other _ _ same]

@[simp] theorem modify_flink_data (memory : Memory α) (link : Option Nat) (address probe : Nat) :
    (memory.modify address (fun node => { node with flink := link }) probe).data = (memory probe).data := by
  apply modify_data
  exact fun _ => rfl

@[simp] theorem modify_blink_data (memory : Memory α) (link : Option Nat) (address probe : Nat) :
    (memory.modify address (fun node => { node with blink := link }) probe).data = (memory probe).data := by
  apply modify_data
  exact fun _ => rfl

/-- The nodes at these addresses are linked in this order, both ways, from the given pointer on. -/
def Linked (memory : Memory α) : (before link : Option Nat) → List Nat → Prop
  | _, link, [] => link = none
  | before, link, address :: rest =>
    link = some address ∧ (memory address).blink = before ∧
      Linked memory (some address) (memory address).flink rest

theorem Linked.eq_head (linked : Linked memory before link addresses) : link = addresses.head? := by
  cases addresses with
  | nil => exact linked
  | cons address rest => exact linked.1

/-- A write to a node that is not in the list does not change it. -/
theorem Linked.frame (linked : Linked memory before link addresses) (apart : address ∉ addresses)
    (change : Node α → Node α) : Linked (memory.modify address change) before link addresses := by
  induction addresses generalizing before link with
  | nil => exact linked
  | cons first rest ih =>
    obtain ⟨here, blink, behind⟩ := linked
    obtain ⟨notHere, apart⟩ := List.ne_and_not_mem_of_not_mem_cons apart
    have kept := modify_other memory change (Ne.symm notHere)
    rw [Linked, kept]
    exact ⟨here, blink, ih behind apart⟩

theorem modify_apart (apart : address ∉ addresses) (change : Node α → Node α) (among : probe ∈ addresses) :
    memory.modify address change probe = memory probe := by
  apply modify_other
  rintro rfl
  exact apart among

/-- A node that no other points to makes a list on its own. -/
theorem linked_singleton (flink : (memory address).flink = none) :
    Linked (memory.modify address fun node => { node with blink := none }) none (some address) [address] := by
  rw [Linked, modify_self]
  exact ⟨rfl, rfl, flink⟩

/-- The last node and a fresh one are linked to each other. -/
theorem Linked.push (linked : Linked memory before link (front ++ [last]))
    (distinct : (front ++ [last]).Nodup) (fresh : address ∉ front ++ [last])
    (flink : (memory address).flink = none) :
    Linked ((memory.modify last fun node => { node with flink := some address }).modify address
      fun node => { node with blink := some last }) before link (front ++ [last] ++ [address]) := by
  induction front generalizing before link with
  | nil =>
    obtain ⟨here, blink, _⟩ := linked
    have apart : last ≠ address := fun same => fresh (same ▸ List.mem_singleton_self _)
    simp only [List.nil_append, List.cons_append, Linked, modify_self, modify_other _ _ apart,
      modify_other _ _ apart.symm]
    exact ⟨here, blink, trivial, trivial, flink⟩
  | cons first front ih =>
    obtain ⟨here, blink, behind⟩ := linked
    obtain ⟨notBehind, distinct⟩ := List.nodup_cons.mp distinct
    obtain ⟨notFirst, fresh⟩ := List.ne_and_not_mem_of_not_mem_cons fresh
    have notLast : first ≠ last := fun same => notBehind (same ▸ List.mem_append_right _ List.mem_cons_self)
    have kept : ((memory.modify last fun node => { node with flink := some address }).modify address
        fun node => { node with blink := some last }) first = memory first := by
      rw [modify_other _ _ (Ne.symm notFirst), modify_other _ _ notLast]
    rw [List.cons_append, List.cons_append, Linked, kept]
    exact ⟨here, blink, ih behind distinct fresh⟩

/-- The list behind its first node, whose pointer back is cleared. -/
theorem Linked.pop (linked : Linked memory before link (first :: second :: rest))
    (distinct : (first :: second :: rest).Nodup) :
    Linked (memory.modify second fun node => { node with blink := none }) none (memory first).flink
      (second :: rest) := by
  obtain ⟨_, _, here, _, behind⟩ := linked
  have apart := (List.nodup_cons.mp (List.nodup_cons.mp distinct).2).1
  rw [Linked, modify_self]
  exact ⟨here, rfl, behind.frame apart _⟩

/-- The nodes that a walk along the list meets. -/
def walk (memory : Memory α) : Nat → Option Nat → List Nat
  | _, none => []
  | 0, some _ => []
  | limit + 1, some address => address :: walk memory limit (memory address).flink

theorem Linked.walk (linked : Linked memory before link addresses) (enough : addresses.length ≤ limit) :
    walk memory limit link = addresses := by
  induction addresses generalizing before link limit with
  | nil =>
    obtain rfl : link = none := linked
    cases limit with
    | zero => rfl
    | succ _ => rfl
  | cons address rest ih =>
    obtain ⟨rfl, _, behind⟩ := linked
    cases limit with
    | zero => cases enough
    | succ limit => rw [LinkedList.walk, ih behind (Nat.le_of_succ_le_succ enough)]

end MoonlightWeb.LinkedList

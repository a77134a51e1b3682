import Mathlib.Data.List.Basic
import Mathlib.Data.List.Nodup

/-! Values kept under small keys. A key that was given back is the first to be given
out again, so that a slot is never moved and the table grows only when it is full. -/
namespace MoonlightWeb

variable {α β : Type}

/-- The keys of vacant slots, each once. -/
structure Vacant (slots : List (Option α)) (free : List Nat) : Prop where
  distinct : free.Nodup
  empty : ∀ key ∈ free, slots[key]? = some none

theorem Vacant.nil (slots : List (Option α)) : Vacant slots [] := ⟨List.nodup_nil, nofun⟩

theorem Vacant.fill (vacant : Vacant slots (key :: rest)) (value : α) :
    Vacant (slots.set key (some value)) rest := by
  obtain ⟨notRest, distinct⟩ := List.nodup_cons.mp vacant.distinct
  refine ⟨distinct, fun other member => ?_⟩
  rw [List.getElem?_set_ne]
  · exact vacant.empty other (List.mem_cons_of_mem _ member)
  · rintro rfl
    exact notRest member

theorem Vacant.give {slots : List (Option α)} (vacant : Vacant slots free)
    (occupied : slots[key]? = some (some value)) :
    Vacant (slots.set key none) (key :: free) := by
  constructor
  · refine List.nodup_cons.mpr ⟨fun member => ?_, vacant.distinct⟩
    rw [vacant.empty key member] at occupied
    cases occupied
  · intro other member
    by_cases same : key = other
    · subst same
      exact List.getElem?_set_self (List.getElem?_eq_some_iff.mp occupied).1
    · rw [List.getElem?_set_ne same]
      obtain isKey | isFree := List.mem_cons.mp member
      · exact absurd isKey.symm same
      · exact vacant.empty other isFree

theorem Vacant.modify {slots : List (Option α)} (vacant : Vacant slots free) (key : Nat)
    (change : α → α) : Vacant (slots.modify key (Option.map change)) free := by
  refine ⟨vacant.distinct, fun other member => ?_⟩
  rw [List.getElem?_modify, vacant.empty other member]
  by_cases same : key = other <;> simp [same]

/-- Slots, occupied or not, and the vacant ones among them, the last given back first. -/
structure Slab (α : Type) where
  slots : List (Option α)
  free : List Nat
  vacant : Vacant slots free

namespace Slab

def empty : Slab α := ⟨[], [], .nil []⟩

def get (slab : Slab α) (key : Nat) : Option α := (slab.slots[key]?).join

/-- The key the next value will have. -/
def vacantKey (slab : Slab α) : Nat :=
  match slab.free with
  | [] => slab.slots.length
  | key :: _ => key

def insert (slab : Slab α) (value : α) : Slab α :=
  match slab with
  | ⟨slots, [], _⟩ => ⟨slots ++ [some value], [], .nil _⟩
  | ⟨slots, key :: rest, vacant⟩ => ⟨slots.set key (some value), rest, vacant.fill value⟩

/-- The value under the key, which is given back. -/
def tryRemove (slab : Slab α) (key : Nat) : Option (α × Slab α) :=
  match occupied : slab.slots[key]? with
  | some (some value) =>
    some (value, ⟨slab.slots.set key none, key :: slab.free, slab.vacant.give occupied⟩)
  | _ => none

def modify (slab : Slab α) (key : Nat) (change : α → α) : Slab α :=
  ⟨slab.slots.modify key (Option.map change), slab.free, slab.vacant.modify key change⟩

/-- A value is found under the key it was promised. -/
theorem get_insert (slab : Slab α) (value : α) :
    (slab.insert value).get slab.vacantKey = some value := by
  obtain ⟨slots, free, vacant⟩ := slab
  cases free with
  | nil =>
    change (slots ++ [some value])[slots.length]?.join = some value
    rw [List.getElem?_concat_length]
    rfl
  | cons key rest =>
    have inside : key < slots.length :=
      (List.getElem?_eq_some_iff.mp (vacant.empty key List.mem_cons_self)).1
    change (slots.set key (some value))[key]?.join = some value
    rw [List.getElem?_set_self inside]
    rfl

/-- The other keys keep their values. -/
theorem get_insert_of_ne (slab : Slab α) (value : α) (other : key ≠ slab.vacantKey) :
    (slab.insert value).get key = slab.get key := by
  obtain ⟨slots, free, vacant⟩ := slab
  cases free with
  | nil =>
    change (slots ++ [some value])[key]?.join = slots[key]?.join
    have isOther : key ≠ slots.length := other
    rw [List.getElem?_append]
    split
    · rfl
    · rename_i past
      rw [List.getElem?_eq_none (by simp; omega), List.getElem?_eq_none (by omega)]
  | cons vacantKey rest =>
    have differs : vacantKey ≠ key := Ne.symm other
    change (slots.set vacantKey (some value))[key]?.join = slots[key]?.join
    rw [List.getElem?_set_ne differs]

theorem get_tryRemove {slab rest : Slab α} (removed : slab.tryRemove key = some (value, rest))
    (other : Nat) : rest.get other = if other = key then none else slab.get other := by
  unfold tryRemove at removed
  split at removed
  · rename_i occupied
    cases removed
    change (slab.slots.set key none)[other]?.join = _
    rw [List.getElem?_set]
    by_cases same : key = other
    · subst same
      have inside := (List.getElem?_eq_some_iff.mp occupied).1
      simp [inside]
    · rw [if_neg same, if_neg (Ne.symm same)]
      rfl
  · cases removed

theorem get_modify (slab : Slab α) (key other : Nat) (change : α → α) :
    (slab.modify key change).get other =
      if other = key then (slab.get other).map change else slab.get other := by
  unfold get modify
  rw [List.getElem?_modify]
  by_cases same : key = other
  · subst same
    simp only [if_true]
    cases slab.slots[key]? <;> rfl
  · simp only [if_neg same, if_neg (Ne.symm same)]
    exact congrArg Option.join Option.map_id'

/-- What is read of the values, slot by slot. -/
def view (read : α → β) (slab : Slab α) : List (Option β) := slab.slots.map (Option.map read)

theorem view_get (read : α → β) (slab : Slab α) (key : Nat) :
    ((slab.view read)[key]?).join = (slab.get key).map read := by
  unfold view get
  rw [List.getElem?_map]
  cases slab.slots[key]? <;> rfl

/-- A change that leaves what is read of one value leaves what is read of all. -/
theorem view_modify (read : α → β) (slab : Slab α) (key : Nat) {change : α → α}
    (kept : ∀ value, slab.get key = some value → read (change value) = read value) :
    (slab.modify key change).view read = slab.view read := by
  apply List.ext_getElem?
  intro other
  unfold view modify
  rw [List.getElem?_map, List.getElem?_map, List.getElem?_modify]
  by_cases same : key = other
  · subst same
    cases slot : slab.slots[key]? with
    | none => rfl
    | some content =>
      cases content with
      | none => simp
      | some value =>
        have isValue : slab.get key = some value := by
          rw [get, slot]
          rfl
        simp [kept value isValue]
  · cases slab.slots[other]? <;> simp [same]

end Slab

end MoonlightWeb

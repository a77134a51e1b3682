import Mathlib.Data.List.Nodup
import Mathlib.Tactic.Tauto

/-! Finite maps that remember the order in which their keys came in. Setting a
key that is present keeps its place; a new key goes to the end. -/
namespace MoonlightWeb

/-- Entries with pairwise different keys, the oldest key first. -/
structure OrderedMap (κ α : Type) where
  entries : List (κ × α)
  distinct : (entries.map Prod.fst).Nodup
  deriving DecidableEq

namespace OrderedMap

variable {κ α : Type} [DecidableEq κ]

def empty : OrderedMap κ α := ⟨[], List.nodup_nil⟩

def keys (map : OrderedMap κ α) : List κ := map.entries.map Prod.fst

def get (map : OrderedMap κ α) (key : κ) : Option α :=
  (map.entries.find? fun entry => entry.1 = key).map Prod.snd

private theorem keys_replaced (entries : List (κ × α)) (key : κ) (value : α) :
    (entries.map fun entry => if entry.1 = key then (key, value) else entry).map Prod.fst =
      entries.map Prod.fst := by
  rw [List.map_map]
  refine List.map_congr_left fun entry _ => ?_
  by_cases same : entry.1 = key <;> simp [same]

def set (map : OrderedMap κ α) (key : κ) (value : α) : OrderedMap κ α :=
  if present : key ∈ map.keys then
    ⟨map.entries.map fun entry => if entry.1 = key then (key, value) else entry,
      by rw [keys_replaced]; exact map.distinct⟩
  else
    ⟨map.entries ++ [(key, value)], by
      rw [List.map_append, List.nodup_append]
      exact ⟨map.distinct, by simp, by simpa [keys] using fun a b mem same => present (by
        simpa [keys] using ⟨b, same ▸ mem⟩)⟩⟩

/-- The entries that pass a test, in their order. -/
def retain (map : OrderedMap κ α) (test : κ → α → Bool) : OrderedMap κ α :=
  ⟨map.entries.filter fun entry => test entry.1 entry.2,
    map.distinct.sublist (List.filter_sublist.map _)⟩

def delete (map : OrderedMap κ α) (key : κ) : OrderedMap κ α :=
  map.retain fun other _ => other ≠ key

/-- An entry is in the map exactly when its key looks up its value. -/
theorem mem_entries_iff (map : OrderedMap κ α) :
    (key, value) ∈ map.entries ↔ map.get key = some value := by
  obtain ⟨entries, distinct⟩ := map
  simp only [get]
  induction entries with
  | nil => simp
  | cons entry rest ih =>
    obtain ⟨first, held⟩ := entry
    rw [List.map_cons, List.nodup_cons] at distinct
    have rest_iff := ih distinct.2
    by_cases same : first = key
    · subst same
      have absent : (first, value) ∉ rest := fun member =>
        distinct.1 (List.mem_map.mpr ⟨_, member, rfl⟩)
      simp [absent, eq_comm]
    · have other : key ≠ first := fun equal => same equal.symm
      simpa [same, other] using rest_iff

theorem mem_keys_iff (map : OrderedMap κ α) : key ∈ map.keys ↔ ∃ value, map.get key = some value := by
  simp only [keys, List.mem_map, Prod.exists, exists_and_right, exists_eq_right, mem_entries_iff]

@[simp] theorem get_empty (key : κ) : (empty : OrderedMap κ α).get key = none := rfl

theorem mem_entries_set (map : OrderedMap κ α) :
    (probe, found) ∈ (map.set key value).entries ↔
      probe = key ∧ found = value ∨ probe ≠ key ∧ (probe, found) ∈ map.entries := by
  unfold set
  by_cases present : key ∈ map.keys
  · obtain ⟨old, held⟩ := map.mem_keys_iff.mp present
    rw [dif_pos present]
    simp only [List.mem_map, Prod.exists]
    constructor
    · rintro ⟨other, before, member, replaced⟩
      by_cases same : other = key
      · rw [if_pos same] at replaced
        cases replaced
        exact .inl ⟨rfl, rfl⟩
      · rw [if_neg same] at replaced
        cases replaced
        exact .inr ⟨same, member⟩
    · rintro (⟨rfl, rfl⟩ | ⟨other, member⟩)
      · exact ⟨probe, old, map.mem_entries_iff.mpr held, if_pos rfl⟩
      · exact ⟨probe, found, member, if_neg other⟩
  · rw [dif_neg present, List.mem_append, List.mem_singleton, Prod.mk.injEq]
    have new : (probe, found) ∈ map.entries → probe ≠ key := fun member same =>
      present (List.mem_map.mpr ⟨_, member, same⟩)
    tauto

theorem get_set (map : OrderedMap κ α) (key : κ) (value : α) (probe : κ) :
    (map.set key value).get probe = if probe = key then some value else map.get probe :=
  Option.ext fun found => by
    rw [← mem_entries_iff, mem_entries_set, mem_entries_iff]
    by_cases same : probe = key <;> simp [same, eq_comm]

/-- A key set to what it has changes nothing. -/
theorem set_of_get {map : OrderedMap κ α} (held : map.get key = some value) :
    map.set key value = map := by
  have present : key ∈ map.keys := map.mem_keys_iff.mpr ⟨value, held⟩
  have unchanged : (map.entries.map fun entry => if entry.1 = key then (key, value) else entry) =
      map.entries := by
    refine (List.map_congr_left fun entry member => ?_).trans (List.map_id _)
    split_ifs with same
    · have found := map.mem_entries_iff.mp (show (entry.1, entry.2) ∈ map.entries from member)
      rw [same, held] at found
      rw [id_eq, ← same, Option.some.inj found]
    · rfl
  unfold set
  rw [dif_pos present]
  obtain ⟨entries, distinct⟩ := map
  simp only [unchanged]

/-- Only a new key makes a map longer. -/
theorem length_set (map : OrderedMap κ α) (key : κ) (value : α) :
    (map.set key value).entries.length =
      if key ∈ map.keys then map.entries.length else map.entries.length + 1 := by
  unfold set
  by_cases present : key ∈ map.keys
  · rw [dif_pos present, if_pos present, List.length_map]
  · rw [dif_neg present, if_neg present, List.length_append, List.length_singleton]

@[simp] theorem get_retain (map : OrderedMap κ α) (test : κ → α → Bool) (key : κ) :
    (map.retain test).get key = (map.get key).filter (test key) :=
  Option.ext fun value => by
    rw [← mem_entries_iff, retain, List.mem_filter, mem_entries_iff, Option.filter_eq_some_iff]

theorem mem_entries_delete (map : OrderedMap κ α) :
    (probe, found) ∈ (map.delete key).entries ↔ probe ≠ key ∧ (probe, found) ∈ map.entries := by
  simp [delete, retain, List.mem_filter, and_comm]

@[simp] theorem get_delete (map : OrderedMap κ α) (key probe : κ) :
    (map.delete key).get probe = if probe = key then none else map.get probe := by
  rw [delete, get_retain]
  by_cases same : probe = key <;> cases map.get probe <;> simp [same]

private theorem countP_entries {entries : List (κ × α)} (test : α → Bool)
    (distinct : (entries.map Prod.fst).Nodup)
    (only : ∀ entry ∈ entries, test entry.2 = true → entry.1 = key) :
    entries.countP (fun entry => test entry.2) =
      (((entries.find? fun entry => entry.1 = key).map Prod.snd).any test).toNat := by
  induction entries with
  | nil => rfl
  | cons entry rest ih =>
    rw [List.map_cons, List.nodup_cons] at distinct
    have others := ih distinct.2 fun other member => only other (by simp [member])
    by_cases same : entry.1 = key
    · have absent : rest.countP (fun entry => test entry.2) = 0 := by
        rw [List.countP_eq_zero]
        intro other member passes
        have equal := only other (by simp [member]) passes
        exact distinct.1 (same.trans equal.symm ▸ List.mem_map_of_mem member)
      rw [List.countP_cons, absent]
      cases passes : test entry.2 <;> simp [same, passes]
    · have fails : ¬ test entry.2 = true := fun passes => same (only entry (by simp) passes)
      rw [List.countP_cons, if_neg fails, others]
      simp [same]

/-- If only one key's value can pass a test, at most one entry does. -/
theorem countP_only (map : OrderedMap κ α) (test : α → Bool) (key : κ)
    (only : ∀ probe value, map.get probe = some value → test value = true → probe = key) :
    map.entries.countP (fun entry => test entry.2) = ((map.get key).any test).toNat :=
  countP_entries test map.distinct fun entry member passes =>
    only entry.1 entry.2 (map.mem_entries_iff.mp member) passes

end OrderedMap

end MoonlightWeb

import Mathlib.Data.List.Rotate
import Mathlib.Tactic.SplitIfs

/-! Ring buffers: a block of cells whose occupied part starts at a tail and ends
before a head, both modulo the number of cells. One cell stays free, so that equal
positions mean an empty ring. -/
namespace MoonlightWeb.RingBuffer

variable {α : Type*}

/-! ## Positions -/

/-- The number of occupied cells of a ring of `size` cells. -/
def occupied (size head tail : Nat) : Nat := (head + size - tail) % size

theorem occupied_lt (positive : 0 < size) : occupied size head tail < size :=
  Nat.mod_lt _ positive

theorem occupied_self (size tail : Nat) : occupied size tail tail = 0 := by
  rw [occupied, Nat.add_sub_cancel_left, Nat.mod_self]

/-- A position below the size plus at most one turn. -/
theorem wrap_eq (belowTwice : position < 2 * size) :
    position % size = if position < size then position else position - size := by
  split_ifs with below
  · exact Nat.mod_eq_of_lt below
  · rw [Nat.mod_eq_sub_mod (by omega), Nat.mod_eq_of_lt (by omega)]

theorem occupied_eq (headLt : head < size) (tailLt : tail < size) :
    occupied size head tail = if tail ≤ head then head - tail else head + size - tail := by
  rw [occupied, wrap_eq (by omega)]
  split_ifs <;> omega

/-- Only an empty ring has its head at its tail. -/
theorem occupied_eq_zero_iff (headLt : head < size) (tailLt : tail < size) :
    occupied size head tail = 0 ↔ tail = head := by
  rw [occupied_eq headLt tailLt]
  split_ifs <;> omega

theorem head_eq (headLt : head < size) (tailLt : tail < size) :
    (tail + occupied size head tail) % size = head := by
  rw [occupied_eq headLt tailLt]
  split_ifs
  · rw [wrap_eq (by omega)]
    split_ifs <;> omega
  · rw [wrap_eq (by omega)]
    split_ifs <;> omega

theorem occupied_advance_head (headLt : head < size) (tailLt : tail < size)
    (room : occupied size head tail + count < size) :
    occupied size ((head + count) % size) tail = occupied size head tail + count := by
  have positive : 0 < size := by omega
  rw [occupied_eq headLt tailLt] at room ⊢
  rw [occupied_eq (Nat.mod_lt _ positive) tailLt, wrap_eq (by split_ifs at room <;> omega)]
  split_ifs at room ⊢ <;> omega

theorem occupied_advance_tail (headLt : head < size) (tailLt : tail < size)
    (enough : count ≤ occupied size head tail) :
    occupied size head ((tail + count) % size) = occupied size head tail - count := by
  have positive : 0 < size := by omega
  rw [occupied_eq headLt tailLt] at enough ⊢
  rw [occupied_eq headLt (Nat.mod_lt _ positive), wrap_eq (by split_ifs at enough <;> omega)]
  split_ifs at enough ⊢ <;> omega

/-! ## Cells -/

/-- The chunk over the cells from `offset` on, where it fits. -/
def overlay (cells chunk : List α) (offset : Nat) : List α :=
  cells.take offset ++ chunk ++ cells.drop (offset + chunk.length)

theorem length_overlay (fits : offset + chunk.length ≤ cells.length) :
    (overlay cells chunk offset).length = cells.length := by
  simp only [overlay, List.length_append, List.length_take, List.length_drop]
  omega

theorem getElem?_overlay (fits : offset + chunk.length ≤ cells.length) (index : Nat) :
    (overlay cells chunk offset)[index]? =
      if offset ≤ index ∧ index < offset + chunk.length then chunk[index - offset]?
      else cells[index]? := by
  have before : (cells.take offset).length = offset := by
    rw [List.length_take]
    omega
  rw [overlay, List.append_assoc, List.getElem?_append, before]
  by_cases left : index < offset
  · rw [if_pos left, List.getElem?_take_of_lt left, if_neg (by omega)]
  · rw [if_neg left, List.getElem?_append]
    by_cases inside : index < offset + chunk.length
    · rw [if_pos (by omega), if_pos (by omega)]
    · rw [if_neg (by omega), if_neg (by omega), List.getElem?_drop]
      congr 1
      omega

/-- Over what follows a first part of the cells. -/
theorem overlay_append (before rest chunk : List α) (isOffset : before.length = offset) :
    overlay (before ++ rest) chunk offset = before ++ chunk ++ rest.drop chunk.length := by
  subst isOffset
  rw [overlay, List.take_left, List.drop_append, List.drop_eq_nil_of_le (by omega),
    List.nil_append, Nat.add_sub_cancel_left]

/-- The chunk over the cells from `head` on, what does not fit from the first cell on. -/
def push (cells chunk : List α) (head : Nat) : List α :=
  let firstPart := min chunk.length (cells.length - head)
  let written := overlay cells (chunk.take firstPart) head
  if firstPart < chunk.length then overlay written (chunk.drop firstPart) 0 else written

theorem length_push (headLt : head < cells.length) (fits : chunk.length ≤ cells.length) :
    (push cells chunk head).length = cells.length := by
  have first : (overlay cells (chunk.take (min chunk.length (cells.length - head))) head).length =
      cells.length := by
    apply length_overlay
    rw [List.length_take]
    omega
  simp only [push]
  split_ifs
  · rw [length_overlay, first]
    rw [List.length_drop, first]
    omega
  · exact first

/-- A pushed chunk lies in the cells from the head on. -/
theorem getElem?_push (headLt : head < cells.length) (fits : chunk.length ≤ cells.length)
    (indexLt : index < cells.length) :
    (push cells chunk head)[(head + index) % cells.length]? =
      if index < chunk.length then chunk[index]? else cells[(head + index) % cells.length]? := by
  set firstPart := min chunk.length (cells.length - head) with firstPart_eq
  have taken : (chunk.take firstPart).length = firstPart := by
    rw [List.length_take]
    omega
  have firstFits : head + (chunk.take firstPart).length ≤ cells.length := by omega
  have wrapped : (head + index) % cells.length =
      if head + index < cells.length then head + index else head + index - cells.length :=
    wrap_eq (by omega)
  simp only [push, ← firstPart_eq]
  by_cases wraps : firstPart < chunk.length
  · have secondFits : 0 + (chunk.drop firstPart).length ≤
        (overlay cells (chunk.take firstPart) head).length := by
      rw [length_overlay firstFits, List.length_drop]
      omega
    rw [if_pos wraps, getElem?_overlay secondFits, getElem?_overlay firstFits, wrapped]
    simp only [List.length_drop, taken]
    by_cases turned : head + index < cells.length
    · rw [if_pos turned, if_neg (by omega), if_pos (by omega), if_pos (by omega),
        List.getElem?_take_of_lt (by omega), Nat.add_sub_cancel_left]
    · rw [if_neg turned]
      by_cases inside : index < chunk.length
      · rw [if_pos inside, if_pos (by omega), List.getElem?_drop]
        congr 1
        omega
      · rw [if_neg inside, if_neg (by omega), if_neg (by omega)]
  · rw [if_neg wraps, getElem?_overlay firstFits, wrapped]
    by_cases turned : head + index < cells.length
    · rw [if_pos turned]
      by_cases inside : index < chunk.length
      · rw [if_pos inside, if_pos (by omega), List.getElem?_take_of_lt (by omega),
          Nat.add_sub_cancel_left]
      · rw [if_neg inside, if_neg (by omega)]
    · rw [if_neg turned, if_neg (by omega), if_neg (by omega)]

/-- One cell fits at every head. -/
theorem push_singleton (headLt : head < cells.length) (item : α) :
    push cells [item] head = cells.set head item := by
  have one : min 1 (cells.length - head) = 1 := by omega
  have whole : push cells [item] head = overlay cells [item] head := by
    simp only [push, List.length_singleton, one, Nat.lt_irrefl, ↓reduceIte]
    rfl
  rw [whole, overlay, List.set_eq_take_append_cons_drop, if_pos headLt, List.append_assoc]
  rfl

/-! ## What a ring holds -/

/-- The cells from the tail on, around the end. -/
def window (cells : List α) (tail count : Nat) : List α := (cells.rotate tail).take count

@[simp] theorem window_zero (cells : List α) (tail : Nat) : window cells tail 0 = [] := by
  rw [window, List.take_zero]

theorem length_window (fits : count ≤ cells.length) :
    (window cells tail count).length = count := by
  rw [window, List.length_take, List.length_rotate]
  omega

theorem getElem?_window (fits : count ≤ cells.length) (indexLt : index < count) :
    (window cells tail count)[index]? = cells[(tail + index) % cells.length]? := by
  rw [window, List.getElem?_take_of_lt indexLt, List.getElem?_rotate (by omega), Nat.add_comm]

theorem take_window (cells : List α) (fewer : shown ≤ count) :
    (window cells tail count).take shown = window cells tail shown := by
  rw [window, List.take_take, Nat.min_eq_left fewer, window]

theorem drop_window (fits : count ≤ cells.length) (fewer : gone ≤ count) :
    (window cells tail count).drop gone =
      window cells ((tail + gone) % cells.length) (count - gone) := by
  apply List.ext_getElem?
  intro index
  rw [List.getElem?_drop]
  by_cases inside : index < count - gone
  · rw [getElem?_window fits (by omega), getElem?_window (by omega) inside, Nat.mod_add_mod,
      Nat.add_assoc]
  · rw [List.getElem?_eq_none, List.getElem?_eq_none]
    · rw [length_window (by omega)]
      omega
    · rw [length_window fits]
      omega

/-- A push at the head lengthens what the ring holds by the chunk. -/
theorem window_push (tailLt : tail < cells.length)
    (isHead : (tail + count) % cells.length = head) (room : count + chunk.length ≤ cells.length) :
    window (push cells chunk head) tail (count + chunk.length) =
      window cells tail count ++ chunk := by
  have headLt : head < cells.length := isHead ▸ Nat.mod_lt _ (by omega)
  have fits : chunk.length ≤ cells.length := by omega
  have length := length_push headLt fits
  apply List.ext_getElem?
  intro index
  rw [List.getElem?_append, length_window (by omega)]
  by_cases inside : index < count + chunk.length
  · rw [getElem?_window (by omega) inside, length]
    by_cases old : index < count
    · -- An occupied cell lies behind the head by more than the chunk reaches.
      have place : (head + (index + cells.length - count)) % cells.length =
          (tail + index) % cells.length := by
        rw [← isHead, Nat.mod_add_mod]
        have : tail + count + (index + cells.length - count) = tail + index + cells.length := by
          omega
        rw [this, Nat.add_mod_right]
      rw [if_pos old, ← place, getElem?_push headLt fits (by omega), if_neg (by omega), place,
        getElem?_window (by omega) old]
    · have place : (head + (index - count)) % cells.length = (tail + index) % cells.length := by
        rw [← isHead, Nat.mod_add_mod]
        congr 1
        omega
      rw [if_neg old, ← place, getElem?_push headLt fits (by omega), if_pos (by omega)]
  · rw [List.getElem?_eq_none, if_neg (by omega), List.getElem?_eq_none]
    · omega
    · rw [length_window (by omega)]
      omega

/-- Once the tail has left a cell, the cell may be cleared. -/
theorem window_set_tail (tailLt : tail < cells.length) (fits : count + 1 ≤ cells.length)
    (item : α) :
    window (cells.set tail item) ((tail + 1) % cells.length) count =
      (window cells tail (count + 1)).drop 1 := by
  rw [drop_window fits (by omega), Nat.add_sub_cancel]
  apply List.ext_getElem?
  intro index
  by_cases inside : index < count
  · have length : (cells.set tail item).length = cells.length := List.length_set
    rw [getElem?_window (by omega) inside, getElem?_window (by omega) inside, length,
      List.getElem?_set_ne]
    rw [Nat.mod_add_mod, wrap_eq (by omega)]
    split_ifs <;> omega
  · rw [List.getElem?_eq_none, List.getElem?_eq_none]
    · rw [length_window (by omega)]
      omega
    · rw [length_window (by rw [List.length_set]; omega)]
      omega

/-- A read in two parts, around the end of the cells. -/
theorem window_eq_append (tailLt : tail < cells.length) (fits : count ≤ cells.length) :
    window cells tail count =
      (cells.drop tail).take count ++ cells.take (count - (cells.length - tail)) := by
  rw [window, List.rotate_eq_drop_append_take (by omega), List.take_append, List.length_drop,
    List.take_take]
  congr 2
  omega

end MoonlightWeb.RingBuffer

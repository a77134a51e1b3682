import Mathlib.Data.List.Basic
import Mathlib.Tactic.Common

/-! Framing of units for a transport with a maximum packet size. A large unit
is cut into marked fragments that a receiver joins again; several small units
travel together behind length prefixes. Both directions are here, so that a
codec only has to say how its packets are read. -/
namespace MoonlightWeb.Framing

variable {α : Type*}

/-- Chunks of the given size, the last one possibly shorter; the first argument
bounds their number. -/
def chunksWithin (size : Nat) : Nat → List α → List (List α)
  | 0, _ => []
  | _ + 1, [] => []
  | limit + 1, data => data.take size :: chunksWithin size limit (data.drop size)

def chunks (size : Nat) (data : List α) : List (List α) := chunksWithin size data.length data

theorem chunks_within_flatten (positive : 0 < size) (limit : Nat) (data : List α)
    (enough : data.length ≤ limit) : (chunksWithin size limit data).flatten = data := by
  induction limit generalizing data with
  | zero => simp [chunksWithin, List.eq_nil_of_length_eq_zero (Nat.le_zero.mp enough)]
  | succ limit ih =>
    cases data with
    | nil => rfl
    | cons head tail =>
      have shorter : ((head :: tail).drop size).length ≤ limit := by
        simp only [List.length_drop, List.length_cons] at enough ⊢
        omega
      simp only [chunksWithin, List.flatten_cons, ih _ shorter, List.take_append_drop]

theorem chunks_flatten (positive : 0 < size) (data : List α) :
    (chunks size data).flatten = data :=
  chunks_within_flatten positive _ data (Nat.le_refl _)

theorem chunks_ne_nil (size : Nat) {data : List α} (filled : data ≠ []) : chunks size data ≠ [] := by
  cases data with
  | nil => exact absurd rfl filled
  | cons head tail => simp [chunks, chunksWithin]

/-- More than one chunk is needed for what is longer than one. -/
theorem two_le_chunks_length (positive : 0 < size) {data : List α} (large : size < data.length) :
    2 ≤ (chunks size data).length := by
  obtain ⟨first, second, rest, rfl⟩ : ∃ first second rest, data = first :: second :: rest := by
    match data, large with
    | [_], large =>
      rw [List.length_singleton] at large
      omega
    | first :: second :: rest, _ => exact ⟨first, second, rest, rfl⟩
  have left : (first :: second :: rest).drop size ≠ [] := fun empty =>
    Nat.not_le.mpr large (List.drop_eq_nil_iff.mp empty)
  obtain ⟨next, others, isLeft⟩ := List.exists_cons_of_ne_nil left
  simp [chunks, chunksWithin, isLeft]

theorem mem_chunks_within_length (limit : Nat) (data : List α)
    (member : chunk ∈ chunksWithin size limit data) : chunk.length ≤ size := by
  induction limit generalizing data with
  | zero => cases member
  | succ limit ih =>
    cases data with
    | nil => cases member
    | cons head tail =>
      rcases List.mem_cons.mp member with rfl | later
      · exact List.length_take_le _ _
      · exact ih _ later

theorem mem_chunks_length {data : List α} (member : chunk ∈ chunks size data) :
    chunk.length ≤ size := mem_chunks_within_length _ data member

theorem chunks_map (size : Nat) (change : α → β) (data : List α) :
    chunks size (data.map change) = (chunks size data).map (List.map change) := by
  have within (limit : Nat) (data : List α) : chunksWithin size limit (data.map change) =
      (chunksWithin size limit data).map (List.map change) := by
    induction limit generalizing data with
    | zero => rfl
    | succ limit ih =>
      cases data with
      | nil => rfl
      | cons head tail =>
        have dropped := ih ((head :: tail).drop size)
        rw [List.map_drop] at dropped
        have first := List.map_take (f := change) (l := head :: tail) (i := size)
        change ((head :: tail).map change).take size :: chunksWithin size limit _ = _
        rw [← first, dropped]
        rfl
  unfold chunks
  rw [List.length_map]
  exact within data.length data

/-- The bodies with a start mark on the first and an end mark on the last. -/
def marked (isFirst : Bool) : List α → List (Bool × Bool × α)
  | [] => []
  | body :: rest => (isFirst, rest.isEmpty, body) :: marked false rest

theorem marked_ne_nil (isFirst : Bool) {bodies : List α} (filled : bodies ≠ []) :
    marked isFirst bodies ≠ [] := by
  cases bodies with
  | nil => exact absurd rfl filled
  | cons => exact List.cons_ne_nil _ _

theorem mem_of_mem_marked {isFirst starts ends : Bool} {body : α} {bodies : List α}
    (member : (starts, ends, body) ∈ marked isFirst bodies) : body ∈ bodies := by
  induction bodies generalizing isFirst with
  | nil => cases member
  | cons head rest ih =>
    rcases List.mem_cons.mp member with isHead | later
    · cases isHead
      exact List.mem_cons_self
    · exact List.mem_cons_of_mem _ (ih later)

/-- What a receiver reads out of one packet. -/
inductive Received (α : Type*) where
  | units (units : List (List α))
  | fragment (starts ends : Bool) (header body : List α)

/-- The start and the end mark of a packet that is a fragment. -/
def Received.bits : Received α → Option (Bool × Bool)
  | .units _ => none
  | .fragment starts ends _ _ => some (starts, ends)

private theorem marked_continued_bits (header : List α) (bodies : List (List α))
    (filled : bodies ≠ []) :
    ((marked false bodies).map (fun (starts, ends, body) =>
      Received.fragment starts ends header body)).filterMap Received.bits =
        List.replicate (bodies.length - 1) (false, false) ++ [(false, true)] := by
  induction bodies with
  | nil => exact absurd rfl filled
  | cons body others ih =>
    cases others with
    | nil => rfl
    | cons next others =>
      have later := ih (List.cons_ne_nil _ _)
      have count : (body :: next :: others).length - 1 = (next :: others).length - 1 + 1 := rfl
      rw [count, List.replicate_succ, List.cons_append, ← later]
      rfl

/-- Of at least two fragments only the first starts the unit and only the last
ends it. -/
theorem marked_bits (header : List α) {bodies : List (List α)} (two : 2 ≤ bodies.length) :
    ((marked true bodies).map (fun (starts, ends, body) =>
      Received.fragment starts ends header body)).filterMap Received.bits =
        (true, false) :: List.replicate (bodies.length - 2) (false, false) ++ [(false, true)] := by
  match bodies, two with
  | first :: second :: rest, _ =>
    have later := marked_continued_bits header (second :: rest) (List.cons_ne_nil _ _)
    have count : (first :: second :: rest).length - 2 = (second :: rest).length - 1 := rfl
    rw [count, List.cons_append, ← later]
    rfl

/-- The units a receiver delivers, given the unit it is joining. A fragment
that continues nothing is dropped, and a start gives up what was unfinished. -/
def reassemble : Option (List α) → List (Received α) → List (List α)
  | _, [] => []
  | _, .units units :: rest => units ++ reassemble none rest
  | joining, .fragment starts ends header body :: rest =>
    let joined := if starts then some (header ++ body) else joining.map (· ++ body)
    if ends then joined.toList ++ reassemble none rest else reassemble joined rest

private theorem reassemble_continued (joined header : List α) (rest : List (Received α))
    (bodies : List (List α)) (filled : bodies ≠ []) :
    reassemble (some joined) ((marked false bodies).map (fun (starts, ends, body) =>
      .fragment starts ends header body) ++ rest) =
        (joined ++ bodies.flatten) :: reassemble none rest := by
  induction bodies generalizing joined with
  | nil => exact absurd rfl filled
  | cons body others ih =>
    cases others with
    | nil => simp [marked, reassemble]
    | cons next others =>
      have joinedRest := ih (joined ++ body) (by simp)
      simpa [marked, reassemble] using joinedRest

/-- Marked fragments of one unit are joined to that unit again. -/
theorem reassemble_marked (joining : Option (List α)) (header : List α)
    (rest : List (Received α)) (filled : bodies ≠ []) :
    reassemble joining ((marked true bodies).map (fun (starts, ends, body) =>
      .fragment starts ends header body) ++ rest) =
        (header ++ bodies.flatten) :: reassemble none rest := by
  cases bodies with
  | nil => exact absurd rfl filled
  | cons body others =>
    cases others with
    | nil => simp [marked, reassemble]
    | cons next others =>
      have joinedRest := reassemble_continued (header ++ body) header rest (next :: others)
        (by simp)
      simpa [marked, reassemble] using joinedRest

/-- Chunks that are marked as fragments are joined to what was cut. -/
theorem reassemble_chunks (joining : Option (List α)) (header : List α) (rest : List (Received α))
    (positive : 0 < size) (filled : list ≠ []) :
    reassemble joining ((marked true (chunks size list)).map (fun (starts, ends, body) =>
      .fragment starts ends header body) ++ rest) = (header ++ list) :: reassemble none rest := by
  rw [reassemble_marked joining header rest (chunks_ne_nil size filled), chunks_flatten positive]

/-- A 16-bit number, high byte first. -/
def putU16 (number : UInt16) : List UInt8 := [(number >>> 8).toUInt8, number.toUInt8]

/-- The units one after the other, each behind its length. -/
def prefixed (units : List (List UInt8)) : List UInt8 :=
  units.flatMap fun bytes => putU16 (UInt16.ofNat bytes.length) ++ bytes

/-- The units behind length prefixes; the first argument bounds their number. -/
def splitPrefixedWithin : Nat → List UInt8 → List (List UInt8)
  | limit + 1, high :: low :: rest =>
    let length := high.toNat * 256 + low.toNat
    if length ≤ rest.length then rest.take length :: splitPrefixedWithin limit (rest.drop length)
    else []
  | _, _ => []

def splitPrefixed (bytes : List UInt8) : List (List UInt8) := splitPrefixedWithin bytes.length bytes

private theorem length_restored (short : length < 65536) :
    (UInt16.ofNat length >>> 8).toUInt8.toNat * 256 + (UInt16.ofNat length).toUInt8.toNat =
      length := by
  have kept : (UInt16.ofNat length).toNat = length := UInt16.toNat_ofNat_of_lt' short
  simp only [UInt16.toNat_toUInt8, UInt16.toNat_shiftRight, kept, UInt16.reduceToNat]
  simp [Nat.shiftRight_eq_div_pow]
  omega

private theorem prefixed_cons (bytes : List UInt8) (rest : List (List UInt8)) :
    prefixed (bytes :: rest) = (UInt16.ofNat bytes.length >>> 8).toUInt8 ::
      (UInt16.ofNat bytes.length).toUInt8 :: (bytes ++ prefixed rest) := rfl

theorem split_within_prefixed (units : List (List UInt8))
    (short : ∀ bytes ∈ units, bytes.length < 65536) (enough : units.length ≤ limit) :
    splitPrefixedWithin limit (prefixed units) = units := by
  induction units generalizing limit with
  | nil => cases limit <;> rfl
  | cons bytes rest ih =>
    cases limit with
    | zero => simp at enough
    | succ limit =>
      have restored := length_restored (short bytes (by simp))
      have restEnough : rest.length ≤ limit := by simpa using enough
      have recovered := ih (fun other member => short other (by simp [member])) restEnough
      have fits : bytes.length ≤ (bytes ++ prefixed rest).length := by simp
      simp only [prefixed_cons, splitPrefixedWithin, restored, if_pos fits, List.take_left,
        List.drop_left, recovered]

theorem prefixed_length_le (units : List (List UInt8)) :
    units.length ≤ (prefixed units).length := by
  induction units with
  | nil => exact Nat.zero_le _
  | cons bytes rest ih =>
    simp only [prefixed, putU16, List.flatMap_cons, List.length_append, List.length_cons] at ih ⊢
    omega

/-- Units shorter than 65536 bytes come back from behind their prefixes. -/
theorem split_prefixed (units : List (List UInt8))
    (short : ∀ bytes ∈ units, bytes.length < 65536) : splitPrefixed (prefixed units) = units :=
  split_within_prefixed units short (prefixed_length_le units)

theorem mem_prefixed_length (member : bytes ∈ units) : bytes.length ≤ (prefixed units).length := by
  induction units with
  | nil => cases member
  | cons head rest ih =>
    simp only [prefixed, List.flatMap_cons, List.length_append] at ih ⊢
    rcases List.mem_cons.mp member with rfl | inRest
    · omega
    · have := ih inRest
      omega

end MoonlightWeb.Framing

import Mathlib.Data.List.Basic
import Mathlib.Tactic.Common

/-! UTF-8 text as bytes: which bytes are text, what a lossy decoder keeps of others, and
where text may be cut. -/
namespace MoonlightWeb.Utf8

abbrev Byte := UInt8

/-- A continuation byte. -/
def tailRange : Byte × Byte := (0x80, 0xBF)

/-- The ranges of the bytes that follow a first byte. The first one leaves out overlong
forms, surrogates and what is past the last code point. -/
def following (first : Byte) : Option (List (Byte × Byte)) :=
  if first < 0x80 then some []
  else if first < 0xC2 then none
  else if first < 0xE0 then some [tailRange]
  else if first = 0xE0 then some [(0xA0, 0xBF), tailRange]
  else if first = 0xED then some [(0x80, 0x9F), tailRange]
  else if first < 0xF0 then some [tailRange, tailRange]
  else if first = 0xF0 then some [(0x90, 0xBF), tailRange, tailRange]
  else if first < 0xF4 then some [tailRange, tailRange, tailRange]
  else if first = 0xF4 then some [(0x80, 0x8F), tailRange, tailRange]
  else none

/-- How many bytes fall in the ranges, in turn. -/
def matched : List (Byte × Byte) → List Byte → Nat
  | (low, high) :: ranges, byte :: rest =>
    if low ≤ byte ∧ byte ≤ high then matched ranges rest + 1 else 0
  | _, _ => 0

/-- A character, or the longest start of one that no character goes on from. -/
structure Piece where
  bytes : List Byte
  valid : Bool
  deriving DecidableEq

def piece (first : Byte) (rest : List Byte) : Piece :=
  match following first with
  | some ranges =>
    { bytes := first :: rest.take (matched ranges rest)
      valid := matched ranges rest = ranges.length }
  | none => { bytes := [first], valid := false }

/-- The pieces of at most so many bytes. -/
def piecesWithin : Nat → List Byte → List Piece
  | 0, _ => []
  | _ + 1, [] => []
  | limit + 1, first :: rest =>
    piece first rest ::
      piecesWithin limit ((first :: rest).drop (piece first rest).bytes.length)

def pieces (bytes : List Byte) : List Piece := piecesWithin bytes.length bytes

/-- The bytes of a text. -/
def Valid (bytes : List Byte) : Prop := ∀ piece ∈ pieces bytes, piece.valid = true

instance (bytes : List Byte) : Decidable (Valid bytes) :=
  inferInstanceAs (Decidable (∀ _ ∈ _, _))

def replacement : List Byte := [0xEF, 0xBF, 0xBD]

/-- The text that has a replacement character for what is no character. -/
def lossy (bytes : List Byte) : List Byte :=
  (pieces bytes).flatMap fun piece => if piece.valid then piece.bytes else replacement

/-- Whether a text may be cut before its byte at `index`. -/
def isCharBoundary (text : List Byte) (index : Nat) : Bool :=
  match text[index]? with
  | some byte => index = 0 ∨ byte < 0x80 ∨ 0xBF < byte
  | none => index = 0 ∨ index = text.length

/-- The text up to `index`, where it may be cut there. -/
def slice (text : List Byte) (index : Nat) : Option (List Byte) :=
  if isCharBoundary text index then some (text.take index) else none

theorem piece_append (first : Byte) (rest : List Byte) :
    (piece first rest).bytes ++ (first :: rest).drop (piece first rest).bytes.length =
      first :: rest := by
  have taken : ∃ count, (piece first rest).bytes = (first :: rest).take count := by
    rw [piece]
    cases following first with
    | none => exact ⟨1, rfl⟩
    | some ranges => exact ⟨matched ranges rest + 1, rfl⟩
  obtain ⟨count, isTaken⟩ := taken
  rw [isTaken, List.length_take, List.drop_eq_drop_iff.mpr, List.take_append_drop]
  omega

theorem piece_ne_nil (first : Byte) (rest : List Byte) : (piece first rest).bytes ≠ [] := by
  rw [piece]
  cases following first <;> exact List.cons_ne_nil _ _

theorem pieces_within_flatten (limit : Nat) (bytes : List Byte) (enough : bytes.length ≤ limit) :
    (piecesWithin limit bytes).flatMap Piece.bytes = bytes := by
  induction limit generalizing bytes with
  | zero =>
    rw [List.eq_nil_of_length_eq_zero (Nat.le_zero.mp enough)]
    rfl
  | succ limit ih =>
    cases bytes with
    | nil => rfl
    | cons first rest =>
      have some := List.length_pos_of_ne_nil (piece_ne_nil first rest)
      rw [piecesWithin, List.flatMap_cons, ih, piece_append]
      rw [List.length_drop]
      omega

theorem pieces_flatten (bytes : List Byte) : (pieces bytes).flatMap Piece.bytes = bytes :=
  pieces_within_flatten _ bytes (Nat.le_refl _)

/-- A lossy decoder keeps a text. -/
theorem lossy_of_valid (valid : Valid bytes) : lossy bytes = bytes := by
  refine Eq.trans ?_ (pieces_flatten bytes)
  rw [lossy]
  refine List.flatMap_congr fun piece member => ?_
  rw [if_pos (valid piece member)]

end MoonlightWeb.Utf8

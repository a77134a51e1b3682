import Mathlib.Data.List.Basic
import Mathlib.Tactic.Common

/-! Text as 16-bit units. A character beyond the first 65536 has two, a high and a low
surrogate; a surrogate without its other half is a code point, but no character. -/
namespace MoonlightWeb.Utf16

def isHigh (unit : UInt16) : Bool := 0xd800 ≤ unit.toNat && unit.toNat < 0xdc00

def isLow (unit : UInt16) : Bool := 0xdc00 ≤ unit.toNat && unit.toNat < 0xe000

def units (char : Char) : List UInt16 :=
  if char.toNat < 0x10000 then [UInt16.ofNat char.toNat]
  else
    [UInt16.ofNat (0xd800 + (char.toNat - 0x10000) / 0x400),
      UInt16.ofNat (0xdc00 + (char.toNat - 0x10000) % 0x400)]

def encode (text : List Char) : List UInt16 := text.flatMap units

/-- The code points of a text, each with its units. -/
def codePoints : List UInt16 → List (List UInt16)
  | [] => []
  | [unit] => [[unit]]
  | high :: low :: rest =>
    if isHigh high && isLow low then [high, low] :: codePoints rest
    else [high] :: codePoints (low :: rest)

/-- The character of a code point, the replacement character for one that is none. -/
def scalar : List UInt16 → Char
  | [unit] => if isHigh unit || isLow unit then Char.ofNat 0xfffd else Char.ofNat unit.toNat
  | [high, low] => Char.ofNat (0x10000 + (high.toNat - 0xd800) * 0x400 + (low.toNat - 0xdc00))
  | _ => Char.ofNat 0xfffd

theorem toNat_bounds (char : Char) :
    char.toNat < 0xd800 ∨ 0xdfff < char.toNat ∧ char.toNat < 0x110000 := char.valid

/-- A character has one unit that is no surrogate, or a high and a low one. -/
theorem units_cases (char : Char) :
    (∃ unit, units char = [unit] ∧ unit.toNat = char.toNat ∧ isHigh unit = false ∧
      isLow unit = false) ∨
    ∃ high low, units char = [high, low] ∧ isHigh high = true ∧ isLow low = true ∧
      0x10000 + (high.toNat - 0xd800) * 0x400 + (low.toNat - 0xdc00) = char.toNat := by
  have bounds := toNat_bounds char
  unfold units
  split
  · rename_i short
    left
    have kept : (UInt16.ofNat char.toNat).toNat = char.toNat := UInt16.toNat_ofNat_of_lt' short
    refine ⟨_, rfl, kept, ?_, ?_⟩
    · rw [isHigh, kept, Bool.and_eq_false_iff, decide_eq_false_iff_not, decide_eq_false_iff_not]
      omega
    · rw [isLow, kept, Bool.and_eq_false_iff, decide_eq_false_iff_not, decide_eq_false_iff_not]
      omega
  · rename_i long
    right
    have high : (UInt16.ofNat (0xd800 + (char.toNat - 0x10000) / 0x400)).toNat =
        0xd800 + (char.toNat - 0x10000) / 0x400 := UInt16.toNat_ofNat_of_lt' (by
      change _ < 65536
      omega)
    have low : (UInt16.ofNat (0xdc00 + (char.toNat - 0x10000) % 0x400)).toNat =
        0xdc00 + (char.toNat - 0x10000) % 0x400 := UInt16.toNat_ofNat_of_lt' (by
      change _ < 65536
      omega)
    refine ⟨_, _, rfl, ?_, ?_, ?_⟩
    · rw [isHigh, high, Bool.and_eq_true, decide_eq_true_eq, decide_eq_true_eq]
      omega
    · rw [isLow, low, Bool.and_eq_true, decide_eq_true_eq, decide_eq_true_eq]
      omega
    · rw [high, low]
      omega

theorem scalar_units (char : Char) : scalar (units char) = char := by
  obtain ⟨unit, isUnit, same, notHigh, notLow⟩ | ⟨high, low, isPair, -, -, same⟩ :=
    units_cases char
  · rw [isUnit, scalar, notHigh, notLow, same]
    exact Char.ofNat_toNat char
  · rw [isPair, scalar, same]
    exact Char.ofNat_toNat char

theorem units_ne_nil (char : Char) : units char ≠ [] := by
  unfold units
  split <;> exact List.cons_ne_nil _ _

/-- No code point of an encoded text is cut. -/
theorem codePoints_encode (text : List Char) : codePoints (encode text) = text.map units := by
  induction text with
  | nil => rfl
  | cons char rest ih =>
    change codePoints (units char ++ encode rest) = units char :: rest.map units
    obtain ⟨unit, isUnit, -, notHigh, -⟩ | ⟨high, low, isPair, isHigh, isLow, -⟩ :=
      units_cases char
    · rw [isUnit, ← ih]
      change codePoints (unit :: encode rest) = [unit] :: codePoints (encode rest)
      cases encode rest with
      | nil => rfl
      | cons next others =>
        rw [codePoints, notHigh]
        rfl
    · rw [isPair, ← ih]
      change codePoints (high :: low :: encode rest) = [high, low] :: codePoints (encode rest)
      rw [codePoints, isHigh, isLow]
      rfl

theorem encode_append (first second : List Char) :
    encode (first ++ second) = encode first ++ encode second := List.flatMap_append

theorem encode_eq_nil {text : List Char} (none : encode text = []) : text = [] := by
  cases text with
  | nil => rfl
  | cons char rest => exact absurd (List.append_eq_nil_iff.mp none).1 (units_ne_nil char)

/-- A part of a text from its start has as many units only if it is the whole text. -/
theorem length_encode_initial {part text : List Char} (isPart : part <+: text) :
    (encode part).length = (encode text).length ↔ part = text := by
  obtain ⟨rest, rfl⟩ := isPart
  constructor
  · intro same
    rw [encode_append, List.length_append] at same
    have none : (encode rest).length = 0 := by omega
    rw [encode_eq_nil (List.eq_nil_of_length_eq_zero none), List.append_nil]
  · exact fun same => congrArg (fun text => (encode text).length) same

end MoonlightWeb.Utf16

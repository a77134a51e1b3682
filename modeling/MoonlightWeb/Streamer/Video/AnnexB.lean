import Mathlib.Data.List.Infix
import Mathlib.Tactic.Common

/-! The Annex B splitter. It scans for three zeros and a one, or two zeros and a one,
and gives out what lies between two of them. The scan looks at each byte once, with
the byte before it, so what it finds is compared with the first start code there is. -/
namespace MoonlightWeb.Streamer.Video

inductive AnnexBStartCode where
  | b3
  | b4
  deriving DecidableEq, Repr

def AnnexBStartCode.code : AnnexBStartCode → List UInt8
  | .b3 => [0, 0, 1]
  | .b4 => [0, 0, 0, 1]

def AnnexBStartCode.len (startCode : AnnexBStartCode) : Nat := startCode.code.length

theorem AnnexBStartCode.len_pos (startCode : AnnexBStartCode) : 0 < startCode.code.length := by
  cases startCode <;> exact Nat.succ_pos _

/-- The ranges have their end behind the last byte. -/
structure AnnexBData where
  payloadRange : Nat × Nat
  startCode : AnnexBStartCode
  startCodeRange : Nat × Nat
  full : List UInt8
  deriving DecidableEq, Repr

def AnnexBData.payload (nal : AnnexBData) : List UInt8 :=
  (nal.full.drop nal.payloadRange.1).take (nal.payloadRange.2 - nal.payloadRange.1)

structure AnnexBSplitter where
  data : List UInt8
  offset : Nat
  deriving DecidableEq, Repr

/-- The loop of `find_start_code` from index `i`, whose byte comes first in the list,
behind the byte at `i - 1`. -/
def findStartCodeFrom (i : Nat) (previous : Option UInt8) :
    List UInt8 → Option (Nat × AnnexBStartCode × Nat)
  | first :: second :: third :: rest =>
    if first = 0 ∧ second = 0 then
      if third = 1 then
        if previous = some 0 then some (i - 1, .b4, 4) else some (i, .b3, 3)
      else if third = 0 then
        if rest.head? = some 1 then some (i, .b4, 4)
        else findStartCodeFrom (i + 1) (some first) (second :: third :: rest)
      else findStartCodeFrom (i + 1) (some first) (second :: third :: rest)
    else findStartCodeFrom (i + 1) (some first) (second :: third :: rest)
  | _ => none

def findStartCode (data : List UInt8) : Option (Nat × AnnexBStartCode × Nat) :=
  findStartCodeFrom 0 none data

namespace AnnexBSplitter

def new (data : List UInt8) : AnnexBSplitter := ⟨data, 0⟩

def next (splitter : AnnexBSplitter) : Option AnnexBData × AnnexBSplitter :=
  if splitter.offset ≥ splitter.data.length then (none, splitter)
  else
    let currentSlice := splitter.data.drop splitter.offset
    let found :=
      if AnnexBStartCode.b4.code <+: currentSlice then some (0, .b4, 4)
      else if AnnexBStartCode.b3.code <+: currentSlice then some (0, .b3, 3)
      else findStartCode currentSlice
    match found with
    | none => (none, { splitter with offset := splitter.data.length })
    | some (foundOffset, startCode, scLen) =>
      let offset := splitter.offset + foundOffset
      let payloadStart := offset + scLen
      let nextScOffset :=
        if payloadStart < splitter.data.length then
          (findStartCode (splitter.data.drop payloadStart)).map fun found => payloadStart + found.1
        else none
      let payloadEnd := nextScOffset.getD splitter.data.length
      let nalLen := payloadEnd - offset
      let full := (splitter.data.drop offset).take (payloadEnd - offset)
      (some ⟨(scLen, nalLen), startCode, (0, scLen), full⟩, { splitter with offset := payloadEnd })

/-- What calls of `next` give out until one gives nothing. -/
inductive Yields : AnnexBSplitter → List AnnexBData → Prop where
  | ended (none : splitter.next = (none, final)) : Yields splitter []
  | nal (some : splitter.next = (some nal, after)) (later : Yields after nals) :
      Yields splitter (nal :: nals)

end AnnexBSplitter

/-! ## The first start code -/

/-- The first position at which one of the codes starts, and which. -/
def firstStartCode : List UInt8 → Option (Nat × AnnexBStartCode)
  | [] => none
  | byte :: rest =>
    if AnnexBStartCode.b4.code <+: byte :: rest then some (0, .b4)
    else if AnnexBStartCode.b3.code <+: byte :: rest then some (0, .b3)
    else (firstStartCode rest).map fun found => (found.1 + 1, found.2)

/-- The data from its first start code on. -/
def fromFirstStartCode (data : List UInt8) : List UInt8 :=
  match firstStartCode data with
  | none => []
  | some (position, _) => data.drop position

theorem b3_prefix_iff (data : List UInt8) :
    AnnexBStartCode.b3.code <+: data ↔ ∃ rest, data = 0 :: 0 :: 1 :: rest :=
  ⟨fun ⟨rest, same⟩ => ⟨rest, same.symm⟩, fun ⟨rest, same⟩ => ⟨rest, same.symm⟩⟩

theorem b4_prefix_iff (data : List UInt8) :
    AnnexBStartCode.b4.code <+: data ↔ ∃ rest, data = 0 :: 0 :: 0 :: 1 :: rest :=
  ⟨fun ⟨rest, same⟩ => ⟨rest, same.symm⟩, fun ⟨rest, same⟩ => ⟨rest, same.symm⟩⟩

/-- The loop finds the first start code, as long as it has not passed the first zero of
a longer one. -/
theorem findStartCodeFrom_eq (i : Nat) (previous : Option UInt8) (data : List UInt8)
    (notPassed : previous = some 0 → ¬ AnnexBStartCode.b3.code <+: data) :
    findStartCodeFrom i previous data =
      (firstStartCode data).map fun found => (i + found.1, found.2, found.2.len) := by
  induction data generalizing i previous with
  | nil => rfl
  | cons first rest ih =>
    match rest with
    | [] | [second] => simp [findStartCodeFrom, firstStartCode, b3_prefix_iff, b4_prefix_iff]
    | second :: third :: rest =>
      -- A short code behind a zero would be a long one here.
      have goesOn (long : ¬ AnnexBStartCode.b4.code <+: first :: second :: third :: rest)
          (short : ¬ AnnexBStartCode.b3.code <+: first :: second :: third :: rest) :
          findStartCodeFrom (i + 1) (some first) (second :: third :: rest) =
            (firstStartCode (first :: second :: third :: rest)).map fun found =>
              (i + found.1, found.2, found.2.len) := by
        rw [firstStartCode, if_neg long, if_neg short, ih, Option.map_map]
        · congr 1
          funext found
          simp only [Function.comp, Nat.add_assoc, Nat.add_comm 1]
        · rintro zero shortRest
          rw [Option.some_inj] at zero
          subst zero
          obtain ⟨rest', same⟩ := (b3_prefix_iff _).mp shortRest
          exact long ((b4_prefix_iff _).mpr ⟨rest', by rw [same]⟩)
      rw [findStartCodeFrom]
      by_cases zeros : first = 0 ∧ second = 0
      · obtain ⟨rfl, rfl⟩ := zeros
        rw [if_pos ⟨rfl, rfl⟩]
        by_cases one : third = 1
        · subst one
          have short : AnnexBStartCode.b3.code <+: 0 :: 0 :: 1 :: rest :=
            (b3_prefix_iff _).mpr ⟨rest, rfl⟩
          have long : ¬ AnnexBStartCode.b4.code <+: 0 :: 0 :: 1 :: rest := by
            simp [b4_prefix_iff]
          rw [if_pos rfl, if_neg fun zero => notPassed zero short, firstStartCode, if_neg long,
            if_pos short]
          rfl
        · have short : ¬ AnnexBStartCode.b3.code <+: 0 :: 0 :: third :: rest := by
            simp [b3_prefix_iff, one]
          rw [if_neg one]
          by_cases zero : third = 0
          · subst zero
            rw [if_pos rfl]
            by_cases last : rest.head? = some 1
            · have long : AnnexBStartCode.b4.code <+: 0 :: 0 :: 0 :: rest := by
                obtain ⟨rest', same⟩ := List.head?_eq_some_iff.mp last
                exact (b4_prefix_iff _).mpr ⟨rest', by rw [same]⟩
              rw [if_pos last, firstStartCode, if_pos long]
              rfl
            · rw [if_neg last]
              refine goesOn (fun long => ?_) short
              obtain ⟨rest', same⟩ := (b4_prefix_iff _).mp long
              simp only [List.cons.injEq, true_and] at same
              rw [same] at last
              exact last rfl
          · rw [if_neg zero]
            exact goesOn (by simp [b4_prefix_iff, zero]) short
      · rw [if_neg zeros]
        refine goesOn ?_ ?_
        · rintro long
          obtain ⟨rest', same⟩ := (b4_prefix_iff _).mp long
          simp only [List.cons.injEq] at same
          exact zeros ⟨same.1, same.2.1⟩
        · rintro short
          obtain ⟨rest', same⟩ := (b3_prefix_iff _).mp short
          simp only [List.cons.injEq] at same
          exact zeros ⟨same.1, same.2.1⟩

theorem findStartCode_eq (data : List UInt8) :
    findStartCode data =
      (firstStartCode data).map fun found => (found.1, found.2, found.2.len) := by
  rw [findStartCode, findStartCodeFrom_eq 0 none data nofun]
  simp only [Nat.zero_add]

/-- Where there is no start code, two zeros and a one are nowhere. -/
theorem firstStartCode_eq_none (data : List UInt8) :
    firstStartCode data = none ↔ ¬ AnnexBStartCode.b3.code <:+: data := by
  induction data with
  | nil => simp [firstStartCode, AnnexBStartCode.code]
  | cons byte rest ih =>
    have inLong (long : AnnexBStartCode.b4.code <+: byte :: rest) :
        AnnexBStartCode.b3.code <:+: rest := by
      obtain ⟨rest', same⟩ := (b4_prefix_iff _).mp long
      cases same
      exact ((b3_prefix_iff _).mpr ⟨rest', rfl⟩).isInfix
    rw [List.infix_cons_iff, not_or, ← ih, firstStartCode]
    by_cases long : AnnexBStartCode.b4.code <+: byte :: rest
    · rw [if_pos long]
      refine iff_of_false nofun fun absent => ?_
      exact ih.mp absent.2 (inLong long)
    · rw [if_neg long]
      by_cases short : AnnexBStartCode.b3.code <+: byte :: rest
      · simp [short]
      · simp [short]

/-- What is before the first start code has none in it. -/
theorem firstStartCode_eq_some {data : List UInt8}
    (found : firstStartCode data = some (position, startCode)) :
    ∃ before rest, data = before ++ (startCode.code ++ rest) ∧ before.length = position ∧
      ¬ AnnexBStartCode.b3.code <:+: before ∧
      firstStartCode (startCode.code ++ rest) = some (0, startCode) := by
  induction data generalizing position with
  | nil => cases found
  | cons byte rest ih =>
    have atHead (starts : startCode.code <+: byte :: rest) (here : position = 0) :
        ∃ before rest', byte :: rest = before ++ (startCode.code ++ rest') ∧
          before.length = position ∧ ¬ AnnexBStartCode.b3.code <:+: before ∧
          firstStartCode (startCode.code ++ rest') = some (0, startCode) := by
      obtain ⟨rest', same⟩ := starts
      refine ⟨[], rest', same.symm, here.symm, by simp [AnnexBStartCode.code], ?_⟩
      rw [same, ← here]
      exact found
    have looked := found
    rw [firstStartCode] at looked
    split at looked
    · rename_i long
      cases looked
      exact atHead long rfl
    · split at looked
      · rename_i short
        cases looked
        exact atHead short rfl
      · rename_i short
        obtain ⟨⟨later, code⟩, foundLater, same⟩ := Option.map_eq_some_iff.mp looked
        cases same
        obtain ⟨before, rest', isRest, size, absent, first⟩ := ih foundLater
        refine ⟨byte :: before, rest', by rw [isRest]; rfl, by rw [List.length_cons, size], ?_, first⟩
        rw [List.infix_cons_iff, not_or]
        refine ⟨fun starts => short ?_, absent⟩
        rw [isRest]
        exact starts.trans (List.prefix_append (byte :: before) _)

/-- Bytes that neither hold a start code nor end in what may be the zero of one. -/
structure Separable (bytes : List UInt8) : Prop where
  absent : ¬ AnnexBStartCode.b3.code <:+: bytes
  ends : bytes.getLast? ≠ some 0

theorem separable_nil : Separable [] := ⟨by simp [AnnexBStartCode.code], nofun⟩

theorem Separable.tail {bytes : List UInt8} (separable : Separable (byte :: bytes)) :
    Separable bytes := by
  refine ⟨fun inside => separable.absent (List.infix_cons inside), fun zero => ?_⟩
  apply separable.ends
  rw [List.getLast?_cons, zero]
  rfl

theorem b3_infix_code (startCode : AnnexBStartCode) :
    AnnexBStartCode.b3.code <:+: startCode.code := by
  cases startCode with
  | b3 => exact List.infix_refl _
  | b4 => exact ⟨[0], [], rfl⟩

/-- A start code that is cut off ends in a zero. -/
theorem prefix_of_code (startCode : AnnexBStartCode) (cut : bytes <+: startCode.code) :
    bytes = [] ∨ bytes = startCode.code ∨ bytes.getLast? = some 0 := by
  cases startCode with
  | b3 =>
    simp only [AnnexBStartCode.code, List.prefix_cons_iff, List.prefix_nil] at cut
    rcases cut with rfl | ⟨_, rfl, rfl | ⟨_, rfl, rfl | ⟨_, rfl, rfl⟩⟩⟩ <;> simp [AnnexBStartCode.code]
  | b4 =>
    simp only [AnnexBStartCode.code, List.prefix_cons_iff, List.prefix_nil] at cut
    rcases cut with rfl | ⟨_, rfl, rfl | ⟨_, rfl, rfl | ⟨_, rfl, rfl | ⟨_, rfl, rfl⟩⟩⟩⟩ <;>
      simp [AnnexBStartCode.code]

/-- No start code begins in such bytes and ends behind them. -/
theorem Separable.no_code {bytes : List UInt8} (separable : Separable bytes) (filled : bytes ≠ [])
    (startCode : AnnexBStartCode) (rest : List UInt8) : ¬ startCode.code <+: bytes ++ rest := by
  intro starts
  obtain inside | cut := List.prefix_or_prefix_of_prefix starts (List.prefix_append bytes rest)
  · exact separable.absent ((b3_infix_code startCode).trans inside.isInfix)
  · obtain empty | whole | zero := prefix_of_code startCode cut
    · exact filled empty
    · rw [whole] at separable
      exact separable.absent (b3_infix_code startCode)
    · exact separable.ends zero

/-- A start code behind such bytes is the first. -/
theorem firstStartCode_behind {bytes : List UInt8} (separable : Separable bytes)
    (startCode : AnnexBStartCode) (rest : List UInt8) :
    firstStartCode (bytes ++ (startCode.code ++ rest)) = some (bytes.length, startCode) := by
  induction bytes with
  | nil => cases startCode <;> simp [firstStartCode, AnnexBStartCode.code]
  | cons byte bytes ih =>
    have none (code : AnnexBStartCode) :
        ¬ code.code <+: byte :: (bytes ++ (startCode.code ++ rest)) :=
      separable.no_code (List.cons_ne_nil _ _) code (startCode.code ++ rest)
    rw [List.cons_append, firstStartCode, if_neg (none .b4), if_neg (none .b3), ih separable.tail]
    rfl

/-! ## The splitter -/

namespace AnnexBSplitter

/-- What is left to split. -/
def left (splitter : AnnexBSplitter) : List UInt8 := splitter.data.drop splitter.offset

/-- The bytes up to the next start code. -/
def payloadSize (bytes : List UInt8) : Nat :=
  match firstStartCode bytes with
  | some (position, _) => position
  | none => bytes.length

/-- Whether a slice starts with a code or needs a scan, its first one is taken. -/
theorem found_eq (slice : List UInt8) :
    (if AnnexBStartCode.b4.code <+: slice then some (0, .b4, 4)
      else if AnnexBStartCode.b3.code <+: slice then some (0, .b3, 3)
      else findStartCode slice) =
      (firstStartCode slice).map fun found => (found.1, found.2, found.2.len) := by
  rw [findStartCode_eq]
  cases slice with
  | nil => simp [firstStartCode, AnnexBStartCode.code]
  | cons byte rest =>
    rw [firstStartCode]
    split
    · rfl
    · split
      · rfl
      · rfl

/-- The unit whose start code is followed by these bytes. -/
def unit (startCode : AnnexBStartCode) (body : List UInt8) : AnnexBData where
  payloadRange := (startCode.len, startCode.len + payloadSize body)
  startCode
  startCodeRange := (0, startCode.len)
  full := startCode.code ++ body.take (payloadSize body)

theorem unit_payload (startCode : AnnexBStartCode) (body : List UInt8) :
    (unit startCode body).payload = body.take (payloadSize body) := by
  change ((startCode.code ++ body.take _).drop startCode.len).take
    (startCode.len + payloadSize body - startCode.len) = _
  rw [Nat.add_sub_cancel_left, AnnexBStartCode.len, List.drop_left, List.take_take, Nat.min_self]

theorem next_none {splitter : AnnexBSplitter} (absent : firstStartCode splitter.left = none) :
    ∃ final, splitter.next = (none, final) := by
  unfold next
  split
  · exact ⟨_, rfl⟩
  · dsimp only
    rw [found_eq, ← left, absent]
    exact ⟨_, rfl⟩

/-- The next unit is what follows the first start code, up to the next one. -/
theorem next_some {splitter : AnnexBSplitter}
    (isLeft : splitter.left = before ++ (startCode.code ++ body))
    (found : firstStartCode splitter.left = some (before.length, startCode)) :
    ∃ after : AnnexBSplitter, after.left = body.drop (payloadSize body) ∧
      splitter.next = (some (unit startCode body), after) := by
  obtain ⟨data, offset⟩ := splitter
  change data.drop offset = _ at isLeft
  have codeStart : data.drop (offset + before.length) = startCode.code ++ body := by
    rw [← List.drop_drop, isLeft, List.drop_left]
  have bodyStart : data.drop (offset + before.length + startCode.len) = body := by
    rw [← List.drop_drop, codeStart, AnnexBStartCode.len, List.drop_left]
  have size : data.length = offset + before.length + startCode.len + body.length := by
    have lengths := congrArg List.length isLeft
    simp only [List.length_drop, List.length_append] at lengths
    have filled := startCode.len_pos
    unfold AnnexBStartCode.len
    omega
  have payloadEnd : (if offset + before.length + startCode.len < data.length then
      (findStartCode (data.drop (offset + before.length + startCode.len))).map fun found =>
        offset + before.length + startCode.len + found.1 else none).getD data.length =
      offset + before.length + startCode.len + payloadSize body := by
    rw [bodyStart, findStartCode_eq, size, payloadSize]
    split
    · cases firstStartCode body <;> rfl
    · rename_i short
      have empty : body = [] := List.eq_nil_of_length_eq_zero (by omega)
      rw [empty]
      rfl
  refine ⟨⟨data, offset + before.length + startCode.len + payloadSize body⟩, ?_, ?_⟩
  · change data.drop _ = _
    rw [← List.drop_drop, bodyStart]
  · have filled := startCode.len_pos
    unfold next
    rw [if_neg (by unfold AnnexBStartCode.len at size; dsimp only; omega)]
    dsimp only
    rw [found_eq, show firstStartCode (data.drop offset) = _ from found]
    dsimp only [Option.map_some]
    have nalLen : offset + before.length + startCode.len + payloadSize body -
        (offset + before.length) = startCode.len + payloadSize body := by omega
    rw [payloadEnd, codeStart, nalLen, unit, AnnexBStartCode.len, List.take_length_add_append]

/-- Two zeros and a one are in no payload. -/
theorem payload_clean (startCode : AnnexBStartCode) (body : List UInt8) :
    ¬ AnnexBStartCode.b3.code <:+: (unit startCode body).payload := by
  rw [unit_payload, payloadSize]
  split
  · rename_i position startCode found
    obtain ⟨before, rest, same, size, absent, -⟩ := firstStartCode_eq_some found
    rw [same, ← size, List.take_left]
    exact absent
  · rename_i absent
    rw [List.take_length]
    exact (firstStartCode_eq_none body).mp absent

/-- Behind a payload comes a start code, or nothing. -/
theorem fromFirstStartCode_left (body : List UInt8) :
    fromFirstStartCode (body.drop (payloadSize body)) = body.drop (payloadSize body) := by
  unfold payloadSize
  split
  · rename_i position startCode found
    obtain ⟨before, rest, same, size, -, first⟩ := firstStartCode_eq_some found
    rw [same, ← size, List.drop_left, fromFirstStartCode, first]
    rfl
  · rw [List.drop_length]
    rfl

/-- Calls of `next` come to an end, and give out all the data from its first start code
on, in units without another one. -/
theorem yields_all (splitter : AnnexBSplitter) :
    ∃ nals, Yields splitter nals ∧
      (nals.map AnnexBData.full).flatten = fromFirstStartCode splitter.left ∧
      ∀ nal ∈ nals, ¬ AnnexBStartCode.b3.code <:+: nal.payload := by
  induction bytes : splitter.left.length using Nat.strongRecOn generalizing splitter with
  | ind count ih =>
    cases found : firstStartCode splitter.left with
    | none =>
      obtain ⟨final, ended⟩ := next_none found
      refine ⟨[], .ended ended, ?_, nofun⟩
      rw [fromFirstStartCode, found]
      rfl
    | some first =>
      obtain ⟨position, startCode⟩ := first
      obtain ⟨before, body, isLeft, atPosition, -, -⟩ := firstStartCode_eq_some found
      rw [← atPosition] at found
      obtain ⟨after, isRest, gives⟩ := next_some isLeft found
      have shorter : after.left.length < count := by
        have filled := startCode.len_pos
        rw [← bytes, isLeft, isRest]
        simp only [List.length_append, List.length_drop]
        omega
      obtain ⟨nals, later, whole, clean⟩ := ih _ shorter after rfl
      refine ⟨_ :: nals, .nal gives later, ?_, ?_⟩
      · rw [List.map_cons, List.flatten_cons, whole, isRest, fromFirstStartCode_left, unit,
          List.append_assoc, List.take_append_drop, fromFirstStartCode, found, isLeft]
        exact (List.drop_left).symm
      · intro nal member
        obtain rfl | inRest := List.mem_cons.mp member
        · exact payload_clean startCode body
        · exact clean nal inRest

/-- The units as an encoder sends them, each behind its start code. -/
def stream (units : List (AnnexBStartCode × List UInt8)) : List UInt8 :=
  units.flatMap fun unit => unit.1.code ++ unit.2

theorem payloadSize_behind {bytes : List UInt8} (separable : Separable bytes)
    (units : List (AnnexBStartCode × List UInt8)) :
    payloadSize (bytes ++ stream units) = bytes.length := by
  unfold payloadSize
  cases units with
  | nil =>
    have absent := (firstStartCode_eq_none bytes).mpr separable.absent
    rw [stream, List.flatMap_nil, List.append_nil, absent]
  | cons first rest =>
    have found := firstStartCode_behind separable first.1 (first.2 ++ stream rest)
    rw [stream, List.flatMap_cons, List.append_assoc, ← stream, found]

/-- Whatever is before the first start code, the units come out as they were sent. -/
theorem yields_units {garbage : List UInt8} (separable : Separable garbage)
    (units : List (AnnexBStartCode × List UInt8))
    (each : ∀ unit ∈ units, Separable unit.2) (splitter : AnnexBSplitter)
    (isLeft : splitter.left = garbage ++ stream units) :
    ∃ nals, Yields splitter nals ∧
      nals.map (fun nal => (nal.startCode, nal.payload)) = units := by
  induction units generalizing splitter garbage with
  | nil =>
    have absent : firstStartCode splitter.left = none := by
      rw [isLeft, stream, List.flatMap_nil, List.append_nil]
      exact (firstStartCode_eq_none garbage).mpr separable.absent
    obtain ⟨final, ended⟩ := next_none absent
    exact ⟨[], .ended ended, rfl⟩
  | cons first rest ih =>
    obtain ⟨startCode, nalu⟩ := first
    have isSent : splitter.left = garbage ++ (startCode.code ++ (nalu ++ stream rest)) := by
      rw [isLeft, stream, List.flatMap_cons, List.append_assoc]
      rfl
    have found : firstStartCode splitter.left = some (garbage.length, startCode) := by
      rw [isSent]
      exact firstStartCode_behind separable startCode _
    have size := payloadSize_behind (each _ List.mem_cons_self) rest
    obtain ⟨after, isRest, gives⟩ := next_some isSent found
    rw [size, List.drop_left] at isRest
    obtain ⟨nals, later, same⟩ := ih separable_nil
      (fun unit member => each unit (List.mem_cons_of_mem _ member)) after isRest
    refine ⟨_ :: nals, .nal gives later, ?_⟩
    rw [List.map_cons, same, unit_payload, size, List.take_left]
    rfl

/-- The splitter gives out all data from the first start code on, in units that hold
none; and what an encoder sends comes out as it went in. -/
theorem annex_b_split :
    (∀ data, ∃ nals, Yields (new data) nals ∧
      (nals.map AnnexBData.full).flatten = fromFirstStartCode data ∧
      ∀ nal ∈ nals, ¬ [0, 0, 1] <:+: nal.payload) ∧
    ∀ garbage units, Separable garbage → (∀ unit ∈ units, unit.2 ≠ [] ∧ Separable unit.2) →
      ∃ nals, Yields (new (garbage ++ stream units)) nals ∧
        nals.map (fun nal => (nal.startCode, nal.payload)) = units := by
  refine ⟨fun data => yields_all (new data), fun garbage units separable each => ?_⟩
  exact yields_units separable units (fun unit member => (each unit member).2) _ rfl

/-- Two bytes of garbage, a unit behind four bytes and one behind three. -/
theorem two_units_split :
    ∃ nals, Yields (new [0xff, 0xee, 0, 0, 0, 1, 0x42, 0x01, 0, 0, 1, 0x44, 0x03]) nals ∧
      nals.map (fun nal => (nal.startCode, nal.payload)) =
        [(.b4, [0x42, 0x01]), (.b3, [0x44, 0x03])] := by
  refine annex_b_split.2 [0xff, 0xee] [(.b4, [0x42, 0x01]), (.b3, [0x44, 0x03])] ?_ ?_
  · exact ⟨by decide, by decide⟩
  · intro unit member
    simp only [List.mem_cons, List.not_mem_nil, or_false] at member
    rcases member with rfl | rfl
    · exact ⟨by decide, by decide, by decide⟩
    · exact ⟨by decide, by decide, by decide⟩

end AnnexBSplitter

end MoonlightWeb.Streamer.Video

import Mathlib.Algebra.GroupWithZero.Nat
import Mathlib.Data.List.Infix
import Mathlib.Data.List.Forall2
import Mathlib.Tactic.SplitIfs

/-! Candidates read out of a session description. The walk over its lines keeps the
index of the media section it is in and the section's mid, and hands each candidate
over with both. -/
namespace MoonlightWeb.Streamer.CandidateInjection

abbrev Text := List Char

/-! ## Text -/

/-- `char::is_whitespace`. -/
def isWhitespace (char : Char) : Bool :=
  let code := char.toNat
  (9 ≤ code ∧ code ≤ 13) ∨ code = 0x20 ∨ code = 0x85 ∨ code = 0xA0 ∨ code = 0x1680 ∨
    (0x2000 ≤ code ∧ code ≤ 0x200A) ∨ code = 0x2028 ∨ code = 0x2029 ∨ code = 0x202F ∨
    code = 0x205F ∨ code = 0x3000

def trim (text : Text) : Text :=
  ((text.dropWhile isWhitespace).reverse.dropWhile isWhitespace).reverse

/-- The number of parts between whitespace. -/
def countFields (text : Text) : Nat :=
  ((text.splitOnP isWhitespace).filter (· ≠ [])).length

/-- `str::lines`. A line break at the end ends the last line, and a carriage return
before a line break is part of it. -/
def lines (text : Text) : List Text :=
  let parts := text.splitOn '\n'
  let ended := parts.dropLast.map fun line =>
    if line.getLast? = some '\r' then line.dropLast else line
  ended ++ parts.getLast?.toList.filter (· ≠ [])

/-- What follows a start of a text. -/
def stripPrefix (start text : Text) : Option Text :=
  if start <+: text then some (text.drop start.length) else none

/-! ## The walk -/

structure RTCIceCandidateInit where
  candidate : Text
  sdp_mid : Option Text
  sdp_mline_index : Option Nat
  username_fragment : Option Text
  deriving DecidableEq

/-- What the walk tells apart. -/
inductive Line where
  | media
  | mid (value : Text)
  | candidate (attr : Text)
  | other
  deriving DecidableEq

def Line.of (raw : Text) : Line :=
  let line := trim raw
  if "m=".toList <+: line then .media
  else if "a=mid:".toList <+: line then .mid (line.drop 6)
  else match stripPrefix "a=candidate:".toList line with
    | some attr => .candidate attr
    | none => .other

def candidateStr (attr : Text) : Text := "candidate:".toList ++ attr

/-- Whether a candidate is handed over: it names no mDNS host and is long enough. -/
def Injected (attr : Text) : Prop := ¬ ".local".toList <:+: candidateStr attr ∧ 8 ≤ countFields attr

instance (attr : Text) : Decidable (Injected attr) := inferInstanceAs (Decidable (_ ∧ _))

/-- The loop, which adds to a `u16`. -/
def injectLines : List Line → Nat → Option Text → List RTCIceCandidateInit
  | [], _, _ => []
  | .media :: rest, mline_index, mid =>
    if 0 < mline_index ∨ mid.isSome then injectLines rest ((mline_index + 1) % 2 ^ 16) none
    else injectLines rest mline_index mid
  | .mid value :: rest, mline_index, _ => injectLines rest mline_index (some value)
  | .candidate attr :: rest, mline_index, mid =>
    if Injected attr then
      { candidate := candidateStr attr
        sdp_mid := mid
        sdp_mline_index := some mline_index
        username_fragment := none } :: injectLines rest mline_index mid
    else injectLines rest mline_index mid
  | .other :: rest, mline_index, mid => injectLines rest mline_index mid

/-- The candidates given to `add_ice_candidate`, whose errors are only counted. -/
def injectNonMdnsCandidates (sdp : Text) : List RTCIceCandidateInit :=
  injectLines ((lines sdp).map Line.of) 0 none

/-! ## Where a line stands -/

/-- What is above a line: the media lines, the mid of its section, and whether there is
a mid before the first section and in it. -/
structure Above where
  sections : Nat
  mid : Option Text
  sessionMid : Bool
  firstMid : Bool
  deriving DecidableEq

namespace Above

def top : Above := ⟨0, none, false, false⟩

def below (above : Above) : Line → Above
  | .media => { above with sections := above.sections + 1, mid := none }
  | .mid value =>
    { above with
      mid := some value
      sessionMid := above.sessionMid || above.sections == 0
      firstMid := above.firstMid || above.sections == 1 }
  | .candidate _ => above
  | .other => above

end Above

/-- The candidates to hand over, each with what is above it. -/
def offered : List Line → Above → List (Text × Above)
  | [], _ => []
  | .candidate attr :: rest, above =>
    if Injected attr then (candidateStr attr, above) :: offered rest above
    else offered rest above
  | line :: rest, above => offered rest (above.below line)

/-- A candidate of a section is handed over with the section's position and mid. -/
def Placed (init : RTCIceCandidateInit) (place : Text × Above) : Prop :=
  init.candidate = place.1 ∧
    (0 < place.2.sections →
      init.sdp_mline_index = some (place.2.sections - 1) ∧
        ∀ mid, place.2.mid = some mid → init.sdp_mid = some mid)

/-- No mid stands before the first section, and one in it where another follows. There
are no more sections than indices. -/
def Regular (above : Above) : Prop :=
  0 < above.sections → above.sections ≤ 2 ^ 16 ∧ above.sessionMid = false ∧
    (1 < above.sections → above.firstMid = true)

/-! ## The index of the walk -/

/-- The walk's index and mid under what is above. A mid before the first section counts
as a section, and a first section without one does not. -/
structure Tracks (mline_index : Nat) (mid : Option Text) (above : Above) : Prop where
  outside : above.sections = 0 →
    mline_index = 0 ∧ mid = above.mid ∧ above.sessionMid = mid.isSome ∧ above.firstMid = false
  right : 0 < above.sections → Regular above →
    mline_index = above.sections - 1 ∧ mid = above.mid ∧
      (above.sections = 1 → above.firstMid = mid.isSome)
  wrong : 0 < above.sections → ¬ Regular above →
    mline_index + 1 < above.sections ∨
      (mline_index = above.sections ∧ mline_index < 2 ^ 16 ∧ above.sessionMid = true)

theorem tracks_top : Tracks 0 none .top where
  outside := fun _ => ⟨rfl, rfl, rfl, rfl⟩
  right := fun inside _ => absurd inside (Nat.lt_irrefl 0)
  wrong := fun inside _ => absurd inside (Nat.lt_irrefl 0)

/-- The first section. A mid above it has the walk count one section too many. -/
theorem Tracks.first {above : Above} (tracks : Tracks mline_index mid above)
    (outside : above.sections = 0) :
    if 0 < mline_index ∨ mid.isSome then
      Tracks ((mline_index + 1) % 2 ^ 16) none (above.below .media)
    else Tracks mline_index mid (above.below .media) := by
  obtain ⟨rfl, -, sessionMid, firstMid⟩ := tracks.outside outside
  have sections : (above.below .media).sections = 1 := congrArg (· + 1) outside
  have sameSession : (above.below .media).sessionMid = mid.isSome := sessionMid
  cases mid with
  | none =>
    rw [if_neg (by simp)]
    refine ⟨fun none => by omega, fun _ _ => ⟨by omega, rfl, fun _ => firstMid⟩,
      fun _ irregular => absurd (fun _ => ?_) irregular⟩
    exact ⟨by omega, sameSession, fun more => by omega⟩
  | some value =>
    rw [if_pos (.inr rfl)]
    refine ⟨fun none => by omega, fun inside regular => ?_, fun _ _ => .inr ?_⟩
    · exact absurd (sameSession.symm.trans (regular inside).2.1) (by simp)
    · exact ⟨by omega, by omega, sameSession⟩

/-- A later section. Without a mid in the first one the walk stays behind. -/
theorem Tracks.next {above : Above} (tracks : Tracks mline_index mid above)
    (inside : 0 < above.sections) :
    if 0 < mline_index ∨ mid.isSome then
      Tracks ((mline_index + 1) % 2 ^ 16) none (above.below .media)
    else Tracks mline_index mid (above.below .media) := by
  have sections : (above.below .media).sections = above.sections + 1 := rfl
  have sameFirst : (above.below .media).firstMid = above.firstMid := rfl
  have sameSession : (above.below .media).sessionMid = above.sessionMid := rfl
  have wraps := Nat.mod_le (mline_index + 1) (2 ^ 16)
  by_cases regular : Regular above
  · obtain ⟨isIndex, sameMid, firstMid⟩ := tracks.right inside regular
    obtain ⟨fits, noSession, hasFirst⟩ := regular inside
    by_cases counted : 0 < mline_index ∨ mid.isSome
    · have hasFirst : above.firstMid = true := by
        by_cases one : above.sections = 1
        · rw [firstMid one]
          exact counted.resolve_left (by omega)
        · exact hasFirst (by omega)
      rw [if_pos counted]
      refine ⟨fun none => by omega, fun _ regular => ?_, fun _ irregular => .inl ?_⟩
      · have fits := (regular (by omega)).1
        exact ⟨by rw [Nat.mod_eq_of_lt] <;> omega, rfl, fun one => by omega⟩
      · have tooMany : ¬ above.sections + 1 ≤ 2 ^ 16 := fun fits =>
          irregular fun _ => ⟨fits, noSession, fun _ => hasFirst⟩
        have last : mline_index + 1 = 2 ^ 16 := by omega
        rw [last, Nat.mod_self]
        omega
    · obtain ⟨zero, noMid⟩ := not_or.mp counted
      have one : above.sections = 1 := by omega
      have noFirst : (above.below .media).firstMid = false := by
        rw [sameFirst, firstMid one]
        exact eq_false_of_ne_true noMid
      rw [if_neg counted]
      refine ⟨fun none => by omega, fun _ regular => ?_, fun _ _ => .inl (by omega)⟩
      have hasFirst := (regular (by omega)).2.2 (by omega)
      rw [noFirst] at hasFirst
      cases hasFirst
  · have irregular : ¬ Regular (above.below .media) := by
      intro regularBelow
      obtain ⟨fits, noSession, hasFirst⟩ := regularBelow (by omega)
      exact regular fun _ => ⟨by omega, noSession, fun more => hasFirst (by omega)⟩
    obtain behind | ⟨ahead, fits, session⟩ := tracks.wrong inside regular
    · split_ifs
      · exact ⟨fun none => by omega, fun _ regular => absurd regular irregular,
          fun _ _ => .inl (by omega)⟩
      · exact ⟨fun none => by omega, fun _ regular => absurd regular irregular,
          fun _ _ => .inl (by omega)⟩
    · rw [if_pos (.inl (by omega))]
      refine ⟨fun none => by omega, fun _ regular => absurd regular irregular, fun _ _ => ?_⟩
      by_cases last : mline_index + 1 = 2 ^ 16
      · left
        rw [last, Nat.mod_self]
        omega
      · right
        rw [Nat.mod_eq_of_lt (by omega)]
        exact ⟨by omega, by omega, session⟩

theorem Tracks.midLine {above : Above} (tracks : Tracks mline_index mid above) (value : Text) :
    Tracks mline_index (some value) (above.below (.mid value)) := by
  have sections : (above.below (.mid value)).sections = above.sections := rfl
  have isFirst : (above.below (.mid value)).firstMid =
    (above.firstMid || above.sections == 1) := rfl
  have isSession : (above.below (.mid value)).sessionMid =
    (above.sessionMid || above.sections == 0) := rfl
  have sameSession (inside : 0 < above.sections) :
      (above.below (.mid value)).sessionMid = above.sessionMid := by
    rw [isSession, beq_eq_false_iff_ne.mpr (by omega), Bool.or_false]
  have sameRegular : Regular (above.below (.mid value)) ↔ Regular above := by
    rw [Regular, Regular, sections]
    refine imp_congr_right fun inside => ?_
    rw [sameSession inside, isFirst]
    refine and_congr_right fun _ => and_congr_right fun _ => imp_congr_right fun more => ?_
    rw [beq_eq_false_iff_ne.mpr (by omega), Bool.or_false]
  constructor
  · intro outside
    rw [sections] at outside
    obtain ⟨zero, -, -, noFirst⟩ := tracks.outside outside
    refine ⟨zero, rfl, ?_, ?_⟩
    · rw [isSession, outside]
      simp
    · rw [isFirst, noFirst, outside]
      rfl
  · intro inside regular
    obtain ⟨isIndex, -, -⟩ := tracks.right inside (sameRegular.mp regular)
    refine ⟨isIndex, rfl, fun one => ?_⟩
    rw [sections] at one
    rw [isFirst, one]
    simp
  · intro inside irregular
    obtain behind | ⟨ahead, fits, session⟩ :=
      tracks.wrong inside (mt sameRegular.mpr irregular)
    · exact .inl behind
    · exact .inr ⟨ahead, fits, (sameSession inside).trans session⟩

/-- A candidate is placed well exactly where the walk's index is right. -/
theorem Tracks.placed_iff {above : Above} (tracks : Tracks mline_index mid above)
    (candidate : Text) :
    Placed ⟨candidate, mid, some mline_index, none⟩ (candidate, above) ↔ Regular above := by
  constructor
  · intro placed
    by_contra irregular
    have inside : 0 < above.sections := by
      by_contra outside
      exact irregular fun inside => absurd inside outside
    have isIndex : mline_index = above.sections - 1 := Option.some.inj (placed.2 inside).1
    obtain behind | ⟨ahead, -, -⟩ := tracks.wrong inside irregular <;> omega
  · intro regular
    refine ⟨rfl, fun inside => ?_⟩
    obtain ⟨isIndex, sameMid, -⟩ := tracks.right inside regular
    exact ⟨congrArg some isIndex, fun value isMid => sameMid.trans isMid⟩

theorem placed_iff_regular (lines : List Line) (tracks : Tracks mline_index mid above) :
    List.Forall₂ Placed (injectLines lines mline_index mid) (offered lines above) ↔
      ∀ place ∈ offered lines above, Regular place.2 := by
  induction lines generalizing mline_index mid above with
  | nil => exact iff_of_true .nil fun _ member => absurd member List.not_mem_nil
  | cons line rest ih =>
    cases line with
    | media =>
      have moved : if 0 < mline_index ∨ mid.isSome then
          Tracks ((mline_index + 1) % 2 ^ 16) none (above.below .media)
        else Tracks mline_index mid (above.below .media) := by
        by_cases outside : above.sections = 0
        · exact tracks.first outside
        · exact tracks.next (Nat.pos_of_ne_zero outside)
      rw [injectLines, offered]
      split_ifs at moved ⊢
      · exact ih moved
      · exact ih moved
      · exact fun _ same => by cases same
    | mid value =>
      rw [injectLines, offered]
      · exact ih (tracks.midLine value)
      · exact fun _ same => by cases same
    | candidate attr =>
      rw [injectLines, offered]
      split_ifs
      · rw [List.forall₂_cons, List.forall_mem_cons, ih tracks]
        exact and_congr_left fun _ => tracks.placed_iff (candidateStr attr)
      · exact ih tracks
    | other =>
      rw [injectLines, offered]
      · exact ih tracks
      · exact fun _ same => by cases same

/-- The candidates of a description are handed over in order, each with its section's
index and mid, exactly where no candidate's section is one the walk miscounts. -/
theorem candidates_placed_iff (sdp : Text) :
    List.Forall₂ Placed (injectNonMdnsCandidates sdp) (offered ((lines sdp).map Line.of) .top) ↔
      ∀ place ∈ offered ((lines sdp).map Line.of) .top, Regular place.2 :=
  placed_iff_regular _ tracks_top

/-- The first of two sections has no mid. -/
def midlessFirst : Text :=
  "m=audio 9\r\nm=video 9\r\na=mid:1\r\na=candidate:1 1 udp 1 192.168.1.5 5000 typ host\r\n".toList

/-- The second section's candidate goes to the first. -/
theorem midless_first_misplaces :
    ¬ List.Forall₂ Placed (injectNonMdnsCandidates midlessFirst)
      (offered ((lines midlessFirst).map Line.of) .top) := by
  have handed : injectNonMdnsCandidates midlessFirst =
      [⟨"candidate:1 1 udp 1 192.168.1.5 5000 typ host".toList, some ['1'], some 0, none⟩] := by
    decide
  have stands : offered ((lines midlessFirst).map Line.of) .top =
      [("candidate:1 1 udp 1 192.168.1.5 5000 typ host".toList, ⟨2, some ['1'], false, false⟩)] := by
    decide
  rw [handed, stands, List.forall₂_cons]
  intro placed
  have isIndex := Option.some.inj (placed.1.2 Nat.zero_lt_two).1
  cases isIndex

end MoonlightWeb.Streamer.CandidateInjection

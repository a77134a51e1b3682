import MoonlightWeb.Lib.Machine
import MoonlightWeb.Lib.Throwing
import MoonlightWeb.MoonlightCommon.Pair

/-! Starting a stream. The process has one connection at a time, which a flag stands
for: a start claims it, and the stream it makes gives it back when it is dropped. -/
namespace MoonlightWeb.MoonlightCommon
open Throwing Machine

abbrev Text := List Char

/-- `Display` of an integer. -/
def displayInt (number : Int) : Text :=
  if number < 0 then '-' :: Nat.toDigits 10 number.natAbs else Nat.toDigits 10 number.natAbs

def ServerVersion.display (version : ServerVersion) : Text :=
  displayInt version.major.toInt ++ '.' :: (displayInt version.minor.toInt ++
    '.' :: (displayInt version.patch.toInt ++ '.' :: displayInt version.miniPatch.toInt))

/-- The texts that are handed to the C library. -/
structure ServerInfo where
  address : Text
  appVersion : ServerVersion
  gfeVersion : Text
  rtspSessionUrl : Text

inductive MoonlightError where
  | connectionAlreadyExists
  | stringNulError
  | connectionFailed
  deriving DecidableEq

/-- `globals` tells that the listener and the decoders are set. -/
structure Handle where
  connectionExists : Bool
  globals : Bool
  deriving DecidableEq

namespace MoonlightStream

abbrev Start := Action MoonlightError Handle

def nul : Char := '\x00'

/-- `CString::from_str(..)?` -/
def cString (text : Text) : Start PUnit :=
  if nul ∈ text then throw .stringNulError else pure ⟨⟩

/-- `Drop` of a stream. -/
def dropped (handle : Handle) : Handle :=
  { handle with connectionExists := false, globals := false }

/-- `result` is what `LiStartConnection` returns. The stream is made once the texts are
converted, and is dropped where the connection fails. -/
def start (info : ServerInfo) (result : Int) : Start PUnit := do
  let handle ← get
  if handle.connectionExists then throw .connectionAlreadyExists
  modify fun handle => { handle with connectionExists := true }
  cString info.address
  cString info.appVersion.display
  cString info.gfeVersion
  cString info.rtspSessionUrl
  modify fun handle => { handle with globals := true }
  if result ≠ 0 then
    modify dropped
    throw .connectionFailed

/-! ## Texts -/

theorem nul_not_mem_displayInt (number : Int) : nul ∉ displayInt number := by
  have digits : nul ∉ Nat.toDigits 10 number.natAbs := fun member =>
    absurd (Nat.isDigit_of_mem_toDigits (by decide) (by decide) member) (by decide)
  rw [displayInt]
  split_ifs
  · rw [List.mem_cons, not_or]
    exact ⟨by decide, digits⟩
  · exact digits

/-- A version never has a NUL. -/
theorem nul_not_mem_display (version : ServerVersion) : nul ∉ version.display := by
  simp only [ServerVersion.display, List.mem_append, List.mem_cons, not_or]
  have dot : nul ≠ '.' := by decide
  exact ⟨nul_not_mem_displayInt _, dot, nul_not_mem_displayInt _, dot,
    nul_not_mem_displayInt _, dot, nul_not_mem_displayInt _⟩

/-- No text of the information has a NUL inside. -/
def NoNul (info : ServerInfo) : Prop :=
  nul ∉ info.address ∧ nul ∉ info.gfeVersion ∧ nul ∉ info.rtspSessionUrl

instance (info : ServerInfo) : Decidable (NoNul info) := inferInstanceAs (Decidable (_ ∧ _))

/-! ## Claiming the connection -/

theorem perform_cString_bind (text : Text) (next : PUnit → Start PUnit) (handle : Handle) :
    perform (cString text >>= next) handle =
      if nul ∈ text then (.error .stringNulError, handle) else perform (next ⟨⟩) handle := by
  rw [cString]
  split_ifs
  · exact perform_bind_error (perform_throw _ _)
  · exact perform_bind_ok (perform_pure _ _)

/-- All that a start can do. -/
theorem perform_start (info : ServerInfo) (result : Int) (handle : Handle) :
    perform (start info result) handle =
      if handle.connectionExists then (.error .connectionAlreadyExists, handle)
      else if NoNul info then
        if result ≠ 0 then (.error .connectionFailed, ⟨false, false⟩)
        else (.ok ⟨⟩, ⟨true, true⟩)
      else (.error .stringNulError, { handle with connectionExists := true }) := by
  rw [start, perform_get_bind]
  by_cases claimed : handle.connectionExists = true
  · simp only [if_pos claimed]
    rfl
  · simp only [if_neg claimed]
    rw [perform_bind_ok (perform_modify _ _),
      perform_cString_bind, perform_cString_bind, if_neg (nul_not_mem_display _),
      perform_cString_bind, perform_cString_bind, perform_bind_ok (perform_modify _ _)]
    by_cases address : nul ∈ info.address
    · rw [if_pos address, if_neg fun noNul => noNul.1 address]
    · rw [if_neg address]
      by_cases gfeVersion : nul ∈ info.gfeVersion
      · rw [if_pos gfeVersion, if_neg fun noNul => noNul.2.1 gfeVersion]
      · rw [if_neg gfeVersion]
        by_cases rtspSessionUrl : nul ∈ info.rtspSessionUrl
        · rw [if_pos rtspSessionUrl, if_neg fun noNul => noNul.2.2 rtspSessionUrl]
        · have noNul : NoNul info := ⟨address, gfeVersion, rtspSessionUrl⟩
          rw [if_neg rtspSessionUrl]
          by_cases failed : result ≠ 0
          · simp only [if_pos failed, if_pos noNul]
            rfl
          · simp only [if_neg failed, if_pos noNul]
            rfl

/-- After an error of its own a start leaves the connection free, and the next one may
succeed. -/
def LeavesFree (info : ServerInfo) (result : Int) (handle : Handle) : Prop :=
  ∀ error after, perform (start info result) handle = (.error error, after) →
    error ≠ .connectionAlreadyExists →
      after.connectionExists = false ∧
        ∀ other, NoNul other → (perform (start other 0) after).1 = .ok ⟨⟩

theorem start_of_free {handle : Handle} (free : handle.connectionExists = false)
    (noNul : NoNul info) : (perform (start info 0) handle).1 = .ok ⟨⟩ := by
  rw [perform_start, free, if_neg Bool.false_ne_true, if_pos noNul]
  rfl

/-- A start leaves the connection free after its errors exactly where it has no NUL to
convert once it has claimed the connection. -/
theorem start_leaves_free_iff (info : ServerInfo) (result : Int) (handle : Handle) :
    LeavesFree info result handle ↔ handle.connectionExists = true ∨ NoNul info := by
  rw [LeavesFree, perform_start]
  constructor
  · intro leavesFree
    by_contra neither
    obtain ⟨free, hasNul⟩ := not_or.mp neither
    rw [if_neg free, if_neg hasNul] at leavesFree
    have freed := (leavesFree .stringNulError _ rfl (by decide)).1
    cases freed
  · intro either error after ended notTaken
    by_cases taken : handle.connectionExists = true
    · rw [if_pos taken] at ended
      cases ended
      exact absurd rfl notTaken
    · rw [if_neg taken, if_pos (either.resolve_left taken)] at ended
      split_ifs at ended
      · cases ended
        exact ⟨rfl, fun other noNul => start_of_free rfl noNul⟩
      · cases ended

def nulInGfeVersion : ServerInfo where
  address := "192.168.1.5".toList
  appVersion := ⟨7, 1, 431, -1⟩
  gfeVersion := ['3', nul]
  rtspSessionUrl := "rtsp://192.168.1.5:48010".toList

/-- The flag stays set with no stream to clear it. -/
theorem nul_keeps_connection : ¬ LeavesFree nulInGfeVersion 0 ⟨false, false⟩ := by
  intro leavesFree
  have hasNul : ¬ NoNul nulInGfeVersion := by decide
  have ended : perform (start nulInGfeVersion 0) ⟨false, false⟩ =
      (.error .stringNulError, ⟨true, false⟩) := by
    rw [perform_start, if_neg Bool.false_ne_true, if_neg hasNul]
  have freed := (leavesFree .stringNulError _ ended (by decide)).1
  cases freed

/-! ## Processes -/

/-- The handle with the streams that were started and not dropped. -/
structure Process where
  handle : Handle
  streams : Nat

namespace Process

inductive Event where
  | start (info : ServerInfo) (result : Int)
  | stop

def step (process : Process) : Event → Option Process
  | .start info result =>
    match perform (MoonlightStream.start info result) process.handle with
    | (.ok _, handle) => some ⟨handle, process.streams + 1⟩
    | (.error _, handle) => some ⟨handle, process.streams⟩
  | .stop =>
    if 0 < process.streams then some ⟨dropped process.handle, process.streams - 1⟩ else none

/-- The flag stands for the one stream there is. -/
def Owned (process : Process) : Prop :=
  process.streams = if process.handle.connectionExists then 1 else 0

def StartsWithoutNul : Event → Prop
  | .start info _ => NoNul info
  | .stop => True

theorem owned_step {process next : Process} (owned : process.Owned)
    (noNul : StartsWithoutNul event) (taken : process.step event = some next) : next.Owned := by
  cases event with
  | start info result =>
    have noNul : NoNul info := noNul
    rw [step, perform_start] at taken
    by_cases claimed : process.handle.connectionExists = true
    · simp only [if_pos claimed, Option.some.injEq] at taken
      exact taken ▸ owned
    · rw [Owned, if_neg claimed] at owned
      simp only [if_neg claimed, if_pos noNul, owned] at taken
      split_ifs at taken <;> cases taken <;> rfl
  | stop =>
    rw [step] at taken
    rw [Owned] at owned
    split_ifs at taken with some
    cases taken
    rw [Owned]
    split_ifs at owned
    · rw [owned]
      rfl
    · omega

/-- As long as no start has a NUL to convert, the connection is taken exactly while a
stream is there. -/
theorem owned_run {process final : Process} (owned : process.Owned)
    (noNul : ∀ event ∈ events, StartsWithoutNul event)
    (ran : run step process events = some final) : final.Owned :=
  run_preserves_of noNul (fun _ _ _ noNul owned taken => owned_step owned noNul taken) owned ran

end Process

end MoonlightStream

end MoonlightWeb.MoonlightCommon

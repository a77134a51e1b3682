import Mathlib.Data.List.Infix
import MoonlightWeb.MoonlightCommon.Host

/-! Whether a host can stream a resolution. The checks ask the host for its codecs, its
software and the version of GeForce Experience, and compare them with the formats the
client decodes. -/
namespace MoonlightWeb.MoonlightCommon
open Throwing

/-- `SupportedVideoFormats` of the bindings, with its raw bits. -/
structure SupportedVideoFormats where
  bits : BitVec 32
  deriving DecidableEq

namespace SupportedVideoFormats

def MASK_H264 : SupportedVideoFormats := ⟨0x000F⟩

def MASK_H265 : SupportedVideoFormats := ⟨0x0F00⟩

def MASK_AV1 : SupportedVideoFormats := ⟨0xF000⟩

def MASK_10BIT : SupportedVideoFormats := ⟨0xAA00⟩

def MASK_YUV444 : SupportedVideoFormats := ⟨0xCC04⟩

/-- Every flag has its bits in one of the masks. -/
def all : SupportedVideoFormats :=
  ⟨MASK_H264.bits ||| MASK_H265.bits ||| MASK_AV1.bits ||| MASK_10BIT.bits ||| MASK_YUV444.bits⟩

def contains (formats other : SupportedVideoFormats) : Bool :=
  formats.bits &&& other.bits == other.bits

/-- `!`, which keeps to the bits that are flags. -/
def complement (formats : SupportedVideoFormats) : SupportedVideoFormats :=
  ⟨~~~formats.bits &&& all.bits⟩

/-- Some HEVC or AV1 format is there. -/
def hasHevcOrAv1 (formats : SupportedVideoFormats) : Bool :=
  formats.bits &&& (MASK_H265.bits ||| MASK_AV1.bits) != 0

/-- Every HEVC and AV1 format is there. -/
def hasAllHevcAndAv1 (formats : SupportedVideoFormats) : Bool :=
  formats.bits &&& (MASK_H265.bits ||| MASK_AV1.bits) == MASK_H265.bits ||| MASK_AV1.bits

theorem contains_complement (formats : SupportedVideoFormats) :
    formats.contains MASK_H264.complement = formats.hasAllHevcAndAv1 := by
  have others : MASK_H264.complement.bits = MASK_H265.bits ||| MASK_AV1.bits := by decide
  rw [contains, hasAllHevcAndAv1, others]

theorem hasHevcOrAv1_of_all {formats : SupportedVideoFormats}
    (every : formats.hasAllHevcAndAv1 = true) : formats.hasHevcOrAv1 = true := by
  rw [hasAllHevcAndAv1, beq_iff_eq] at every
  rw [hasHevcOrAv1, every]
  decide

end SupportedVideoFormats

/-- The codecs of a host, with the bits that are flags. -/
structure ServerCodeModeSupport where
  bits : UInt32
  deriving DecidableEq

namespace ServerCodeModeSupport

def all : ServerCodeModeSupport := ⟨0x7F0301⟩

def HEVC_MAIN10 : ServerCodeModeSupport := ⟨0x200⟩

def fromBitsTruncate (bits : UInt32) : ServerCodeModeSupport := ⟨bits &&& all.bits⟩

def contains (support other : ServerCodeModeSupport) : Bool :=
  support.bits &&& other.bits == other.bits

end ServerCodeModeSupport

inductive StreamConfigError where
  | notSupportedHdr
  | notSupported4k
  | notSupported4kCodecMissing
  | notSupported4kUpdateGfe
  deriving DecidableEq

namespace HostInfo

/-- The codename of NVIDIA's own software is in the state. -/
def isNvidiaSoftware (info : HostInfo) : Bool :=
  "Mjolnir".toList <:+: info.stateString.toList

def is4kSupported (info : HostInfo) : Bool :=
  (ServerCodeModeSupport.fromBitsTruncate info.serverCodecModeSupport).contains .HEVC_MAIN10 ||
    !info.isNvidiaSoftware

/-- Versions 2 lack it. -/
def is4kSupportedGfe (info : HostInfo) : Bool := !decide ("2.".toList <+: info.gfeVersion.toList)

end HostInfo

namespace MoonlightHost

variable {Client RequestError : Type}

def isNvidiaSoftware (answers : InfoAnswers RequestError) :
    HostAction Client RequestError Bool := do
  let info ← hostInfo answers
  pure info.isNvidiaSoftware

def serverCodecModeSupport (answers : InfoAnswers RequestError) :
    HostAction Client RequestError ServerCodeModeSupport := do
  let info ← hostInfo answers
  pure (.fromBitsTruncate info.serverCodecModeSupport)

def gfeVersion (answers : InfoAnswers RequestError) : HostAction Client RequestError String := do
  let info ← hostInfo answers
  pure info.gfeVersion

def is4kSupported (answers : InfoAnswers RequestError) : HostAction Client RequestError Bool := do
  let isNvidia ← isNvidiaSoftware answers
  let support ← serverCodecModeSupport answers
  pure (support.contains .HEVC_MAIN10 || !isNvidia)

def is4kSupportedGfe (answers : InfoAnswers RequestError) :
    HostAction Client RequestError Bool := do
  let gfe ← gfeVersion answers
  pure (!decide ("2.".toList <+: gfe.toList))

/-- `&&` in front of a request. -/
def andThen (first : Bool) (second : HostAction Client RequestError Bool) :
    HostAction Client RequestError Bool :=
  if first then second else pure false

/-- `resolution_above_4k` -/
def Above4k (width height : Nat) : Prop := 4096 < width ∨ 4096 < height

instance (width height : Nat) : Decidable (Above4k width height) :=
  inferInstanceAs (Decidable (_ ∨ _))

/-- The error of the stream's configuration is apart from those of the requests. -/
def isResolutionSupported (answers : InfoAnswers RequestError) (width height : Nat)
    (formats : SupportedVideoFormats) :
    HostAction Client RequestError (Except StreamConfigError Unit) := do
  let resolutionAbove4k := decide (Above4k width height)
  let unsupported ← andThen resolutionAbove4k do
    let supported ← is4kSupported answers
    pure !supported
  if unsupported then pure (.error .notSupported4k)
  else if resolutionAbove4k && formats.contains SupportedVideoFormats.MASK_H264.complement then
    pure (.error .notSupported4kCodecMissing)
  else do
    let supportedGfe ← andThen (decide (2160 < height)) (is4kSupportedGfe answers)
    if supportedGfe then pure (.error .notSupported4kUpdateGfe) else pure (.ok ⟨⟩)

/-! ## Information that is there -/

/-- The host gives this information without error. -/
def Informs (answers : InfoAnswers RequestError) (info : HostInfo) (host : MoonlightHost Client) :
    Prop := (perform (hostInfo answers) host).1 = .ok info

theorem serve_eq_ok {host after : MoonlightHost Client}
    (served : perform (serve : HostAction Client RequestError HostInfo) host = (.ok info, after)) :
    ∃ cached, after.cacheInfo = some cached ∧ cached.info = info := by
  cases isCached : host.cacheInfo with
  | none =>
    rw [serve, perform_get_bind, isCached] at served
    cases served
  | some cached =>
    cases (perform_serve isCached).symm.trans served
    exact ⟨cached, isCached, rfl⟩

/-- What was given is cached. -/
theorem hostInfo_eq_ok {host after : MoonlightHost Client}
    (given : perform (hostInfo answers : HostAction Client RequestError HostInfo) host =
      (.ok info, after)) : ∃ cached, after.cacheInfo = some cached ∧ cached.info = info := by
  rw [hostInfo, perform_get_bind] at given
  obtain ⟨_, middle, -, given⟩ := perform_bind_eq_ok.mp given
  split_ifs at given
  · exact serve_eq_ok given
  · obtain ⟨_, contacted, -, given⟩ := perform_bind_eq_ok.mp given
    obtain ⟨_, authenticated, -, given⟩ := perform_bind_eq_ok.mp given
    exact serve_eq_ok given
  · obtain ⟨_, contacted, -, given⟩ := perform_bind_eq_ok.mp given
    exact serve_eq_ok given

/-- A request of the information goes on with it, and leaves it there. -/
theorem Informs.bind {host : MoonlightHost Client} (informs : Informs answers info host)
    (next : HostInfo → HostAction Client RequestError α) :
    ∃ after, Informs answers info after ∧
      perform (hostInfo answers >>= next) host = perform (next info) after := by
  obtain ⟨after, given⟩ : ∃ after, perform (hostInfo answers) host = (.ok info, after) :=
    ⟨_, Prod.ext informs rfl⟩
  obtain ⟨cached, isCached, rfl⟩ := hostInfo_eq_ok given
  refine ⟨after, ?_, perform_bind_ok given⟩
  rw [Informs, hostInfo_cached isCached]

theorem Informs.is4kSupported {answers : InfoAnswers RequestError} {host : MoonlightHost Client}
    (informs : Informs answers info host) :
    ∃ after, Informs answers info after ∧
      perform (MoonlightHost.is4kSupported answers) host = (.ok info.is4kSupported, after) := by
  obtain ⟨asked, informs, isNvidia⟩ := informs.bind fun info =>
    (pure info.isNvidiaSoftware : HostAction Client RequestError Bool)
  obtain ⟨after, informs, support⟩ := informs.bind fun info =>
    (pure (.fromBitsTruncate info.serverCodecModeSupport) :
      HostAction Client RequestError ServerCodeModeSupport)
  refine ⟨after, informs, ?_⟩
  rw [MoonlightHost.is4kSupported, MoonlightHost.isNvidiaSoftware, perform_bind_ok isNvidia,
    MoonlightHost.serverCodecModeSupport, perform_bind_ok support]
  rfl

theorem Informs.is4kSupportedGfe {answers : InfoAnswers RequestError}
    {host : MoonlightHost Client}
    (informs : Informs answers info host) :
    ∃ after, Informs answers info after ∧
      perform (MoonlightHost.is4kSupportedGfe answers) host =
        (.ok info.is4kSupportedGfe, after) := by
  obtain ⟨after, informs, gfe⟩ := informs.bind fun info =>
    (pure info.gfeVersion : HostAction Client RequestError String)
  refine ⟨after, informs, ?_⟩
  rw [MoonlightHost.is4kSupportedGfe, MoonlightHost.gfeVersion, perform_bind_ok gfe]
  rfl

/-- A request behind `&&` is made only where the first operand holds. -/
theorem Informs.andThen {answers : InfoAnswers RequestError} {host : MoonlightHost Client}
    (informs : Informs answers info host) (first : Bool)
    {second : HostAction Client RequestError Bool}
    (asks : ∃ after, Informs answers info after ∧ perform second host = (.ok value, after)) :
    ∃ after, Informs answers info after ∧
      perform (MoonlightHost.andThen first second) host = (.ok (first && value), after) := by
  obtain ⟨after, informsAfter, ran⟩ := asks
  cases first with
  | true => exact ⟨after, informsAfter, ran⟩
  | false => exact ⟨host, informs, rfl⟩

end MoonlightHost

/-! ## The answer -/

open MoonlightHost in
/-- What the checks make of the information. -/
def resolutionResult (info : HostInfo) (width height : Nat) (formats : SupportedVideoFormats) :
    Except StreamConfigError Unit :=
  if Above4k width height ∧ info.is4kSupported = false then .error .notSupported4k
  else if Above4k width height ∧ formats.hasAllHevcAndAv1 then .error .notSupported4kCodecMissing
  else if 2160 < height ∧ info.is4kSupportedGfe then .error .notSupported4kUpdateGfe
  else .ok ⟨⟩

namespace MoonlightHost

variable {Client RequestError : Type}

theorem perform_isResolutionSupported {answers : InfoAnswers RequestError}
    {host : MoonlightHost Client} (informs : Informs answers info host) (width height : Nat)
    (formats : SupportedVideoFormats) :
    (perform (isResolutionSupported answers width height formats) host).1 =
      .ok (resolutionResult info width height formats) := by
  have lacks4k : ∃ after, Informs answers info after ∧
      perform (do
        let supported ← is4kSupported answers
        pure !supported : HostAction Client RequestError Bool) host =
        (.ok !info.is4kSupported, after) := by
    obtain ⟨after, informsAfter, asked⟩ := informs.is4kSupported
    exact ⟨after, informsAfter, perform_bind_ok asked⟩
  obtain ⟨asked, informsAsked, first⟩ := informs.andThen (decide (Above4k width height)) lacks4k
  obtain ⟨after, -, second⟩ := informsAsked.andThen (decide (2160 < height))
    informsAsked.is4kSupportedGfe
  rw [isResolutionSupported, perform_bind_ok first, SupportedVideoFormats.contains_complement,
    resolutionResult]
  by_cases unsupported : Above4k width height ∧ info.is4kSupported = false
  · rw [if_pos unsupported, if_pos (by simpa using unsupported)]
    rfl
  · rw [if_neg unsupported, if_neg (by simpa using unsupported)]
    by_cases missing : Above4k width height ∧ formats.hasAllHevcAndAv1 = true
    · rw [if_pos missing, if_pos (by simpa using missing)]
      rfl
    · rw [if_neg missing, if_neg (by simpa using missing), perform_bind_ok second]
      by_cases outdated : 2160 < height ∧ info.is4kSupportedGfe = true
      · rw [if_pos outdated, if_pos (by simpa using outdated)]
        rfl
      · rw [if_neg outdated, if_neg (by simpa using outdated)]
        rfl

/-- The resolution is one that host and client can stream, and the host is asked for an
update only where one would help. -/
def Decides (result : Except (Stop (HostError RequestError)) (Except StreamConfigError Unit))
    (info : HostInfo) (width height : Nat) (formats : SupportedVideoFormats) : Prop :=
  (result = .ok (.ok ⟨⟩) ↔
    (¬ Above4k width height ∨ (info.is4kSupported = true ∧ formats.hasHevcOrAv1 = true)) ∧
      ¬ (2160 < height ∧ info.is4kSupportedGfe = false)) ∧
    (result = .ok (.error .notSupported4kUpdateGfe) → info.is4kSupportedGfe = false)

/-- Where the two inverted tests do not show. -/
def TestsAgree (info : HostInfo) (width height : Nat) (formats : SupportedVideoFormats) : Prop :=
  (Above4k width height ∧ info.is4kSupported = false) ∨
    (¬ Above4k width height ∧ height ≤ 2160) ∨
    (formats.hasHevcOrAv1 = true ∧ formats.hasAllHevcAndAv1 = false ∧ height ≤ 2160) ∨
    (Above4k width height ∧ formats.hasAllHevcAndAv1 = true ∧ 2160 < height ∧
      info.is4kSupportedGfe = false)

theorem decides_iff_testsAgree (info : HostInfo) (width height : Nat)
    (formats : SupportedVideoFormats) :
    Decides (.ok (resolutionResult info width height formats) :
        Except (Stop (HostError RequestError)) (Except StreamConfigError Unit)) info width height
      formats ↔ TestsAgree info width height formats := by
  have everyIsSome : formats.hasAllHevcAndAv1 = true → formats.hasHevcOrAv1 = true :=
    SupportedVideoFormats.hasHevcOrAv1_of_all
  rw [Decides, TestsAgree, resolutionResult]
  have tall : height ≤ 2160 ↔ ¬ 2160 < height := not_lt.symm
  rw [tall]
  by_cases above : Above4k width height <;> by_cases high : 2160 < height <;>
    cases info.is4kSupported <;> cases info.is4kSupportedGfe <;>
    cases every : formats.hasAllHevcAndAv1 <;> cases some : formats.hasHevcOrAv1 <;>
    simp_all

/-- With the host's information at hand the check is right exactly where the two inverted
tests do not show. -/
theorem resolution_decided_iff {answers : InfoAnswers RequestError} {host : MoonlightHost Client}
    (informs : Informs answers info host) (width height : Nat) (formats : SupportedVideoFormats) :
    Decides (perform (isResolutionSupported answers width height formats) host).1 info width
      height formats ↔ TestsAgree info width height formats := by
  rw [perform_isResolutionSupported informs]
  exact decides_iff_testsAgree info width height formats

/-- A host that runs GeForce Experience 3. -/
def gfeInfo : HostInfo where
  hostName := "host"
  appVersion := ⟨7, 1, 431, 0⟩
  gfeVersion := "3.23.0.74"
  uniqueId := 0
  httpsPort := 47984
  externalPort := 47989
  maxLumaPixelsHevc := 1869449984
  mac := none
  localIp := "192.168.1.5"
  serverCodecModeSupport := 0x301
  pairStatus := .paired
  currentGame := 0
  stateString := "Mjolnir_SERVER_FREE"
  state := .free

def gfeHost : MoonlightHost Unit where
  client := ⟨⟩
  address := "192.168.1.5"
  httpPort := 47989
  triedConnect := false
  cacheInfo := some ⟨.https, gfeInfo⟩
  paired := none
  served := []

def noAnswers : InfoAnswers Unit := ⟨.ok gfeInfo, .ok gfeInfo⟩

theorem informs_gfeHost : Informs noAnswers gfeInfo gfeHost := by
  rw [Informs, hostInfo_cached (show gfeHost.cacheInfo = some ⟨.https, gfeInfo⟩ from rfl)]

theorem resolution_decided_gfeHost :
    Decides (perform (isResolutionSupported noAnswers 3840 2160 .MASK_H264) gfeHost).1 gfeInfo
      3840 2160 .MASK_H264 ↔ TestsAgree gfeInfo 3840 2160 .MASK_H264 :=
  resolution_decided_iff informs_gfeHost 3840 2160 .MASK_H264

/-- A current version of GeForce Experience is asked to be updated. -/
theorem tall_resolution_refused :
    ¬ Decides (perform (isResolutionSupported noAnswers 3840 2400 .MASK_H265) gfeHost).1 gfeInfo
      3840 2400 .MASK_H265 := by
  have current : gfeInfo.is4kSupportedGfe = true := by decide
  have refused : resolutionResult gfeInfo 3840 2400 .MASK_H265 =
      .error .notSupported4kUpdateGfe := rfl
  rw [perform_isResolutionSupported informs_gfeHost, refused, Decides]
  intro decides
  rw [decides.2 rfl] at current
  cases current

end MoonlightHost

end MoonlightWeb.MoonlightCommon

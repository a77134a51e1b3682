import Mathlib.Data.Int.ModEq
import MoonlightWeb.Streamer.Video

/-! The RTP timestamps of a stream of video frames. The host's packets carry the time of
their frame, or the time is made up from when they came in; it becomes a presentation
time in milliseconds, and this the timestamp of the frame's packets on the track. -/
namespace MoonlightWeb.Streamer.Timestamps
open Video

/-! ## Presentation times -/

def ptsDivisor : UInt32 := 90

/-- What the depacketizer reads of the first packet of a frame. -/
structure FirstPacket where
  timestamp : UInt32
  receiveTimeMs : UInt64
  frameIndex : UInt32

/-- The presentation time of a frame. Hosts that send no valid one get the time since the
first frame came in. -/
def firstPacketPresentationTime (syntheticPtsBase : UInt64) (packet : FirstPacket) : UInt32 :=
  let presentationTimeMs := packet.timestamp / ptsDivisor
  if presentationTimeMs = 0 ∧ 0 < packet.frameIndex then
    (packet.receiveTimeMs - syntheticPtsBase).toUInt32
  else presentationTimeMs

/-- A frame on its way to the decoder, with its NAL units. -/
structure Frame where
  first : FirstPacket
  nals : List (List UInt8)

structure VideoDecodeUnit where
  presentationTimeMs : UInt32
  nals : List (List UInt8)

/-- The decode units of the frames. A base of 0 is one not set yet. -/
def decodeUnits : UInt64 → List Frame → List VideoDecodeUnit
  | _, [] => []
  | syntheticPtsBase, frame :: rest =>
    let base := if syntheticPtsBase = 0 then frame.first.receiveTimeMs else syntheticPtsBase
    ⟨firstPacketPresentationTime base frame.first, frame.nals⟩ :: decodeUnits base rest

/-! ## The decoder of the track -/

inductive DecodeResult where
  | ok
  | needIdr
  deriving DecidableEq

structure TrackSampleVideoDecoder (σ : Type) where
  clockRate : UInt32
  payloader : σ
  needsIdr : Bool

inductive VideoFormat where
  | h264
  | h264High8_444
  | h265
  | h265Main10
  | h265Rext8_444
  | h265Rext10_444
  | av1Main8
  | av1Main10
  | av1High8_444
  | av1High10_444
  deriving DecidableEq

/-- The clock rate of the codec, which the decoder takes at its setup. -/
def videoFormatToCodec : VideoFormat → Option UInt32
  | .h264 | .h264High8_444 => some 90000
  | .h265 | .h265Main10 | .h265Rext8_444 | .h265Rext10_444 => some 90000
  | .av1Main8 | .av1Main10 | .av1High8_444 | .av1High10_444 => some 90000

/-- The ticks of the clock up to a time, with the fraction cut off. -/
def ticks (clockRate presentationTimeMs : UInt32) : Nat :=
  presentationTimeMs.toNat * clockRate.toNat / 1000

/-- A float cast to `u32`: what is too large becomes the largest value. -/
def asU32 (value : Nat) : UInt32 := if value < 2 ^ 32 then value.toUInt32 else 4294967295

def rtpTimestamp (clockRate presentationTimeMs : UInt32) : UInt32 :=
  asU32 (ticks clockRate presentationTimeMs)

section Decoder
variable {σ : Type} [Payloader σ]

def submitDecodeUnit (rtpOutboundMtu : Nat) (decoder : TrackSampleVideoDecoder σ)
    (unit : VideoDecodeUnit) : List Packet × DecodeResult × TrackSampleVideoDecoder σ :=
  let timestamp := rtpTimestamp decoder.clockRate unit.presentationTimeMs
  let (packets, payloader) := sendSingleFrame rtpOutboundMtu timestamp decoder.payloader unit.nals
  (packets, if decoder.needsIdr then .needIdr else .ok,
    { decoder with payloader, needsIdr := false })

/-- The packets of the units, one list for each. -/
def submitAll (rtpOutboundMtu : Nat) :
    TrackSampleVideoDecoder σ → List VideoDecodeUnit → List (List Packet)
  | _, [] => []
  | decoder, unit :: rest =>
    let (packets, _, next) := submitDecodeUnit rtpOutboundMtu decoder unit
    packets :: submitAll rtpOutboundMtu next rest

end Decoder

/-! ## Exactness -/

/-- Every timestamp is the ticks up to its frame modulo 2 ^ 32, and between frames that
follow each other the timestamps move on by the ticks that went by. -/
def Exact (clockRate : UInt32) (units : List VideoDecodeUnit) : Prop :=
  (∀ unit ∈ units, (rtpTimestamp clockRate unit.presentationTimeMs).toNat =
    ticks clockRate unit.presentationTimeMs % 2 ^ 32) ∧
  ∀ (i : Nat) (earlier later : VideoDecodeUnit),
    units[i]? = some earlier → units[i + 1]? = some later →
    ((rtpTimestamp clockRate later.presentationTimeMs).toNat -
        (rtpTimestamp clockRate earlier.presentationTimeMs).toNat : Int) ≡
      ticks clockRate later.presentationTimeMs - ticks clockRate earlier.presentationTimeMs
      [ZMOD 2 ^ 32]

/-- The ticks fit into 32 bits, or what is left of them in 32 bits is all ones. -/
def Fits (clockRate presentationTimeMs : UInt32) : Prop :=
  ticks clockRate presentationTimeMs < 2 ^ 32 ∨
    ticks clockRate presentationTimeMs % 2 ^ 32 = 2 ^ 32 - 1

theorem asU32_of_lt (small : value < 2 ^ 32) : (asU32 value).toNat = value := by
  rw [asU32, if_pos small, Nat.toUInt32_eq, UInt32.toNat_ofNat', Nat.mod_eq_of_lt small]

theorem asU32_of_le (large : 2 ^ 32 ≤ value) : (asU32 value).toNat = 2 ^ 32 - 1 := by
  rw [asU32, if_neg (not_lt.mpr large)]
  rfl

theorem timestamp_exact_iff (clockRate presentationTimeMs : UInt32) :
    (rtpTimestamp clockRate presentationTimeMs).toNat =
        ticks clockRate presentationTimeMs % 2 ^ 32 ↔
      Fits clockRate presentationTimeMs := by
  unfold rtpTimestamp Fits
  by_cases small : ticks clockRate presentationTimeMs < 2 ^ 32
  · rw [asU32_of_lt small, Nat.mod_eq_of_lt small]
    exact iff_of_true rfl (.inl small)
  · rw [asU32_of_le (not_lt.mp small), or_iff_right small]
    exact eq_comm

theorem exact_iff (clockRate : UInt32) (units : List VideoDecodeUnit) :
    Exact clockRate units ↔ ∀ unit ∈ units, Fits clockRate unit.presentationTimeMs := by
  constructor
  · intro exact unit member
    exact (timestamp_exact_iff _ _).mp (exact.1 unit member)
  · intro fits
    have congruent : ∀ unit ∈ units,
        ((rtpTimestamp clockRate unit.presentationTimeMs).toNat : Int) ≡
          ticks clockRate unit.presentationTimeMs [ZMOD 2 ^ 32] := by
      intro unit member
      rw [(timestamp_exact_iff _ _).mpr (fits unit member), Int.natCast_mod]
      exact Int.mod_modEq _ _
    refine ⟨fun unit member => (timestamp_exact_iff _ _).mpr (fits unit member), ?_⟩
    intro i earlier later before after
    exact (congruent later (List.mem_of_getElem? after)).sub
      (congruent earlier (List.mem_of_getElem? before))

/-! ## The clock of the codecs -/

theorem codec_clockRate (format : VideoFormat) : videoFormatToCodec format = some 90000 := by
  cases format <;> rfl

section Codec
variable {format : VideoFormat} {clockRate : UInt32}

/-- At 90 kHz 32 bits last for 13 hours and a quarter. -/
theorem fits_codec_iff (codec : videoFormatToCodec format = some clockRate)
    (presentationTimeMs : UInt32) :
    Fits clockRate presentationTimeMs ↔ presentationTimeMs.toNat ≤ 47721858 := by
  obtain rfl := Option.some.inj ((codec_clockRate format).symm.trans codec)
  have whole : ticks 90000 presentationTimeMs = presentationTimeMs.toNat * 90 := by
    have rate : (90000 : UInt32).toNat = 90 * 1000 := rfl
    rw [ticks, rate, ← Nat.mul_assoc, Nat.mul_div_cancel _ (by decide)]
  rw [Fits, whole]
  omega

theorem ptsDivisor_toNat (timestamp : UInt32) :
    (timestamp / ptsDivisor).toNat = timestamp.toNat / 90 := UInt32.toNat_div _ _

/-- A time the host sends itself is never too late for the clock of the codecs. -/
theorem fits_of_hostTime (codec : videoFormatToCodec format = some clockRate)
    (syntheticPtsBase : UInt64) (packet : FirstPacket) (timed : 90 ≤ packet.timestamp.toNat) :
    Fits clockRate (firstPacketPresentationTime syntheticPtsBase packet) := by
  have bound := packet.timestamp.toNat_lt
  have sent : firstPacketPresentationTime syntheticPtsBase packet =
      packet.timestamp / ptsDivisor := by
    refine if_neg fun absent => ?_
    have zero := ptsDivisor_toNat packet.timestamp
    rw [absent.1, UInt32.toNat_zero] at zero
    omega
  rw [fits_codec_iff codec, sent, ptsDivisor_toNat]
  omega

/-- Without a time of the host's the frame has to come in soon enough after the first. -/
theorem fits_untimed_iff (codec : videoFormatToCodec format = some clockRate)
    (syntheticPtsBase : UInt64) (packet : FirstPacket)
    (untimed : packet.timestamp.toNat < 90) (later : 0 < packet.frameIndex) :
    Fits clockRate (firstPacketPresentationTime syntheticPtsBase packet) ↔
      (packet.receiveTimeMs - syntheticPtsBase).toNat % 2 ^ 32 ≤ 47721858 := by
  have none_sent : packet.timestamp / ptsDivisor = 0 :=
    UInt32.toNat_inj.mp ((ptsDivisor_toNat _).trans (Nat.div_eq_of_lt untimed))
  have made_up : firstPacketPresentationTime syntheticPtsBase packet =
      (packet.receiveTimeMs - syntheticPtsBase).toUInt32 := if_pos ⟨none_sent, later⟩
  rw [fits_codec_iff codec, made_up, UInt64.toNat_toUInt32]

end Codec

section Decoder
variable {σ : Type} [Payloader σ]

/-- The packets of every unit carry its timestamp. -/
theorem submitAll_timestamp (rtpOutboundMtu : Nat) (decoder : TrackSampleVideoDecoder σ)
    (units : List VideoDecodeUnit) :
    ∀ (i : Nat) (unit : VideoDecodeUnit) (packets : List Packet), units[i]? = some unit →
      (submitAll rtpOutboundMtu decoder units)[i]? = some packets →
      ∀ packet ∈ packets,
        packet.header.timestamp = rtpTimestamp decoder.clockRate unit.presentationTimeMs := by
  induction units generalizing decoder with
  | nil => simp
  | cons first rest ih =>
    intro i unit packets at_unit at_packets
    cases i with
    | zero =>
      obtain rfl := Option.some.inj at_unit
      obtain rfl := Option.some.inj at_packets
      exact sent_timestamp _ _ _ _
    | succ i =>
      exact ih (submitDecodeUnit rtpOutboundMtu decoder first).2.2 i unit packets
        at_unit at_packets

/-- The timestamps of a stream are exact just as long as the ticks of its presentation
times fit into 32 bits: past these every frame has the largest timestamp. -/
theorem timestamps_exact_iff (rtpOutboundMtu : Nat) (decoder : TrackSampleVideoDecoder σ)
    (units : List VideoDecodeUnit) :
    (∀ (i : Nat) (unit : VideoDecodeUnit) (packets : List Packet), units[i]? = some unit →
      (submitAll rtpOutboundMtu decoder units)[i]? = some packets →
      ∀ packet ∈ packets,
        packet.header.timestamp = rtpTimestamp decoder.clockRate unit.presentationTimeMs) ∧
    (Exact decoder.clockRate units ↔
      ∀ unit ∈ units, Fits decoder.clockRate unit.presentationTimeMs) :=
  ⟨submitAll_timestamp rtpOutboundMtu decoder units, exact_iff decoder.clockRate units⟩

end Decoder

/-- A host without times, a quarter past thirteen hours on: two frames 17 ms apart. -/
theorem late_frames_stand_still :
    ¬ ∀ (format : VideoFormat) (clockRate : UInt32) (frames : List Frame),
      videoFormatToCodec format = some clockRate →
      Exact clockRate (decodeUnits 0 frames) := by
  intro always
  have exact := always .h264 90000
    [⟨⟨0, 1, 1⟩, [[0x65, 1]]⟩, ⟨⟨0, 47721860, 2⟩, [[0x41, 1]]⟩, ⟨⟨0, 47721877, 3⟩, [[0x41, 2]]⟩] rfl
  have moved := exact.2 1 ⟨47721859, [[0x41, 1]]⟩ ⟨47721876, [[0x41, 2]]⟩ (by rfl) (by rfl)
  exact absurd moved (by decide)

end MoonlightWeb.Streamer.Timestamps

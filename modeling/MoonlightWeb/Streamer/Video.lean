import MoonlightWeb.Streamer.Video.H264
import MoonlightWeb.Streamer.Video.H265

/-! What the decoder of a video track sends for one decode unit: the NAL units
of the frame go through the payloader of the codec one by one, and their
payloads become RTP packets. Both payloaders keep parameter sets back, so a
frame's last unit need not have a packet, and a stream's units need not all
arrive. -/
namespace MoonlightWeb.Streamer.Video
open MoonlightWeb.HoldBack

structure Header where
  version : UInt8
  padding : Bool
  extension : Bool
  marker : Bool
  payloadType : UInt8
  sequenceNumber : UInt16
  timestamp : UInt32
  ssrc : UInt32
  deriving DecidableEq, Repr

structure Packet where
  header : Header
  payload : List UInt8
  deriving DecidableEq, Repr

section Frame

variable {σ : Type} [Payloader σ]

def packetize (mtu : Nat) (payloader : σ) (sequenceNumber : UInt16) (timestamp : UInt32)
    (payload : List UInt8) (endHasMarker : Bool) : Except RtpError (List Packet) × σ :=
  match Payloader.payload (mtu - 12) payloader payload with
  | (.error error, next) => (.error error, next)
  | (.ok payloads, next) =>
    (.ok (payloads.mapIdx fun i payload =>
      { header :=
          { version := 2
            padding := false
            extension := false
            marker := endHasMarker && i == payloads.length - 1
            sequenceNumber
            timestamp
            payloadType := 0
            ssrc := 0 }
        payload }), next)

/-- The packets of a frame in the order they are sent. The outbound MTU is a
constant of the WebRTC library. A unit that cannot be packetized is skipped. -/
def sendSingleFrame (rtpOutboundMtu : Nat) (timestamp : UInt32) :
    σ → List (List UInt8) → List Packet × σ
  | payloader, [] => ([], payloader)
  | payloader, sample :: rest =>
    match packetize rtpOutboundMtu payloader 0 timestamp sample rest.isEmpty with
    | (.error _, next) => sendSingleFrame rtpOutboundMtu timestamp next rest
    | (.ok packets, next) =>
      let (more, final) := sendSingleFrame rtpOutboundMtu timestamp next rest
      (packets ++ more, final)

/-- A frame that has packets has the marker on the last one and nowhere else. -/
def MarkedAtEnd (packets : List Packet) : Prop :=
  packets ≠ [] → ∃ others last, packets = others ++ [last] ∧ last.header.marker = true ∧
    ∀ packet ∈ others, packet.header.marker = false

/-- Which units of a frame have a packet. -/
def emissions (mtu : Nat) : σ → List (List UInt8) → List Bool
  | _, [] => []
  | payloader, sample :: rest =>
    (!(emitted mtu payloader sample).1.isEmpty) ::
      emissions mtu (emitted mtu payloader sample).2 rest

/-- The last unit has a packet, or none has. -/
def LastOrNone (flags : List Bool) : Prop :=
  flags.getLast? = some true ∨ ∀ flag ∈ flags, flag = false

instance (flags : List Bool) : Decidable (LastOrNone flags) :=
  inferInstanceAs (Decidable (_ ∨ _))

/-- The packets of one unit. -/
private def packetsOf (timestamp : UInt32) (endHasMarker : Bool) (payloads : List (List UInt8)) :
    List Packet :=
  payloads.mapIdx fun i payload =>
    ⟨⟨2, false, false, endHasMarker && i == payloads.length - 1, 0, 0, timestamp, 0⟩, payload⟩

private theorem send_cons (mtu : Nat) (timestamp : UInt32) (payloader : σ) (sample : List UInt8)
    (rest : List (List UInt8)) :
    (sendSingleFrame mtu timestamp payloader (sample :: rest)).1 =
      packetsOf timestamp rest.isEmpty (emitted (mtu - 12) payloader sample).1 ++
        (sendSingleFrame mtu timestamp (emitted (mtu - 12) payloader sample).2 rest).1 := by
  rcases called : Payloader.payload (mtu - 12) payloader sample with ⟨_ | payloads, next⟩
  · simp only [sendSingleFrame, packetize, emitted, called]
    rfl
  · simp only [sendSingleFrame, packetize, emitted, called]
    rfl

private theorem send_nil (mtu : Nat) (timestamp : UInt32) (payloader : σ) :
    (sendSingleFrame mtu timestamp payloader []).1 = [] := rfl

private theorem packets_of_eq_nil (timestamp : UInt32) (endHasMarker : Bool) :
    packetsOf timestamp endHasMarker payloads = [] ↔ payloads = [] := by
  simp [packetsOf]

private theorem unmarked_packets (timestamp : UInt32) (payloads : List (List UInt8)) :
    ∀ packet ∈ packetsOf timestamp false payloads, packet.header.marker = false := by
  intro packet member
  obtain ⟨i, _, rfl⟩ := List.mem_mapIdx.mp member
  rfl

private theorem marked_packets (timestamp : UInt32) (filled : payloads ≠ []) :
    ∃ others last, packetsOf timestamp true payloads = others ++ [last] ∧
      last.header.marker = true ∧ ∀ packet ∈ others, packet.header.marker = false := by
  obtain ⟨before, payload, rfl⟩ := (List.eq_nil_or_concat' payloads).resolve_left filled
  refine ⟨_, _, List.mapIdx_concat, by simp, ?_⟩
  intro packet member
  obtain ⟨i, inside, rfl⟩ := List.mem_mapIdx.mp member
  simp only [List.length_append, List.length_cons, List.length_nil, Bool.true_and,
    beq_eq_false_iff_ne, ne_eq]
  omega

theorem no_emissions_iff (mtu : Nat) (timestamp : UInt32) (payloader : σ)
    (nals : List (List UInt8)) :
    (∀ flag ∈ emissions (mtu - 12) payloader nals, flag = false) ↔
      (sendSingleFrame mtu timestamp payloader nals).1 = [] := by
  induction nals generalizing payloader with
  | nil => simp [emissions, sendSingleFrame]
  | cons sample rest ih =>
    simp only [emissions, List.forall_mem_cons, ih, send_cons, List.append_eq_nil_iff,
      packets_of_eq_nil, Bool.not_eq_false', List.isEmpty_iff]

/-- With a packet for the last unit, that unit's last packet is marked and ends
the frame. -/
theorem last_emission_marked (mtu : Nat) (timestamp : UInt32) (payloader : σ)
    (nals : List (List UInt8))
    (last : (emissions (mtu - 12) payloader nals).getLast? = some true) :
    ∃ others packet, (sendSingleFrame mtu timestamp payloader nals).1 = others ++ [packet] ∧
      packet.header.marker = true ∧ ∀ other ∈ others, other.header.marker = false := by
  induction nals generalizing payloader with
  | nil => simp [emissions] at last
  | cons sample rest ih =>
    cases rest with
    | nil =>
      have filled : (emitted (mtu - 12) payloader sample).1 ≠ [] := by
        simpa [emissions] using last
      rw [send_cons, send_nil, List.append_nil]
      exact marked_packets timestamp filled
    | cons next rest =>
      obtain ⟨others, packet, sent, marked, unmarked⟩ :=
        ih (emitted (mtu - 12) payloader sample).2 (by simpa [emissions] using last)
      refine ⟨packetsOf timestamp false (emitted (mtu - 12) payloader sample).1 ++ others,
        packet, by rw [send_cons, sent]; simp, marked, ?_⟩
      intro other member
      rcases List.mem_append.mp member with here | later
      · exact unmarked_packets timestamp _ other here
      · exact unmarked other later

/-- Without a packet for the last unit, no packet of the frame is marked. -/
theorem no_last_emission_unmarked (mtu : Nat) (timestamp : UInt32) (payloader : σ)
    (nals : List (List UInt8))
    (last : (emissions (mtu - 12) payloader nals).getLast? ≠ some true) :
    ∀ packet ∈ (sendSingleFrame mtu timestamp payloader nals).1, packet.header.marker = false := by
  induction nals generalizing payloader with
  | nil => simp [sendSingleFrame]
  | cons sample rest ih =>
    cases rest with
    | nil =>
      have empty : (emitted (mtu - 12) payloader sample).1 = [] := by
        simpa [emissions] using last
      rw [send_cons, send_nil, List.append_nil, (packets_of_eq_nil timestamp _).mpr empty]
      exact fun packet member => absurd member List.not_mem_nil
    | cons next rest =>
      intro packet member
      rw [send_cons] at member
      rcases List.mem_append.mp member with here | later
      · exact unmarked_packets timestamp _ packet here
      · exact ih (emitted (mtu - 12) payloader sample).2 (by simpa [emissions] using last)
          packet later

/-- All packets of a frame have its timestamp. -/
theorem sent_timestamp (mtu : Nat) (timestamp : UInt32) (payloader : σ)
    (nals : List (List UInt8)) :
    ∀ packet ∈ (sendSingleFrame mtu timestamp payloader nals).1,
      packet.header.timestamp = timestamp := by
  induction nals generalizing payloader with
  | nil => simp [sendSingleFrame]
  | cons sample rest ih =>
    intro packet member
    rw [send_cons] at member
    rcases List.mem_append.mp member with here | later
    · obtain ⟨i, _, rfl⟩ := List.mem_mapIdx.mp here
      rfl
    · exact ih (emitted (mtu - 12) payloader sample).2 packet later

/-- A frame is marked at its end exactly when its last unit has a packet or none
has. -/
theorem marked_at_end_iff (mtu : Nat) (timestamp : UInt32) (payloader : σ)
    (nals : List (List UInt8)) :
    MarkedAtEnd (sendSingleFrame mtu timestamp payloader nals).1 ↔
      LastOrNone (emissions (mtu - 12) payloader nals) := by
  unfold LastOrNone MarkedAtEnd
  rw [no_emissions_iff mtu timestamp]
  by_cases last : (emissions (mtu - 12) payloader nals).getLast? = some true
  · simp only [last, true_or, iff_true]
    exact fun _ => last_emission_marked mtu timestamp payloader nals last
  · have unmarked := no_last_emission_unmarked mtu timestamp payloader nals last
    simp only [last, false_or]
    refine ⟨fun marked => ?_, fun empty filled => absurd empty filled⟩
    by_contra filled
    obtain ⟨others, packet, sent, isMarked, _⟩ := marked filled
    have := unmarked packet (by rw [sent]; simp)
    simp [isMarked] at this

end Frame

theorem h264_emissions (wide : 1 ≤ mtu) (payloader : H264.H264Payloader)
    (nals : List (List UInt8)) : emissions mtu payloader nals = nals.map H264.hasPacket := by
  induction nals generalizing payloader with
  | nil => rfl
  | cons nalu rest ih => simp only [emissions, H264.emits_iff wide, ih, List.map_cons]

theorem h265_emissions (wide : 2 ≤ mtu) (payloader : H265.H265Payloader)
    (nals : List (List UInt8)) :
    emissions mtu payloader nals = H265.packetFlags (H265.waiting payloader) nals := by
  induction nals generalizing payloader with
  | nil => rfl
  | cons nalu rest ih =>
    simp only [emissions, H265.emits_iff wide, ih, H265.emitted_next, H265.waiting_after,
      H265.packetFlags]

/-- Whatever the payloader holds from earlier frames, a frame is marked at its
end exactly when the unit it ends with has a packet of its own, or no unit has:
a delimiter, filler or a parameter set that is kept back takes the marker with
it. -/
theorem frame_marked_at_end_iff (roomy : 16 ≤ rtpOutboundMtu) (timestamp : UInt32)
    (nals : List (List UInt8)) :
    (∀ payloader : H264.H264Payloader,
      MarkedAtEnd (sendSingleFrame rtpOutboundMtu timestamp payloader nals).1 ↔
        LastOrNone (nals.map H264.hasPacket)) ∧
    ∀ payloader : H265.H265Payloader,
      MarkedAtEnd (sendSingleFrame rtpOutboundMtu timestamp payloader nals).1 ↔
        LastOrNone (H265.packetFlags (H265.waiting payloader) nals) := by
  refine ⟨fun payloader => ?_, fun payloader => ?_⟩
  · rw [marked_at_end_iff, h264_emissions (by omega)]
  · rw [marked_at_end_iff, h265_emissions (by omega)]

/-- An H.264 slice behind its parameter sets. -/
theorem frame_of_slice_marked_at_end :
    MarkedAtEnd (sendSingleFrame 1200 90000 H264.H264Payloader.new
      [[0x67, 1], [0x68, 1], [0x65, 1]]).1 :=
  ((frame_marked_at_end_iff (by decide) 90000 _).1 _).mpr (by decide)

/-- A slice with filler behind it: the filler is the last unit and has no
packet. -/
theorem frame_with_filler_unmarked :
    ¬ ∀ (rtpOutboundMtu : Nat) (timestamp : UInt32) (payloader : H264.H264Payloader)
      (nals : List (List UInt8)), 16 ≤ rtpOutboundMtu →
        MarkedAtEnd (sendSingleFrame rtpOutboundMtu timestamp payloader nals).1 := by
  intro always
  have marked := always 1200 0 .new [[0x65, 1], [0x0c, 0xff]] (by decide)
  rw [marked_at_end_iff, h264_emissions (by decide)] at marked
  exact absurd marked (by decide)

/-- Over a stream, the payloaders lose no unit, give every parameter set out
before the slices behind it and end up holding only sets without a slice behind
them exactly when the parameter sets come together: none comes while one of its
kind waits, and no slice comes while sets wait that do not go out before it. -/
theorem payloaders_lose_nothing_iff (wide : 4 ≤ mtu) (narrow : mtu ≤ 65535)
    (nals : List (List UInt8)) :
    ((∀ nalu ∈ nals, H264.ValidNal nalu) →
      (LosesNothing H264.roles (H264.delivered mtu) (H264.heldAfter mtu) nals ↔
        H264.paired false false nals = true)) ∧
    ((∀ nalu ∈ nals, H265.ValidNal nalu) →
      (LosesNothing H265.roles (H265.delivered mtu) (H265.heldAfter mtu) nals ↔
        H265.together .none nals = true)) :=
  ⟨fun valid => H264.loses_nothing_iff (by omega) narrow valid,
    fun valid => H265.loses_nothing_iff wide narrow valid⟩

/-- Both sets before every slice, under the smallest packet size. -/
theorem payloaders_keep_paired_sets :
    LosesNothing H264.roles (H264.delivered 4) (H264.heldAfter 4)
        [[0x67, 1], [0x68, 1], [0x65, 1, 2, 3, 4, 5], [0x41, 7]] ∧
      LosesNothing H265.roles (H265.delivered 4) (H265.heldAfter 4)
        [[0x40, 1], [0x42, 1], [0x44, 1], [0x26, 1, 2, 3, 4, 5, 6]] :=
  ⟨((payloaders_lose_nothing_iff (by decide) (by decide) _).1 (by decide)).mpr (by decide),
    ((payloaders_lose_nothing_iff (by decide) (by decide) _).2 (by decide)).mpr (by decide)⟩

/-- A picture parameter set sent again on its own is still held when the next
slices have gone out. -/
theorem lone_parameter_set_is_late :
    ¬ ∀ (mtu : Nat) (nals : List (List UInt8)), 4 ≤ mtu → mtu ≤ 65535 →
      (∀ nalu ∈ nals, H264.ValidNal nalu) →
      LosesNothing H264.roles (H264.delivered mtu) (H264.heldAfter mtu) nals := by
  intro always
  have held := always 1188 [[0x67, 1], [0x68, 1], [0x65, 1], [0x68, 2], [0x41, 1]]
    (by decide) (by decide) (by decide)
  exact absurd ((H264.loses_nothing_iff (by decide) (by decide) (by decide)).mp held) (by decide)

end MoonlightWeb.Streamer.Video

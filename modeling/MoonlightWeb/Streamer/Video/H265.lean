import MoonlightWeb.Streamer.Video.Payloader
import MoonlightWeb.Lib.Machine

/-! The H.265 payloader. The three parameter sets are kept until all are there
and then go out at once, as one aggregation packet when it fits; any other unit
goes out as one packet or as fragmentation units, whatever is kept. -/
namespace MoonlightWeb.Streamer.Video.H265
open MoonlightWeb.HoldBack MoonlightWeb.Framing

inductive NalUnitType where
  | trailN | trailR | tsaN | tsaR | stsaN | stsaR | radlN | radlR | raslN | raslR
  | rsvVclN10 | rsvVclR11 | rsvVclN12 | rsvVclR13 | rsvVclN14 | rsvVclR15
  | blaWLp | blaWRadl | blaNLp | idrWRadl | idrNLp | craNut
  | rsvIrapVcl22 | rsvIrapVcl23
  | rsvVcl24 | rsvVcl25 | rsvVcl26 | rsvVcl27 | rsvVcl28 | rsvVcl29 | rsvVcl30 | rsvVcl31
  | vpsNut | spsNut | ppsNut | audNut | eosNut | eobNut | fdNut | prefixSeiNut | suffixSeiNut
  | rsvNvcl41 | rsvNvcl42 | rsvNvcl43 | rsvNvcl44 | rsvNvcl45 | rsvNvcl46 | rsvNvcl47
  | aggregationUnit | fragmentationUnit
  | unspec50 | unspec51 | unspec52 | unspec53 | unspec54 | unspec55 | unspec56 | unspec57
  | unspec58 | unspec59 | unspec60 | unspec61 | unspec62 | unspec63
  deriving DecidableEq, Repr

/-- The number of a type: the constructors stand in the order of their
numbers. -/
def NalUnitType.toU8 (type : NalUnitType) : UInt8 := UInt8.ofNat type.ctorIdx

structure NalHeader where
  forbiddenZeroBit : Bool
  nalUnitType : NalUnitType
  nuhLayerId : UInt8
  nuhTemporalIdPlus1 : UInt8
  deriving DecidableEq, Repr

namespace NalHeader

def size : Nat := 2

/-- Six bits always name a type, so the source's `unwrap` cannot fail. -/
def parse (first second : UInt8) : NalHeader where
  forbiddenZeroBit := first &&& 0b1000_0000 != 0
  nalUnitType := .ofNat ((first &&& 0b0111_1110) >>> 1).toNat
  nuhLayerId := (first &&& 0b0000_0001) <<< 5 ||| (second &&& 0b1111_1000) >>> 3
  nuhTemporalIdPlus1 := second &&& 0b0000_0111

def serialize (header : NalHeader) : List UInt8 :=
  [(if header.forbiddenZeroBit then (0b1000_0000 : UInt8) else 0) |||
      (header.nalUnitType.toU8 &&& 0b0011_1111) <<< 1 |||
      header.nuhLayerId >>> 5 &&& 0b0000_0001,
    (header.nuhLayerId &&& 0b0001_1111) <<< 3 ||| header.nuhTemporalIdPlus1 &&& 0b0000_0111]

end NalHeader

structure FuHeader where
  startBit : Bool
  endBit : Bool
  nalUnitType : NalUnitType
  deriving DecidableEq, Repr

namespace FuHeader

def size : Nat := 1

def serialize (header : FuHeader) : UInt8 :=
  (if header.startBit then (0b1000_0000 : UInt8) else 0) |||
    (if header.endBit then (0b0100_0000 : UInt8) else 0) |||
    header.nalUnitType.toU8 &&& 0b0011_1111

end FuHeader

/-- The header in the first two bytes of a unit. -/
def nalHeader (nalu : List UInt8) : NalHeader := .parse (nalu.getD 0 0) (nalu.getD 1 0)

def nalUnitType (nalu : List UInt8) : NalUnitType := (nalHeader nalu).nalUnitType

/-- `matches!(header.nal_unit_type, VpsNut | SpsNut | PpsNut)` -/
def isParameterSet (type : NalUnitType) : Bool := type ∈ [.vpsNut, .spsNut, .ppsNut]

/-- A unit of the given type, long enough to have a header. -/
abbrev NaluOf (type : NalUnitType) :=
  { nalu : List UInt8 // NalHeader.size ≤ nalu.length ∧ nalUnitType nalu = type }

/-- Three sets never wait together: the third one sends them all. -/
structure H265Payloader where
  vpsNalu : Option (NaluOf .vpsNut)
  spsNalu : Option (NaluOf .spsNut)
  ppsNalu : Option (NaluOf .ppsNut)
  incomplete : ¬ (vpsNalu.isSome ∧ spsNalu.isSome ∧ ppsNalu.isSome)
  deriving DecidableEq

namespace H265Payloader

/-- `H265Payloader::default()` -/
def new : H265Payloader := ⟨none, none, none, by decide⟩

def buildSinglePacket (nalu : List UInt8) : List UInt8 := nalu

def buildFragmentedPackets (nalHeader : NalHeader) (nalu : List UInt8) (mtu : Nat) :
    List (List UInt8) :=
  let payloadHeader := { nalHeader with nalUnitType := .fragmentationUnit }.serialize
  let nalPayload := nalu.drop 2
  let nalFragments := chunks (mtu - NalHeader.size - FuHeader.size) nalPayload
  (marked true nalFragments).map fun (startBit, endBit, nalFragment) =>
    let fuHeader : FuHeader := ⟨startBit, endBit, nalHeader.nalUnitType⟩
    payloadHeader ++ fuHeader.serialize :: nalFragment

/-- The header fields of an aggregation packet after one more unit: the
forbidden bit of any, the lowest layer and temporal id. -/
def lowerHeader (aggrNalHeader : NalHeader) (nalu : List UInt8) : NalHeader :=
  let header := nalHeader nalu
  { aggrNalHeader with
    forbiddenZeroBit := aggrNalHeader.forbiddenZeroBit || header.forbiddenZeroBit
    nuhLayerId :=
      if header.nuhLayerId < aggrNalHeader.nuhLayerId then header.nuhLayerId
      else aggrNalHeader.nuhLayerId
    nuhTemporalIdPlus1 :=
      if header.nuhTemporalIdPlus1 < aggrNalHeader.nuhTemporalIdPlus1 then
        header.nuhTemporalIdPlus1
      else aggrNalHeader.nuhTemporalIdPlus1 }

def buildAggregationPacket (nalus : List (List UInt8)) : List UInt8 :=
  let aggrNalHeader := nalus.foldl lowerHeader ⟨false, .aggregationUnit, 255, 255⟩
  aggrNalHeader.serialize ++ prefixed nalus

/-- The three sets with a new one in its place. -/
def store (payloader : H265Payloader) (b : List UInt8) (long : 2 ≤ b.length) :
    Option (NaluOf .vpsNut) × Option (NaluOf .spsNut) × Option (NaluOf .ppsNut) :=
  (if isVps : nalUnitType b = .vpsNut then some ⟨b, long, isVps⟩ else payloader.vpsNalu,
    if isSps : nalUnitType b = .spsNut then some ⟨b, long, isSps⟩ else payloader.spsNalu,
    if isPps : nalUnitType b = .ppsNut then some ⟨b, long, isPps⟩ else payloader.ppsNalu)

def payload (mtu : Nat) (payloader : H265Payloader) (b : List UInt8) :
    Except RtpError (List (List UInt8)) × H265Payloader :=
  if short : b.length < 2 then (.error .errBufferTooSmall, payloader)
  else
    let (vpsNalu, spsNalu, ppsNalu) := payloader.store b (Nat.le_of_not_lt short)
    if complete : vpsNalu.isSome ∧ spsNalu.isSome ∧ ppsNalu.isSome then
      let sets := [(vpsNalu.get complete.1).val, (spsNalu.get complete.2.1).val,
        (ppsNalu.get complete.2.2).val]
      let packet := buildAggregationPacket sets
      (.ok (if packet.length ≤ mtu then [packet] else sets.map buildSinglePacket), .new)
    else
      (.ok (if isParameterSet (nalUnitType b) then []
        else if b.length ≤ mtu then [buildSinglePacket b]
        else buildFragmentedPackets (nalHeader b) b mtu), ⟨vpsNalu, spsNalu, ppsNalu, complete⟩)

instance : Payloader H265Payloader := ⟨payload⟩

/-- The sets that are there, in the order they are sent in. -/
def listed : Option (NaluOf .vpsNut) × Option (NaluOf .spsNut) × Option (NaluOf .ppsNut) →
    List (List UInt8)
  | (vps, sps, pps) =>
    (vps.map Subtype.val).toList ++ (sps.map Subtype.val).toList ++
      (pps.map Subtype.val).toList

/-- The parameter sets that wait for the missing ones. -/
def held (payloader : H265Payloader) : List (List UInt8) :=
  listed (payloader.vpsNalu, payloader.spsNalu, payloader.ppsNalu)

end H265Payloader

/-- RFC 7798: what a receiver reads out of one packet without interleaving.
Types up to 47 are single units, 48 is an aggregation packet, 49 a
fragmentation unit; the rest is dropped. -/
def received (packet : List UInt8) : Received UInt8 :=
  match packet with
  | first :: second :: rest =>
    let type := ((first &&& 0b0111_1110) >>> 1).toNat
    if type ≤ 47 then .units [packet]
    else if type = 48 then .units (splitPrefixed rest)
    else if type = 49 then
      match rest with
      | [] => .units []
      | header :: body =>
        .fragment (header &&& 0b1000_0000 != 0) (header &&& 0b0100_0000 != 0)
          [first &&& (0b1000_0001 : UInt8) ||| (header &&& 0b0011_1111) <<< 1, second] body
    else .units []
  | _ => .units []

/-- The layer number is spread over both header bytes: one bit ends the first,
five bits begin the second. -/
private theorem layer_id_restored (isBit : bit = 0 ∨ bit = 1) (second : UInt8) :
    let layerId : UInt8 := bit <<< (5 : UInt8) ||| (second &&& 0b1111_1000) >>> 3
    layerId >>> 5 &&& 0b0000_0001 = bit ∧
      (layerId &&& 0b0001_1111) <<< (3 : UInt8) |||
        (second &&& 0b0000_0111) &&& 0b0000_0111 = second := by
  rcases isBit with rfl | rfl
  · exact every_byte (P := fun second =>
      let layerId : UInt8 := (0 : UInt8) <<< (5 : UInt8) ||| (second &&& 0b1111_1000) >>> 3
      layerId >>> 5 &&& 0b0000_0001 = 0 ∧
        (layerId &&& 0b0001_1111) <<< (3 : UInt8) |||
          (second &&& 0b0000_0111) &&& 0b0000_0111 = second) (by decide +kernel) second
  · exact every_byte (P := fun second =>
      let layerId : UInt8 := (1 : UInt8) <<< (5 : UInt8) ||| (second &&& 0b1111_1000) >>> 3
      layerId >>> 5 &&& 0b0000_0001 = 1 ∧
        (layerId &&& 0b0001_1111) <<< (3 : UInt8) |||
          (second &&& 0b0000_0111) &&& 0b0000_0111 = second) (by decide +kernel) second

private theorem low_bit (first : UInt8) : first &&& 0b0000_0001 = 0 ∨ first &&& 0b0000_0001 = 1 :=
  every_byte (P := fun first => first &&& 0b0000_0001 = 0 ∨ first &&& 0b0000_0001 = 1)
    (by decide +kernel) first

/-- A header written with another type keeps the other bits of the first byte
and the whole second byte. -/
private theorem serialize_parse_with (first second : UInt8) (type : NalUnitType) :
    { NalHeader.parse first second with nalUnitType := type }.serialize =
      [(if first &&& 0b1000_0000 != 0 then (0b1000_0000 : UInt8) else 0) |||
        (type.toU8 &&& 0b0011_1111) <<< 1 ||| first &&& 0b0000_0001, second] := by
  obtain ⟨bit, rest⟩ := layer_id_restored (low_bit first) second
  simp only [NalHeader.serialize, NalHeader.parse, bit, rest]
  rfl

/-- The header bytes of a fragment carry the first header byte of the unit, the
marks and the fragment type. -/
private theorem fragment_headers (first : UInt8) (startBit endBit : Bool) :
    let payloadHeader : UInt8 := (if first &&& 0b1000_0000 != 0 then (0b1000_0000 : UInt8) else 0) |||
      (NalUnitType.fragmentationUnit.toU8 &&& 0b0011_1111) <<< 1 ||| first &&& 0b0000_0001
    let fuHeader := (FuHeader.mk startBit endBit
      (.ofNat ((first &&& 0b0111_1110) >>> 1).toNat)).serialize
    ((payloadHeader &&& 0b0111_1110) >>> 1).toNat = 49 ∧
      (fuHeader &&& 0b1000_0000 != 0) = startBit ∧ (fuHeader &&& 0b0100_0000 != 0) = endBit ∧
      payloadHeader &&& (0b1000_0001 : UInt8) ||| (fuHeader &&& 0b0011_1111) <<< 1 = first := by
  revert startBit endBit
  exact every_byte (P := fun first => ∀ startBit endBit,
    let payloadHeader : UInt8 := (if first &&& 0b1000_0000 != 0 then (0b1000_0000 : UInt8) else 0) |||
      (NalUnitType.fragmentationUnit.toU8 &&& 0b0011_1111) <<< 1 ||| first &&& 0b0000_0001
    let fuHeader := (FuHeader.mk startBit endBit
      (.ofNat ((first &&& 0b0111_1110) >>> 1).toNat)).serialize
    ((payloadHeader &&& 0b0111_1110) >>> 1).toNat = 49 ∧
      (fuHeader &&& 0b1000_0000 != 0) = startBit ∧ (fuHeader &&& 0b0100_0000 != 0) = endBit ∧
      payloadHeader &&& (0b1000_0001 : UInt8) ||| (fuHeader &&& 0b0011_1111) <<< 1 = first)
    (by decide +kernel) first

/-- An aggregation packet has its type, whatever the headers of its units. -/
private theorem aggregation_type (header : NalHeader)
    (type : header.nalUnitType = .aggregationUnit) :
    ∃ first second, header.serialize = [first, second] ∧
      ((first &&& 0b0111_1110) >>> 1).toNat = 48 := by
  refine ⟨_, _, rfl, ?_⟩
  obtain ⟨forbidden, nalUnitType, layerId, temporalId⟩ := header
  cases type
  revert forbidden
  exact every_byte (P := fun layerId => ∀ forbidden : Bool,
    ((((if forbidden then (0b1000_0000 : UInt8) else 0) |||
      (NalUnitType.aggregationUnit.toU8 &&& 0b0011_1111) <<< 1 |||
      layerId >>> 5 &&& 0b0000_0001) &&& 0b0111_1110) >>> 1).toNat = 48) (by decide +kernel) layerId

/-- The number of a unit's type, from 0 to 63. -/
def typeNumber (nalu : List UInt8) : Nat := ((nalu.getD 0 0 &&& 0b0111_1110) >>> 1).toNat

/-- What the encoder's stream consists of: not the packet types of RFC 7798. -/
def ValidNal (nalu : List UInt8) : Prop := nalu ≠ [] ∧ typeNumber nalu ≤ 47

instance (nalu : List UInt8) : Decidable (ValidNal nalu) :=
  inferInstanceAs (Decidable (_ ∧ _))

/-- The coded slice segments, without the reserved types among them. -/
def isSlice (type : NalUnitType) : Bool :=
  type ∈ [.trailN, .trailR, .tsaN, .tsaR, .stsaN, .stsaR, .radlN, .radlR, .raslN, .raslR,
    .blaWLp, .blaWRadl, .blaNLp, .idrWRadl, .idrNLp, .craNut]

def roles : Roles (List UInt8) where
  kept _ := true
  parameterSet nalu := isParameterSet (nalUnitType nalu)
  slice nalu := isSlice (nalUnitType nalu)
  parameter_set_kept _ _ := rfl
  slice_kept _ _ := rfl

theorem type_number_of_parameter_set (isSet : isParameterSet (nalUnitType nalu) = true) :
    typeNumber nalu ≤ 47 := by
  revert isSet
  exact every_byte (P := fun byte =>
    isParameterSet (NalUnitType.ofNat ((byte &&& 0b0111_1110) >>> 1).toNat) = true →
      ((byte &&& 0b0111_1110) >>> 1).toNat ≤ 47) (by decide +kernel) (nalu.getD 0 0)

theorem received_single (long : 2 ≤ nalu.length) (low : typeNumber nalu ≤ 47) :
    received nalu = .units [nalu] := by
  match nalu, long with
  | first :: second :: rest, _ => exact if_pos low

theorem received_aggregation (nalus : List (List UInt8))
    (short : ∀ nalu ∈ nalus, nalu.length < 65536) :
    received (H265Payloader.buildAggregationPacket nalus) = .units nalus := by
  have kept (nalus : List (List UInt8)) (header : NalHeader)
      (type : header.nalUnitType = .aggregationUnit) :
      (nalus.foldl H265Payloader.lowerHeader header).nalUnitType = .aggregationUnit := by
    induction nalus generalizing header with
    | nil => exact type
    | cons nalu rest ih => exact ih _ type
  obtain ⟨first, second, bytes, type⟩ := aggregation_type _
    (kept nalus ⟨false, .aggregationUnit, 255, 255⟩ rfl)
  simp only [H265Payloader.buildAggregationPacket, bytes, received, List.cons_append,
    List.nil_append, type, split_prefixed nalus short]
  rfl

/-- The fragments of a unit that does not fit are joined to it again. -/
theorem reassemble_fragments (wide : 4 ≤ mtu) (large : mtu < nalu.length)
    (rest : List (Received UInt8)) :
    reassemble none ((H265Payloader.buildFragmentedPackets (nalHeader nalu) nalu mtu).map
      received ++ rest) = nalu :: reassemble none rest := by
  match nalu, large with
  | [], large | [_], large =>
    simp only [List.length_cons, List.length_nil] at large
    omega
  | first :: second :: body, large =>
    have filled : body ≠ [] := by
      rintro rfl
      simp only [List.length_cons, List.length_nil] at large
      omega
    have positive : 0 < mtu - NalHeader.size - FuHeader.size := by
      simp only [NalHeader.size, FuHeader.size]
      omega
    have joined := reassemble_chunks none [first, second] rest positive filled
    change _ = ([first, second] ++ body) :: _
    rw [← joined]
    congr 2
    simp only [H265Payloader.buildFragmentedPackets, List.map_map, nalHeader]
    apply List.map_congr_left
    rintro ⟨startBit, endBit, fragment⟩ _
    obtain ⟨type, start, last, header⟩ := fragment_headers first startBit endBit
    simp only [Function.comp, serialize_parse_with, List.cons_append, List.nil_append,
      List.getD_cons_zero, List.getD_cons_succ]
    simp only [NalHeader.parse, received, type, start, last, header]
    rfl

/-- What a call does to whole units, without their packets. -/
def take (payloader : H265Payloader) (nalu : List UInt8) :
    List (List UInt8) × H265Payloader :=
  if short : nalu.length < 2 then ([], payloader)
  else
    let (vpsNalu, spsNalu, ppsNalu) := payloader.store nalu (Nat.le_of_not_lt short)
    if complete : vpsNalu.isSome ∧ spsNalu.isSome ∧ ppsNalu.isSome then
      ([(vpsNalu.get complete.1).val, (spsNalu.get complete.2.1).val,
        (ppsNalu.get complete.2.2).val], .new)
    else
      (if isParameterSet (nalUnitType nalu) then [] else [nalu],
        ⟨vpsNalu, spsNalu, ppsNalu, complete⟩)

/-- What is never delivered: a unit without a full header, and a parameter set
whose place is taken before the other two were there. -/
def loses (payloader : H265Payloader) (nalu : List UInt8) : Prop :=
  nalu.length < 2 ∨
    (nalUnitType nalu = .vpsNut ∧ payloader.vpsNalu.isSome) ∨
    (nalUnitType nalu = .spsNut ∧ payloader.spsNalu.isSome) ∨
    (nalUnitType nalu = .ppsNut ∧ payloader.ppsNalu.isSome)

theorem emitted_carries (wide : 4 ≤ mtu) (narrow : mtu ≤ 65535) (payloader : H265Payloader)
    (nalu : List UInt8) (valid : ValidNal nalu) : Carries received mtu take payloader nalu := by
  by_cases short : nalu.length < 2
  · simp [Carries, emitted, Payloader.payload, H265Payloader.payload, take, short]
  have long : 2 ≤ nalu.length := Nat.le_of_not_lt short
  have own (rest : List (Received UInt8)) :
      reassemble none (((if nalu.length ≤ mtu then [H265Payloader.buildSinglePacket nalu]
        else H265Payloader.buildFragmentedPackets (nalHeader nalu) nalu mtu).map received) ++
          rest) = nalu :: reassemble none rest := by
    split
    · simp [H265Payloader.buildSinglePacket, received_single long valid.2, reassemble]
    · exact reassemble_fragments wide (by omega) rest
  simp only [Carries, emitted, Payloader.payload, H265Payloader.payload, take, dif_neg short]
  obtain ⟨vps, sps, pps⟩ := payloader.store nalu long
  by_cases complete : vps.isSome ∧ sps.isSome ∧ pps.isSome
  · simp only [dif_pos complete]
    refine ⟨fun rest => ?_, trivial⟩
    obtain ⟨⟨vps, vpsLong, vpsType⟩, rfl⟩ := Option.isSome_iff_exists.mp complete.1
    obtain ⟨⟨sps, spsLong, spsType⟩, rfl⟩ := Option.isSome_iff_exists.mp complete.2.1
    obtain ⟨⟨pps, ppsLong, ppsType⟩, rfl⟩ := Option.isSome_iff_exists.mp complete.2.2
    simp only [Option.get_some]
    split
    · -- The aggregate fits, so all lengths fit in their prefix.
      rename_i fits
      have short : ∀ set ∈ [vps, sps, pps], set.length < 65536 := by
        intro set member
        have inside := mem_prefixed_length member
        simp only [H265Payloader.buildAggregationPacket, List.length_append] at fits
        omega
      simp [received_aggregation _ short, reassemble]
    · have low (type : NalUnitType) (isSet : isParameterSet type = true) (set : List UInt8)
          (ofType : nalUnitType set = type) : typeNumber set ≤ 47 :=
        type_number_of_parameter_set (ofType ▸ isSet)
      simp [H265Payloader.buildSinglePacket, reassemble,
        received_single vpsLong (low .vpsNut rfl vps vpsType),
        received_single spsLong (low .spsNut rfl sps spsType),
        received_single ppsLong (low .ppsNut rfl pps ppsType)]
  · simp only [dif_neg complete]
    refine ⟨fun rest => ?_, trivial⟩
    cases isSet : isParameterSet (nalUnitType nalu) with
    | true => simp
    | false => simpa using own rest

theorem take_other (payloader : H265Payloader) (long : 2 ≤ nalu.length)
    (other : isParameterSet (nalUnitType nalu) = false) :
    take payloader nalu = ([nalu], payloader) := by
  have kinds := other
  simp only [isParameterSet, List.mem_cons, List.not_mem_nil, or_false, decide_eq_false_iff_not,
    not_or] at kinds
  simp only [take, dif_neg (Nat.not_lt.mpr long), H265Payloader.store, dif_neg kinds.1,
    dif_neg kinds.2.1, dif_neg kinds.2.2, dif_neg payloader.incomplete, other]
  rfl

/-- A parameter set is put into its place, and the sets are then either all
given out or all held. -/
theorem take_set (payloader : H265Payloader) (long : 2 ≤ nalu.length)
    (isSet : isParameterSet (nalUnitType nalu) = true) :
    (take payloader nalu).1 ++ (take payloader nalu).2.held =
      H265Payloader.listed (payloader.store nalu long) := by
  simp only [take, dif_neg (Nat.not_lt.mpr long), isSet]
  obtain ⟨vps, sps, pps⟩ := payloader.store nalu long
  by_cases complete : vps.isSome ∧ sps.isSome ∧ pps.isSome
  · obtain ⟨vps, rfl⟩ := Option.isSome_iff_exists.mp complete.1
    obtain ⟨sps, rfl⟩ := Option.isSome_iff_exists.mp complete.2.1
    obtain ⟨pps, rfl⟩ := Option.isSome_iff_exists.mp complete.2.2
    rfl
  · simp only [dif_neg complete]
    rfl

theorem slice_no_parameter_set (slice : isSlice type = true) : isParameterSet type = false := by
  cases type <;> first | rfl | cases slice

/-- A slice leaves waiting what waits. -/
theorem take_slice_waits (payloader : H265Payloader)
    (slice : isSlice (nalUnitType nalu) = true) : (take payloader nalu).2 = payloader := by
  by_cases short : nalu.length < 2
  · simp [take, short]
  · rw [take_other payloader (Nat.le_of_not_lt short) (slice_no_parameter_set slice)]

theorem parameter_set_kinds (isSet : isParameterSet type = true) :
    type = .vpsNut ∨ type = .spsNut ∨ type = .ppsNut := by
  simpa [isParameterSet] using isSet

/-- The payloader at the level of whole units. -/
def stage : Stage H265Payloader (List UInt8) where
  toRoles := roles
  take := take
  held := H265Payloader.held
  loses := loses
  held_parameter_sets := by
    rintro ⟨vps, sps, pps, _⟩ unit member
    simp only [H265Payloader.held, H265Payloader.listed, List.mem_append, Option.mem_toList,
      Option.map_eq_some_iff] at member
    rcases member with (⟨⟨vps, _, type⟩, _, rfl⟩ | ⟨⟨sps, _, type⟩, _, rfl⟩) |
      ⟨⟨pps, _, type⟩, _, rfl⟩ <;> simp [roles, type, isParameterSet]
  take_dropped := by
    intro payloader nalu dropped
    cases dropped
  take_kept := by
    intro payloader nalu _ keeps
    simp only [loses, not_or, not_and, Nat.not_lt] at keeps
    obtain ⟨long, vpsFree, spsFree, ppsFree⟩ := keeps
    cases isSet : isParameterSet (nalUnitType nalu) with
    | false =>
      rw [take_other payloader long isSet]
      exact List.perm_append_comm
    | true =>
      rw [take_set payloader long isSet]
      obtain isVps | isSps | isPps := parameter_set_kinds isSet
      · have free := Option.not_isSome_iff_eq_none.mp (vpsFree isVps)
        simp only [H265Payloader.store, H265Payloader.held, H265Payloader.listed, isVps, free]
        exact @List.perm_append_comm _ [nalu] _
      · have free := Option.not_isSome_iff_eq_none.mp (spsFree isSps)
        simp only [H265Payloader.store, H265Payloader.held, H265Payloader.listed, isSps, free,
          List.append_assoc]
        exact (@List.perm_append_comm _ [nalu] _).append_left _
      · have free := Option.not_isSome_iff_eq_none.mp (ppsFree isPps)
        simp [H265Payloader.store, H265Payloader.held, H265Payloader.listed, isPps, free]
  take_losing := by
    intro payloader nalu _ losing
    by_cases short : nalu.length < 2
    · simp [take, short]
    have long := Nat.le_of_not_lt short
    -- The set that waited in the place of the new one is gone.
    rcases losing with absurdly | ⟨isVps, taken⟩ | ⟨isSps, taken⟩ | ⟨isPps, taken⟩
    · exact absurd absurdly short
    · obtain ⟨old, vpsTaken⟩ := Option.isSome_iff_exists.mp taken
      rw [take_set payloader long (by simp [isVps, isParameterSet])]
      simp [H265Payloader.store, H265Payloader.held, H265Payloader.listed, isVps, vpsTaken]
    · obtain ⟨old, spsTaken⟩ := Option.isSome_iff_exists.mp taken
      rw [take_set payloader long (by simp [isSps, isParameterSet])]
      simp [H265Payloader.store, H265Payloader.held, H265Payloader.listed, isSps, spsTaken]
    · obtain ⟨old, ppsTaken⟩ := Option.isSome_iff_exists.mp taken
      rw [take_set payloader long (by simp [isPps, isParameterSet])]
      simp [H265Payloader.store, H265Payloader.held, H265Payloader.listed, isPps, ppsTaken]
  take_slice := by
    intro payloader nalu slice keeps
    simp only [loses, not_or, Nat.not_lt] at keeps
    exact ⟨[], by rw [take_other payloader keeps.1 (slice_no_parameter_set slice)]; rfl⟩

/-- Which of the three sets wait. -/
structure Waiting where
  vps : Bool
  sps : Bool
  pps : Bool
  deriving DecidableEq, Repr

namespace Waiting

def none : Waiting := ⟨false, false, false⟩

def complete (waiting : Waiting) : Bool := waiting.vps && waiting.sps && waiting.pps

/-- Whether a set of this type waits. -/
def has (waiting : Waiting) (type : NalUnitType) : Bool :=
  (type = .vpsNut && waiting.vps) || (type = .spsNut && waiting.sps) ||
    (type = .ppsNut && waiting.pps)

/-- A unit of this type comes in; only a parameter set waits then. -/
def put (waiting : Waiting) (type : NalUnitType) : Waiting :=
  ⟨waiting.vps || type = .vpsNut, waiting.sps || type = .spsNut, waiting.pps || type = .ppsNut⟩

/-- What waits after a unit: all three are sent at once. -/
def after (waiting : Waiting) (nalu : List UInt8) : Waiting :=
  if nalu.length < 2 then waiting
  else if (waiting.put (nalUnitType nalu)).complete then none
  else waiting.put (nalUnitType nalu)

end Waiting

def waiting (payloader : H265Payloader) : Waiting :=
  ⟨payloader.vpsNalu.isSome, payloader.spsNalu.isSome, payloader.ppsNalu.isSome⟩

private theorem store_waits (payloader : H265Payloader) (long : 2 ≤ nalu.length) :
    (payloader.store nalu long).1.isSome = ((waiting payloader).put (nalUnitType nalu)).vps ∧
    (payloader.store nalu long).2.1.isSome = ((waiting payloader).put (nalUnitType nalu)).sps ∧
    (payloader.store nalu long).2.2.isSome = ((waiting payloader).put (nalUnitType nalu)).pps := by
  simp only [H265Payloader.store, waiting, Waiting.put]
  refine ⟨?_, ?_, ?_⟩ <;> split <;> simp_all

theorem waiting_after (payloader : H265Payloader) (nalu : List UInt8) :
    waiting (take payloader nalu).2 = (waiting payloader).after nalu := by
  by_cases short : nalu.length < 2
  · simp [take, Waiting.after, short]
  have waits := store_waits payloader (Nat.le_of_not_lt short)
  simp only [take, dif_neg short, Waiting.after, if_neg short, Waiting.complete]
  generalize (waiting payloader).put (nalUnitType nalu) = now at *
  generalize payloader.store nalu (Nat.le_of_not_lt short) = stored at *
  obtain ⟨vps, sps, pps⟩ := now
  obtain ⟨rfl, rfl, rfl⟩ := waits
  by_cases complete : stored.1.isSome ∧ stored.2.1.isSome ∧ stored.2.2.isSome
  · simp only [complete.1, complete.2.1, complete.2.2]
    rfl
  · have incomplete : (stored.1.isSome && stored.2.1.isSome && stored.2.2.isSome) = false := by
      simpa [and_assoc] using complete
    simp only [dif_neg complete, incomplete]
    rfl

/-- Whether the stream brings its parameter sets together, given which of them
already wait: no unit is too short for a header, no set comes while one of its
kind waits, and no slice comes while any waits. -/
def together (waiting : Waiting) : List (List UInt8) → Bool
  | [] => true
  | nalu :: rest =>
    decide (2 ≤ nalu.length) && !waiting.has (nalUnitType nalu) &&
      (!isSlice (nalUnitType nalu) || waiting == .none) && together (waiting.after nalu) rest

theorem held_eq_nil (payloader : H265Payloader) :
    payloader.held = [] ↔ waiting payloader = .none := by
  simp [H265Payloader.held, H265Payloader.listed, waiting, Waiting.none]

theorem orderly_iff_together (payloader : H265Payloader) :
    stage.Orderly payloader nals ↔ together (waiting payloader) nals = true := by
  induction nals generalizing payloader with
  | nil => simp [Stage.Orderly, together]
  | cons nalu rest ih =>
    have took : stage.take payloader nalu = take payloader nalu := rfl
    have losing : stage.kept nalu = true → ¬ stage.loses payloader nalu ↔
        2 ≤ nalu.length ∧ (waiting payloader).has (nalUnitType nalu) = false := by
      have header : 2 ≤ nalu.length ↔ 1 < nalu.length := Iff.rfl
      simp [stage, roles, loses, Waiting.has, waiting, and_assoc, header]
    have clear : (stage.slice nalu = true → stage.held (take payloader nalu).2 = []) ↔
        (!isSlice (nalUnitType nalu) || waiting payloader == .none) = true := by
      change (isSlice (nalUnitType nalu) = true → H265Payloader.held (take payloader nalu).2 = []) ↔ _
      cases slice : isSlice (nalUnitType nalu) with
      | false => simp
      | true => simp [take_slice_waits payloader slice, held_eq_nil]
    simp only [Stage.Orderly, ih, took, losing, clear, together, waiting_after]
    simp [and_assoc]

def delivered (mtu : Nat) (nals : List (List UInt8)) : List (List UInt8) :=
  depacketize received (feed (emitted mtu) H265Payloader.new nals).1

def heldAfter (mtu : Nat) (nals : List (List UInt8)) : List (List UInt8) :=
  (feed (emitted mtu) H265Payloader.new nals).2.held

/-- The H.265 payloader loses no unit of a stream and gives no parameter set out
late exactly when the stream brings its parameter sets together. -/
theorem loses_nothing_iff (wide : 4 ≤ mtu) (narrow : mtu ≤ 65535)
    (valid : ∀ nalu ∈ nals, ValidNal nalu) :
    LosesNothing roles (delivered mtu) (heldAfter mtu) nals ↔
      together .none nals = true :=
  (loses_nothing_iff_orderly stage H265Payloader.new rfl
    (emitted_carries wide narrow) valid).trans (orderly_iff_together H265Payloader.new)

/-- Whether a unit's own call sends packets, given what waits before it. -/
def Waiting.sends (waiting : Waiting) (nalu : List UInt8) : Bool :=
  decide (2 ≤ nalu.length) && (!isParameterSet (nalUnitType nalu) ||
    (waiting.put (nalUnitType nalu)).complete)

/-- The fragments of a unit that does not fit are at least one. -/
theorem fragments_ne_nil (wide : 2 ≤ mtu) (large : mtu < nalu.length) :
    H265Payloader.buildFragmentedPackets (nalHeader nalu) nalu mtu ≠ [] := by
  have filled : nalu.drop 2 ≠ [] := fun empty => by
    have := List.drop_eq_nil_iff.mp empty
    omega
  simpa [H265Payloader.buildFragmentedPackets] using
    marked_ne_nil true (chunks_ne_nil (mtu - NalHeader.size - FuHeader.size) filled)

theorem emitted_next (mtu : Nat) (payloader : H265Payloader) (nalu : List UInt8) :
    (emitted mtu payloader nalu).2 = (take payloader nalu).2 := by
  by_cases short : nalu.length < 2
  · simp [emitted, Payloader.payload, H265Payloader.payload, take, short]
  · simp only [emitted, Payloader.payload, H265Payloader.payload, take, dif_neg short]
    obtain ⟨vps, sps, pps⟩ := payloader.store nalu (Nat.le_of_not_lt short)
    by_cases complete : vps.isSome ∧ sps.isSome ∧ pps.isSome
    · simp only [dif_pos complete]
    · simp only [dif_neg complete]

theorem emits_iff (wide : 2 ≤ mtu) (payloader : H265Payloader) (nalu : List UInt8) :
    (!(emitted mtu payloader nalu).1.isEmpty) = (waiting payloader).sends nalu := by
  by_cases short : nalu.length < 2
  · have tooShort : ¬ 2 ≤ nalu.length := Nat.not_le.mpr short
    simp [emitted, Payloader.payload, H265Payloader.payload, Waiting.sends, short, tooShort]
  have long := Nat.le_of_not_lt short
  have waits := store_waits payloader long
  simp only [emitted, Payloader.payload, H265Payloader.payload, dif_neg short, Waiting.sends,
    Waiting.complete, long, decide_true, Bool.true_and]
  generalize (waiting payloader).put (nalUnitType nalu) = now at *
  generalize payloader.store nalu long = stored at *
  obtain ⟨vps, sps, pps⟩ := now
  obtain ⟨rfl, rfl, rfl⟩ := waits
  by_cases complete : stored.1.isSome ∧ stored.2.1.isSome ∧ stored.2.2.isSome
  · have allThere : (stored.1.isSome && stored.2.1.isSome && stored.2.2.isSome) = true := by
      simpa [and_assoc] using complete
    simp only [dif_pos complete, allThere, Bool.or_true]
    split <;> rfl
  · have incomplete : (stored.1.isSome && stored.2.1.isSome && stored.2.2.isSome) = false := by
      simpa [and_assoc] using complete
    simp only [dif_neg complete, incomplete, Bool.or_false]
    cases isSet : isParameterSet (nalUnitType nalu) with
    | true => rfl
    | false =>
      by_cases fits : nalu.length ≤ mtu
      · simp [fits]
      · simpa [fits] using fragments_ne_nil wide (Nat.lt_of_not_le fits)

/-- Which units of a frame have packets, given what waits before it. -/
def packetFlags : Waiting → List (List UInt8) → List Bool
  | _, [] => []
  | waiting, nalu :: rest => waiting.sends nalu :: packetFlags (waiting.after nalu) rest

section CallByCall

/-- One call of a sequence: the bound may change between calls. -/
structure Call where
  mtu : Nat
  nalu : List UInt8

def Call.Valid (call : Call) : Prop :=
  4 ≤ call.mtu ∧ call.mtu ≤ 65535 ∧ 2 ≤ call.nalu.length ∧ typeNumber call.nalu ≤ 47

/-- The latest unit of each kind since the last complete set. -/
structure Latest where
  vps : Option (List UInt8)
  sps : Option (List UInt8)
  pps : Option (List UInt8)

namespace Latest

def put (latest : Latest) (nalu : List UInt8) : Latest where
  vps := if nalUnitType nalu = .vpsNut then some nalu else latest.vps
  sps := if nalUnitType nalu = .spsNut then some nalu else latest.sps
  pps := if nalUnitType nalu = .ppsNut then some nalu else latest.pps

/-- What a receiver is to get for one unit, and what waits then. A complete set
is given out at once, and any other unit by itself. -/
def deliver (latest : Latest) (nalu : List UInt8) : List (List UInt8) × Latest :=
  if isParameterSet (nalUnitType nalu) then
    match latest.put nalu with
    | ⟨some vps, some sps, some pps⟩ => ([vps, sps, pps], ⟨none, none, none⟩)
    | waiting => ([], waiting)
  else ([nalu], latest)

end Latest

def latest (payloader : H265Payloader) : Latest :=
  ⟨payloader.vpsNalu.map Subtype.val, payloader.spsNalu.map Subtype.val,
    payloader.ppsNalu.map Subtype.val⟩

theorem store_latest (payloader : H265Payloader) (long : 2 ≤ nalu.length) :
    (latest payloader).put nalu =
      ⟨(payloader.store nalu long).1.map Subtype.val,
        (payloader.store nalu long).2.1.map Subtype.val,
        (payloader.store nalu long).2.2.map Subtype.val⟩ := by
  simp only [latest, Latest.put, H265Payloader.store, Latest.mk.injEq]
  refine ⟨?_, ?_, ?_⟩
  · by_cases isVps : nalUnitType nalu = .vpsNut <;> simp [isVps]
  · by_cases isSps : nalUnitType nalu = .spsNut <;> simp [isSps]
  · by_cases isPps : nalUnitType nalu = .ppsNut <;> simp [isPps]

/-- Whole units go through the payloader as a receiver is to get them. -/
theorem take_delivers (payloader : H265Payloader) (long : 2 ≤ nalu.length) :
    (take payloader nalu).1 = ((latest payloader).deliver nalu).1 ∧
      latest (take payloader nalu).2 = ((latest payloader).deliver nalu).2 := by
  cases isSet : isParameterSet (nalUnitType nalu) with
  | false =>
    rw [take_other payloader long isSet]
    simp [Latest.deliver, isSet]
  | true =>
    simp only [take, dif_neg (Nat.not_lt.mpr long), Latest.deliver, isSet,
      store_latest payloader long]
    obtain ⟨vps, sps, pps⟩ := payloader.store nalu long
    by_cases complete : vps.isSome ∧ sps.isSome ∧ pps.isSome
    · obtain ⟨vps, rfl⟩ := Option.isSome_iff_exists.mp complete.1
      obtain ⟨sps, rfl⟩ := Option.isSome_iff_exists.mp complete.2.1
      obtain ⟨pps, rfl⟩ := Option.isSome_iff_exists.mp complete.2.2
      exact ⟨rfl, rfl⟩
    · simp only [dif_neg complete]
      -- One of the three is missing, so nothing goes out.
      rcases vps with _ | vps
      · exact ⟨rfl, rfl⟩
      rcases sps with _ | sps
      · exact ⟨rfl, rfl⟩
      rcases pps with _ | pps
      · exact ⟨rfl, rfl⟩
      · exact absurd ⟨rfl, rfl, rfl⟩ complete

/-- A payloader called again and again, beside what is to be delivered. -/
def callStep (state : H265Payloader × Latest) (call : Call) : Option (H265Payloader × Latest) :=
  some ((emitted call.mtu state.1 call.nalu).2, (state.2.deliver call.nalu).2)

/-- What is required of one call: not all three kinds wait after it, and a
receiver gets out of its packets what it is to get. -/
def CallDelivers (before : H265Payloader × Latest) (call : Call)
    (after : H265Payloader × Latest) : Prop :=
  after.1.held.length ≤ 2 ∧
    depacketize received (emitted call.mtu before.1 call.nalu).1 =
      (before.2.deliver call.nalu).1

theorem held_length_le_two (payloader : H265Payloader) : payloader.held.length ≤ 2 := by
  obtain ⟨_ | vps, _ | sps, _ | pps, incomplete⟩ := payloader
  case some.some.some => exact absurd ⟨rfl, rfl, rfl⟩ incomplete
  all_goals exact Nat.le_of_ble_eq_true rfl

theorem call_delivers (payloader : H265Payloader) (call : Call) (valid : call.Valid) :
    depacketize received (emitted call.mtu payloader call.nalu).1 =
        ((latest payloader).deliver call.nalu).1 ∧
      latest (emitted call.mtu payloader call.nalu).2 =
        ((latest payloader).deliver call.nalu).2 := by
  obtain ⟨wide, narrow, long, low⟩ := valid
  have filled : call.nalu ≠ [] := List.ne_nil_of_length_pos (Nat.lt_of_lt_of_le (by decide) long)
  obtain ⟨carried, next⟩ := emitted_carries wide narrow payloader call.nalu ⟨filled, low⟩
  obtain ⟨gave, waits⟩ := take_delivers payloader long
  have whole := carried []
  rw [List.append_nil] at whole
  refine ⟨?_, next ▸ waits⟩
  rw [depacketize, whole, gave]
  exact List.append_nil _

/-- In every sequence of calls from the default state each call delivers what
it is to deliver, and never do all three kinds wait. -/
theorem calls_deliver (valid : ∀ call ∈ calls, call.Valid) :
    Machine.Along callStep CallDelivers (H265Payloader.new, ⟨none, none, none⟩) calls := by
  have follows : Machine.Along callStep (fun _ call _ => call.Valid)
      (H265Payloader.new, ⟨none, none, none⟩) calls :=
    Machine.along_of_events fun call member _ _ => valid call member
  refine Machine.along_imp (fun state => latest state.1 = state.2) ?_ ?_ rfl follows
  · intro before call after same taken valid
    cases taken
    refine ⟨held_length_le_two _, ?_⟩
    rw [← same]
    exact (call_delivers before.1 call valid).1
  · intro before call after same taken valid
    cases taken
    rw [← same]
    exact (call_delivers before.1 call valid).2

/-- The three sets with a slice between them. -/
theorem sets_around_slice :
    Machine.Along callStep CallDelivers (H265Payloader.new, ⟨none, none, none⟩)
      [⟨4, [0x40, 1, 7]⟩, ⟨1200, [0x42, 1]⟩, ⟨4, [0x02, 1, 2, 3, 4, 5]⟩, ⟨65535, [0x44, 1]⟩] :=
  calls_deliver (by simp [Call.Valid, typeNumber])

end CallByCall

end MoonlightWeb.Streamer.Video.H265

import MoonlightWeb.Streamer.Video.Payloader

/-! The H.264 payloader. A sequence and a picture parameter set are kept until
a later unit that is neither comes, and go out before it when both are there;
any other unit goes out as one packet or as FU-A fragments. -/
namespace MoonlightWeb.Streamer.Video.H264
open MoonlightWeb.HoldBack MoonlightWeb.Framing

inductive NalUnitType where
  | unspecified
  | codedSliceNonIDR
  | codedSliceDataPartitionA
  | codedSliceDataPartitionB
  | codedSliceDataPartitionC
  | codedSliceIDR
  | sei
  | sps
  | pps
  | accessUnitDelimiter
  | endOfSequence
  | endOfStream
  | fillerData
  | spsEx
  | prefixNALUnit
  | subsetSPS
  | depthParameterSet
  | reserved17
  | reserved18
  | codedSliceAux
  | codedSliceExt
  | codedSliceExtDepth
  | reserved22
  | reserved23
  | stapA
  | unspecified25
  | unspecified26
  | unspecified27
  | fragmentationUnit
  | unspecified29
  | unspecified30
  | unspecified31
  deriving DecidableEq, Repr

/-- The number of a type: the constructors stand in the order of their
numbers. -/
def NalUnitType.toU8 (type : NalUnitType) : UInt8 := UInt8.ofNat type.ctorIdx

structure NalHeader where
  forbiddenZeroBit : Bool
  nalRefIdc : UInt8
  nalUnitType : NalUnitType
  deriving DecidableEq, Repr

namespace NalHeader

def size : Nat := 1

/-- Five bits always name a type, so the source's `unwrap` cannot fail. -/
def parse (header : UInt8) : NalHeader where
  forbiddenZeroBit := (header &&& 0b10000000) >>> 7 == 1
  nalRefIdc := (header &&& 0b01100000) >>> 5
  nalUnitType := .ofNat (header &&& 0b00011111).toNat

def serialize (header : NalHeader) : UInt8 :=
  (if header.forbiddenZeroBit then (0b1000_0000 : UInt8) else 0) |||
    (header.nalRefIdc &&& 0b11) <<< 5 ||| header.nalUnitType.toU8 &&& 0b0001_1111

end NalHeader

structure FuHeader where
  startBit : Bool
  endBit : Bool
  reservedBit : Bool
  nalUnitType : NalUnitType
  deriving DecidableEq, Repr

namespace FuHeader

def size : Nat := 1

def serialize (header : FuHeader) : UInt8 :=
  (if header.startBit then (0b1000_0000 : UInt8) else 0) |||
    (if header.endBit then (0b0100_0000 : UInt8) else 0) |||
    (if header.reservedBit then (0b0010_0000 : UInt8) else 0) |||
    header.nalUnitType.toU8 &&& 0b0001_1111

end FuHeader

/-- The type in the first byte of a unit. -/
def nalUnitType (nalu : List UInt8) : NalUnitType := (NalHeader.parse (nalu.headD 0)).nalUnitType

/-- A unit of the given type, long enough to have a header. -/
abbrev NaluOf (type : NalUnitType) :=
  { nalu : List UInt8 // NalHeader.size ≤ nalu.length ∧ nalUnitType nalu = type }

structure H264Payloader where
  spsNalu : Option (NaluOf .sps)
  ppsNalu : Option (NaluOf .pps)
  deriving DecidableEq

namespace H264Payloader

/-- `H264Payloader::default()` -/
def new : H264Payloader := ⟨none, none⟩

def buildSingleNal (nalu : List UInt8) : List UInt8 := nalu

def buildStapAPacket (nalus : List (List UInt8)) : List UInt8 :=
  let nalRefIdc := nalus.foldl (fun nalRefIdc nalu =>
    let nalHeader := NalHeader.parse (nalu.headD 0)
    if nalHeader.nalRefIdc > nalRefIdc then nalHeader.nalRefIdc else nalRefIdc) 0
  let stapAHeader : NalHeader := ⟨false, nalRefIdc, .stapA⟩
  stapAHeader.serialize :: prefixed nalus

def buildFragmentedPackets (nalu : List UInt8) (nalHeader : NalHeader) (mtu : Nat) :
    List (List UInt8) :=
  let fuIndicator := { nalHeader with nalUnitType := .fragmentationUnit }.serialize
  let nalPayload := nalu.drop 1
  let nalFragments := chunks (mtu - NalHeader.size - FuHeader.size) nalPayload
  (marked true nalFragments).map fun (startBit, endBit, nalFragment) =>
    let fuHeader : FuHeader := ⟨startBit, endBit, false, nalHeader.nalUnitType⟩
    fuIndicator :: fuHeader.serialize :: nalFragment

def payload (mtu : Nat) (payloader : H264Payloader) (b : List UInt8) :
    Except RtpError (List (List UInt8)) × H264Payloader :=
  if short : b.length < NalHeader.size then (.error .errBufferTooSmall, payloader)
  else
    let nalHeader := NalHeader.parse (b.headD 0)
    if nalHeader.nalUnitType = .accessUnitDelimiter ∨ nalHeader.nalUnitType = .fillerData then
      (.ok [], payloader)
    else if isPps : nalHeader.nalUnitType = .pps then
      (.ok [], { payloader with ppsNalu := some ⟨b, Nat.le_of_not_lt short, isPps⟩ })
    else if isSps : nalHeader.nalUnitType = .sps then
      (.ok [], { payloader with spsNalu := some ⟨b, Nat.le_of_not_lt short, isSps⟩ })
    else
      let (packets, payloader) :=
        match payloader.ppsNalu, payloader.spsNalu with
        | some pps, some sps =>
          let stapA := buildStapAPacket [sps, pps]
          (if stapA.length < mtu then [stapA] else [buildSingleNal sps, buildSingleNal pps],
            { payloader with ppsNalu := none, spsNalu := none })
        | _, _ => ([], payloader)
      (.ok (packets ++ if b.length ≤ mtu then [buildSingleNal b]
        else buildFragmentedPackets b nalHeader mtu), payloader)

instance : Payloader H264Payloader := ⟨payload⟩

/-- The parameter sets that wait for a later unit. -/
def held (payloader : H264Payloader) : List (List UInt8) :=
  (payloader.spsNalu.map Subtype.val).toList ++ (payloader.ppsNalu.map Subtype.val).toList

end H264Payloader

/-- RFC 3984: what a receiver in non-interleaved mode reads out of one packet.
Types 1 to 23 are single units, 24 is a STAP-A, 28 an FU-A; the rest is
dropped. -/
def received (packet : List UInt8) : Received UInt8 :=
  match packet with
  | [] => .units []
  | indicator :: rest =>
    let type := (indicator &&& 0b0001_1111).toNat
    if 1 ≤ type ∧ type ≤ 23 then .units [packet]
    else if type = 24 then .units (splitPrefixed rest)
    else if type = 28 then
      match rest with
      | [] => .units []
      | header :: body =>
        .fragment (header &&& 0b1000_0000 != 0) (header &&& 0b0100_0000 != 0)
          [indicator &&& 0b1110_0000 ||| header &&& 0b0001_1111] body
    else .units []

/-- The two header bytes of a fragment carry the header byte of the unit, the
marks and the fragment type. -/
private theorem fragment_headers (first : UInt8) (startBit endBit : Bool) :
    let nalHeader := NalHeader.parse first
    let fuIndicator := { nalHeader with nalUnitType := NalUnitType.fragmentationUnit }.serialize
    let fuHeader := (FuHeader.mk startBit endBit false nalHeader.nalUnitType).serialize
    (fuIndicator &&& 0b0001_1111).toNat = 28 ∧
      (fuHeader &&& 0b1000_0000 != 0) = startBit ∧ (fuHeader &&& 0b0100_0000 != 0) = endBit ∧
      fuIndicator &&& 0b1110_0000 ||| fuHeader &&& 0b0001_1111 = first := by
  revert startBit endBit
  exact every_byte (P := fun first => ∀ startBit endBit,
    let nalHeader := NalHeader.parse first
    let fuIndicator := { nalHeader with nalUnitType := NalUnitType.fragmentationUnit }.serialize
    let fuHeader := (FuHeader.mk startBit endBit false nalHeader.nalUnitType).serialize
    (fuIndicator &&& 0b0001_1111).toNat = 28 ∧
      (fuHeader &&& 0b1000_0000 != 0) = startBit ∧ (fuHeader &&& 0b0100_0000 != 0) = endBit ∧
      fuIndicator &&& 0b1110_0000 ||| fuHeader &&& 0b0001_1111 = first) (by decide +kernel) first

/-- The header of a STAP-A has its type, whatever the units' priorities. -/
private theorem stap_a_type (nalRefIdc : UInt8) :
    ((NalHeader.mk false nalRefIdc .stapA).serialize &&& 0b0001_1111).toNat = 24 :=
  every_byte (P := fun nalRefIdc =>
    ((NalHeader.mk false nalRefIdc .stapA).serialize &&& 0b0001_1111).toNat = 24)
    (by decide +kernel) nalRefIdc

/-- The number of a unit's type, from 0 to 31. -/
def typeNumber (nalu : List UInt8) : Nat := (nalu.headD 0 &&& 0b0001_1111).toNat

/-- What the encoder's stream consists of: not the packet types of RFC 3984. -/
def ValidNal (nalu : List UInt8) : Prop :=
  nalu ≠ [] ∧ 1 ≤ typeNumber nalu ∧ typeNumber nalu ≤ 23

instance (nalu : List UInt8) : Decidable (ValidNal nalu) :=
  inferInstanceAs (Decidable (_ ∧ _ ∧ _))

theorem type_number_of_parameter_set (isSet : nalUnitType nalu = .sps ∨ nalUnitType nalu = .pps) :
    1 ≤ typeNumber nalu ∧ typeNumber nalu ≤ 23 := by
  revert isSet
  exact every_byte (P := fun byte =>
    NalUnitType.ofNat (byte &&& 0b0001_1111).toNat = .sps ∨
      NalUnitType.ofNat (byte &&& 0b0001_1111).toNat = .pps →
    1 ≤ (byte &&& 0b0001_1111).toNat ∧ (byte &&& 0b0001_1111).toNat ≤ 23)
    (by decide +kernel) (nalu.headD 0)

theorem received_single (filled : nalu ≠ []) (low : 1 ≤ typeNumber nalu)
    (high : typeNumber nalu ≤ 23) : received nalu = .units [nalu] := by
  cases nalu with
  | nil => exact absurd rfl filled
  | cons first rest => exact if_pos ⟨low, high⟩

theorem received_stap_a (nalus : List (List UInt8))
    (short : ∀ nalu ∈ nalus, nalu.length < 65536) :
    received (H264Payloader.buildStapAPacket nalus) = .units nalus := by
  simp only [received, H264Payloader.buildStapAPacket, stap_a_type, split_prefixed nalus short]
  rfl

/-- In an aggregate that fits, every length fits in its prefix. -/
theorem stap_a_lengths (narrow : mtu ≤ 65535)
    (fits : (H264Payloader.buildStapAPacket nalus).length < mtu) :
    ∀ nalu ∈ nalus, nalu.length < 65536 := by
  intro nalu member
  have inside := mem_prefixed_length member
  simp only [H264Payloader.buildStapAPacket, List.length_cons] at fits
  omega

/-- A receiver reads the fragments of a unit as its chunks behind its header
byte. -/
theorem received_fragments (mtu : Nat) (first : UInt8) (body : List UInt8) :
    (H264Payloader.buildFragmentedPackets (first :: body) (NalHeader.parse first) mtu).map
        received =
      (marked true (chunks (mtu - NalHeader.size - FuHeader.size) body)).map
        (fun (starts, ends, fragment) => .fragment starts ends [first] fragment) := by
  simp only [H264Payloader.buildFragmentedPackets, List.map_map, List.drop_one, List.tail_cons]
  apply List.map_congr_left
  rintro ⟨startBit, endBit, fragment⟩ _
  obtain ⟨type, start, last, header⟩ := fragment_headers first startBit endBit
  simp only [Function.comp, received, type, start, last, header]
  rfl

/-- The fragments of a unit that does not fit are joined to it again. -/
theorem reassemble_fragments (wide : 3 ≤ mtu) (large : mtu < nalu.length)
    (rest : List (Received UInt8)) :
    reassemble none ((H264Payloader.buildFragmentedPackets nalu
      (NalHeader.parse (nalu.headD 0)) mtu).map received ++ rest) =
        nalu :: reassemble none rest := by
  cases nalu with
  | nil => simp at large
  | cons first body =>
    have filled : body ≠ [] := by
      rintro rfl
      simp only [List.length_cons, List.length_nil] at large
      omega
    have positive : 0 < mtu - NalHeader.size - FuHeader.size := by
      simp only [NalHeader.size, FuHeader.size]
      omega
    rw [List.headD_cons, received_fragments, reassemble_chunks none [first] rest positive filled,
      List.singleton_append]

def isParameterSet (type : NalUnitType) : Bool :=
  type ∈ [.sps, .pps, .spsEx, .subsetSPS, .depthParameterSet]

def isSlice (type : NalUnitType) : Bool :=
  type ∈ [.codedSliceNonIDR, .codedSliceDataPartitionA, .codedSliceDataPartitionB,
    .codedSliceDataPartitionC, .codedSliceIDR, .codedSliceAux, .codedSliceExt,
    .codedSliceExtDepth]

/-- Access unit delimiters and filler need no delivery. -/
def isKept (type : NalUnitType) : Bool := type ∉ [.accessUnitDelimiter, .fillerData]

def roles : Roles (List UInt8) where
  kept nalu := isKept (nalUnitType nalu)
  parameterSet nalu := isParameterSet (nalUnitType nalu)
  slice nalu := isSlice (nalUnitType nalu)
  parameter_set_kept nalu := by cases nalUnitType nalu <;> decide
  slice_kept nalu := by cases nalUnitType nalu <;> decide

/-- What a call does to whole units, without their packets. -/
def take (payloader : H264Payloader) (nalu : List UInt8) :
    List (List UInt8) × H264Payloader :=
  if short : nalu.length < NalHeader.size then ([], payloader)
  else if nalUnitType nalu = .accessUnitDelimiter ∨ nalUnitType nalu = .fillerData then
    ([], payloader)
  else if isPps : nalUnitType nalu = .pps then
    ([], { payloader with ppsNalu := some ⟨nalu, Nat.le_of_not_lt short, isPps⟩ })
  else if isSps : nalUnitType nalu = .sps then
    ([], { payloader with spsNalu := some ⟨nalu, Nat.le_of_not_lt short, isSps⟩ })
  else
    match payloader.ppsNalu, payloader.spsNalu with
    | some pps, some sps => ([sps.val, pps.val, nalu], .new)
    | _, _ => ([nalu], payloader)

/-- What is never delivered: a unit without a header, and a parameter set whose
place is taken before it was sent. -/
def loses (payloader : H264Payloader) (nalu : List UInt8) : Prop :=
  nalu.length < NalHeader.size ∨
    (nalUnitType nalu = .sps ∧ payloader.spsNalu.isSome) ∨
    (nalUnitType nalu = .pps ∧ payloader.ppsNalu.isSome)

theorem emitted_carries (wide : 3 ≤ mtu) (narrow : mtu ≤ 65535) (payloader : H264Payloader)
    (nalu : List UInt8) (valid : ValidNal nalu) : Carries received mtu take payloader nalu := by
  obtain ⟨filled, low, high⟩ := valid
  have long : ¬ nalu.length < NalHeader.size :=
    Nat.not_lt.mpr (List.length_pos_iff.mpr filled)
  have own (rest : List (Received UInt8)) :
      reassemble none (((if nalu.length ≤ mtu then [H264Payloader.buildSingleNal nalu]
        else H264Payloader.buildFragmentedPackets nalu (NalHeader.parse (nalu.headD 0)) mtu).map
          received) ++ rest) = nalu :: reassemble none rest := by
    split
    · simp [H264Payloader.buildSingleNal, received_single filled low high, reassemble]
    · exact reassemble_fragments wide (by omega) rest
  have header : (NalHeader.parse (nalu.headD 0)).nalUnitType = nalUnitType nalu := rfl
  simp only [Carries, emitted, Payloader.payload, H264Payloader.payload, take, dif_neg long, header]
  by_cases unneeded : nalUnitType nalu = .accessUnitDelimiter ∨ nalUnitType nalu = .fillerData
  · simp [if_pos unneeded]
  by_cases isPps : nalUnitType nalu = .pps
  · simp [isPps]
  by_cases isSps : nalUnitType nalu = .sps
  · simp [isSps]
  simp only [if_neg unneeded, dif_neg isPps, dif_neg isSps]
  rcases payloader with ⟨_ | ⟨sps, spsLong, spsType⟩, _ | ⟨pps, ppsLong, ppsType⟩⟩
  · exact ⟨own, rfl⟩
  · exact ⟨own, rfl⟩
  · exact ⟨own, rfl⟩
  · refine ⟨fun rest => ?_, rfl⟩
    simp only [List.map_append, List.append_assoc]
    split
    · rename_i fits
      have short := stap_a_lengths narrow fits
      simpa [received_stap_a _ short, reassemble] using own rest
    · have spsFilled : sps ≠ [] := List.length_pos_iff.mp spsLong
      have ppsFilled : pps ≠ [] := List.length_pos_iff.mp ppsLong
      obtain ⟨spsLow, spsHigh⟩ := type_number_of_parameter_set (.inl spsType)
      obtain ⟨ppsLow, ppsHigh⟩ := type_number_of_parameter_set (.inr ppsType)
      simpa [H264Payloader.buildSingleNal, received_single spsFilled spsLow spsHigh,
        received_single ppsFilled ppsLow ppsHigh, reassemble] using own rest

/-- Everything a call does to a unit that has to be delivered and has a
header: store it as one of the two sets, give it out behind both, or give it
out alone. -/
theorem take_cases (payloader : H264Payloader) (kept : isKept (nalUnitType nalu) = true)
    (long : NalHeader.size ≤ nalu.length) :
    (∃ isPps : nalUnitType nalu = .pps, take payloader nalu =
      ([], { payloader with ppsNalu := some ⟨nalu, long, isPps⟩ })) ∨
    (∃ isSps : nalUnitType nalu = .sps, take payloader nalu =
      ([], { payloader with spsNalu := some ⟨nalu, long, isSps⟩ })) ∨
    (nalUnitType nalu ≠ .pps ∧ nalUnitType nalu ≠ .sps ∧ ∃ sps pps,
      payloader = ⟨some sps, some pps⟩ ∧
        take payloader nalu = ([sps.val, pps.val, nalu], .new)) ∨
    (nalUnitType nalu ≠ .pps ∧ nalUnitType nalu ≠ .sps ∧
      (payloader.spsNalu.isSome && payloader.ppsNalu.isSome) = false ∧
        take payloader nalu = ([nalu], payloader)) := by
  have needed : ¬ (nalUnitType nalu = .accessUnitDelimiter ∨ nalUnitType nalu = .fillerData) := by
    simpa [isKept] using kept
  simp only [take, dif_neg (Nat.not_lt.mpr long), if_neg needed]
  by_cases isPps : nalUnitType nalu = .pps
  · exact .inl ⟨isPps, dif_pos isPps⟩
  by_cases isSps : nalUnitType nalu = .sps
  · exact .inr (.inl ⟨isSps, by simp only [dif_neg isPps, dif_pos isSps]⟩)
  simp only [dif_neg isPps, dif_neg isSps]
  refine .inr (.inr ?_)
  rcases payloader with ⟨_ | sps, _ | pps⟩
  · exact .inr ⟨isPps, isSps, rfl, rfl⟩
  · exact .inr ⟨isPps, isSps, rfl, rfl⟩
  · exact .inr ⟨isPps, isSps, rfl, rfl⟩
  · exact .inl ⟨isPps, isSps, sps, pps, rfl, rfl⟩

/-- The payloader at the level of whole units. -/
def stage : Stage H264Payloader (List UInt8) where
  toRoles := roles
  take := take
  held := H264Payloader.held
  loses := loses
  held_parameter_sets := by
    rintro ⟨_ | ⟨sps, _, spsType⟩, _ | ⟨pps, _, ppsType⟩⟩ unit member <;>
      simp only [H264Payloader.held, Option.map_none, Option.map_some, Option.toList_none,
        Option.toList_some, List.append_nil, List.nil_append, List.cons_append, List.mem_cons,
        List.not_mem_nil, or_false] at member
    · subst member
      simp [roles, ppsType, isParameterSet]
    · subst member
      simp [roles, spsType, isParameterSet]
    · rcases member with rfl | rfl
      · simp [roles, spsType, isParameterSet]
      · simp [roles, ppsType, isParameterSet]
  take_dropped := by
    intro payloader nalu dropped
    have unneeded : nalUnitType nalu = .accessUnitDelimiter ∨ nalUnitType nalu = .fillerData := by
      simpa [roles, isKept, or_iff_not_imp_left] using dropped
    simp [take, unneeded]
  take_kept := by
    intro payloader nalu kept keeps
    simp only [loses, not_or, not_and, Nat.not_lt] at keeps
    obtain ⟨long, spsFree, ppsFree⟩ := keeps
    obtain ⟨isPps, took⟩ | ⟨isSps, took⟩ | ⟨_, _, sps, pps, rfl, took⟩ | ⟨_, _, _, took⟩ :=
      take_cases payloader kept long
    · have free := Option.not_isSome_iff_eq_none.mp (ppsFree isPps)
      simp [took, H264Payloader.held, free]
    · have free := Option.not_isSome_iff_eq_none.mp (spsFree isSps)
      simp only [took, H264Payloader.held, free]
      exact @List.perm_append_comm _ [nalu] _
    · simp [took, H264Payloader.held, H264Payloader.new]
    · simp only [took]
      exact List.perm_append_comm
  take_losing := by
    intro payloader nalu kept losing
    by_cases short : nalu.length < NalHeader.size
    · simp [take, short]
    -- The set that waited in the place of the new one is gone.
    rcases losing with absurdly | ⟨isSps, taken⟩ | ⟨isPps, taken⟩
    · exact absurd absurdly short
    · obtain ⟨old, spsTaken⟩ := Option.isSome_iff_exists.mp taken
      simp [take, isSps, short, H264Payloader.held, spsTaken]
    · obtain ⟨old, ppsTaken⟩ := Option.isSome_iff_exists.mp taken
      simp [take, isPps, short, H264Payloader.held, ppsTaken]
  take_slice := by
    intro payloader nalu slice keeps
    simp only [loses, not_or, Nat.not_lt] at keeps
    have kept := roles.slice_kept nalu slice
    obtain ⟨isPps, _⟩ | ⟨isSps, _⟩ | ⟨_, _, sps, pps, _, took⟩ | ⟨_, _, _, took⟩ :=
      take_cases payloader kept keeps.1
    · simp [roles, isPps, isSlice] at slice
    · simp [roles, isSps, isSlice] at slice
    · exact ⟨[sps.val, pps.val], by rw [took]; rfl⟩
    · exact ⟨[], by rw [took]; rfl⟩

/-- The units a receiver has after one payloader was fed the list. -/
def delivered (mtu : Nat) (nals : List (List UInt8)) : List (List UInt8) :=
  depacketize received (feed (emitted mtu) H264Payloader.new nals).1

def heldAfter (mtu : Nat) (nals : List (List UInt8)) : List (List UInt8) :=
  (feed (emitted mtu) H264Payloader.new nals).2.held

/-- Whether the stream brings its parameter sets in pairs, given which of them
already wait: no set comes while one of its kind waits, and no slice comes
while only one of the two waits. -/
def paired (spsWaits ppsWaits : Bool) : List (List UInt8) → Bool
  | [] => true
  | nalu :: rest =>
    if !isKept (nalUnitType nalu) then paired spsWaits ppsWaits rest
    else if nalUnitType nalu = .pps then !ppsWaits && paired spsWaits true rest
    else if nalUnitType nalu = .sps then !spsWaits && paired true ppsWaits rest
    else
      (!isSlice (nalUnitType nalu) || spsWaits == ppsWaits) &&
        paired (spsWaits && !ppsWaits) (ppsWaits && !spsWaits) rest

theorem orderly_iff_paired (filled : ∀ nalu ∈ nals, nalu ≠ []) (payloader : H264Payloader) :
    stage.Orderly payloader nals ↔
      paired payloader.spsNalu.isSome payloader.ppsNalu.isSome nals = true := by
  induction nals generalizing payloader with
  | nil => simp [Stage.Orderly, paired]
  | cons nalu rest ih =>
    have long : NalHeader.size ≤ nalu.length := List.length_pos_iff.mpr (filled nalu (by simp))
    have later := ih fun other member => filled other (by simp [member])
    have loses (payloader : H264Payloader) : stage.loses payloader nalu ↔
        (nalUnitType nalu = .sps ∧ payloader.spsNalu.isSome) ∨
          (nalUnitType nalu = .pps ∧ payloader.ppsNalu.isSome) :=
      or_iff_right (Nat.not_lt.mpr long)
    have kinds : stage.kept nalu = isKept (nalUnitType nalu) ∧
      stage.slice nalu = isSlice (nalUnitType nalu) := ⟨rfl, rfl⟩
    simp only [Stage.Orderly, later, loses, kinds.1, kinds.2, paired]
    cases kept : isKept (nalUnitType nalu) with
    | false =>
      have noSlice : isSlice (nalUnitType nalu) = false := by
        by_contra slice
        have := roles.slice_kept nalu (by simpa [roles] using slice)
        simp [roles, kept] at this
      have took := stage.take_dropped payloader nalu kept
      simp [took, noSlice]
    | true =>
      obtain ⟨isPps, took⟩ | ⟨isSps, took⟩ | ⟨noPps, noSps, sps, pps, rfl, took⟩ |
          ⟨noPps, noSps, free, took⟩ := take_cases payloader kept long
      · change stage.take payloader nalu = _ at took
        simp [took, isPps, isSlice]
      · change stage.take payloader nalu = _ at took
        simp [took, isSps, isSlice]
      · change stage.take _ nalu = _ at took
        have empty : stage.held H264Payloader.new = [] := rfl
        simp [took, noPps, noSps, empty]
        rfl
      · change stage.take payloader nalu = _ at took
        simp only [took, noPps, noSps, false_and, or_false, not_false_eq_true, implies_true,
          Bool.not_true, Bool.false_eq_true, ↓reduceIte, true_and]
        -- Nothing waits, one of the two waits, or both would have been given out.
        rcases payloader with ⟨_ | sps, _ | pps⟩
        · simp [stage, H264Payloader.held]
        · simp [stage, H264Payloader.held]
        · simp [stage, H264Payloader.held]
        · cases free

/-- The H.264 payloader loses no unit of a stream and gives no parameter set out
late exactly when the stream brings its parameter sets in pairs. -/
theorem loses_nothing_iff (wide : 3 ≤ mtu) (narrow : mtu ≤ 65535)
    (valid : ∀ nalu ∈ nals, ValidNal nalu) :
    LosesNothing roles (delivered mtu) (heldAfter mtu) nals ↔ paired false false nals = true :=
  (loses_nothing_iff_orderly stage H264Payloader.new rfl
    (emitted_carries wide narrow) valid).trans
      (orderly_iff_paired (fun nalu member => (valid nalu member).1) H264Payloader.new)

/-- Whether a unit's own call sends packets. -/
def hasPacket (nalu : List UInt8) : Bool :=
  decide (1 ≤ nalu.length) && isKept (nalUnitType nalu) &&
    nalUnitType nalu ∉ [.sps, .pps]

/-- The fragments of a unit that does not fit are at least one. -/
theorem fragments_ne_nil (wide : 1 ≤ mtu) (large : mtu < nalu.length) :
    H264Payloader.buildFragmentedPackets nalu nalHeader mtu ≠ [] := by
  have filled : nalu.drop 1 ≠ [] := fun empty => by
    have := List.drop_eq_nil_iff.mp empty
    omega
  simpa [H264Payloader.buildFragmentedPackets] using
    marked_ne_nil true (chunks_ne_nil (mtu - NalHeader.size - FuHeader.size) filled)

theorem emits_iff (wide : 1 ≤ mtu) (payloader : H264Payloader) (nalu : List UInt8) :
    (!(emitted mtu payloader nalu).1.isEmpty) = hasPacket nalu := by
  by_cases short : nalu.length < NalHeader.size
  · have tooShort : ¬ 1 ≤ nalu.length := Nat.not_le.mpr short
    simp [emitted, Payloader.payload, H264Payloader.payload, hasPacket, short, tooShort]
  have long : 1 ≤ nalu.length := Nat.le_of_not_lt short
  have header : (NalHeader.parse (nalu.headD 0)).nalUnitType = nalUnitType nalu := rfl
  simp only [emitted, Payloader.payload, H264Payloader.payload, hasPacket, dif_neg short, header,
    long, decide_true, Bool.true_and]
  by_cases unneeded : nalUnitType nalu = .accessUnitDelimiter ∨ nalUnitType nalu = .fillerData
  · rcases unneeded with type | type <;> simp [type, isKept]
  by_cases isPps : nalUnitType nalu = .pps
  · simp [isPps]
  by_cases isSps : nalUnitType nalu = .sps
  · simp [isSps]
  have own : (if nalu.length ≤ mtu then [H264Payloader.buildSingleNal nalu]
      else H264Payloader.buildFragmentedPackets nalu (NalHeader.parse (nalu.headD 0)) mtu) ≠ [] := by
    split
    · exact List.cons_ne_nil _ _
    · exact fragments_ne_nil wide (by omega)
  have flag : (isKept (nalUnitType nalu) && decide (nalUnitType nalu ∉ [.sps, .pps])) = true := by
    simpa [isKept, isPps, isSps] using unneeded
  simp only [if_neg unneeded, dif_neg isPps, dif_neg isSps, flag, Bool.not_eq_true',
    List.isEmpty_eq_false_iff]
  exact List.append_ne_nil_of_right_ne_nil _ own

section OneCall

/-- The parameter sets a call sends before its own unit: both or none. -/
def H264Payloader.pending (payloader : H264Payloader) : List (List UInt8) :=
  match payloader.spsNalu, payloader.ppsNalu with
  | some sps, some pps => [sps.val, pps.val]
  | _, _ => []

/-- Whether a receiver reads a parameter set out of a packet. -/
def carriesParameterSet (packet : List UInt8) : Bool :=
  match received packet with
  | .units units => units.any fun unit => nalUnitType unit ∈ [.sps, .pps]
  | .fragment _ _ _ _ => false

/-- The fragments among the packets of a call, by their marks. -/
def fragmentBits (packets : List (List UInt8)) : List (Bool × Bool) :=
  (packets.map received).filterMap Received.bits

/-- A unit goes out as one packet or as fragments, none of them too long. -/
def ownPackets (mtu : Nat) (nalu : List UInt8) : List (List UInt8) :=
  if nalu.length ≤ mtu then [H264Payloader.buildSingleNal nalu]
  else H264Payloader.buildFragmentedPackets nalu (NalHeader.parse (nalu.headD 0)) mtu

theorem mem_own_packets_length (wide : 3 ≤ mtu) (member : packet ∈ ownPackets mtu nalu) :
    packet.length ≤ mtu := by
  unfold ownPackets at member
  split at member
  · rename_i fits
    rw [List.mem_singleton.mp member]
    exact fits
  · obtain ⟨⟨startBit, endBit, fragment⟩, isMarked, rfl⟩ := List.mem_map.mp member
    have short := mem_chunks_length (mem_of_mem_marked isMarked)
    simp only [NalHeader.size, FuHeader.size, List.length_cons] at short ⊢
    omega

theorem own_packets_bits (wide : 3 ≤ mtu) (valid : ValidNal nalu) :
    if nalu.length ≤ mtu then fragmentBits (ownPackets mtu nalu) = []
    else ∃ between, fragmentBits (ownPackets mtu nalu) =
      (true, false) :: List.replicate between (false, false) ++ [(false, true)] := by
  obtain ⟨filled, low, high⟩ := valid
  split
  · rename_i fits
    simp [fragmentBits, ownPackets, fits, H264Payloader.buildSingleNal,
      received_single filled low high, Received.bits]
  · rename_i large
    cases nalu with
    | nil => exact absurd rfl filled
    | cons first body =>
      have positive : 0 < mtu - NalHeader.size - FuHeader.size := by
        simp only [NalHeader.size, FuHeader.size]
        omega
      have longer : mtu - NalHeader.size - FuHeader.size < body.length := by
        simp only [NalHeader.size, FuHeader.size, List.length_cons] at large ⊢
        omega
      simp only [fragmentBits, ownPackets, if_neg large, List.headD_cons, received_fragments]
      exact ⟨_, marked_bits [first] (two_le_chunks_length positive longer)⟩

/-- What a call sends for a unit that is neither dropped nor kept: packets of
parameter sets, and the unit's own. -/
theorem payload_other (narrow : mtu ≤ 65535) (payloader : H264Payloader) (filled : nalu ≠ [])
    (other : nalUnitType nalu ∉ [.accessUnitDelimiter, .fillerData, .sps, .pps]) :
    ∃ sets next, H264Payloader.payload mtu payloader nalu = (.ok (sets ++ ownPackets mtu nalu), next) ∧
      ∀ packet ∈ sets, carriesParameterSet packet = true ∧ (received packet).bits = none := by
  have long : ¬ nalu.length < NalHeader.size :=
    Nat.not_lt.mpr (List.length_pos_iff.mpr filled)
  have header : (NalHeader.parse (nalu.headD 0)).nalUnitType = nalUnitType nalu := rfl
  simp only [List.mem_cons, List.not_mem_nil, or_false, not_or] at other
  obtain ⟨noDelimiter, noFiller, noSps, noPps⟩ := other
  have needed : ¬ (nalUnitType nalu = .accessUnitDelimiter ∨ nalUnitType nalu = .fillerData) :=
    not_or.mpr ⟨noDelimiter, noFiller⟩
  simp only [H264Payloader.payload, dif_neg long, header, if_neg needed, dif_neg noPps,
    dif_neg noSps]
  rcases payloader with ⟨_ | ⟨sps, spsLong, spsType⟩, _ | ⟨pps, ppsLong, ppsType⟩⟩
  · exact ⟨[], _, rfl, nofun⟩
  · exact ⟨[], _, rfl, nofun⟩
  · exact ⟨[], _, rfl, nofun⟩
  · refine ⟨_, _, rfl, ?_⟩
    by_cases fits : (H264Payloader.buildStapAPacket [sps, pps]).length < mtu
    · simp only [if_pos fits]
      intro packet member
      rw [List.mem_singleton.mp member]
      have short := stap_a_lengths narrow fits
      simp [carriesParameterSet, received_stap_a _ short, spsType, Received.bits]
    · have spsFilled : sps ≠ [] := List.length_pos_iff.mp spsLong
      have ppsFilled : pps ≠ [] := List.length_pos_iff.mp ppsLong
      obtain ⟨spsLow, spsHigh⟩ := type_number_of_parameter_set (.inl spsType)
      obtain ⟨ppsLow, ppsHigh⟩ := type_number_of_parameter_set (.inr ppsType)
      simp only [if_neg fits]
      intro packet member
      rcases List.mem_pair.mp member with rfl | rfl
      · simp [carriesParameterSet, received_single spsFilled spsLow spsHigh, spsType, Received.bits]
      · simp [carriesParameterSet, received_single ppsFilled ppsLow ppsHigh, ppsType, Received.bits]

theorem take_other (payloader : H264Payloader) (filled : nalu ≠ [])
    (other : nalUnitType nalu ∉ [.accessUnitDelimiter, .fillerData, .sps, .pps]) :
    (take payloader nalu).1 = payloader.pending ++ [nalu] := by
  have long : NalHeader.size ≤ nalu.length := List.length_pos_iff.mpr filled
  simp only [List.mem_cons, List.not_mem_nil, or_false, not_or] at other
  obtain ⟨noDelimiter, noFiller, noSps, noPps⟩ := other
  have kept : isKept (nalUnitType nalu) = true := by simp [isKept, noDelimiter, noFiller]
  obtain ⟨isPps, _⟩ | ⟨isSps, _⟩ | ⟨_, _, sps, pps, rfl, took⟩ | ⟨_, _, free, took⟩ :=
    take_cases payloader kept long
  · exact absurd isPps noPps
  · exact absurd isSps noSps
  · rw [took]
    rfl
  · rw [took]
    rcases payloader with ⟨_ | sps, _ | pps⟩
    · rfl
    · rfl
    · rfl
    · cases free

/-- One call for a unit that is no delimiter, filler or parameter set: a
receiver gets the pending pair and the unit, no packet of its own is too long,
and among its fragments only the first starts it and only the last ends it. -/
theorem payload_delivers (wide : 3 ≤ mtu) (narrow : mtu ≤ 65535) (payloader : H264Payloader)
    (valid : ValidNal nalu)
    (other : nalUnitType nalu ∉ [.accessUnitDelimiter, .fillerData, .sps, .pps]) :
    ∃ packets next, H264Payloader.payload mtu payloader nalu = (.ok packets, next) ∧
      depacketize received packets = payloader.pending ++ [nalu] ∧
      (∀ packet ∈ packets, carriesParameterSet packet = false → packet.length ≤ mtu) ∧
      if nalu.length ≤ mtu then fragmentBits packets = []
      else ∃ between, fragmentBits packets =
        (true, false) :: List.replicate between (false, false) ++ [(false, true)] := by
  obtain ⟨sets, next, paid, ofSets⟩ := payload_other narrow payloader valid.1 other
  refine ⟨_, _, paid, ?_, ?_, ?_⟩
  · obtain ⟨carried, _⟩ := emitted_carries wide narrow payloader nalu valid
    have whole := carried []
    simp only [emitted, Payloader.payload, paid, List.append_nil] at whole
    rw [depacketize, whole, take_other payloader valid.1 other]
    exact List.append_nil _
  · intro packet member plain
    rcases List.mem_append.mp member with inSets | own
    · rw [(ofSets packet inSets).1] at plain
      cases plain
    · exact mem_own_packets_length wide own
  · have none : fragmentBits sets = [] := by
      simp only [fragmentBits, List.filterMap_eq_nil_iff, List.mem_map]
      rintro _ ⟨packet, member, rfl⟩
      exact (ofSets packet member).2
    have bits : fragmentBits (sets ++ ownPackets mtu nalu) = fragmentBits (ownPackets mtu nalu) := by
      rw [fragmentBits, List.map_append, List.filterMap_append]
      change fragmentBits sets ++ fragmentBits _ = _
      rw [none, List.nil_append]
    rw [bits]
    exact own_packets_bits wide valid

/-- A slice of six bytes behind both sets, with four bytes to a packet. -/
theorem slice_behind_sets :
    let payloader : H264Payloader := ⟨some ⟨[0x67, 1], by decide⟩, some ⟨[0x68, 2], by decide⟩⟩
    ∃ packets next,
      H264Payloader.payload 4 payloader [0x65, 1, 2, 3, 4, 5] = (.ok packets, next) ∧
      depacketize received packets = payloader.pending ++ [[0x65, 1, 2, 3, 4, 5]] ∧
      (∀ packet ∈ packets, carriesParameterSet packet = false → packet.length ≤ 4) ∧
      if [0x65, 1, 2, 3, 4, 5].length ≤ 4 then fragmentBits packets = []
      else ∃ between, fragmentBits packets =
        (true, false) :: List.replicate between (false, false) ++ [(false, true)] :=
  payload_delivers (by decide) (by decide) _ (by decide) (by decide)

end OneCall

end MoonlightWeb.Streamer.Video.H264
